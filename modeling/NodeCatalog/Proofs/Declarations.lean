import NodeCatalog.Proofs.PatternSearch
import NodeCatalog.Proofs.DocPaths
import NodeCatalog.Node.Description
import NodeCatalog.Node.Versions
/-!
# Reading a declared body

A node's base description and its versions are read from the body of a declaration, `const`, blanks
and the declared name, an optional type annotation, `=` and a braced body closed by `}`, blanks and
`;`. Two patterns look for it, the typed form first. The typed form writes `= ` with one space, so a
typed declaration whose `=` is followed by anything but a space (a line break, a tab, the brace
itself) is found by neither pattern: the plain form wants `=` right after the name and its blanks,
where the colon of the type stands. These are the declarations `extract_base_description`
(`src/tools/extract_schemas.py`, lines 43–74) and `extract_node_versions` (lines 104–115) look for.

Take a source in which `const`, blanks and the name start only the declaration. Both patterns
can match only where such a start stands (`Pattern.go_constName_none`), so the search answers
with what each pattern does at the declaration (`Pattern.searchFrom_sole`). There the body is
read up to the first `}`, blanks and `;`, which a body that holds none ends at
(`Pattern.go_bodyPattern`). So the source has the body's fields exactly when the declaration
is untyped or writes `= ` (`Fields.declarationBody_of_sole`), and no fields otherwise.

- `Declaration`: a declaration, carrying the shape of its parts.
- `DeclStart`, `Closes`: where a declaration starts, and where a body is closed.
- `Pattern.searchFrom_sole`: a search for a pattern that only matches at one place.
- `Fields.declarationBody_of_sole`: the body read from a source with one declaration.
- `Schema.declared_fields_of_sole_start`: **the base description and the versions of a source
  with one declaration are those of its body when the declaration is untyped or writes `= `,
  and empty otherwise.**
-/

namespace NodeCatalog

/-- Whether a text starts with a code point other than a blank. -/
def Text.leads (w : Text) : Bool :=
  w.head?.any fun x => !x.isBlank

theorem Text.leads_iff {w : Text} : w.leads = true ↔ ∃ x r, w = x :: r ∧ x.isBlank = false := by
  cases w with
  | nil => simp [Text.leads]
  | cons x r => simp [Text.leads]

theorem Text.head_append_of_leads {w : Text} (hw : w.leads = true) (r : Text) :
    ∀ x ∈ (w ++ r).head?, x.isBlank = false := by
  obtain ⟨y, w', rfl, hy⟩ := Text.leads_iff.mp hw
  intro x hx
  rw [List.cons_append, List.head?_cons, Option.mem_some_iff] at hx
  exact hx ▸ hy

/-- Text that starts a declaration of `name`: `const`, at least one blank, and the name. -/
def DeclStart (name : String) (u : Text) : Prop :=
  ∃ ws r, ws ≠ [] ∧ (∀ x ∈ ws, x.isBlank = true) ∧
    u = Text.ofString "const" ++ ws ++ Text.ofString name ++ r

/-- Text that starts by closing a body: `}`, blanks and `;`. -/
def Closes (t : Text) : Prop :=
  ∃ ws r, (∀ x ∈ ws, x.isBlank = true) ∧ t = .char '}' :: (ws ++ .char ';' :: r)

/-- Whether a code point may stand in a type annotation: one that is neither `{` nor `=`. -/
def typeClass : CharClass :=
  .complement (CharClass.ofList ['{', '='])

/-- A declaration: `const`, blanks, the name, an optional type annotation (blanks, a colon and a
type), blanks, `=`, blanks, and a body between `{` and `}`, then blanks and `;`. -/
structure Declaration where
  /-- The blanks between `const` and the name. -/
  gap : Text
  /-- The blanks before the colon and the type, when the declaration is typed. -/
  annotation : Option (Text × Text)
  beforeEq : Text
  afterEq : Text
  body : Text
  beforeSemi : Text
  gap_ne : gap ≠ []
  gap_blank : ∀ x ∈ gap, x.isBlank = true
  /-- The type is of real code points, none of them `{` or `=`. -/
  annotation_ok : ∀ a ∈ annotation, (∀ x ∈ a.1, x.isBlank = true) ∧ a.2.Valid ∧
    .char '{' ∉ a.2 ∧ .char '=' ∉ a.2
  beforeEq_blank : ∀ x ∈ beforeEq, x.isBlank = true
  afterEq_blank : ∀ x ∈ afterEq, x.isBlank = true
  beforeSemi_blank : ∀ x ∈ beforeSemi, x.isBlank = true
  /-- No place in the body closes it. -/
  body_open : ∀ u, u <:+ body → ¬ Closes u

namespace Declaration

variable (d : Declaration)

/-- The body between braces, and the blanks and `;` after it. -/
def braced : Text :=
  .char '{' :: (d.body ++ .char '}' :: (d.beforeSemi ++ [.char ';']))

/-- From the blanks before `=` to the end. -/
def assigned : Text :=
  d.beforeEq ++ .char '=' :: (d.afterEq ++ d.braced)

/-- What follows the name: the type annotation, if any, and the assignment. -/
def afterName : Text :=
  match d.annotation with
  | none => d.assigned
  | some (ws, T) => ws ++ .char ':' :: (T ++ d.assigned)

/-- The text of a declaration of `name`. -/
def text (name : String) : Text :=
  Text.ofString "const" ++ (d.gap ++ (Text.ofString name ++ d.afterName))

/-- A declaration the patterns find: an untyped one, or a typed one with a space after `=`. -/
def spaced : Bool :=
  d.annotation.isNone || d.afterEq.head? == some (.char ' ')

end Declaration

namespace Pattern

variable {n : Nat} {g : Groups} {k : Cont}

/-! ## `const` and the name -/

/-- A word that starts with a code point other than a blank refuses a blank. -/
theorem refusesBlank_lit {s : String} (hs : (Text.ofString s).leads = true) (q : Pattern) :
    RefusesBlank (.seq (lit s) q) := by
  obtain ⟨x, w, hw, hx⟩ := Text.leads_iff.mp hs
  rw [lit, hw]
  exact refusesBlank_seq (refusesBlank_word hx w) q

/-- The start of a declaration pattern does not match where no declaration of the name starts. -/
theorem go_constName_none {name : String} (hname : (Text.ofString name).leads = true)
    {q : Pattern} {s : Text}
    (hs : ¬ DeclStart name s) (i : Nat) (p : Option Point) :
    go (n + 4) (.seq (lit "const") (.seq someBlanks (.seq (lit name) q))) ⟨i, p, s⟩ g k = none := by
  rw [go_seq, lit, go_word]
  by_cases hconst : Text.ofString "const" <+: s
  · obtain ⟨s', rfl⟩ := hconst
    obtain ⟨hsplit, hws, hr⟩ := blanks_split s'
    generalize s'.takeWhile Point.isBlank = ws at hsplit hws
    generalize s'.dropWhile Point.isBlank = r at hsplit hr
    subst hsplit
    rw [Cursor.eat_append, Option.bind_some, someBlanks,
      go_blankRun (refusesBlank_lit hname q) 1 hws hr]
    split
    · -- after the blanks the name is not there: else a declaration would start
      next hle =>
      rw [go_seq, lit, go_word, Cursor.eat_eq_none, Option.bind_none]
      rintro ⟨r', rfl⟩
      exact hs ⟨ws, r', List.ne_nil_of_length_pos hle, hws, by simp⟩
    · rfl
  · rw [Cursor.eat_eq_none hconst, Option.bind_none]

/-- At a declaration's start the pattern goes on after the name. -/
theorem go_constName_eq {name : String} (hname : (Text.ofString name).leads = true)
    {q : Pattern} {gap r : Text}
    (hgap : gap ≠ []) (hblank : ∀ x ∈ gap, x.isBlank = true) (i : Nat) (p : Option Point) :
    go (n + 4) (.seq (lit "const") (.seq someBlanks (.seq (lit name) q)))
        ⟨i, p, Text.ofString "const" ++ (gap ++ (Text.ofString name ++ r))⟩ g k =
      go (n + 1) q ⟨i + 5 + gap.length + (Text.ofString name).length,
        (Text.ofString name).getLast?.or (gap.getLast?.or (some (.char 't'))), r⟩ g k := by
  have hlen : 1 ≤ gap.length := List.length_pos_iff.mpr hgap
  rw [go_seq, lit, go_word, Cursor.eat_append, Option.bind_some, someBlanks,
    go_blankRun (refusesBlank_lit hname q) 1 hblank (Text.head_append_of_leads hname r),
    if_pos hlen, go_seq, lit, go_word, Cursor.eat_append,
    Option.bind_some]
  rfl

/-! ## The body -/

/-- The end of a declaration: `}`, blanks and `;`. -/
def closing : Pattern :=
  .seq (lit "\x7d") (.seq blanks (lit ";"))

theorem braceOpen_eq : Text.ofString "\x7b" = [.char '{'] := rfl

theorem braceClose_eq : Text.ofString "\x7d" = [.char '}'] := rfl

theorem semicolon_eq : Text.ofString ";" = [.char ';'] := rfl

theorem head_not_blank {x : Point} (hx : x.isBlank = false) (r : Text) :
    ∀ y ∈ (x :: r).head?, y.isBlank = false := by
  intro y hy
  rw [List.head?_cons, Option.mem_some_iff] at hy
  exact hy ▸ hx

theorem go_closing_none {t : Text} (ht : ¬ Closes t) (i : Nat) (p : Option Point) :
    go (n + 3) closing ⟨i, p, t⟩ g k = none := by
  rw [closing, go_seq, lit, go_word, braceClose_eq]
  cases t with
  | nil => rfl
  | cons x t' =>
    by_cases hx : x = .char '}'
    · subst hx
      obtain ⟨hsplit, hws, hr⟩ := blanks_split t'
      generalize t'.takeWhile Point.isBlank = ws at hsplit hws
      generalize t'.dropWhile Point.isBlank = r at hsplit hr
      subst hsplit
      rw [show Point.char '}' :: (ws ++ r) = [.char '}'] ++ (ws ++ r) from rfl,
        Cursor.eat_append, Option.bind_some, lit, go_blanks_word (by decide) (by decide) hws hr,
        semicolon_eq, Cursor.eat_eq_none, Option.bind_none]
      -- a `;` after the blanks would close the body here
      rintro ⟨r', rfl⟩
      exact ht ⟨ws, r', hws, rfl⟩
    · rw [Cursor.eat_eq_none, Option.bind_none]
      intro h
      exact hx (List.cons_prefix_cons.mp h).1.symm

theorem go_closing_eq {ws r : Text} (hws : ∀ x ∈ ws, x.isBlank = true) (i : Nat)
    (p : Option Point) :
    go (n + 3) closing ⟨i, p, .char '}' :: (ws ++ .char ';' :: r)⟩ g k =
      k ⟨i + 1 + ws.length + 1, some (.char ';'), r⟩ g := by
  rw [closing, go_seq, lit, go_word, braceClose_eq,
    show Point.char '}' :: (ws ++ .char ';' :: r) = [.char '}'] ++ (ws ++ .char ';' :: r) from rfl,
    Cursor.eat_append, Option.bind_some, lit,
    go_blanks_word (by decide) (by decide) hws (head_not_blank (by decide) r), semicolon_eq,
    show Point.char ';' :: r = [.char ';'] ++ r from rfl, Cursor.eat_append, Option.bind_some]
  rfl

/-- A place inside a body that holds no closing does not close it, whatever follows the body's
`}`. -/
theorem not_closes_of_open {body : Text} (hbody : ∀ u, u <:+ body → ¬ Closes u) {s : Text}
    (hs : s ≠ []) (hsuf : s <:+ body) (rest : Text) : ¬ Closes (s ++ .char '}' :: rest) := by
  rintro ⟨ws, r, hws, heq⟩
  obtain ⟨y, s', rfl⟩ := List.exists_cons_of_ne_nil hs
  rw [List.cons_append, List.cons.injEq] at heq
  obtain ⟨rfl, heq⟩ := heq
  rcases List.append_eq_append_iff.mp heq with ⟨a, rfl, ha⟩ | ⟨c, rfl, hc⟩
  · -- the blanks run past the body: they would hold its `}`
    cases a with
    | nil => simp at ha
    | cons z a =>
      obtain ⟨rfl, -⟩ := List.cons.inj ha
      exact absurd (hws _ (List.mem_append_right _ List.mem_cons_self)) (by decide)
  · -- the `;` stands inside the body: the body would close there
    cases c with
    | nil => simp at hc
    | cons z c =>
      obtain ⟨rfl, -⟩ := List.cons.inj hc
      exact hbody _ hsuf ⟨ws, c, hws, rfl⟩

/-- What follows the `=` of a declaration: blanks, the brace, the body up to the first `}`,
blanks and `;`, which closes the body. -/
def bodyPattern : Pattern :=
  .seq blanks (.seq (lit "\x7b") (.seq (.group 1 (.many .any 0 false)) closing))

/-- After the `=` of a declaration the pattern reads its body. -/
theorem go_bodyPattern (d : Declaration) {ws B : Text} (hws : ∀ x ∈ ws, x.isBlank = true)
    (i : Nat) (p : Option Point) :
    ∃ stop, go (n + 8) bodyPattern ⟨i, p, ws ++ (d.braced ++ B)⟩ g (fun c' g' => some (c', g')) =
      some (stop, g.set! 1 (some ⟨i + ws.length + 1, i + ws.length + 1 + d.body.length,
        d.body ++ .char '}' :: (d.beforeSemi ++ .char ';' :: B)⟩)) := by
  have hopen : ∀ x ∈ (d.braced ++ B).head?, x.isBlank = false :=
    head_not_blank (by decide) _
  have hbraced : d.braced ++ B =
      [.char '{'] ++ (d.body ++ .char '}' :: (d.beforeSemi ++ .char ';' :: B)) := by
    simp [Declaration.braced]
  rw [bodyPattern, blanks, go_blankRun (refusesBlank_lit (by decide) _) 0 hws hopen,
    if_pos (Nat.zero_le _), hbraced, go_seq, lit, go_word, braceOpen_eq, Cursor.eat_append,
    Option.bind_some, go_seq, go_group, go_many_lazy]
  dsimp only
  set j := i + ws.length + [Point.char '{'].length
  refine ⟨⟨j + d.body.length + 1 + d.beforeSemi.length + 1, some (.char ';'), B⟩, ?_⟩
  -- the lazy run stops at the body's `}`: no place inside the body closes it
  rw [lazyRun_append .any _ (.char '}' :: (d.beforeSemi ++ .char ';' :: B)) d.body j _
    (fun _ _ => rfl)]
  · intro i' p' s hs hsuf
    exact go_closing_none (not_closes_of_open d.body_open hs hsuf _) i' p'
  · rw [go_closing_eq d.beforeSemi_blank]
    simp [j, Span.between]

/-! ## The search -/

/-- The search for a pattern that matches only at places `P` holds, in text where `P` holds at
one place only: the search answers with the pattern's match at that place. -/
theorem searchFrom_sole {p : Pattern} {fuel : Nat} {P : Text → Prop}
    (hp : ∀ t j q, ¬ P t → p.matchWith fuel ⟨j, q, t⟩ = none) {A s : Text}
    (honly : ∀ u, u <:+ A ++ s → P u → u = s) (i : Nat) (prev : Option Point) :
    p.searchFrom fuel i prev (A ++ s) = p.matchWith fuel ⟨i + A.length, A.getLast?.or prev, s⟩ := by
  rw [searchFrom_append A fun u hu hsuf j q => hp _ j q fun hP => hu ?_]
  · generalize i + A.length = i'
    generalize A.getLast?.or prev = prev'
    cases s with
    | nil => rfl
    | cons x r =>
      cases hm : p.matchWith fuel ⟨i', prev', x :: r⟩ with
      | some m => exact searchFrom_of_matchWith hm
      | none =>
        -- past the place, every later place is too short to be it
        rw [searchFrom_of_matchWith_none hm]
        refine searchFrom_eq_none r (i' + 1) (some x) fun u hu j q => hp u j q fun hP => ?_
        have hlen := (honly u ((hu.trans (List.suffix_cons x r)).trans
          (List.suffix_append A _)) hP) ▸ hu.length_le
        simp only [List.length_cons] at hlen
        omega
  · obtain ⟨t, rfl⟩ := hsuf
    have := honly (u ++ s) ⟨t, by simp⟩ hP
    simpa using this

/-! ## After the name -/

theorem typeClass_test {x : Point} (hx : x.Valid) (h1 : x ≠ .char '{') (h2 : x ≠ .char '=') :
    typeClass.test x = true := by
  have hc1 : x.code ≠ (Point.char '{').code := fun h =>
    h1 (Point.eq_of_code_eq hx (Point.valid_char _) h)
  have hc2 : x.code ≠ (Point.char '=').code := fun h =>
    h2 (Point.eq_of_code_eq hx (Point.valid_char _) h)
  simp only [typeClass, CharClass.ofList, CharClass.test, Bool.not_eq_true', Bool.or_eq_false_iff,
    beq_eq_false_iff_ne]
  exact ⟨hc1, hc2⟩

theorem typeClass_test_blank {x : Point} (hx : x.isBlank = true) : typeClass.test x = true := by
  cases x with
  | char c =>
    refine typeClass_test (Point.valid_char c) (fun e => ?_) (fun e => ?_) <;>
      · rw [e] at hx
        exact absurd hx (by decide)
  | surrogate n => cases hx

theorem ne_eq_of_typeClass {x : Point} (hx : typeClass.test x = true) : x ≠ .char '=' := by
  rintro rfl
  exact absurd hx (by decide)

/-- The typed pattern after the name: blanks, a colon, the type with the blanks before `=`,
`= ` with one space, and the body. -/
def typedTail : Pattern :=
  .seq blanks (.seq (lit ":") (.seq (.many typeClass 0 true) (.seq (lit "= ") bodyPattern)))

/-- The plain pattern after the name: blanks, `=` and the body. -/
def plainTail : Pattern :=
  .seq blanks (.seq (lit "=") bodyPattern)

theorem colon_lit_eq : Text.ofString ":" = [.char ':'] := rfl

theorem equals_lit_eq : Text.ofString "=" = [.char '='] := rfl

theorem equalsSpace_lit_eq : Text.ofString "= " = [.char '=', .char ' '] := rfl

/-- What follows the name of an untyped declaration. -/
theorem afterName_of_untyped {d : Declaration} (ha : d.annotation = none) (B : Text) :
    d.afterName ++ B = d.beforeEq ++ .char '=' :: (d.afterEq ++ (d.braced ++ B)) := by
  simp [Declaration.afterName, ha, Declaration.assigned]

/-- What follows the name of a typed declaration. -/
theorem afterName_of_typed {d : Declaration} {ws T : Text} (ha : d.annotation = some (ws, T))
    (B : Text) :
    d.afterName ++ B =
      ws ++ .char ':' :: ((T ++ d.beforeEq) ++ .char '=' :: (d.afterEq ++ (d.braced ++ B))) := by
  simp [Declaration.afterName, ha, Declaration.assigned]

/-- An untyped declaration has no colon after its name. -/
theorem go_typedTail_untyped {d : Declaration} (ha : d.annotation = none) (B : Text) (i : Nat)
    (p : Option Point) : go (n + 3) typedTail ⟨i, p, d.afterName ++ B⟩ g k = none := by
  rw [typedTail, blanks, afterName_of_untyped ha, go_blankRun (refusesBlank_lit (by decide) _) 0
    d.beforeEq_blank (head_not_blank (by decide) _), if_pos (Nat.zero_le _), go_seq, lit,
    go_word, Cursor.eat_eq_none, Option.bind_none]
  rw [colon_lit_eq]
  intro h
  exact absurd (List.cons_prefix_cons.mp h).1 (by decide)

/-- After the name of a typed declaration the typed pattern takes the colon and the whole type
with the blanks after it, and goes on at the `=`: a shorter type leaves a code point other than
`=` where `= ` should start. -/
theorem go_typedTail_typed {d : Declaration} {ws T : Text} (ha : d.annotation = some (ws, T))
    (B : Text) (i : Nat) (p : Option Point) :
    ∃ j q, go (n + 12) typedTail ⟨i, p, d.afterName ++ B⟩ g k =
      go (n + 9) (.seq (lit "= ") bodyPattern) ⟨j, q, .char '=' :: (d.afterEq ++ (d.braced ++ B))⟩
        g k := by
  obtain ⟨hws, hvalid, hopen, heq⟩ : (∀ x ∈ ws, x.isBlank = true) ∧ T.Valid ∧ .char '{' ∉ T ∧
      .char '=' ∉ T := d.annotation_ok (ws, T) ha
  have htype : ∀ x ∈ T ++ d.beforeEq, typeClass.test x = true := by
    intro x hx
    rcases List.mem_append.mp hx with hx | hx
    · exact typeClass_test (hvalid x hx) (fun e => hopen (e ▸ hx)) (fun e => heq (e ▸ hx))
    · exact typeClass_test_blank (d.beforeEq_blank x hx)
  rw [typedTail, blanks, afterName_of_typed ha, go_blankRun (refusesBlank_lit (by decide) _) 0
    hws (head_not_blank (by decide) _), if_pos (Nat.zero_le _), go_seq, lit, go_word,
    colon_lit_eq, show Point.char ':' :: ((T ++ d.beforeEq) ++ .char '=' ::
      (d.afterEq ++ (d.braced ++ B))) = [.char ':'] ++ ((T ++ d.beforeEq) ++ .char '=' ::
      (d.afterEq ++ (d.braced ++ B))) from rfl, Cursor.eat_append, Option.bind_some, go_seq,
    go_many_greedy, List.drop_zero]
  dsimp only
  rw [List.length_singleton, List.getLast?_singleton, Option.some_or]
  obtain ⟨inner, -, hinner, hrun⟩ := Cursor.run_append typeClass (T ++ d.beforeEq)
    (.char '=' :: (d.afterEq ++ (d.braced ++ B))) htype (fun x hx => by
      rw [List.head?_cons, Option.mem_some_iff] at hx
      subst hx
      rfl) (i + ws.length + 1) (some (.char ':'))
  refine ⟨i + ws.length + 1 + (T ++ d.beforeEq).length,
    (T ++ d.beforeEq).getLast?.or (some (.char ':')), ?_⟩
  rw [hrun, List.reverse_append, List.reverse_singleton, List.singleton_append, firstOf_cons,
    firstOf_eq_none, Option.or_none]
  -- every shorter type stops before a code point of the type, which is not `=`
  intro c hc
  obtain ⟨x, hx, hxt⟩ := hinner c (List.mem_reverse.mp hc)
  rw [go_seq, lit, go_word, Cursor.eat_eq_none, Option.bind_none]
  intro h
  obtain ⟨i', p', rest⟩ := c
  cases rest with
  | nil => cases hx
  | cons y ys =>
    rw [List.head?_cons, Option.mem_some_iff] at hx
    subst hx
    rw [equalsSpace_lit_eq] at h
    exact ne_eq_of_typeClass hxt (List.cons_prefix_cons.mp h).1.symm

/-- A typed declaration with a space after `=`: the typed pattern reads the body. -/
theorem go_typedTail_spaced {d : Declaration} {ws T : Text} (ha : d.annotation = some (ws, T))
    {rest : Text} (hsp : d.afterEq = .char ' ' :: rest) (B : Text) (i : Nat) (p : Option Point) :
    ∃ stop j, go (n + 12) typedTail ⟨i, p, d.afterName ++ B⟩ g (fun c' g' => some (c', g')) =
      some (stop, g.set! 1 (some ⟨j, j + d.body.length,
        d.body ++ .char '}' :: (d.beforeSemi ++ .char ';' :: B)⟩)) := by
  obtain ⟨j, q, htail⟩ := go_typedTail_typed (n := n) (g := g)
    (k := fun c' g' => some (c', g')) ha B i p
  have hrest : ∀ x ∈ rest, x.isBlank = true := fun x hx =>
    d.afterEq_blank x (hsp ▸ List.mem_cons_of_mem _ hx)
  rw [htail, hsp, go_seq, lit, go_word, equalsSpace_lit_eq,
    show Point.char '=' :: (Point.char ' ' :: rest ++ (d.braced ++ B)) =
      [.char '=', .char ' '] ++ (rest ++ (d.braced ++ B)) from rfl, Cursor.eat_append,
    Option.bind_some]
  obtain ⟨stop, hbody⟩ := go_bodyPattern (n := n) (g := g) d hrest _ _
  exact ⟨stop, _, hbody⟩

/-- A typed declaration with no space right after `=`: the typed pattern fails. -/
theorem go_typedTail_unspaced {d : Declaration} {ws T : Text} (ha : d.annotation = some (ws, T))
    (hsp : d.afterEq.head? ≠ some (.char ' ')) (B : Text) (i : Nat) (p : Option Point) :
    go (n + 12) typedTail ⟨i, p, d.afterName ++ B⟩ g k = none := by
  obtain ⟨j, q, htail⟩ := go_typedTail_typed (n := n) (g := g) (k := k) ha B i p
  rw [htail, go_seq, lit, go_word, Cursor.eat_eq_none, Option.bind_none]
  -- the code point after `=` is the first of the blanks after it, or the brace
  rw [equalsSpace_lit_eq]
  intro h
  have hsecond := (List.cons_prefix_cons.mp h).2
  cases hae : d.afterEq with
  | nil =>
    rw [hae, List.nil_append, Declaration.braced, List.cons_append] at hsecond
    exact absurd (List.cons_prefix_cons.mp hsecond).1 (by decide)
  | cons y ys =>
    rw [hae, List.cons_append] at hsecond
    rw [hae, List.head?_cons, (List.cons_prefix_cons.mp hsecond).1] at hsp
    exact hsp rfl

/-- An untyped declaration: the plain pattern reads the body. -/
theorem go_plainTail_untyped {d : Declaration} (ha : d.annotation = none) (B : Text) (i : Nat)
    (p : Option Point) :
    ∃ stop j, go (n + 10) plainTail ⟨i, p, d.afterName ++ B⟩ g (fun c' g' => some (c', g')) =
      some (stop, g.set! 1 (some ⟨j, j + d.body.length,
        d.body ++ .char '}' :: (d.beforeSemi ++ .char ';' :: B)⟩)) := by
  rw [plainTail, blanks, afterName_of_untyped ha, go_blankRun (refusesBlank_lit (by decide) _) 0
    d.beforeEq_blank (head_not_blank (by decide) _), if_pos (Nat.zero_le _), go_seq, lit,
    go_word, equals_lit_eq, show Point.char '=' :: (d.afterEq ++ (d.braced ++ B)) =
      [.char '='] ++ (d.afterEq ++ (d.braced ++ B)) from rfl, Cursor.eat_append, Option.bind_some]
  obtain ⟨stop, hbody⟩ := go_bodyPattern (n := n) (g := g) d d.afterEq_blank _ _
  exact ⟨stop, _, hbody⟩

/-- A typed declaration has its colon where the plain pattern wants `=`. -/
theorem go_plainTail_typed {d : Declaration} {ws T : Text} (ha : d.annotation = some (ws, T))
    (B : Text) (i : Nat) (p : Option Point) :
    go (n + 3) plainTail ⟨i, p, d.afterName ++ B⟩ g k = none := by
  obtain ⟨hws, -⟩ : (∀ x ∈ ws, x.isBlank = true) ∧ _ := d.annotation_ok (ws, T) ha
  rw [plainTail, blanks, afterName_of_typed ha, go_blankRun (refusesBlank_lit (by decide) _) 0
    hws (head_not_blank (by decide) _), if_pos (Nat.zero_le _), go_seq, lit, go_word,
    Cursor.eat_eq_none, Option.bind_none]
  rw [equals_lit_eq]
  intro h
  exact absurd (List.cons_prefix_cons.mp h).1 (by decide)

end Pattern

namespace Fields

open Pattern

theorem typedDeclaration_eq (name : String) :
    typedDeclaration name = .seq (lit "const") (.seq someBlanks (.seq (lit name) typedTail)) :=
  rfl

theorem plainDeclaration_eq (name : String) :
    plainDeclaration name = .seq (lit "const") (.seq someBlanks (.seq (lit name) plainTail)) :=
  rfl

/-- The body of a declaration: the typed pattern's, else the plain pattern's. -/
theorem declarationBody_eq (name : String) (content : Text) :
    declarationBody name content = (((typedDeclaration name).search content).map (·.groupD 1)).or
      (((plainDeclaration name).search content).map (·.groupD 1)) := by
  unfold declarationBody
  cases (typedDeclaration name).search content <;> rfl

/-- The text group 1 reads when it is the only group set and spans the body. -/
theorem groupD_body {start stop : Cursor} {m j : Nat} (hm : 1 < m) {body rest : Text} :
    ({ start := start, stop := stop,
        groups := (Array.replicate m none).set! 1 (some ⟨j, j + body.length, body ++ rest⟩) } :
      Match).groupD 1 = body := by
  rw [groupD_set (by simpa using hm)]
  simp [Span.chars]

variable {name : String}

/-- The search for a declaration pattern, in text where a declaration of the name starts at one
place only, is the pattern's match at that place. -/
theorem search_declaration (hname : (Text.ofString name).leads = true) {q : Pattern}
    (hq : 15 ≤ 2 * ((Pattern.seq (lit "const") (.seq someBlanks (.seq (lit name) q))).size + 1))
    {A s : Text} (honly : ∀ u, u <:+ A ++ s → DeclStart name u → u = s) :
    ∃ m, (Pattern.seq (lit "const") (.seq someBlanks (.seq (lit name) q))).search (A ++ s) =
      (Pattern.seq (lit "const") (.seq someBlanks (.seq (lit name) q))).matchWith (m + 15)
        ⟨A.length, A.getLast?, s⟩ := by
  rw [search, fuelFor_eq_add _ _ hq]
  generalize (Pattern.seq (lit "const") (.seq someBlanks (.seq (lit name) q))).fuelFor
    (A ++ s).length - 15 = m
  refine ⟨m, ?_⟩
  rw [searchFrom_sole (fun t j p ht => ?_) honly, Nat.zero_add, Option.or_none]
  rw [matchWith_eq, show m + 15 = (m + 11) + 4 from rfl, go_constName_none hname ht,
    Option.map_none]

/-- At a declaration the typed pattern reads the body when the declaration is typed and writes
`= `, and fails otherwise. -/
theorem typed_at_declaration (hname : (Text.ofString name).leads = true) (d : Declaration)
    (B : Text) (n i : Nat) (p : Option Point) :
    ((typedDeclaration name).matchWith (n + 15) ⟨i, p, d.text name ++ B⟩).map (·.groupD 1) =
      if d.annotation.isSome ∧ d.afterEq.head? = some (.char ' ') then some d.body else none := by
  have htext : d.text name ++ B =
      Text.ofString "const" ++ (d.gap ++ (Text.ofString name ++ (d.afterName ++ B))) := by
    simp [Declaration.text]
  rw [matchWith_eq, typedDeclaration_eq, htext, go_constName_eq (n := n + 11) hname d.gap_ne
    d.gap_blank]
  cases ha : d.annotation with
  | none => rw [go_typedTail_untyped ha]; rfl
  | some a =>
    obtain ⟨ws, T⟩ := a
    by_cases hsp : d.afterEq.head? = some (.char ' ')
    · obtain ⟨rest, hrest⟩ : ∃ rest, d.afterEq = .char ' ' :: rest := by
        cases hae : d.afterEq with
        | nil => rw [hae] at hsp; cases hsp
        | cons y ys =>
          rw [hae, List.head?_cons, Option.some.injEq] at hsp
          exact ⟨ys, by rw [hsp]⟩
      obtain ⟨stop, j, hgo⟩ := go_typedTail_spaced (n := n) ha hrest B _ _
      rw [hgo, if_pos ⟨rfl, hsp⟩, Option.map_some, Option.map_some]
      dsimp only
      rw [groupD_body (Nat.le_of_ble_eq_true rfl)]
    · rw [go_typedTail_unspaced ha hsp, if_neg fun h => hsp h.2]
      rfl

/-- At a declaration the plain pattern reads the body when the declaration is untyped, and
fails otherwise. -/
theorem plain_at_declaration (hname : (Text.ofString name).leads = true) (d : Declaration)
    (B : Text) (n i : Nat) (p : Option Point) :
    ((plainDeclaration name).matchWith (n + 15) ⟨i, p, d.text name ++ B⟩).map (·.groupD 1) =
      if d.annotation.isNone then some d.body else none := by
  have htext : d.text name ++ B =
      Text.ofString "const" ++ (d.gap ++ (Text.ofString name ++ (d.afterName ++ B))) := by
    simp [Declaration.text]
  rw [matchWith_eq, plainDeclaration_eq, htext, go_constName_eq (n := n + 11) hname d.gap_ne
    d.gap_blank]
  cases ha : d.annotation with
  | none =>
    obtain ⟨stop, j, hgo⟩ := go_plainTail_untyped (n := n + 2) ha B _ _
    rw [hgo, Option.map_some, Option.map_some, Option.isNone_none, if_pos rfl]
    dsimp only
    rw [groupD_body (Nat.le_of_ble_eq_true rfl)]
  | some a =>
    obtain ⟨ws, T⟩ := a
    rw [go_plainTail_typed ha]
    rfl

/-- **The body read from a source with one declaration**: the declaration's body when it is
untyped or writes `= `, and nothing otherwise. -/
theorem declarationBody_of_sole (hname : (Text.ofString name).leads = true) (d : Declaration)
    {A B : Text} (honly : ∀ u, u <:+ A ++ (d.text name ++ B) → DeclStart name u →
      u = d.text name ++ B) :
    declarationBody name (A ++ (d.text name ++ B)) = if d.spaced then some d.body else none := by
  obtain ⟨m, htyped⟩ := search_declaration (q := typedTail) hname (Nat.le_of_ble_eq_true rfl)
    honly
  obtain ⟨m', hplain⟩ := search_declaration (q := plainTail) hname (Nat.le_of_ble_eq_true rfl)
    honly
  rw [declarationBody_eq, typedDeclaration_eq, plainDeclaration_eq, htyped, hplain,
    ← typedDeclaration_eq, ← plainDeclaration_eq, typed_at_declaration hname,
    plain_at_declaration hname]
  -- the typed form reads typed declarations that write `= `, the plain form untyped ones
  cases ha : d.annotation <;> by_cases hsp : d.afterEq.head? = some (.char ' ') <;>
    simp [Declaration.spaced, ha, hsp]

end Fields

namespace Versions

/-- The versions read from a body: its keys that read as numbers, each once, sorted. -/
def ofBody (body : Text) : List Float :=
  (arrange (((keyPattern.findAll body).map (·.groupD 1)).filterMap Decimal.readParts?)).map
    Binary.Parts.toFloat

theorem ofContent_eq (content : Text) :
    ofContent content = ((Fields.declarationBody declaration content).map ofBody).getD [] := by
  unfold ofContent fieldsOf keysOf
  cases Fields.declarationBody declaration content with
  | none => simp [arrange]
  | some body => rfl

end Versions

theorem BaseDescription.ofContent_eq (content : Text) :
    BaseDescription.ofContent content =
      ((Fields.declarationBody BaseDescription.declaration content).map
        BaseDescription.ofBody).getD {} := by
  unfold BaseDescription.ofContent
  cases Fields.declarationBody BaseDescription.declaration content <;> rfl

namespace Declaration

/-- A text in which `const` stands at its start only holds no other start of a declaration. -/
theorem sole_of_const {name : String} {s : Text}
    (h : ∀ u ∈ s.tails, (Text.ofString "const").isPrefixOf u = true → u = s) :
    ∀ u, u <:+ s → DeclStart name u → u = s := by
  rintro u hu ⟨ws, r, -, -, rfl⟩
  refine h _ ((List.mem_tails _ _).mpr hu) (List.isPrefixOf_iff_prefix.mpr ⟨ws ++ Text.ofString name ++ r, ?_⟩)
  simp only [List.append_assoc]

/-- A body without `}` is closed nowhere inside. -/
theorem open_of_not_mem {body : Text} (h : .char '}' ∉ body) : ∀ u, u <:+ body → ¬ Closes u := by
  rintro u hu ⟨ws, r, -, rfl⟩
  exact h (hu.subset List.mem_cons_self)

/-- **The base description and the versions of a source with one declaration.** Take a source
in which `const`, blanks and the declared name start one declaration only. Its base
description is the fields of the declaration's body, and its versions are the versions of the
body, when the declaration is untyped or writes `= ` with a space; when it is typed and
something else follows its `=`, the source has no base description fields and no versions. -/
theorem fields_read_of_sole (A B : Text) (d : Declaration) :
    ((∀ u, u <:+ A ++ (d.text BaseDescription.declaration ++ B) →
        DeclStart BaseDescription.declaration u → u = d.text BaseDescription.declaration ++ B) →
      BaseDescription.ofContent (A ++ (d.text BaseDescription.declaration ++ B)) =
        if d.spaced then BaseDescription.ofBody d.body else {}) ∧
    ((∀ u, u <:+ A ++ (d.text Versions.declaration ++ B) →
        DeclStart Versions.declaration u → u = d.text Versions.declaration ++ B) →
      Versions.ofContent (A ++ (d.text Versions.declaration ++ B)) =
        if d.spaced then Versions.ofBody d.body else []) := by
  refine ⟨fun honly => ?_, fun honly => ?_⟩
  · rw [BaseDescription.ofContent_eq, Fields.declarationBody_of_sole (by decide) d honly]
    split <;> rfl
  · rw [Versions.ofContent_eq, Fields.declarationBody_of_sole (by decide) d honly]
    split <;> rfl

/-- A typed base description: with `= ` its name is read, with `=` and a line break the source
has no base description fields. -/
theorem fields_read_of_typed_declarations :
    (BaseDescription.ofContent (Text.ofString
        "const baseDescription: INodeTypeBaseDescription = \x7b name: 'a' \x7d;")).name =
      some (Text.ofString "a") ∧
    BaseDescription.ofContent (Text.ofString
        "const baseDescription: INodeTypeBaseDescription =\n\x7b name: 'a' \x7d;") = {} := by
  have hspaced := (fields_read_of_sole [] []
    { gap := [.char ' '], annotation := some ([], Text.ofString " INodeTypeBaseDescription"),
      beforeEq := [.char ' '], afterEq := [.char ' '], body := Text.ofString " name: 'a' ",
      beforeSemi := [], gap_ne := by decide, gap_blank := by decide,
      annotation_ok := by rintro a ⟨⟩; decide, beforeEq_blank := by decide,
      afterEq_blank := by decide, beforeSemi_blank := by decide,
      body_open := open_of_not_mem (by decide) }).1 (sole_of_const (by decide +kernel))
  have hbroken := (fields_read_of_sole [] []
    { gap := [.char ' '], annotation := some ([], Text.ofString " INodeTypeBaseDescription"),
      beforeEq := [.char ' '], afterEq := [.char '\n'], body := Text.ofString " name: 'a' ",
      beforeSemi := [], gap_ne := by decide, gap_blank := by decide,
      annotation_ok := by rintro a ⟨⟩; decide, beforeEq_blank := by decide,
      afterEq_blank := by decide, beforeSemi_blank := by decide,
      body_open := open_of_not_mem (by decide) }).1 (sole_of_const (by decide +kernel))
  -- the texts are the declarations', and their `spaced` flags evaluate
  exact ⟨(congrArg BaseDescription.name hspaced).trans (by decide +kernel), hbroken⟩

end Declaration

end NodeCatalog
