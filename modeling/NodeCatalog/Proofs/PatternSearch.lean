import NodeCatalog.Proofs.FrontMatterFields
/-!
# Searching source text for fields

The extractors find a field by searching the whole text for its name, blanks, a colon, blanks and a
value. This module says where such a search stops. The search tries each place from the left, so it
stops at the first place where the whole pattern matches; a place where the text does not start with
the field's *key* (the name, blanks and a colon: `KeyAt`) is stepped over (`go_key_none`), and at a
key the pattern goes on with the value after the blanks (`go_key_eq`). A text none of whose places
starts a key, whatever follows it, is `Clear` of the key; pieces that are clear make clear text when
joined (`clear_append`), so the search steps over all of them (`searchFrom_key_skip`). These are the
`re.search` calls of `src/tools/extract_schemas.py` (lines 43–200).

Two kinds of pieces are clear of every key word. Punctuation without the word's first letter,
and text without the word followed by blanks and a colon (`KeyLike`) when a code point that no
key holds, a *stop*, follows it (`clear_stopped`): the key would have to run across the stop.
And a key word is clear of every other key word that is not a part at its end
(`clear_keyWord`).

- `Pattern.RefusesBlank`, `Pattern.go_blanks_cont`, `Pattern.go_blankRun`: a greedy run of
  blanks before a part that cannot start at a blank is taken whole.
- `Pattern.searchFrom_append`, `Pattern.searchFrom_eq_none`: the search steps over places where
  nothing matches.
- `Pattern.findFrom_of_searchFrom`: all matches, one after the other.
- `KeyAt`, `KeyLike`, `Clear`: keys at a place and inside a text, and text clear of a key.
- `Pattern.go_key_none`, `Pattern.go_key_eq`, `Pattern.searchFrom_key_skip`: **the search for a
  field stops at the first key that the value after it completes.**
-/

namespace NodeCatalog

/-- A prefix that holds no `z` ends before a `z`. -/
theorem prefix_of_prefix_append_cons {α : Type} {z : α} {rest : List α} :
    ∀ {P u : List α}, z ∉ P → P <+: u ++ z :: rest → P <+: u
  | [], _, _, _ => List.nil_prefix
  | a :: P, [], hz, h => absurd ((List.cons_prefix_cons.mp h).1 ▸ List.mem_cons_self) hz
  | a :: P, b :: u, hz, h => by
    rw [List.cons_append] at h
    obtain ⟨hab, hP⟩ := List.cons_prefix_cons.mp h
    subst hab
    exact List.cons_prefix_cons.mpr
      ⟨rfl, prefix_of_prefix_append_cons (fun hm => hz (List.mem_cons_of_mem _ hm)) hP⟩

/-- An end of two texts joined is an end of the second, or an end of the first followed by the
second. -/
theorem suffix_append_cases {α : Type} {u x y : List α} (h : u <:+ x ++ y) :
    u <:+ y ∨ ∃ u', u' <:+ x ∧ u = u' ++ y := by
  obtain ⟨t, ht⟩ := h
  rcases List.append_eq_append_iff.mp ht with ⟨a', rfl, rfl⟩ | ⟨c', -, rfl⟩
  · exact .inr ⟨a', List.suffix_append t a', rfl⟩
  · exact .inl (List.suffix_append c' u)

/-- A non-empty end of a text followed by one more code point is an end of the text followed by
that code point. -/
theorem eq_append_of_suffix_append_singleton {α : Type} {u l : List α} {z : α}
    (h : u <:+ l ++ [z]) (hu : u ≠ []) : ∃ u', u = u' ++ [z] ∧ u' <:+ l := by
  have hrev : u.reverse <+: z :: l.reverse := by
    have hzl : z :: l.reverse = (l ++ [z]).reverse := by simp
    rw [hzl]
    exact List.reverse_prefix.mpr h
  rcases List.prefix_cons_iff.mp hrev with hnil | ⟨v, hv, hvl⟩
  · exact absurd (List.reverse_eq_nil_iff.mp hnil) hu
  · refine ⟨v.reverse, ?_, ?_⟩
    · rw [← List.reverse_reverse u, hv]
      simp
    · rw [← List.reverse_reverse l]
      exact List.reverse_prefix.mp (by simpa using hvl)

namespace Pattern

variable {n : Nat} {g : Groups} {k : Cont}

/-! ## Parts that refuse a blank -/

/-- A pattern that matches nothing where the text starts with a blank. -/
def RefusesBlank (q : Pattern) : Prop :=
  ∀ (n i : Nat) (p : Option Point) (x : Point) (r : Text) (g : Groups) (k : Cont),
    x.isBlank = true → go n q ⟨i, p, x :: r⟩ g k = none

theorem refusesBlank_word {x : Point} (hx : x.isBlank = false) (w : Text) :
    RefusesBlank (.word (x :: w)) := by
  intro n i p y r g k hy
  match n with
  | 0 => rfl
  | n + 1 =>
    rw [go_word, Cursor.eat_eq_none, Option.bind_none]
    intro h
    rw [(List.cons_prefix_cons.mp h).1, hy] at hx
    cases hx

theorem refusesBlank_seq {p : Pattern} (hp : RefusesBlank p) (q : Pattern) :
    RefusesBlank (.seq p q) := by
  intro n i pr x r g k hx
  match n with
  | 0 => rfl
  | n + 1 =>
    rw [go_seq]
    exact hp n i pr x r g _ hx

theorem refusesBlank_group {p : Pattern} (hp : RefusesBlank p) (j : Nat) :
    RefusesBlank (.group j p) := by
  intro n i pr x r g k hx
  match n with
  | 0 => rfl
  | n + 1 =>
    rw [go_group]
    exact hp n i pr x r g _ hx

theorem refusesBlank_alt {p q : Pattern} (hp : RefusesBlank p) (hq : RefusesBlank q) :
    RefusesBlank (.alt p q) := by
  intro n i pr x r g k hx
  match n with
  | 0 => rfl
  | n + 1 =>
    simp only [go]
    rw [hp n i pr x r g k hx]
    exact hq n i pr x r g k hx

theorem refusesBlank_one {cls : CharClass} (h : ∀ x : Point, x.isBlank = true → cls.test x = false) :
    RefusesBlank (.one cls) := by
  intro n i p x r g k hx
  match n with
  | 0 => rfl
  | n + 1 => simp [go, Cursor.advance, h x hx]

/-- A repetition of at least one code point of a class without blanks refuses a blank, greedy or
lazy. -/
theorem refusesBlank_many {cls : CharClass}
    (h : ∀ x : Point, x.isBlank = true → cls.test x = false) (least : Nat) (greedy : Bool) :
    RefusesBlank (.many cls (least + 1) greedy) := by
  intro n i p x r g k hx
  match n with
  | 0 => rfl
  | n + 1 =>
    cases greedy with
    | false => simp [go, Cursor.advanceBy, Cursor.advance, h x hx]
    | true => simp [go, Cursor.run, h x hx, firstOf]

/-! ## Runs of blanks -/

/-- A greedy run of blanks offers the end of the run first and then each shorter run, which
leaves a blank where the rest starts; so when the rest refuses a blank, the run is taken whole,
or fails when it is shorter than its least length. -/
theorem go_blanks_cont (least : Nat) {ws r : Text} (hws : ∀ x ∈ ws, x.isBlank = true)
    (hr : ∀ x ∈ r.head?, x.isBlank = false) (i : Nat) (p : Option Point)
    (hk : ∀ i' p' x r', x.isBlank = true → k ⟨i', p', x :: r'⟩ g = none) :
    go (n + 1) (.many .blank least true) ⟨i, p, ws ++ r⟩ g k =
      if least ≤ ws.length then k ⟨i + ws.length, ws.getLast?.or p, r⟩ g else none := by
  obtain ⟨inner, hlen, hinner, hrun⟩ := Cursor.run_append .blank ws r hws hr i p
  have hfail : ∀ c ∈ inner, k c g = none := by
    intro c hc
    obtain ⟨x, hx, hxb⟩ := hinner c hc
    obtain ⟨i', p', rest⟩ := c
    cases rest with
    | nil => cases hx
    | cons y ys =>
      simp only [List.head?_cons, Option.mem_def, Option.some.injEq] at hx
      subst hx
      exact hk i' p' y ys hxb
  rw [go_many_greedy]
  dsimp only
  rw [hrun]
  split
  · -- the run is long enough: its end is offered first
    next hle =>
    rw [List.drop_append_of_le_length (by omega), List.reverse_append, List.reverse_singleton,
      List.singleton_append, firstOf_cons,
      firstOf_eq_none fun c hc => hfail c (List.mem_of_mem_drop (List.mem_reverse.mp hc)),
      Option.or_none]
  · next hlt =>
    rw [List.drop_eq_nil_of_le (by simp; omega)]
    rfl

/-- A greedy run of blanks before a part that refuses a blank: the part is tried where the run
ends. -/
theorem go_blankRun {q : Pattern} (hq : RefusesBlank q) (least : Nat) {ws r : Text}
    (hws : ∀ x ∈ ws, x.isBlank = true) (hr : ∀ x ∈ r.head?, x.isBlank = false) (i : Nat)
    (p : Option Point) :
    go (n + 2) (.seq (.many .blank least true) q) ⟨i, p, ws ++ r⟩ g k =
      if least ≤ ws.length then go (n + 1) q ⟨i + ws.length, ws.getLast?.or p, r⟩ g k
      else none := by
  rw [go_seq]
  exact go_blanks_cont least hws hr i p fun i' p' x r' hx => hq (n + 1) i' p' x r' g k hx

/-- The blanks at the start of a text, and the rest. -/
theorem blanks_split (s : Text) :
    s = s.takeWhile Point.isBlank ++ s.dropWhile Point.isBlank ∧
      (∀ x ∈ s.takeWhile Point.isBlank, x.isBlank = true) ∧
      ∀ x ∈ (s.dropWhile Point.isBlank).head?, x.isBlank = false :=
  ⟨(List.takeWhile_append_dropWhile).symm, fun _ hx => List.mem_takeWhile_imp hx,
    fun x hx => by
      have := List.head?_dropWhile_not Point.isBlank s
      rw [Option.mem_def.mp hx] at this
      simpa using this⟩

/-! ## The search -/

theorem matchWith_eq (fuel : Nat) (p : Pattern) (c : Cursor) :
    p.matchWith fuel c = (go fuel p c (Array.replicate (p.groupCount + 1) none)
      fun c' g => some (c', g)).map fun r => ⟨c, r.1, r.2⟩ := rfl

/-- The search steps over text at none of whose places the pattern matches. -/
theorem searchFrom_append {p : Pattern} {fuel : Nat} {s : Text} (pre : Text)
    (h : ∀ u, u ≠ [] → u <:+ pre → ∀ j q, p.matchWith fuel ⟨j, q, u ++ s⟩ = none)
    (i : Nat) (prev : Option Point) :
    p.searchFrom fuel i prev (pre ++ s) =
      p.searchFrom fuel (i + pre.length) (pre.getLast?.or prev) s := by
  induction pre generalizing i prev with
  | nil => rfl
  | cons x xs ih =>
    have h0 := h (x :: xs) (List.cons_ne_nil _ _) List.suffix_rfl i prev
    rw [List.cons_append] at h0
    rw [List.cons_append, searchFrom_of_matchWith_none h0,
      ih (fun u hu hsuf => h u hu (hsuf.trans (List.suffix_cons x xs))) (i + 1) (some x),
      getLast?_or_cons, List.length_cons, Nat.add_assoc, Nat.add_comm 1]

/-- A search finds nothing in text at none of whose places the pattern matches. -/
theorem searchFrom_eq_none {p : Pattern} {fuel : Nat} :
    ∀ (s : Text) (i : Nat) (prev : Option Point),
      (∀ u, u <:+ s → ∀ j q, p.matchWith fuel ⟨j, q, u⟩ = none) → p.searchFrom fuel i prev s = none
  | [], i, prev, h => h [] List.suffix_rfl i prev
  | x :: r, i, prev, h => by
    rw [searchFrom_of_matchWith_none (h _ List.suffix_rfl i prev)]
    exact searchFrom_eq_none r (i + 1) (some x) fun u hu => h u (hu.trans (List.suffix_cons x r))

/-- A match found where the search starts is the search's result. -/
theorem searchFrom_of_go {p : Pattern} {fuel i : Nat} {prev : Option Point} {s : Text}
    {stop : Cursor} {g' : Groups}
    (h : go fuel p ⟨i, prev, s⟩ (Array.replicate (p.groupCount + 1) none)
      (fun c' g => some (c', g)) = some (stop, g')) :
    p.searchFrom fuel i prev s = some ⟨⟨i, prev, s⟩, stop, g'⟩ :=
  searchFrom_of_matchWith (by rw [matchWith_eq, h]; rfl)

/-- The text a group matched, read from the groups it was last set in. -/
theorem groupD_set {start stop : Cursor} {g : Groups} {i : Nat} (hi : i < g.size) (sp : Span) :
    ({ start := start, stop := stop, groups := g.set! i (some sp) } : Match).groupD i =
      sp.chars := by
  simp [Match.groupD, Match.group?, Array.set!_eq_setIfInBounds, hi]

/-- All matches: a match that takes text is followed by the matches after it. -/
theorem findFrom_of_searchFrom {p : Pattern} {budget fuel : Nat} {c : Cursor} {m : Match}
    (h : p.searchFrom budget c.index c.prev c.rest = some m) (hne : m.stop.index ≠ m.start.index) :
    p.findFrom budget (fuel + 1) c = m :: p.findFrom budget fuel m.stop := by
  simp [findFrom, h, hne]

theorem findFrom_of_searchFrom_none {p : Pattern} {budget fuel : Nat} {c : Cursor}
    (h : p.searchFrom budget c.index c.prev c.rest = none) : p.findFrom budget (fuel + 1) c = [] := by
  simp [findFrom, h]

end Pattern

/-! ## Keys -/

/-- Text that starts with the key `w`: the word, blanks, and a colon. -/
def KeyAt (w s : Text) : Prop :=
  ∃ ws r, (∀ x ∈ ws, x.isBlank = true) ∧ s = w ++ ws ++ .char ':' :: r

/-- Text that holds the key `w` somewhere inside. -/
def KeyLike (w v : Text) : Prop :=
  ∃ ws, (∀ x ∈ ws, x.isBlank = true) ∧ w ++ ws ++ [.char ':'] <:+: v

/-- No place in a text starts the key `w`, whatever follows the text. -/
def Clear (w x : Text) : Prop :=
  ∀ u, u ≠ [] → u <:+ x → ∀ rest, ¬ KeyAt w (u ++ rest)

theorem KeyAt.ne_nil {w s : Text} (hw : w ≠ []) (h : KeyAt w s) : s ≠ [] := by
  obtain ⟨ws, r, -, rfl⟩ := h
  simp [hw]

theorem clear_nil (w : Text) : Clear w [] :=
  fun _ hu hsuf => absurd (List.eq_nil_of_suffix_nil hsuf) hu

/-- Clear pieces make clear text. -/
theorem clear_append {w x y : Text} (hx : Clear w x) (hy : Clear w y) : Clear w (x ++ y) := by
  intro u hu hsuf rest
  rcases suffix_append_cases hsuf with hy' | ⟨u', hu', rfl⟩
  · exact hy u hu hy' rest
  · by_cases hnil : u' = []
    · subst hnil
      exact hy y (by simpa using hu) List.suffix_rfl rest
    · rw [List.append_assoc]
      exact hx u' hnil hu' (y ++ rest)

/-- A text without the first code point of the key is clear of it. -/
theorem clear_of_not_mem {a : Point} {w x : Text} (ha : a ∉ x) : Clear (a :: w) x := by
  intro u hu hsuf rest hkey
  obtain ⟨b, u', rfl⟩ := List.exists_cons_of_ne_nil hu
  obtain ⟨ws, r, -, he⟩ := hkey
  rw [List.cons_append, List.cons_append, List.cons_append] at he
  obtain ⟨rfl, -⟩ := List.cons.inj he
  exact ha (hsuf.subset List.mem_cons_self)

/-- A text holding no key `w`, followed by a stop (a code point outside the key, not a blank and
not a colon), is clear of `w`: a key starting inside it would run across the stop. -/
theorem clear_stopped {w x : Text} {z : Point} (hzw : z ∉ w) (hzb : z.isBlank = false)
    (hzc : z ≠ .char ':') (hx : ¬ KeyLike w x) : Clear w (x ++ [z]) := by
  intro u hu hsuf rest hkey
  obtain ⟨u', rfl, hu'⟩ := eq_append_of_suffix_append_singleton hsuf hu
  obtain ⟨ws, r, hws, he⟩ := hkey
  have hz : z ∉ w ++ ws ++ [.char ':'] := by
    intro hm
    simp only [List.mem_append, List.mem_singleton] at hm
    rcases hm with (hm | hm) | hm
    · exact hzw hm
    · rw [hws z hm] at hzb
      cases hzb
    · exact hzc hm
  have hpre : w ++ ws ++ [.char ':'] <+: u' ++ z :: rest := by
    rw [List.append_assoc u', List.singleton_append] at he
    exact ⟨r, by rw [he]; simp⟩
  exact hx ⟨ws, hws, (prefix_of_prefix_append_cons hz hpre).isInfix.trans hu'.isInfix⟩

/-- A key word followed by its colon is clear of every key word that is not a part at its
end: a key starting inside it ends at its colon. -/
theorem clear_keyWord {w K : Text} (hKb : ∀ y ∈ K, y.isBlank = false)
    (hKc : .char ':' ∉ K) (hwc : .char ':' ∉ w) (hsuf : ¬ w <:+ K) :
    Clear w (K ++ [.char ':']) := by
  intro u hu hu' rest hkey
  obtain ⟨u', rfl, hu'K⟩ := eq_append_of_suffix_append_singleton hu' hu
  obtain ⟨ws, r, hws, he⟩ := hkey
  have hcolon : .char ':' ∉ w ++ ws := by
    intro hm
    rcases List.mem_append.mp hm with hm | hm
    · exact hwc hm
    · have := hws _ hm
      cases this
  have hprefix : (w ++ ws) ++ [.char ':'] <+: u' ++ .char ':' :: rest := by
    rw [List.append_assoc u', List.singleton_append] at he
    exact ⟨r, by rw [he]; simp⟩
  have heq : w ++ ws = u' :=
    FrontMatter.eq_of_prefix_append_sep hcolon (fun hm => hKc (hu'K.subset hm)) hprefix
  -- the blanks after the word would be part of the key word, which holds none
  have hnil : ws = [] := by
    rcases List.eq_nil_or_concat ws with h | ⟨ws', y, rfl⟩
    · exact h
    · have hy : y ∈ K := hu'K.subset (heq ▸ by simp)
      have := hKb y hy
      rw [hws y (by simp)] at this
      cases this
  subst hnil
  rw [List.append_nil] at heq
  subst heq
  exact hsuf hu'K

namespace Pattern

variable {n : Nat} {g : Groups} {k : Cont}

/-! ## Fields -/

theorem key_eq (name : String) :
    key name = .seq (.word (Text.ofString name))
      (.seq blanks (.seq (.word (Text.ofString ":")) blanks)) := rfl

theorem colon_eq : Text.ofString ":" = [.char ':'] := rfl

theorem refusesBlank_colon (q : Pattern) : RefusesBlank (.seq (.word (Text.ofString ":")) q) :=
  refusesBlank_seq (refusesBlank_word (by decide) []) q

/-- A field pattern does not match where the text does not start with its key. -/
theorem go_key_none {name : String} {q : Pattern} {s : Text}
    (hs : ¬ KeyAt (Text.ofString name) s) (i : Nat) (p : Option Point) :
    go (n + 5) (.seq (key name) q) ⟨i, p, s⟩ g k = none := by
  rw [go_seq, key_eq, go_seq, go_word]
  by_cases hpre : Text.ofString name <+: s
  · obtain ⟨s', rfl⟩ := hpre
    rw [Cursor.eat_append, Option.bind_some]
    obtain ⟨hsplit, hws, hr⟩ := blanks_split s'
    generalize s'.takeWhile Point.isBlank = ws at hsplit hws
    generalize s'.dropWhile Point.isBlank = r0 at hsplit hr
    subst hsplit
    -- after the blanks, no colon: else the text would start with the key
    have hr0 : ¬ Text.ofString ":" <+: r0 := by
      rintro ⟨r, rfl⟩
      exact hs ⟨ws, r, hws, by simp [colon_eq]⟩
    rw [blanks, go_blankRun (refusesBlank_colon _) 0 hws hr, if_pos (Nat.zero_le _), go_seq,
      go_word, Cursor.eat_eq_none hr0, Option.bind_none]
  · rw [Cursor.eat_eq_none hpre, Option.bind_none]

/-- At a key, a field pattern goes on with its value after the blanks that follow the colon. -/
theorem go_key_eq {name : String} {q : Pattern} (hq : RefusesBlank q) {ws ws' r : Text}
    (hws : ∀ x ∈ ws, x.isBlank = true) (hws' : ∀ x ∈ ws', x.isBlank = true)
    (hr : ∀ x ∈ r.head?, x.isBlank = false) (i : Nat) (p : Option Point) :
    go (n + 5) (.seq (key name) q)
        ⟨i, p, Text.ofString name ++ ws ++ .char ':' :: (ws' ++ r)⟩ g k =
      go (n + 4) q ⟨i + (Text.ofString name).length + ws.length + 1 + ws'.length,
        ws'.getLast?.or (some (.char ':')), r⟩ g k := by
  have hcolon : ∀ x ∈ (Point.char ':' :: (ws' ++ r)).head?, x.isBlank = false := by
    intro x hx
    rw [List.head?_cons, Option.mem_some_iff] at hx
    subst hx
    decide
  rw [go_seq, key_eq, go_seq, go_word, List.append_assoc, Cursor.eat_append, Option.bind_some,
    blanks, go_blankRun (refusesBlank_colon _) 0 hws hcolon, if_pos (Nat.zero_le _), go_seq,
    go_word, colon_eq, show Point.char ':' :: (ws' ++ r) = [.char ':'] ++ (ws' ++ r) from rfl,
    Cursor.eat_append, Option.bind_some,
    go_blanks_cont 0 hws' hr _ _ fun i' p' x r' hx => hq (n + 4) i' p' x r' g k hx,
    if_pos (Nat.zero_le _)]
  rfl

/-- The search for a field steps over text clear of its key. -/
theorem searchFrom_key_skip {name : String} {q : Pattern} {fuel : Nat} {pre s : Text}
    (hfuel : 5 ≤ fuel) (hpre : Clear (Text.ofString name) pre) (i : Nat) (prev : Option Point) :
    (Pattern.seq (key name) q).searchFrom fuel i prev (pre ++ s) =
      (Pattern.seq (key name) q).searchFrom fuel (i + pre.length) (pre.getLast?.or prev) s := by
  obtain ⟨m, rfl⟩ : ∃ m, fuel = m + 5 := ⟨fuel - 5, by omega⟩
  refine searchFrom_append pre (fun u hu hsuf j q' => ?_) i prev
  rw [matchWith_eq, go_key_none (hpre u hu hsuf s) j q']
  rfl

end Pattern

end NodeCatalog
