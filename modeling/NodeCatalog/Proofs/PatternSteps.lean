import NodeCatalog.Pattern.Match
import Mathlib.Data.List.Infix
/-!
# How the matcher runs on patterns without repetition of patterns

The patterns that read front matter are sequences of anchors, words, groups and repetitions of a
single class. On such a pattern the matcher spends one unit of fuel per part, and each part does one
thing this module writes as an equation: a word is eaten or the match fails, an anchor checks the
code point before or after the cursor, a greedy repetition offers the end of its run first and then
each shorter run, a lazy one offers its start first and then each longer run. The search tries each
position from the left and keeps the first match. These are the front-matter patterns of
`extract_metadata` (`src/tools/extract_docs.py`, lines 41–50).

Two facts carry the front matter proofs. A run of blanks followed by a word that does not start
with a blank matches exactly when the word follows the run (`go_blanks_word`): every shorter run
leaves a blank where the word should start. And a lazy run of any code points stops at the first
place where the rest matches (`lazyRun_append`).

- `Cursor.eat_append`, `Cursor.eat_eq_none`: eating a word.
- `Cursor.run_append`: the cursors a greedy run offers.
- `Pattern.go_blanks_word`, `lazyRun_append`: the two facts above; `Pattern.go_blanks_of_end`,
  a run of blanks taken whole before any rest that matches.
- `Pattern.searchFrom_of_matchWith`, `Pattern.searchFrom_skip`: the search keeps the first
  match, and a pattern that starts at a line start is not found inside a line;
  `Pattern.searchFrom_group_one`, the text of group 1 when it is the only group.
-/

namespace NodeCatalog

/-- The code point before the cursor after stepping over some code points: the last of them,
or the one before them when there are none. -/
theorem getLast?_or_cons (x : Point) (ws : Text) (p : Option Point) :
    (x :: ws).getLast?.or p = ws.getLast?.or (some x) := by
  rw [List.getLast?_cons]
  cases ws.getLast? <;> rfl

namespace Cursor

/-- Eating a word from text that starts with it steps over the word. -/
theorem eat_append (i : Nat) (p : Option Point) (w r : Text) :
    Cursor.eat w ⟨i, p, w ++ r⟩ = some ⟨i + w.length, w.getLast?.or p, r⟩ := by
  induction w generalizing i p with
  | nil => rfl
  | cons x ws ih =>
    simp only [List.cons_append, eat, beq_self_eq_true, if_true]
    rw [ih, getLast?_or_cons, List.length_cons, Nat.add_assoc, Nat.add_comm 1]

/-- Eating a word fails on text that does not start with it. -/
theorem eat_eq_none {w : Text} {c : Cursor} (h : ¬ w <+: c.rest) : c.eat w = none := by
  induction w generalizing c with
  | nil => exact absurd List.nil_prefix h
  | cons x ws ih =>
    obtain ⟨i, p, rest⟩ := c
    cases rest with
    | nil => rfl
    | cons y r =>
      simp only [eat]
      by_cases hxy : y = x
      · subst hxy
        rw [beq_self_eq_true, if_pos rfl]
        exact ih fun hp => h (List.cons_prefix_cons.mpr ⟨rfl, hp⟩)
      · rw [if_neg (by simpa using hxy)]

/-- A greedy run over code points of a class, up to one outside it: some cursors each standing
before a code point of the class, then the cursor at the end of the run. -/
theorem run_append (k : CharClass) (ws r : Text) (hws : ∀ x ∈ ws, k.test x = true)
    (hr : ∀ x ∈ r.head?, k.test x = false) (i : Nat) (p : Option Point) :
    ∃ inner : List Cursor, inner.length = ws.length ∧
      (∀ c ∈ inner, ∃ x ∈ c.rest.head?, k.test x = true) ∧
      Cursor.run k i p (ws ++ r) = inner ++ [⟨i + ws.length, ws.getLast?.or p, r⟩] := by
  induction ws generalizing i p with
  | nil =>
    refine ⟨[], rfl, by simp, ?_⟩
    cases r with
    | nil => rfl
    | cons x r => simp [run, hr x rfl]
  | cons w ws ih =>
    obtain ⟨inner, hlen, hinner, hrun⟩ :=
      ih (fun x hx => hws x (List.mem_cons_of_mem _ hx)) (i + 1) (some w)
    have hw : k.test w = true := hws w List.mem_cons_self
    refine ⟨⟨i, p, w :: (ws ++ r)⟩ :: inner, by simp [hlen], ?_, ?_⟩
    · rintro c (_ | ⟨_, hc⟩)
      · exact ⟨w, rfl, hw⟩
      · exact hinner c hc
    · rw [List.cons_append, run, if_pos hw, hrun, getLast?_or_cons, List.length_cons,
        Nat.add_assoc, Nat.add_comm 1]
      rfl

end Cursor

/-- The first option for which `f` answers, written with `Option.or`. -/
theorem firstOf_cons {α β : Type} (f : α → Option β) (a : α) (as : List α) :
    firstOf f (a :: as) = (f a).or (firstOf f as) := by
  simp only [firstOf]
  cases f a <;> rfl

theorem firstOf_eq_none {α β : Type} {f : α → Option β} {as : List α}
    (h : ∀ a ∈ as, f a = none) : firstOf f as = none := by
  induction as with
  | nil => rfl
  | cons a as ih =>
    rw [firstOf_cons, h a List.mem_cons_self, Option.none_or]
    exact ih fun b hb => h b (List.mem_cons_of_mem _ hb)

/-- A lazy run over code points of a class stops at the first place where the rest matches: when
the rest fails before every code point of `xs` and matches after them, the run gives that
match. -/
theorem lazyRun_append (k : CharClass) (f : Cursor → Option (Cursor × Groups)) (r : Text)
    {res : Cursor × Groups} :
    ∀ (xs : Text) (i : Nat) (p : Option Point), (∀ x ∈ xs, k.test x = true) →
      (∀ i' p' s, s ≠ [] → s <:+ xs → f ⟨i', p', s ++ r⟩ = none) →
      f ⟨i + xs.length, xs.getLast?.or p, r⟩ = some res →
      lazyRun k f i p (xs ++ r) = some res
  | [], i, p, _, _, hres => by
    cases r with
    | nil => exact hres
    | cons x r =>
      simp only [List.nil_append, lazyRun]
      rw [show f ⟨i, p, x :: r⟩ = some res from hres]
  | x :: xs, i, p, hxs, hf, hres => by
    have hfirst := hf i p (x :: xs) (List.cons_ne_nil _ _) List.suffix_rfl
    rw [List.cons_append] at hfirst
    simp only [List.cons_append, lazyRun]
    rw [hfirst, if_pos (hxs x List.mem_cons_self)]
    refine lazyRun_append k f r xs (i + 1) (some x)
      (fun y hy => hxs y (List.mem_cons_of_mem _ hy))
      (fun i' p' s hs hsuf => hf i' p' s hs (hsuf.trans (List.suffix_cons x xs))) ?_
    rw [← hres, getLast?_or_cons, List.length_cons, Nat.add_assoc, Nat.add_comm 1]

namespace Pattern

variable {n : Nat} {c : Cursor} {g : Groups} {k : Cont}

/-! ## One part at a time -/

theorem go_seq (p q : Pattern) :
    go (n + 1) (.seq p q) c g k = go n p c g fun c' g' => go n q c' g' k := rfl

theorem go_group (i : Nat) (p : Pattern) :
    go (n + 1) (.group i p) c g k =
      go n p c g fun c' g' => k c' (g'.set! i (some (Span.between c c'))) := rfl

theorem go_word (w : Text) : go (n + 1) (.word w) c g k = (c.eat w).bind fun c' => k c' g := by
  simp only [go]
  cases c.eat w <;> rfl

theorem go_lineStart :
    go (n + 1) .lineStart c g k =
      if c.prev.isNone || c.prev == some (.char '\n') then k c g else none := rfl

theorem go_lineEnd :
    go (n + 1) .lineEnd c g k =
      match c.rest with
      | [] => k c g
      | x :: _ => if x == .char '\n' then k c g else none := rfl

theorem go_many_greedy (cls : CharClass) (least : Nat) :
    go (n + 1) (.many cls least true) c g k =
      firstOf (fun c' => k c' g) ((Cursor.run cls c.index c.prev c.rest).drop least).reverse :=
  rfl

theorem go_many_lazy (cls : CharClass) :
    go (n + 1) (.many cls 0 false) c g k = lazyRun cls (fun c' => k c' g) c.index c.prev c.rest :=
  rfl

/-! ## Blanks, then a word -/

/-- A run of blanks, then a word that starts with no blank: the run must be taken whole, and the
word must follow it. A shorter run leaves a blank where the word should start. -/
theorem go_blanks_word {w : Text} (hw : ∀ x ∈ w.head?, x.isBlank = false)
    (hne : w ≠ []) {ws r : Text} (hws : ∀ x ∈ ws, x.isBlank = true)
    (hr : ∀ x ∈ r.head?, x.isBlank = false) (i : Nat) (p : Option Point) :
    go (n + 2) (.seq blanks (.word w)) ⟨i, p, ws ++ r⟩ g k =
      (Cursor.eat w ⟨i + ws.length, ws.getLast?.or p, r⟩).bind fun c' => k c' g := by
  obtain ⟨inner, -, hinner, hrun⟩ := Cursor.run_append .blank ws r hws hr i p
  rw [go_seq, blanks, go_many_greedy, List.drop_zero]
  simp only
  rw [hrun, List.reverse_append, List.reverse_singleton, List.singleton_append, firstOf_cons,
    go_word, firstOf_eq_none, Option.or_none]
  intro c hc
  obtain ⟨x, hx, hxb⟩ := hinner c (List.mem_reverse.mp hc)
  rw [go_word, Cursor.eat_eq_none, Option.bind_none]
  intro hpre
  obtain ⟨y, w', rfl⟩ := List.exists_cons_of_ne_nil hne
  have : x = y := by
    obtain ⟨i', p', rest⟩ := c
    cases rest with
    | nil => cases hx
    | cons z zs =>
      cases hx
      exact (List.cons_prefix_cons.mp hpre).1.symm
  subst this
  have := hw x rfl
  simp [CharClass.test] at hxb
  rw [hxb] at this
  cases this

/-- A greedy run of blanks offers its end first: when the rest matches there, that is the
match. -/
theorem go_blanks_of_end {q : Pattern} {ws r : Text}
    (hws : ∀ x ∈ ws, x.isBlank = true) (hr : ∀ x ∈ r.head?, x.isBlank = false)
    (i : Nat) (p : Option Point) {res : Cursor × Groups}
    (hq : go (n + 1) q ⟨i + ws.length, ws.getLast?.or p, r⟩ g k = some res) :
    go (n + 2) (.seq blanks q) ⟨i, p, ws ++ r⟩ g k = some res := by
  obtain ⟨inner, -, -, hrun⟩ := Cursor.run_append .blank ws r hws hr i p
  rw [go_seq, blanks, go_many_greedy, List.drop_zero]
  dsimp only
  rw [hrun, List.reverse_append, List.reverse_singleton, List.singleton_append, firstOf_cons, hq]
  rfl

/-! ## The search -/

/-- The fuel a search gives each try: at least two units for each part of the pattern. -/
theorem fuelFor_eq_add (p : Pattern) (n : Nat) {k : Nat} (hk : k ≤ 2 * (p.size + 1)) :
    p.fuelFor n = (p.fuelFor n - k) + k := by
  have : 2 * (p.size + 1) ≤ p.fuelFor n := Nat.mul_le_mul_right _ (by omega)
  omega

theorem searchFrom_of_matchWith {p : Pattern} {fuel i : Nat} {prev : Option Point} {s : Text}
    {m : Match} (h : p.matchWith fuel ⟨i, prev, s⟩ = some m) :
    p.searchFrom fuel i prev s = some m := by
  cases s with
  | nil => exact h
  | cons x r =>
    simp only [searchFrom]
    rw [h]

/-- The text group 1 matched, when it is the only group set. -/
theorem groupD_set_one (start stop : Cursor) {n : Nat} (hn : 1 < n) (sp : Span) :
    ({ start := start, stop := stop, groups := (Array.replicate n none).set! 1 (some sp) } :
      Match).groupD 1 = sp.chars := by
  simp [Match.groupD, Match.group?, Array.set!_eq_setIfInBounds, hn]

/-- A match where the search starts that sets group 1 alone gives the search's result and the
text of its group. -/
theorem searchFrom_group_one {p : Pattern} (hp : 1 ≤ p.groupCount) {fuel i : Nat}
    {prev : Option Point} {s : Text} {stop : Cursor} {sp : Span}
    (h : go fuel p ⟨i, prev, s⟩ (Array.replicate (p.groupCount + 1) none)
        (fun c' g' => some (c', g')) =
      some (stop, (Array.replicate (p.groupCount + 1) none).set! 1 (some sp))) :
    ∃ m, p.searchFrom fuel i prev s = some m ∧ m.groupD 1 = sp.chars :=
  ⟨_, searchFrom_of_matchWith (m := ⟨_, stop, _⟩) (by rw [matchWith, h]; rfl),
    groupD_set_one _ _ (by omega) sp⟩

theorem searchFrom_of_matchWith_none {p : Pattern} {fuel i : Nat} {prev : Option Point}
    {x : Point} {r : Text} (h : p.matchWith fuel ⟨i, prev, x :: r⟩ = none) :
    p.searchFrom fuel i prev (x :: r) = p.searchFrom fuel (i + 1) (some x) r := by
  simp only [searchFrom]
  rw [h]

/-- A pattern that starts at a line start does not match after a code point other than a line
feed. -/
theorem matchWith_lineStart_of_prev (q : Pattern) (fuel i : Nat) {x : Point}
    (hx : x ≠ .char '\n') (s : Text) :
    (Pattern.seq .lineStart q).matchWith fuel ⟨i, some x, s⟩ = none := by
  match fuel with
  | 0 => rfl
  | 1 => rfl
  | m + 2 =>
    simp only [matchWith, go_seq, go_lineStart, Option.isNone_some, Bool.false_or]
    rw [if_neg (by simpa using hx)]
    rfl

/-- The search for a pattern that starts at a line start goes over code points that are not line
feeds, after one that is not either. -/
theorem searchFrom_skip (q : Pattern) (fuel : Nat) (r : Text) :
    ∀ (xs : Text) (i : Nat) {x : Point}, x ≠ .char '\n' → .char '\n' ∉ xs →
      (Pattern.seq .lineStart q).searchFrom fuel i (some x) (xs ++ r) =
        (Pattern.seq .lineStart q).searchFrom fuel (i + xs.length) (xs.getLast?.or (some x)) r
  | [], i, _, _, _ => rfl
  | y :: ys, i, x, hx, hxs => by
    rw [List.cons_append, searchFrom_of_matchWith_none (matchWith_lineStart_of_prev q fuel i hx _),
      searchFrom_skip q fuel r ys (i + 1) (fun e => hxs (e ▸ List.mem_cons_self))
        (fun hm => hxs (List.mem_cons_of_mem _ hm)),
      getLast?_or_cons, List.length_cons, Nat.add_assoc, Nat.add_comm 1]

end Pattern

end NodeCatalog
