import NodeCatalog.Proofs.PatternSearch
/-!
# What a match takes

A backtracking matcher is sound when every answer it gives is made of pieces the pattern describes.
For the patterns without groups, back-references, look-ahead or repetition of whole patterns
(`Pattern.Plain`), the texts a pattern takes are given by `Pattern.Takes`, a relation shaped like
the patterns: a word takes itself, a class one of its code points, a repetition a run of them at
least as long as asked, a sequence one text after another. The anchors take nothing; what they check
of the code points around them is not part of the relation. It is the soundness of the matcher that
stands for `re` in `src/tools/extract_schemas.py` and `src/tools/extract_docs.py`.

Whenever the matcher succeeds, a plain pattern has moved the cursor over a text it takes, and the
continuation has succeeded from there with the groups it was given (`Pattern.go_takes`). The
proof goes by the fuel, one case per constructor, each case from a lemma that says how far a
cursor moves in one step. So a group around a plain pattern, between two plain patterns, holds a
text its pattern takes in every match of a listing (`Pattern.takes_groupD_of_mem_findAll`).

- `Cursor.Over`: one cursor stands a given text further on than another.
- `Pattern.Plain`, `Pattern.Takes`: the plain patterns and the texts they take.
- `Pattern.go_takes`: **what a plain pattern passes over is a text it takes.**
- `Pattern.exists_matchWith_of_mem_findAll`: every match of a listing is one the matcher gives at
  some cursor; `Pattern.takes_groupD_of_mem_findAll`, what its group holds.
-/

namespace NodeCatalog

namespace Cursor

/-- The cursor `c'` stands the text `w` further on than `c`: the text after `c` is `w`, then the
text after `c'`. -/
def Over (c : Cursor) (w : Text) (c' : Cursor) : Prop :=
  c.rest = w ++ c'.rest ∧ c'.index = c.index + w.length

theorem Over.refl (c : Cursor) : c.Over [] c :=
  ⟨rfl, rfl⟩

theorem Over.trans {c₁ c₂ c₃ : Cursor} {u v : Text} (h₁ : c₁.Over u c₂) (h₂ : c₂.Over v c₃) :
    c₁.Over (u ++ v) c₃ :=
  ⟨by rw [h₁.1, h₂.1, List.append_assoc],
    by rw [h₂.2, h₁.2, List.length_append, Nat.add_assoc]⟩

/-- A cursor that stands `w` further on than the one after `x` stands `x :: w` further on than
the one before it. -/
theorem Over.cons {i : Nat} {p : Option Point} {x : Point} {r w : Text} {c' : Cursor}
    (h : (⟨i + 1, some x, r⟩ : Cursor).Over w c') : (⟨i, p, x :: r⟩ : Cursor).Over (x :: w) c' := by
  obtain ⟨hrest, hindex⟩ := h
  dsimp only at hrest hindex
  refine ⟨by rw [hrest]; rfl, ?_⟩
  simp only [hindex, List.length_cons]
  omega

/-- The span between two cursors covers what the second stands further on. -/
theorem Over.chars {c c' : Cursor} {w : Text} (h : c.Over w c') : (Span.between c c').chars = w := by
  simp [Span.chars, Span.between, h.1, h.2]

/-! ## How far one step moves -/

theorem eat_over : ∀ {w : Text} {c c' : Cursor}, c.eat w = some c' → c.Over w c'
  | [], c, c', h => by
    simp only [eat, Option.some.injEq] at h
    exact h ▸ Over.refl c
  | x :: ws, ⟨i, p, rest⟩, c', h => by
    cases rest with
    | nil => simp [eat] at h
    | cons y r =>
      simp only [eat] at h
      split at h
      · rename_i hyx
        obtain rfl : y = x := beq_iff_eq.mp hyx
        exact (eat_over h).cons
      · cases h

theorem advance_over {k : CharClass} {c c' : Cursor} (h : c.advance k = some c') :
    ∃ x, k.test x = true ∧ c.Over [x] c' := by
  obtain ⟨i, p, rest⟩ := c
  cases rest with
  | nil => simp [advance] at h
  | cons x r =>
    simp only [advance] at h
    split at h
    · cases h
      exact ⟨x, ‹_›, rfl, rfl⟩
    · cases h

theorem advanceBy_succ (k : CharClass) (n : Nat) (c : Cursor) :
    c.advanceBy k (n + 1) = (c.advance k).bind (advanceBy k n) := by
  simp only [advanceBy]
  cases c.advance k <;> rfl

/-- Stepping over `n` code points of a class stands over `n` of them. -/
theorem advanceBy_over {k : CharClass} : ∀ {n : Nat} {c c' : Cursor}, c.advanceBy k n = some c' →
    ∃ w, (∀ x ∈ w, k.test x = true) ∧ w.length = n ∧ c.Over w c'
  | 0, c, c', h => by
    simp only [advanceBy, Option.some.injEq] at h
    exact ⟨[], by simp, rfl, h ▸ Over.refl c⟩
  | n + 1, c, c', h => by
    obtain ⟨c₁, h₁, hrest⟩ := Option.bind_eq_some_iff.mp ((advanceBy_succ k n c).symm.trans h)
    obtain ⟨x, hx, hover₁⟩ := advance_over h₁
    obtain ⟨w, hw, hlen, hover⟩ := advanceBy_over hrest
    exact ⟨x :: w, List.forall_mem_cons.mpr ⟨hx, hw⟩, by simp [hlen], hover₁.trans hover⟩

/-- A run that ends where it starts offers its start, and only when no code point is asked. -/
theorem over_of_mem_drop_singleton {k : CharClass} {c c' : Cursor} {least : Nat}
    (h : c' ∈ [c].drop least) :
    ∃ w, (∀ x ∈ w, k.test x = true) ∧ least ≤ w.length ∧ c.Over w c' := by
  cases least with
  | zero =>
    obtain rfl := List.mem_singleton.mp h
    exact ⟨[], by simp, le_rfl, Over.refl _⟩
  | succ l => simp at h

/-- Every cursor a greedy run offers past its first `least` stands over at least `least` code
points of the class. -/
theorem run_over (k : CharClass) : ∀ (s : Text) (i : Nat) (p : Option Point) (least : Nat)
    {c' : Cursor}, c' ∈ (run k i p s).drop least →
      ∃ w, (∀ x ∈ w, k.test x = true) ∧ least ≤ w.length ∧ (⟨i, p, s⟩ : Cursor).Over w c'
  | [], _, _, _, _, h => over_of_mem_drop_singleton h
  | x :: r, i, p, least, c', h => by
    by_cases hx : k.test x = true
    · -- the run goes on past `x`: the cursor is the first one, or one of the rest of the run
      rw [run, if_pos hx] at h
      cases least with
      | zero =>
        rcases List.mem_cons.mp h with rfl | hrest
        · exact ⟨[], by simp, le_rfl, Over.refl _⟩
        · obtain ⟨w, hw, -, hover⟩ := run_over k r (i + 1) (some x) 0 hrest
          exact ⟨x :: w, List.forall_mem_cons.mpr ⟨hx, hw⟩, Nat.zero_le _, hover.cons⟩
      | succ l =>
        rw [List.drop_succ_cons] at h
        obtain ⟨w, hw, hl, hover⟩ := run_over k r (i + 1) (some x) l h
        refine ⟨x :: w, List.forall_mem_cons.mpr ⟨hx, hw⟩, ?_, hover.cons⟩
        simpa using hl
    · rw [run, if_neg hx] at h
      exact over_of_mem_drop_singleton h

end Cursor

theorem firstOf_eq_some {α β : Type} {f : α → Option β} {b : β} :
    ∀ {as : List α}, firstOf f as = some b → ∃ a ∈ as, f a = some b
  | [], h => by simp [firstOf] at h
  | a :: as, h => by
    rcases Option.or_eq_some_iff.mp ((firstOf_cons f a as).symm.trans h) with ha | ⟨-, hrest⟩
    · exact ⟨a, List.mem_cons_self, ha⟩
    · obtain ⟨a', ha', hf⟩ := firstOf_eq_some hrest
      exact ⟨a', List.mem_cons_of_mem a ha', hf⟩

theorem lazyRun_cons (k : CharClass) (f : Cursor → Option (Cursor × Groups)) (i : Nat)
    (p : Option Point) (x : Point) (r : Text) :
    lazyRun k f i p (x :: r) =
      (f ⟨i, p, x :: r⟩).or (if k.test x then lazyRun k f (i + 1) (some x) r else none) := by
  simp only [lazyRun]
  cases f ⟨i, p, x :: r⟩ <;> rfl

/-- A lazy run ends where the rest matches, after some code points of the class. -/
theorem lazyRun_over (k : CharClass) (f : Cursor → Option (Cursor × Groups))
    {res : Cursor × Groups} : ∀ (s : Text) (i : Nat) (p : Option Point),
      lazyRun k f i p s = some res →
        ∃ w c', (∀ x ∈ w, k.test x = true) ∧ (⟨i, p, s⟩ : Cursor).Over w c' ∧ f c' = some res
  | [], i, p, h => ⟨[], _, by simp, Cursor.Over.refl _, h⟩
  | x :: r, i, p, h => by
    rcases Option.or_eq_some_iff.mp ((lazyRun_cons k f i p x r).symm.trans h) with
      hf | ⟨-, hrest⟩
    · exact ⟨[], _, by simp, Cursor.Over.refl _, hf⟩
    · by_cases hx : k.test x = true
      · rw [if_pos hx] at hrest
        obtain ⟨w, c', hw, hover, hf⟩ := lazyRun_over k f r (i + 1) (some x) hrest
        exact ⟨x :: w, c', List.forall_mem_cons.mpr ⟨hx, hw⟩, hover.cons, hf⟩
      · rw [if_neg hx] at hrest
        cases hrest

namespace Pattern

/-! ## Plain patterns and the texts they take -/

/-- The patterns whose matches look at the text alone: no groups, back-references, look-ahead or
repetition of whole patterns. -/
def Plain : Pattern → Prop
  | .opt p => p.Plain
  | .seq p q => p.Plain ∧ q.Plain
  | .alt p q => p.Plain ∧ q.Plain
  | .star _ _ | .group _ _ | .backref _ | .ahead _ => False
  | .empty | .word _ | .one _ | .many _ _ _ | .lineStart | .lineEnd => True

/-- The texts a plain pattern takes. -/
inductive Takes : Pattern → Text → Prop
  | empty : Takes .empty []
  | word (w : Text) : Takes (.word w) w
  | one {k : CharClass} {x : Point} : k.test x = true → Takes (.one k) [x]
  | many {k : CharClass} {least : Nat} {greedy : Bool} {w : Text} :
      (∀ x ∈ w, k.test x = true) → least ≤ w.length → Takes (.many k least greedy) w
  | optSome {p : Pattern} {w : Text} : Takes p w → Takes (.opt p) w
  | optNone {p : Pattern} : Takes (.opt p) []
  | seq {p q : Pattern} {u v : Text} : Takes p u → Takes q v → Takes (.seq p q) (u ++ v)
  | altLeft {p q : Pattern} {w : Text} : Takes p w → Takes (.alt p q) w
  | altRight {p q : Pattern} {w : Text} : Takes q w → Takes (.alt p q) w
  | lineStart : Takes .lineStart []
  | lineEnd : Takes .lineEnd []

variable {n : Nat} {c : Cursor} {g : Groups} {k : Cont}

/-! ## One step of the matcher -/

theorem go_zero (p : Pattern) : go 0 p c g k = none := rfl

theorem go_one_bind (cls : CharClass) :
    go (n + 1) (.one cls) c g k = (c.advance cls).bind fun c' => k c' g := by
  simp only [go]
  cases c.advance cls <;> rfl

theorem go_opt (p : Pattern) : go (n + 1) (.opt p) c g k = (go n p c g k).or (k c g) := by
  simp only [go]
  cases go n p c g k <;> rfl

theorem go_alt (p q : Pattern) :
    go (n + 1) (.alt p q) c g k = (go n p c g k).or (go n q c g k) := by
  simp only [go]
  cases go n p c g k <;> rfl

theorem go_many_lazy_least (cls : CharClass) (least : Nat) :
    go (n + 1) (.many cls least false) c g k =
      (c.advanceBy cls least).bind fun c₀ => lazyRun cls (fun c' => k c' g) c₀.index c₀.prev c₀.rest := by
  simp only [go, Bool.false_eq_true, if_false]
  cases c.advanceBy cls least <;> rfl

/-- A success needs fuel. -/
theorem exists_succ_of_go {p : Pattern} {r : Cursor × Groups} (h : go n p c g k = some r) :
    ∃ n', n = n' + 1 := by
  cases n with
  | zero => simp [go_zero] at h
  | succ n' => exact ⟨n', rfl⟩

/-- **What a plain pattern passes over is a text it takes.** Whenever the matcher succeeds with a
plain pattern, the pattern has moved the cursor over a text it takes, and the continuation has
succeeded from there with the groups it was given. -/
theorem go_takes : ∀ (n : Nat) {p : Pattern}, p.Plain → ∀ {c : Cursor} {g : Groups} {k : Cont}
    {r : Cursor × Groups}, go n p c g k = some r →
      ∃ w c', p.Takes w ∧ c.Over w c' ∧ k c' g = some r
  | 0, p, _, c, g, k, r, h => by simp [go_zero] at h
  | n + 1, p, hp, c, g, k, r, h => by
    cases p with
    | empty => exact ⟨[], c, .empty, Cursor.Over.refl c, h⟩
    | word w =>
      obtain ⟨c', hc', hk⟩ := Option.bind_eq_some_iff.mp ((go_word w).symm.trans h)
      exact ⟨w, c', .word w, Cursor.eat_over hc', hk⟩
    | one cls =>
      obtain ⟨c', hc', hk⟩ := Option.bind_eq_some_iff.mp ((go_one_bind cls).symm.trans h)
      obtain ⟨x, hx, hover⟩ := Cursor.advance_over hc'
      exact ⟨[x], c', .one hx, hover, hk⟩
    | many cls least greedy =>
      cases greedy with
      | true =>
        -- the greedy run offers its cursors, longest run first
        obtain ⟨c', hc', hk⟩ := firstOf_eq_some ((go_many_greedy cls least).symm.trans h)
        obtain ⟨w, hw, hleast, hover⟩ :=
          Cursor.run_over cls c.rest c.index c.prev least (List.mem_reverse.mp hc')
        exact ⟨w, c', .many hw hleast, hover, hk⟩
      | false =>
        -- the lazy run first steps over `least` code points, then as few more as it must
        obtain ⟨c₀, h₀, hlazy⟩ :=
          Option.bind_eq_some_iff.mp ((go_many_lazy_least cls least).symm.trans h)
        obtain ⟨u, hu, hlen, hover₀⟩ := Cursor.advanceBy_over h₀
        obtain ⟨v, c', hv, hover, hk⟩ := lazyRun_over cls _ c₀.rest c₀.index c₀.prev hlazy
        refine ⟨u ++ v, c', .many (List.forall_mem_append.mpr ⟨hu, hv⟩) ?_, hover₀.trans hover, hk⟩
        simp [hlen]
    | opt p =>
      have hp : p.Plain := hp
      rcases Option.or_eq_some_iff.mp ((go_opt p).symm.trans h) with hp' | ⟨-, hk⟩
      · obtain ⟨w, c', hw, hover, hk⟩ := go_takes n hp hp'
        exact ⟨w, c', .optSome hw, hover, hk⟩
      · exact ⟨[], c, .optNone, Cursor.Over.refl c, hk⟩
    | seq p q =>
      obtain ⟨u, c₁, hu, hover₁, hq⟩ := go_takes n hp.1 ((go_seq p q).symm.trans h)
      obtain ⟨v, c₂, hv, hover₂, hk⟩ := go_takes n hp.2 hq
      exact ⟨u ++ v, c₂, .seq hu hv, hover₁.trans hover₂, hk⟩
    | alt p q =>
      rcases Option.or_eq_some_iff.mp ((go_alt p q).symm.trans h) with hp' | ⟨-, hq⟩
      · obtain ⟨w, c', hw, hover, hk⟩ := go_takes n hp.1 hp'
        exact ⟨w, c', .altLeft hw, hover, hk⟩
      · obtain ⟨w, c', hw, hover, hk⟩ := go_takes n hp.2 hq
        exact ⟨w, c', .altRight hw, hover, hk⟩
    | lineStart =>
      rw [go_lineStart] at h
      split at h
      · exact ⟨[], c, .lineStart, Cursor.Over.refl c, h⟩
      · cases h
    | lineEnd =>
      rw [go_lineEnd] at h
      split at h
      · exact ⟨[], c, .lineEnd, Cursor.Over.refl c, h⟩
      · split at h
        · exact ⟨[], c, .lineEnd, Cursor.Over.refl c, h⟩
        · cases h
    | star | group | backref | ahead => exact hp.elim

/-! ## Groups of matches -/

/-- In a match of a plain pattern, then group `i` around a plain pattern, then a plain pattern,
the group holds a text its pattern takes. -/
theorem takes_groupD_of_matchWith {pre x post : Pattern} (hpre : pre.Plain) (hx : x.Plain)
    (hpost : post.Plain) {i fuel : Nat} {c : Cursor} {m : Match}
    (h : (Pattern.seq pre (.seq (.group i x) post)).matchWith fuel c = some m) :
    x.Takes (m.groupD i) := by
  rw [matchWith_eq, Option.map_eq_some_iff] at h
  obtain ⟨⟨stop, groups⟩, hgo, rfl⟩ := h
  -- one unit of fuel for each of the outer sequence, the inner one and the group
  obtain ⟨n, rfl⟩ := exists_succ_of_go hgo
  obtain ⟨-, c₁, -, -, hrest⟩ := go_takes n hpre ((go_seq _ _).symm.trans hgo)
  obtain ⟨n, rfl⟩ := exists_succ_of_go hrest
  rw [go_seq] at hrest
  obtain ⟨n, rfl⟩ := exists_succ_of_go hrest
  rw [go_group] at hrest
  obtain ⟨w, c₂, hw, hover, hpost'⟩ := go_takes n hx hrest
  obtain ⟨-, c₃, -, -, hend⟩ := go_takes (n + 1) hpost hpost'
  cases hend
  have hi : i < (Array.replicate ((Pattern.seq pre (.seq (.group i x) post)).groupCount + 1)
      (none : Option Span)).size := by
    simp only [Array.size_replicate, groupCount]
    omega
  rw [groupD_set hi, hover.chars]
  exact hw

/-! ## Matches of a listing -/

theorem searchFrom_cons (p : Pattern) (fuel i : Nat) (prev : Option Point) (x : Point)
    (r : Text) :
    p.searchFrom fuel i prev (x :: r) =
      (p.matchWith fuel ⟨i, prev, x :: r⟩).or (p.searchFrom fuel (i + 1) (some x) r) := by
  simp only [searchFrom]
  cases p.matchWith fuel ⟨i, prev, x :: r⟩ <;> rfl

/-- A match a search finds is one the matcher gives at some cursor. -/
theorem exists_matchWith_of_searchFrom {p : Pattern} {fuel : Nat} {m : Match} :
    ∀ {i : Nat} {prev : Option Point} {s : Text}, p.searchFrom fuel i prev s = some m →
      ∃ c, p.matchWith fuel c = some m
  | _, _, [], h => ⟨_, h⟩
  | i, prev, x :: r, h => by
    rcases Option.or_eq_some_iff.mp ((searchFrom_cons p fuel i prev x r).symm.trans h) with
      hm | ⟨-, hrest⟩
    · exact ⟨_, hm⟩
    · exact exists_matchWith_of_searchFrom hrest

/-- A match of a listing is the one the search finds first, or one of those listed after it. -/
theorem mem_findFrom_succ {p : Pattern} {budget fuel : Nat} {c : Cursor} {m : Match}
    (h : m ∈ p.findFrom budget (fuel + 1) c) :
    ∃ m', p.searchFrom budget c.index c.prev c.rest = some m' ∧
      (m = m' ∨ ∃ c', m ∈ p.findFrom budget fuel c') := by
  simp only [findFrom] at h
  split at h
  · cases h
  · rename_i m' hs
    refine ⟨m', hs, ?_⟩
    split at h
    · rcases List.mem_cons.mp h with rfl | hrest
      · exact .inl rfl
      · exact .inr ⟨_, hrest⟩
    · exact .inl (List.mem_singleton.mp h)

theorem exists_matchWith_of_mem_findFrom {p : Pattern} {budget : Nat} {m : Match} :
    ∀ {fuel : Nat} {c : Cursor}, m ∈ p.findFrom budget fuel c → ∃ c', p.matchWith budget c' = some m
  | 0, c, h => by simp [findFrom] at h
  | fuel + 1, c, h => by
    obtain ⟨m', hs, rfl | ⟨c', hrest⟩⟩ := mem_findFrom_succ h
    · exact exists_matchWith_of_searchFrom hs
    · exact exists_matchWith_of_mem_findFrom hrest

/-- Every match of a listing is one the matcher gives at some cursor, with the listing's fuel. -/
theorem exists_matchWith_of_mem_findAll {p : Pattern} {s : Text} {m : Match}
    (h : m ∈ p.findAll s) : ∃ c, p.matchWith (p.fuelFor s.length) c = some m :=
  exists_matchWith_of_mem_findFrom h

/-- In every match of a listing of a plain pattern, then group `i` around a plain pattern, then a
plain pattern, the group holds a text its pattern takes. -/
theorem takes_groupD_of_mem_findAll {pre x post : Pattern} (hpre : pre.Plain) (hx : x.Plain)
    (hpost : post.Plain) {i : Nat} {s : Text} {m : Match}
    (h : m ∈ (Pattern.seq pre (.seq (.group i x) post)).findAll s) : x.Takes (m.groupD i) := by
  obtain ⟨c, hc⟩ := exists_matchWith_of_mem_findAll h
  exact takes_groupD_of_matchWith hpre hx hpost hc

end Pattern

end NodeCatalog
