import NodeCatalog.Proofs.DecimalReading
import NodeCatalog.Proofs.PatternTakes
/-!
# Versions in strictly increasing order

The versions of a node are the keys of its `nodeVersions` body, each read as a double, then kept
once and sorted. Keeping a version once compares it with `==` against those kept so far, and the
sort compares with `≤`: both are comparisons of doubles, false whenever a not-a-number takes part.
So the list comes out strictly increasing only when no version is a not-a-number: then the kept
versions are pairwise unequal (`Versions.distinct_foldl_addVersion`, one step at a time), the sort
puts them in order of their places on the line of doubles, and a place at or below another and not
equal to it is below it (`Versions.arrange_strictly_increasing`). This is `extract_node_versions`
(`src/tools/extract_schemas.py`, lines 104–115).

Every key is digits of any script, with a point between two runs of them or without
(`Pattern.Takes` of `Versions.keyNumber`, from what a match takes), and such a text reads as the
positive decimal it writes, whose nearest double has valid fields and is a number. Two valid
positive doubles that compare equal are the same, so the versions are exactly the doubles the keys
read as.

- `Versions.Distinct`: pairwise unequal by `==`; kept by each step of keeping versions once.
- `Versions.arrange_strictly_increasing`: **versions that are numbers, kept once and sorted, are
  strictly increasing.**
- `Versions.readParts?_of_mem_keysOf`: every key reads as a positive decimal.
- `Versions.versions_strictly_increasing`: **the versions of any source are strictly increasing
  valid doubles, exactly those its keys read as.**
-/

namespace NodeCatalog

namespace Versions

open Binary

/-! ## Keeping each version once -/

/-- No two versions of a list are equal by `==`. -/
def Distinct (vs : List Parts) : Prop :=
  vs.Pairwise fun a b => a.beq b = false

theorem mem_addVersion {vs : List Parts} {v p : Parts} (h : p ∈ addVersion vs v) :
    p ∈ vs ∨ p = v := by
  unfold addVersion at h
  split at h
  · exact .inl h
  · simpa using h

theorem mem_addVersion_of_mem {vs : List Parts} {p : Parts} (v : Parts) (h : p ∈ vs) :
    p ∈ addVersion vs v := by
  unfold addVersion
  split
  · exact h
  · exact List.mem_append_left _ h

/-- After a step the version added is there, or one equal to it was there already. -/
theorem exists_addVersion (vs : List Parts) (v : Parts) :
    ∃ q ∈ addVersion vs v, q = v ∨ q.beq v = true := by
  unfold addVersion
  split
  · rename_i hany
    obtain ⟨q, hq, hbeq⟩ := List.any_eq_true.mp hany
    exact ⟨q, hq, .inr hbeq⟩
  · exact ⟨v, by simp, .inl rfl⟩

/-- A step keeps the versions pairwise unequal: it adds a version only when none equals it. -/
theorem Distinct.addVersion {vs : List Parts} (h : Distinct vs) (v : Parts) :
    Distinct (addVersion vs v) := by
  unfold Versions.addVersion
  split
  · exact h
  · rename_i hany
    refine List.pairwise_append.mpr ⟨h, List.pairwise_singleton _ _, ?_⟩
    intro a ha b hb
    rw [List.mem_singleton.mp hb]
    simpa using List.any_eq_false.mp (Bool.eq_false_iff.mpr hany) a ha

theorem mem_foldl_addVersion {p : Parts} :
    ∀ (found acc : List Parts), p ∈ found.foldl addVersion acc → p ∈ acc ∨ p ∈ found
  | [], _, h => .inl h
  | v :: found, acc, h => by
    rcases mem_foldl_addVersion found (addVersion acc v) h with h | h
    · rcases mem_addVersion h with h | rfl
      · exact .inl h
      · exact .inr List.mem_cons_self
    · exact .inr (List.mem_cons_of_mem v h)

theorem mem_foldl_addVersion_of_mem {p : Parts} :
    ∀ (found acc : List Parts), p ∈ acc → p ∈ found.foldl addVersion acc
  | [], _, h => h
  | v :: found, acc, h =>
    mem_foldl_addVersion_of_mem found (addVersion acc v) (mem_addVersion_of_mem v h)

/-- Every version found is kept, or one equal to it. -/
theorem exists_foldl_addVersion {p : Parts} :
    ∀ (found acc : List Parts), p ∈ found →
      ∃ q ∈ found.foldl addVersion acc, q = p ∨ q.beq p = true
  | v :: found, acc, h => by
    rcases List.mem_cons.mp h with rfl | h
    · obtain ⟨q, hq, hqp⟩ := exists_addVersion acc p
      exact ⟨q, mem_foldl_addVersion_of_mem found _ hq, hqp⟩
    · exact exists_foldl_addVersion found _ h

/-- Keeping versions once, one at a time, gives pairwise unequal versions. -/
theorem distinct_foldl_addVersion :
    ∀ (found acc : List Parts), Distinct acc → Distinct (found.foldl addVersion acc)
  | [], _, h => h
  | v :: found, acc, h => distinct_foldl_addVersion found (addVersion acc v) (h.addVersion v)

/-! ## Sorting -/

theorem mem_of_mem_arrange {found : List Parts} {p : Parts} (h : p ∈ arrange found) :
    p ∈ found := by
  rcases mem_foldl_addVersion found [] (List.mem_mergeSort.mp h) with h | h
  · cases h
  · exact h

theorem exists_mem_arrange {found : List Parts} {p : Parts} (h : p ∈ found) :
    ∃ q ∈ arrange found, q = p ∨ q.beq p = true := by
  obtain ⟨q, hq, hqp⟩ := exists_foldl_addVersion found [] h
  exact ⟨q, List.mem_mergeSort.mpr hq, hqp⟩

/-- Sorting doubles that are numbers by `≤` orders their places: on them `≤` is the order of
the integers. -/
theorem pairwise_place_mergeSort {vs : List Parts} (h : ∀ p ∈ vs, p.isNaN = false) :
    (vs.mergeSort Parts.le).Pairwise fun a b => a.place ≤ b.place := by
  have hmap : (vs.mergeSort Parts.le).map Parts.place =
      (vs.map Parts.place).mergeSort fun a b => decide (a ≤ b) :=
    List.map_mergeSort fun a ha b hb => by simp [Parts.le, h a ha, h b hb]
  have hsorted := @List.pairwise_mergeSort Int (fun a b => decide (a ≤ b))
    (fun a b c hab hbc => by simp only [decide_eq_true_eq] at hab hbc ⊢; omega)
    (fun a b => by simp only [Bool.or_eq_true, decide_eq_true_eq]; omega) (vs.map Parts.place)
  rw [← hmap, List.pairwise_map] at hsorted
  simpa using hsorted

/-- **Versions that are numbers, kept once and sorted, are strictly increasing.** -/
theorem arrange_strictly_increasing {found : List Parts} (h : ∀ p ∈ found, p.isNaN = false) :
    (arrange found).Pairwise fun a b => a.lt b = true := by
  have hnan : ∀ p ∈ arrange found, p.isNaN = false := fun p hp => h p (mem_of_mem_arrange hp)
  -- sorting permutes the versions kept once, so they stay pairwise unequal
  have hdistinct : Distinct (arrange found) :=
    (List.mergeSort_perm _ _).symm.pairwise (distinct_foldl_addVersion found [] List.Pairwise.nil)
      fun hab => by rwa [Parts.beq_comm]
  have hsorted := pairwise_place_mergeSort fun p hp =>
    hnan p (List.mem_mergeSort.mpr hp)
  exact (hsorted.and hdistinct).imp_of_mem fun ha hb hab =>
    Parts.lt_of_place_le (hnan _ ha) (hnan _ hb) hab.1 hab.2

/-! ## Keys -/

open Pattern

/-- The number of a key: digits, then possibly a point and more digits. -/
def keyNumber : Pattern :=
  .seq (.many .digit 1 true) (.opt (.seq (lit ".") (.many .digit 1 true)))

theorem keyPattern_eq :
    keyPattern = .seq (.opt (.one CharClass.quotes))
      (.seq (.group 1 keyNumber) (.seq (.opt (.one CharClass.quotes)) (.seq blanks (lit ":")))) :=
  rfl

/-- Code points that are digits are the characters of a digit text. -/
theorem chars_of_digits : ∀ {u : Text}, (∀ x ∈ u, CharClass.digit.test x = true) →
    ∃ cs : List Char, u = cs.map Point.char ∧ ∀ c ∈ cs, Text.isDigit c = true
  | [], _ => ⟨[], rfl, by simp⟩
  | x :: u, h => by
    obtain ⟨cs, rfl, hcs⟩ := chars_of_digits fun y hy => h y (List.mem_cons_of_mem x hy)
    cases x with
    | char c => exact ⟨c :: cs, rfl, List.forall_mem_cons.mpr ⟨h _ List.mem_cons_self, hcs⟩⟩
    | surrogate n => exact absurd (h _ List.mem_cons_self) (by simp [CharClass.test, Point.isDigit])

/-- A text a key's number takes reads as a positive decimal. -/
theorem readParts?_of_takes {w : Text} (h : keyNumber.Takes w) :
    ∃ m t, Decimal.readParts? w = some (decimalParts false m t) := by
  cases h with
  | seq hwhole hrest =>
    cases hwhole with
    | many hdig hlen =>
      obtain ⟨ws, rfl, hws⟩ := chars_of_digits hdig
      have hne : ws ≠ [] := by
        rintro rfl
        simp at hlen
      cases hrest with
      | optNone => exact ⟨_, _, by simpa using Decimal.readParts?_digits hws hne⟩
      | optSome hfrac =>
        cases hfrac with
        | seq hpoint hdigits =>
          cases hpoint
          cases hdigits with
          | many hdig' hlen' =>
            obtain ⟨fs, rfl, hfs⟩ := chars_of_digits hdig'
            have hfne : fs ≠ [] := by
              rintro rfl
              simp at hlen'
            have htext : ws.map Point.char ++ (Text.ofString "." ++ fs.map Point.char) =
                (ws ++ '.' :: fs).map Point.char := by
              simp [Text.ofString]
            exact ⟨_, _, htext ▸ Decimal.readParts?_pointed hws hne hfs hfne⟩

/-- Every key of a source reads as a positive decimal. -/
theorem readParts?_of_mem_keysOf {content k : Text} (hk : k ∈ keysOf content) :
    ∃ m t, Decimal.readParts? k = some (decimalParts false m t) := by
  unfold keysOf at hk
  split at hk
  · cases hk
  · obtain ⟨m, hm, rfl⟩ := List.mem_map.mp hk
    rw [keyPattern_eq] at hm
    -- the group sits between an optional quote and the rest of the key, all plain patterns
    refine readParts?_of_takes (takes_groupD_of_mem_findAll ?_ ?_ ?_ hm)
    · trivial
    · exact ⟨trivial, trivial, trivial⟩
    · exact ⟨trivial, trivial, trivial⟩

/-- What a key reads as: a valid positive double that is a number. -/
theorem read_of_mem_keysOf {content k : Text} {p : Parts} (hk : k ∈ keysOf content)
    (hp : Decimal.readParts? k = some p) : p.Valid ∧ p.isNaN = false ∧ p.negative = false := by
  obtain ⟨m, t, hread⟩ := readParts?_of_mem_keysOf hk
  obtain rfl := Option.some.inj (hp.symm.trans hread)
  exact ⟨decimalParts_valid _ _ _, decimalParts_isNaN _ _ _, rfl⟩

/-! ## The versions -/

/-- The versions' fields are exactly those the keys read as. -/
theorem mem_fieldsOf {content : Text} {p : Parts} :
    p ∈ fieldsOf content ↔ ∃ k ∈ keysOf content, Decimal.readParts? k = some p := by
  constructor
  · intro hp
    exact List.mem_filterMap.mp (mem_of_mem_arrange hp)
  · rintro ⟨k, hk, hread⟩
    obtain ⟨q, hq, hqp⟩ := exists_mem_arrange (List.mem_filterMap.mpr ⟨k, hk, hread⟩)
    rcases hqp with rfl | hbeq
    · exact hq
    · -- a version equal to it by `==` was kept: both are valid and positive, so they are one
      obtain ⟨k', hk', hread'⟩ := List.mem_filterMap.mp (mem_of_mem_arrange hq)
      obtain ⟨hqv, -, hqs⟩ := read_of_mem_keysOf hk' hread'
      obtain ⟨hpv, -, hps⟩ := read_of_mem_keysOf hk hread
      rwa [Parts.eq_of_beq hqv hpv (hqs.trans hps.symm) hbeq] at hq

/-- **The versions of a source are strictly increasing.** They are the doubles of a list of
fields that is strictly increasing by `<` between doubles, whose fields are valid, positive and no
not-a-number; a version is exactly a double some key reads as. Every key is read, and so is
every text of decimal digits of any script. -/
theorem versions_strictly_increasing (content : Text) :
    (∃ ps : List Parts, ofContent content = ps.map Parts.toFloat ∧
      ps.Pairwise (fun a b => a.lt b = true) ∧
      ∀ p ∈ ps, p.Valid ∧ p.isNaN = false ∧ p.negative = false) ∧
    (∀ x, x ∈ ofContent content ↔ ∃ k ∈ keysOf content, Decimal.readFloat? k = some x) ∧
    (∀ k ∈ keysOf content, (Decimal.readFloat? k).isSome) ∧
    ∀ ws : List Char, ws ≠ [] → (∀ c ∈ ws, Text.isDigit c = true) →
      (Decimal.readFloat? (ws.map Point.char)).isSome := by
  have hfields : ∀ p ∈ fieldsOf content, p.Valid ∧ p.isNaN = false ∧ p.negative = false := by
    intro p hp
    obtain ⟨k, hk, hread⟩ := mem_fieldsOf.mp hp
    exact read_of_mem_keysOf hk hread
  refine ⟨⟨fieldsOf content, rfl, arrange_strictly_increasing fun p hp => ?_, hfields⟩,
    fun x => ?_, fun k hk => ?_, fun ws hne hws => ?_⟩
  · obtain ⟨k, hk, hread⟩ := List.mem_filterMap.mp hp
    exact (read_of_mem_keysOf hk hread).2.1
  · simp only [ofContent, List.mem_map, mem_fieldsOf, Decimal.readFloat?, Option.map_eq_some_iff]
    constructor
    · rintro ⟨p, ⟨k, hk, hread⟩, rfl⟩
      exact ⟨k, hk, p, hread, rfl⟩
    · rintro ⟨k, hk, p, hread, rfl⟩
      exact ⟨p, ⟨k, hk, hread⟩, rfl⟩
  · obtain ⟨m, t, hread⟩ := readParts?_of_mem_keysOf hk
    simp [Decimal.readFloat?, hread]
  · simp [Decimal.readFloat?, Decimal.readParts?_digits hws hne]

/-- The keys `2`, `1.0`, `'1'` and `01` are taken as written, the quotes left out, and each
reads as a double; so does a number written in Devanagari digits. -/
theorem versions_keys_read :
    keysOf (Text.ofString "const nodeVersions = \x7b 2: a, 1.0: b, '1': c, 01: d \x7d;") =
        [Text.ofString "2", Text.ofString "1.0", Text.ofString "1", Text.ofString "01"] ∧
      (Decimal.readFloat? (Text.ofString "01")).isSome ∧
      (Decimal.readFloat? (Text.ofString "१२")).isSome := by
  have hkeys : keysOf (Text.ofString "const nodeVersions = \x7b 2: a, 1.0: b, '1': c, 01: d \x7d;") =
      [Text.ofString "2", Text.ofString "1.0", Text.ofString "1", Text.ofString "01"] := by
    decide +kernel
  refine ⟨hkeys, (versions_strictly_increasing _).2.2.1 _ (by rw [hkeys]; decide), ?_⟩
  have hdigits : ['१', '२'].all Text.isDigit = true := by decide
  exact (versions_strictly_increasing []).2.2.2 ['१', '२'] (by decide) (List.all_eq_true.mp hdigits)

end Versions

end NodeCatalog
