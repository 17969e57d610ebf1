import NodeCatalog.Node.Schema
import NodeCatalog.Proofs.Outcome
import Mathlib.Data.List.Nodup
/-!
# Names of node properties

Every property that a node source gives records a non-empty name: a property block is kept only when
its own name is not empty, and the fallback lists only non-empty quoted names. Whether the names are
also pairwise distinct depends on the blocks. The step over property blocks checks a block by its
*first quoted name*, the text between the first pair of quotes after `name:`, but remembers the name
the block's property records, which runs from a quote to the *same* quote. The two differ when a
name holds the other quote (`name: 'it"s'` is checked as `it` and recorded as `it"s`), and then a
second such block passes the check and repeats the name. The step is
`extract_properties_from_content` (`src/tools/extract_schemas.py`, lines 125–144).

- `Property.names`, `Property.Named`: the names a list of properties records, and that each of
  them records a non-empty one.
- `Property.checksOwnName`: a block is checked by the name its property records.
- `Property.collect_named`, `Property.collect_nodup`: what the step over blocks keeps, by
  induction over the blocks with the names remembered as the invariant.
- `Property.names_distinct_of_checksOwnName`: **every property of a source, and of a node's
  schema, has a non-empty name, and the names are pairwise distinct when every block is checked by
  the name it records.**
-/

namespace NodeCatalog

namespace Property

/-- The names the properties of a list record, in order. -/
def names (ps : List Property) : List Text :=
  ps.filterMap (·.name)

/-- Every property of a list records a name, and none of these names is empty. -/
def Named (ps : List Property) : Prop :=
  ∀ p ∈ ps, ∃ n, p.name = some n ∧ n ≠ []

/-- Whether a block is checked by the name its property records: when the block has a first
quoted name and its property records a non-empty name, the two are the same text. -/
def checksOwnName (block : Text) : Bool :=
  match firstNamePattern.search block, ofBlock block with
  | some nm, .ok (some p) =>
    match p.name with
    | some n => n.isEmpty || n == nm.groupD 1
    | none => true
  | _, _ => true

@[simp] theorem names_nil : names [] = [] := rfl

theorem names_cons_of_name {p : Property} {n : Text} (ps : List Property) (h : p.name = some n) :
    names (p :: ps) = n :: names ps := by
  simp [names, h]

theorem names_reverse (ps : List Property) : names ps.reverse = (names ps).reverse := by
  simp [names, List.filterMap_reverse]

theorem named_reverse {ps : List Property} (h : Named ps) : Named ps.reverse :=
  fun p hp => h p (List.mem_reverse.mp hp)

theorem names_map_bare (ns : List Text) : names (ns.map bare) = ns := by
  induction ns with
  | nil => rfl
  | cons n ns ih => rw [List.map_cons, names_cons_of_name _ rfl, ih]

theorem eq_of_checksOwnName {block : Text} {nm : Match} {p : Property} {n : Text}
    (hcheck : checksOwnName block = true) (hnm : firstNamePattern.search block = some nm)
    (hp : ofBlock block = .ok (some p)) (hn : p.name = some n) (hne : n ≠ []) :
    n = nm.groupD 1 := by
  simp only [checksOwnName, hnm, hp, hn, Bool.or_eq_true, beq_iff_eq,
    List.isEmpty_iff] at hcheck
  exact hcheck.resolve_left hne

/-! ## The step over property blocks -/

/-- What one block does to the step over property blocks: it is passed over, or its property is
kept, the block's first quoted name not being remembered yet and the property's own name not
being empty; that name is then remembered. -/
theorem collect_cons_ok {seen : List Text} {acc : List Property} {m : Match} {ms : List Match}
    {ps : List Property} (h : collect seen acc (m :: ms) = .ok ps) :
    collect seen acc ms = .ok ps ∨
      ∃ nm p n, firstNamePattern.search m.text = some nm ∧ nm.groupD 1 ∉ seen ∧
        ofBlock m.text = .ok (some p) ∧ p.name = some n ∧ n ≠ [] ∧
        collect (n :: seen) (p :: acc) ms = .ok ps := by
  simp only [collect] at h
  split at h
  · exact .inl h
  · rename_i nm hnm
    split at h
    · exact .inl h
    · rename_i hcheck
      have hnew : nm.groupD 1 ∉ seen := by
        intro hmem
        exact hcheck (by simp [hmem])
      split at h
      · cases h
      · rename_i p hp
        split at h
        · rename_i n hn
          split at h
          · exact .inl h
          · rename_i hne
            exact .inr ⟨nm, p, n, hnm, hnew, hp, hn, fun h' => hne (by simp [h']), h⟩
        · exact .inl h
      · exact .inl h

/-- Every property the step keeps records a non-empty name. -/
theorem collect_named {seen : List Text} {acc : List Property} {ms : List Match}
    {ps : List Property} (h : collect seen acc ms = .ok ps) (hacc : Named acc) : Named ps := by
  induction ms generalizing seen acc with
  | nil =>
    cases h
    exact named_reverse hacc
  | cons m ms ih =>
    rcases collect_cons_ok h with h | ⟨nm, p, n, -, -, -, hn, hne, h⟩
    · exact ih h hacc
    · refine ih h fun q hq => ?_
      rcases List.mem_cons.mp hq with rfl | hq
      · exact ⟨n, hn, hne⟩
      · exact hacc q hq

/-- The names the step keeps are pairwise distinct when every block it meets is checked by the
name it records. The invariant: the remembered names are the names kept so far, and these are
distinct. -/
theorem collect_nodup {seen : List Text} {acc : List Property} {ms : List Match}
    {ps : List Property} (h : collect seen acc ms = .ok ps) (hseen : seen = names acc)
    (hacc : (names acc).Nodup) (hcheck : ∀ m ∈ ms, checksOwnName m.text = true) :
    (names ps).Nodup := by
  induction ms generalizing seen acc with
  | nil =>
    cases h
    rw [names_reverse]
    exact List.nodup_reverse.mpr hacc
  | cons m ms ih =>
    have hrest : ∀ m ∈ ms, checksOwnName m.text = true :=
      fun m' hm' => hcheck m' (List.mem_cons_of_mem _ hm')
    rcases collect_cons_ok h with h | ⟨nm, p, n, hnm, hnew, hp, hn, hne, h⟩
    · exact ih h hseen hacc hrest
    · -- the kept name is the checked one, which is not among the names kept so far
      have hfirst : n = nm.groupD 1 :=
        eq_of_checksOwnName (hcheck m (List.mem_cons_self ..)) hnm hp hn hne
      have hfresh : n ∉ names acc := by
        rw [hfirst, ← hseen]
        exact hnew
      refine ih h (by rw [hseen, names_cons_of_name _ hn]) ?_ hrest
      rw [names_cons_of_name _ hn]
      exact List.nodup_cons.mpr ⟨hfresh, hacc⟩

/-- The fallback lists each quoted name once: its names are distinct, not empty, and not among
those remembered before. -/
theorem bareNames_spec (seen : List Text) (ms : List Match) :
    (bareNames seen ms).Nodup ∧ ∀ n ∈ bareNames seen ms, n ≠ [] ∧ n ∉ seen := by
  induction ms generalizing seen with
  | nil => simp [bareNames]
  | cons m ms ih =>
    simp only [bareNames]
    split
    · exact ih seen
    · rename_i hskip
      have hne : m.groupD 2 ≠ [] := fun h => hskip (by simp [h])
      have hnew : m.groupD 2 ∉ seen := fun h => hskip (by simp [h])
      obtain ⟨hnd, hrest⟩ := ih (m.groupD 2 :: seen)
      refine ⟨List.nodup_cons.mpr ⟨fun h => (hrest _ h).2 (List.mem_cons_self ..), hnd⟩, ?_⟩
      intro n hn
      rcases List.mem_cons.mp hn with rfl | hn
      · exact ⟨hne, hnew⟩
      · exact ⟨(hrest n hn).1, fun h => (hrest n hn).2 (List.mem_cons_of_mem _ h)⟩

/-! ## The properties of a source and of a schema -/

/-- The properties of a source are those the step over blocks keeps, or the fallback's when it
keeps none. -/
theorem ofContent_ok {content : Text} {ps : List Property} (h : ofContent content = .ok ps) :
    ∃ kept, collect [] [] (blockPattern.findAll content) = .ok kept ∧
      ps = if kept.isEmpty then (bareNames [] (anyNamePattern.findAll content)).map bare
        else kept := by
  simp only [ofContent] at h
  obtain ⟨kept, hkept, h⟩ := Except.bind_eq_ok.mp h
  refine ⟨kept, hkept, ?_⟩
  split at h <;> (cases h; simp_all)

/-- Every property of a source records a non-empty name. -/
theorem ofContent_named {content : Text} {ps : List Property} (h : ofContent content = .ok ps) :
    Named ps := by
  obtain ⟨kept, hkept, rfl⟩ := ofContent_ok h
  split
  · intro p hp
    obtain ⟨n, hn, rfl⟩ := List.mem_map.mp hp
    exact ⟨n, rfl, ((bareNames_spec [] _).2 n hn).1⟩
  · exact collect_named hkept fun _ h => nomatch h

/-- The properties of a source have distinct names when every property block of the source is
checked by the name it records. -/
theorem ofContent_nodup {content : Text} {ps : List Property} (h : ofContent content = .ok ps)
    (hcheck : ∀ m ∈ blockPattern.findAll content, checksOwnName m.text = true) :
    (names ps).Nodup := by
  obtain ⟨kept, hkept, rfl⟩ := ofContent_ok h
  split
  · rw [names_map_bare]
    exact (bareNames_spec [] _).1
  · exact collect_nodup hkept rfl List.nodup_nil hcheck

end Property

namespace Schema

/-- The properties of a node's schema are those of its source followed by the version files it
imports, or the placeholder when there are none. -/
theorem properties_of_extract {t : FileTree} {file : Text} {s : Schema}
    (h : extract t file = .ok s) :
    ∃ c ps, combined t file ((t.readText file).toOption.getD []) = .ok c ∧
      Property.ofContent c = .ok ps ∧
      s.properties = if ps.isEmpty then [placeholder] else ps := by
  simp only [extract] at h
  obtain ⟨c, hc, h⟩ := Except.bind_eq_ok.mp h
  obtain ⟨ps, hps, h⟩ := Except.bind_eq_ok.mp h
  cases h
  exact ⟨c, ps, hc, hps, rfl⟩

end Schema

namespace Property

/-- **Property names.** Every property a source gives records a non-empty name, and the names
are pairwise distinct when every property block is checked by the name it records. So every
schema has at least one property, all with non-empty names, distinct under the same condition on
the source followed by its imported version files. -/
theorem names_distinct_of_checksOwnName (content : Text) (t : FileTree) (file : Text) :
    (∀ ps, ofContent content = .ok ps →
      Named ps ∧
        ((∀ m ∈ blockPattern.findAll content, checksOwnName m.text = true) →
          (names ps).Nodup)) ∧
    (∀ s, Schema.extract t file = .ok s →
      s.properties ≠ [] ∧ Named s.properties ∧
        ∀ c, Schema.combined t file ((t.readText file).toOption.getD []) = .ok c →
          (∀ m ∈ blockPattern.findAll c, checksOwnName m.text = true) →
          (names s.properties).Nodup) := by
  refine ⟨fun ps h => ⟨ofContent_named h, ofContent_nodup h⟩, ?_⟩
  intro s h
  obtain ⟨c, ps, hc, hps, hprops⟩ := Schema.properties_of_extract h
  rw [hprops]
  split
  · refine ⟨by simp, ?_, fun _ _ _ => by simp [names, Schema.placeholder]⟩
    intro p hp
    rw [List.mem_singleton.mp hp]
    exact ⟨_, rfl, by decide⟩
  · refine ⟨by simp_all, ofContent_named hps, ?_⟩
    intro c' hc' hcheck
    rw [hc'] at hc
    cases hc
    exact ofContent_nodup hps hcheck

/-- Two property blocks, each checked by the name it records, give two properties with distinct
non-empty names, in a source and in the schema of a node whose file holds that source. -/
theorem names_distinct_of_two_blocks :
    (∃ ps, ofContent
        "\x7bdisplayName: 'A', name: 'a'\x7d \x7bdisplayName: 'B', name: 'b'\x7d" = .ok ps ∧
      Named ps ∧ (names ps).Nodup) ∧
    (∃ s, Schema.extract
        { files := [(["A.node.ts"],
          Utf8.encode "\x7bdisplayName: 'A', name: 'a'\x7d \x7bdisplayName: 'B', name: 'b'\x7d")] }
        "A.node.ts" = .ok s ∧
      s.properties ≠ [] ∧ Named s.properties ∧ (names s.properties).Nodup) := by
  constructor
  · have hok : (ofContent
        "\x7bdisplayName: 'A', name: 'a'\x7d \x7bdisplayName: 'B', name: 'b'\x7d").isOk = true := by
      decide +kernel
    obtain ⟨ps, h⟩ := Except.exists_ok_of_isOk hok
    have hspec := (names_distinct_of_checksOwnName _ {} "A.node.ts").1 ps h
    exact ⟨ps, h, hspec.1, hspec.2 (by decide +kernel)⟩
  · have hok : (Schema.extract
        { files := [(["A.node.ts"],
          Utf8.encode "\x7bdisplayName: 'A', name: 'a'\x7d \x7bdisplayName: 'B', name: 'b'\x7d")] }
        "A.node.ts").isOk = true := by
      decide +kernel
    obtain ⟨s, h⟩ := Except.exists_ok_of_isOk hok
    have hspec := (names_distinct_of_checksOwnName "" _ _).2 s h
    refine ⟨s, h, hspec.1, hspec.2.1,
      hspec.2.2 "\x7bdisplayName: 'A', name: 'a'\x7d \x7bdisplayName: 'B', name: 'b'\x7d" ?_
        (by decide +kernel)⟩
    -- the file reads back as the source, which imports nothing
    exact Except.eq_ok_of_toOption (by decide +kernel)

-- A name holding the other quote is checked as the text before that quote, so a second block
-- with the same name passes the check and the name is listed twice.
example :
    (ofContent
        "\x7bdisplayName: 'D', name: 'it\"s'\x7d \x7bdisplayName: 'D', name: 'it\"s'\x7d"
      ).toOption.map names = some [Text.ofString "it\"s", Text.ofString "it\"s"] := by
  decide +kernel

end Property

end NodeCatalog
