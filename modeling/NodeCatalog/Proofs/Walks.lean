import NodeCatalog.Proofs.PathParts
/-!
# What a walk meets

A walk lists a directory, then walks each of its subdirectories, naming each directory met by
joining a name to the path of the one above it. In a tree whose stored names are names of files
(`FileTree.WellNamed`: not empty, not `.` or `..`, without `/`), as every tree a snapshot describes,
each directory a walk from a proper path meets is named by that path with names appended, and the
files it lists have such names too. That is the invariant one step of the walk keeps
(`FileTree.walkFrom_paths`), and it says how the texts a walk gives are cut again. The walks are the
`os.walk` of `run_doc_extraction` (`src/tools/extract_docs.py`, line 95) and of `get_nodes_metadata`
(`src/tools/fetch_all_nodes.py`, line 76).

- `FileTree.WellNamed`: trees whose stored names are names of files.
- `FileTree.nameOk_of_mem_children`: every name a directory lists in such a tree is one.
- `FileTree.walk_paths`: **the directories a walk from a proper path meets are that path with
  names appended, and list files with proper names.**
-/

namespace NodeCatalog

namespace FileTree

open NodeCatalog.Path (NameOk)

variable {t : FileTree}

/-- The paths a tree stores: its files and directories below the working directory, and the
locations of what was made outside it. -/
def stored (t : FileTree) : List (List Text) :=
  t.files.map (·.1) ++ t.dirs ++ t.outer.map (·.1)

/-- A tree whose stored paths are made of names a walk may meet, as the trees snapshots give. -/
def WellNamed (t : FileTree) : Prop :=
  ∀ p ∈ t.stored, ∀ n ∈ p, NameOk n

instance : DecidablePred WellNamed := fun t =>
  inferInstanceAs (Decidable (∀ p ∈ t.stored, ∀ n ∈ p, NameOk n))

/-- A name in a sorted list of names after inserting one is the one inserted or was there. -/
theorem mem_insertName {n m : Text} {acc : List Text} (h : n ∈ insertName m acc) :
    n = m ∨ n ∈ acc := by
  induction acc with
  | nil => simpa [insertName] using h
  | cons a as ih =>
    simp only [insertName] at h
    split_ifs at h with h₁ h₂
    · exact .inr h
    · simpa [or_left_comm] using h
    · rcases List.mem_cons.mp h with h | h
      · exact .inr (by simp [h])
      · rcases ih h with h | h
        · exact .inl h
        · exact .inr (List.mem_cons_of_mem a h)

/-- A name in names inserted one by one was there before or was inserted. -/
theorem mem_of_mem_foldl_insertName {n : Text} {xs acc : List Text}
    (h : n ∈ xs.foldl (fun acc m => insertName m acc) acc) : n ∈ acc ∨ n ∈ xs := by
  induction xs generalizing acc with
  | nil => exact .inl h
  | cons x xs ih =>
    rcases ih h with h | h
    · rcases mem_insertName h with rfl | h
      · exact .inr (by simp)
      · exact .inl h
    · exact .inr (List.mem_cons_of_mem x h)

/-- Inserting a name in code-point order adds it to the names. -/
theorem perm_insertByCode (n : Text) (l : List Text) : (insertByCode n l).Perm (n :: l) := by
  induction l with
  | nil => exact .refl _
  | cons m ms ih =>
    simp only [insertByCode]
    split
    · exact .refl _
    · exact (ih.cons m).trans (.swap n m ms)

/-- Sorting names leaves none out and adds none. -/
theorem perm_sortNames (l : List Text) : (sortNames l).Perm l := by
  induction l with
  | nil => exact .refl _
  | cons n ns ih => exact (perm_insertByCode n (sortNames ns)).trans (ih.cons n)

theorem mem_sortNames {l : List Text} {n : Text} : n ∈ sortNames l ↔ n ∈ l :=
  (perm_sortNames l).mem_iff

/-! ## What a location lists -/

/-- The names a location lists, among its files or its directories, are the names it holds:
listing orders them and leaves none out. -/
theorem mem_children_iff {loc : List Text} {n : Text} :
    (n ∈ (t.children loc).1 ∨ n ∈ (t.children loc).2) ↔ n ∈ t.namesAt loc := by
  rw [← (t.listing.perm loc (t.namesAt loc)).mem_iff]
  simp only [children, entries, List.mem_filter]
  cases t.kindAt (loc ++ [n]) == some .file <;> simp

/-- A name a location holds is the one that follows it on the way to a location the tree knows
of. -/
theorem mem_namesAt {loc : List Text} {n : Text} (h : n ∈ t.namesAt loc) :
    ∃ q ∈ t.known, childOf loc q = some n :=
  List.mem_filterMap.mp ((mem_of_mem_foldl_insertName h).resolve_left List.not_mem_nil)

/-- The name that follows a location on the way to another is one of the other's names. -/
theorem mem_of_childOf {loc q : List Text} {n : Text} (h : childOf loc q = some n) : n ∈ q := by
  unfold childOf at h
  split at h
  · exact List.mem_of_getElem? h
  · cases h

/-- A property of the names of the system's paths, of the way to the working directory and of
the tree's stored paths holds of every name of every location the tree knows of. -/
theorem forall_known {P : Text → Prop}
    (hsystem : ∀ s ∈ systemFiles ++ systemDirs, ∀ n ∈ systemParts s, P n)
    (hhome : ∀ n ∈ home, P n) (hstored : ∀ p ∈ t.stored, ∀ n ∈ p, P n) :
    ∀ q ∈ t.known, ∀ n ∈ q, P n := by
  intro q hq n hn
  unfold known at hq
  -- a system path, the working directory, a location made outside it, or a stored path below it
  rcases List.mem_append.mp hq with hq | hq
  · rcases List.mem_append.mp hq with hq | hq
    · obtain ⟨s, hs, rfl⟩ := List.mem_map.mp hq
      exact hsystem s hs n hn
    · rcases List.mem_cons.mp hq with rfl | hq
      · exact hhome n hn
      · exact hstored q (List.mem_append_right _ hq) n hn
  · obtain ⟨p, hp, rfl⟩ := List.mem_map.mp hq
    rcases List.mem_append.mp hn with hn | hn
    · exact hhome n hn
    · exact hstored p (List.mem_append_left _ hp) n hn

/-- A property of every name of every location the tree knows of holds of every name a
location lists. -/
theorem forall_children {P : Text → Prop} (hknown : ∀ q ∈ t.known, ∀ n ∈ q, P n)
    (loc : List Text) {n : Text} (hn : n ∈ (t.children loc).1 ∨ n ∈ (t.children loc).2) :
    P n := by
  obtain ⟨q, hq, hqn⟩ := mem_namesAt (mem_children_iff.mp hn)
  exact hknown q hq n (mem_of_childOf hqn)

/-- The names of the system's files and directories are names of files. -/
theorem nameOk_system : ∀ s ∈ systemFiles ++ systemDirs, ∀ n ∈ systemParts s, NameOk n := by
  decide +kernel

/-- So are the names on the way to the working directory. -/
theorem nameOk_home : ∀ n ∈ home, NameOk n := by
  decide +kernel

/-- Every name a location holds, in a well-named tree, is a name a walk may meet. -/
theorem nameOk_of_mem_children (ht : t.WellNamed) (loc : List Text) {n : Text}
    (hn : n ∈ (t.children loc).1 ∨ n ∈ (t.children loc).2) : NameOk n :=
  forall_children (forall_known nameOk_system nameOk_home ht) loc hn

/-- The directories a walk from a proper path meets are that path with names appended, and the
files they list have proper names: what each step of the walk keeps. -/
theorem walkFrom_paths (ht : t.WellNamed) {p : Path} (hp : p.Proper) :
    ∀ (fuel : Nat) (loc ds : List Text), (∀ d ∈ ds, NameOk d) →
      ∀ v ∈ t.walkFrom fuel (Path.toText ⟨p.root, p.parts ++ ds⟩) loc,
        ∃ ds', (∀ d ∈ ds', NameOk d) ∧ v.path = Path.toText ⟨p.root, p.parts ++ ds'⟩ ∧
          ∀ f ∈ v.files, NameOk f
  | 0, _, _, _, v, hv => by simp [walkFrom] at hv
  | fuel + 1, loc, ds, hds, v, hv => by
    simp only [walkFrom, List.mem_cons, List.mem_flatMap] at hv
    rcases hv with rfl | ⟨d, hd, hv⟩
    · exact ⟨ds, hds, rfl, fun f hf => nameOk_of_mem_children ht loc (.inl hf)⟩
    · -- a subdirectory: its path is one more name appended
      have hdok := nameOk_of_mem_children ht loc (.inr hd)
      rw [(Path.joins_toText_append hp hds hdok).1] at hv
      refine walkFrom_paths ht hp fuel (loc ++ [d]) (ds ++ [d]) (fun q hq => ?_) v hv
      rcases List.mem_append.mp hq with hq | hq
      · exact hds q hq
      · rw [List.mem_singleton.mp hq]
        exact hdok

/-- The directories a walk from a proper path meets, in a well-named tree, are that path with
names appended, and the files they list have proper names. -/
theorem walk_paths (ht : t.WellNamed) {p : Path} (hp : p.Proper) {visits : List Visit}
    (h : t.walk p.toText = .ok visits) :
    ∀ v ∈ visits, ∃ ds, (∀ d ∈ ds, NameOk d) ∧
      v.path = Path.toText ⟨p.root, p.parts ++ ds⟩ ∧ ∀ f ∈ v.files, NameOk f := by
  intro v hv
  simp only [walk, bind, Except.bind] at h
  split at h
  · cases h
  split at h
  · have hstart : p.toText = Path.toText ⟨p.root, p.parts ++ []⟩ := by simp
    cases h
    rw [hstart] at hv
    exact walkFrom_paths ht hp _ _ [] (by simp) v hv
  · cases h
    cases hv

end FileTree

end NodeCatalog
