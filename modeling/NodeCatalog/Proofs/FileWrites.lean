import NodeCatalog.Files.Tree
import NodeCatalog.Proofs.NameForm
import NodeCatalog.Proofs.Outcome
import Mathlib.Data.List.Infix
/-!
# Writing files

What a write does to the file tree, seen through the paths that name files: the
`open(path, 'w')` of the writers (`src/tools/extract_schemas.py`, line 225;
`src/tools/extract_docs.py`, lines 115 and 121) and the `mkdir(exist_ok=True)` of `main`
(`src/main.py`, line 26). A write finds a place for the file (the parts before the last lead
through directories, and the last part names no directory) and sets the file's bytes there,
below the working directory or outside it. The locations a walk reaches carry an invariant
(`FileTree.Reachable`): their names are in the form they are kept in, and every location above
them is a directory. From it, setting a file changes what one location names and holds and
nothing else, so every walk ends where it did, or stops at the new file where it stopped at
nothing before.

- `FileTree.locate`, `FileTree.fileAt`, `FileTree.kindOf`: where a path leads, the bytes of the
  file it names, and what it names.
- `FileTree.placeFor_eq_ok`: the steps of finding a place for a new file.
- `FileTree.write_places`: a write sets one location, the place found for the file.
- `FileTree.fileAt_write_self`: after a write the path names a file holding the bytes written.
- `FileTree.write_frame`: what a write leaves as it was.
- `FileTree.fileAt_write_of_locate_ne`: **a write changes no file that a path leading elsewhere
  names.**
- `FileTree.write_write`: writing a file twice leaves what the second write holds.
- `FileTree.makeDir_ok`: making a directory keeps one that is there, or adds it at the place found.
-/

namespace NodeCatalog

namespace FileTree

variable {t : FileTree} {ps : List Text} {bs : List UInt8}

/-! ## Setting a file -/

/-- Setting a file adds its key to the keys a test over keys can see. -/
theorem any_setFile (hform : ps.map Utf8.nameForm = ps) (p : List Text × List UInt8 → Bool)
    (hp : ∀ f : List Text × List UInt8, f.1 = ps → p f = p (ps, bs)) :
    (t.setFile ps bs).files.any p = (t.files.any p || p (ps, bs)) := by
  dsimp only [setFile]
  rw [hform]
  split
  · next hex =>
    -- the key is there already: its entry is replaced, and it already answered the test
    obtain ⟨f, hf, hfk⟩ := List.any_eq_true.mp hex
    have hpf : p f = p (ps, bs) := hp f (by simpa using hfk)
    have hsame : (t.files.any fun f => p (if (f.1 == ps) = true then (ps, bs) else f)) =
        t.files.any p := by
      refine List.any_congr rfl fun a => ?_
      split
      · next ha => exact (hp a (by simpa using ha)).symm
      · rfl
    have hany : t.files.any p = true ∨ p (ps, bs) = false := by
      cases hpb : p (ps, bs)
      · exact .inr rfl
      · exact .inl (List.any_eq_true.mpr ⟨f, hf, hpf.trans hpb⟩)
    rw [List.any_map, Function.comp_def, hsame]
    rcases hany with h | h <;> simp [h]
  · simp [List.any_append]

@[simp] theorem dirs_setFile : (t.setFile ps bs).dirs = t.dirs := by
  dsimp only [setFile]
  split <;> rfl

@[simp] theorem outerAt_setFile (l : List Text) : (t.setFile ps bs).outerAt l = t.outerAt l := by
  dsimp only [setFile, outerAt]
  split <;> rfl

/-- Setting a file whose directories are all there already makes its path a file and changes
nothing else a path below the working directory names. -/
theorem kindBelow_setFile (hform : ps.map Utf8.nameForm = ps) (hne : ps ≠ [])
    (habove : ∀ q, q <+: ps → q ≠ ps → t.kindBelow q = some .directory)
    (hnot : t.kindBelow ps ≠ some .directory) (q : List Text) :
    (t.setFile ps bs).kindBelow q = if q = ps then some .file else t.kindBelow q := by
  unfold kindBelow
  rw [any_setFile hform _ ?key, dirs_setFile, any_setFile hform _ ?below]
  case key | below => intro f hf; rw [hf]
  by_cases hq : q = ps
  · subst hq
    simp [hne]
  · by_cases hpre : q <+: ps
    · have ht := habove q hpre hq
      have hlt : q.length < ps.length :=
        Nat.lt_of_le_of_ne hpre.length_le fun h => hq (hpre.eq_of_length h)
      unfold kindBelow at ht
      split_ifs at ht ⊢ <;> simp_all
    · simp only [hq, if_false, Bool.or_eq_true, beq_iff_eq, Ne.symm hq, or_false,
        Bool.and_eq_true, List.isPrefixOf_iff_prefix, hpre, false_and]

/-- Looking a key up after setting a file finds the new entry for its key and what was there
before for every other key. -/
theorem find?_setFile (hform : ps.map Utf8.nameForm = ps) (q : List Text) :
    (t.setFile ps bs).files.find? (·.1 == q) =
      if q = ps then some (ps, bs) else t.files.find? (·.1 == q) := by
  dsimp only [setFile]
  rw [hform]
  split
  · next hex =>
    -- the entries keep their keys, and the one with this key now holds the new bytes
    have hkey : ∀ f : List Text × List UInt8,
        (if (f.1 == ps) = true then (ps, bs) else f).1 = f.1 := by
      intro f
      split <;> simp_all
    rw [List.find?_map]
    simp only [Function.comp_def, hkey]
    cases hf : t.files.find? (·.1 == q) with
    | none =>
      have hq : q ≠ ps := by
        rintro rfl
        obtain ⟨f, hmem, hfk⟩ := List.any_eq_true.mp hex
        exact List.find?_eq_none.mp hf f hmem hfk
      simp [hq]
    | some f =>
      have hfq : f.1 = q := by simpa using List.find?_some hf
      by_cases hq : q = ps <;> simp [hq, hfq]
  · next hno =>
    have hnone : t.files.find? (·.1 == ps) = none :=
      List.find?_eq_none.mpr fun f hf hfk => hno (List.any_eq_true.mpr ⟨f, hf, hfk⟩)
    rw [List.find?_append]
    by_cases hq : q = ps
    · subst hq
      simp [hnone]
    · simp [hq, Ne.symm hq]

/-- Setting a file whose key is there replaces the entries with that key. -/
theorem setFile_of_any (hform : ps.map Utf8.nameForm = ps)
    (h : t.files.any (·.1 == ps) = true) :
    t.setFile ps bs =
      { t with files := t.files.map fun f => if f.1 == ps then (ps, bs) else f } := by
  simp only [setFile, hform, h, if_true]

/-- Setting a file whose key is not there adds an entry. -/
theorem setFile_of_not_any (hform : ps.map Utf8.nameForm = ps)
    (h : ¬t.files.any (·.1 == ps) = true) :
    t.setFile ps bs = { t with files := t.files ++ [(ps, bs)] } := by
  simp only [setFile, hform, h, Bool.false_eq_true, if_false]

/-- Setting a file twice leaves what the second setting holds. -/
theorem setFile_setFile (hform : ps.map Utf8.nameForm = ps) (as : List UInt8) :
    (t.setFile ps as).setFile ps bs = t.setFile ps bs := by
  have hany : (t.setFile ps as).files.any (·.1 == ps) = true := by
    rw [any_setFile hform _ fun f hf => by rw [hf]]
    simp
  rw [setFile_of_any hform hany]
  by_cases hex : t.files.any (·.1 == ps) = true
  · rw [setFile_of_any hform hex, setFile_of_any hform hex]
    simp only [List.map_map, FileTree.mk.injEq, and_true]
    refine List.map_congr_left fun f _ => ?_
    by_cases hf : f.1 = ps <;> simp [hf]
  · rw [setFile_of_not_any hform hex, setFile_of_not_any hform hex]
    simp only [List.map_append, FileTree.mk.injEq, and_true]
    -- no entry had the key, so the replacement touches only the added one
    have hkeep : t.files.map (fun f => if (f.1 == ps) = true then (ps, bs) else f) = t.files := by
      refine (List.map_congr_left fun f hf => ?_).trans (List.map_id _)
      have hf' : (f.1 == ps) = false := by
        simpa using fun h => hex (List.any_eq_true.mpr ⟨f, hf, by simpa using h⟩)
      simp [hf']
    rw [hkeep]
    simp

/-! ## Locations a walk reaches -/

/-- A location a walk can reach: its names are in the form they are kept in, and every
location above it is a directory. -/
structure Reachable (t : FileTree) (loc : List Text) : Prop where
  named : ∀ p ∈ loc, Utf8.nameForm p = p
  above : ∀ l, l <+: loc → l ≠ loc → t.kindAt l = some .directory

theorem reachable_root : Reachable t [] where
  named := by simp
  above := by
    intro l hl hne
    exact absurd (List.prefix_nil.mp hl) hne

theorem reachable_home : Reachable t home where
  named := by decide +kernel
  above := by
    intro l hl hne
    have hshort : l.length < home.length :=
      Nat.lt_of_le_of_ne hl.length_le fun h => hne (hl.eq_of_length h)
    have hnot : home.isPrefixOf l = false := by
      rw [← Bool.not_eq_true, List.isPrefixOf_iff_prefix]
      intro h
      have := h.length_le
      omega
    simp [kindAt, hnot, List.isPrefixOf_iff_prefix.mpr hl]

theorem Reachable.child {loc : List Text} (h : Reachable t loc)
    (hdir : t.kindAt loc = some .directory) (p : Text) :
    Reachable t (loc ++ [Utf8.nameForm p]) where
  named := by
    intro q hq
    rcases List.mem_append.mp hq with hq | hq
    · exact h.named q hq
    · rw [List.mem_singleton.mp hq, Utf8.nameForm_nameForm]
  above := by
    intro l hl hne
    rcases List.prefix_concat_iff.mp hl with h' | h'
    · exact absurd h' hne
    · by_cases hl : l = loc
      · rw [hl, hdir]
      · exact h.above l h' hl

theorem Reachable.parent {loc : List Text} (h : Reachable t loc) : Reachable t loc.dropLast where
  named q hq := h.named q (List.dropLast_subset loc hq)
  above l hl hne := h.above l (hl.trans (List.dropLast_prefix loc)) fun he => by
    -- only the empty location lies above its own parent, and it is its own parent
    subst he
    have hlen := hl.length_le
    simp only [List.length_dropLast] at hlen
    have hnil : l = [] := List.length_eq_zero_iff.mp (by omega)
    subst hnil
    exact hne rfl

/-- The names below any point of a reachable location are kept as they are. -/
theorem Reachable.drop_named {loc : List Text} (hr : Reachable t loc) (n : Nat) :
    (loc.drop n).map Utf8.nameForm = loc.drop n :=
  (List.map_congr_left fun p hp => hr.named p (List.mem_of_mem_drop hp)).trans (List.map_id _)

/-- A walk from a reachable location ends at a reachable location. -/
theorem Reachable.walkParts {loc loc' : List Text} {ps : List Text} (h : Reachable t loc)
    (hw : t.walkParts loc ps = .ok loc') : Reachable t loc' := by
  induction ps generalizing loc with
  | nil =>
    simp only [FileTree.walkParts, Except.ok.injEq] at hw
    exact hw ▸ h
  | cons p rest ih =>
    simp only [FileTree.walkParts] at hw
    split at hw
    · next hdir =>
      split_ifs at hw
      · exact ih h hw
      · exact ih h.parent hw
      · exact ih (h.child hdir p) hw
    · simp at hw
    · simp at hw

/-- Walking parts one after the other: the second walk starts where the first ended. -/
theorem walkParts_append (loc : List Text) (ps qs : List Text) :
    t.walkParts loc (ps ++ qs) = t.walkParts loc ps >>= fun l => t.walkParts l qs := by
  induction ps generalizing loc with
  | nil => rfl
  | cons p rest ih =>
    simp only [List.cons_append, FileTree.walkParts]
    split
    · split_ifs
      · exact ih loc
      · exact ih loc.dropLast
      · rfl
      · exact ih _
    · rfl
    · rfl

/-- Walking an ordinary part goes through a directory, one step down. -/
theorem walkParts_cons_ok {loc l : List Text} {a : Text} {rest : List Text}
    (hdot : a ≠ Text.ofString ".") (hup : a ≠ Path.up) (h : t.walkParts loc (a :: rest) = .ok l) :
    t.kindAt loc = some .directory ∧ t.walkParts (loc ++ [Utf8.nameForm a]) rest = .ok l := by
  simp only [walkParts] at h
  split at h
  · next hdir =>
    rw [if_neg hdot, if_neg hup] at h
    split_ifs at h
    exact ⟨hdir, h⟩
  · cases h
  · cases h

/-! ## Finding a place for a new file -/

/-- A path text a resolution accepts: not empty, not too long, and its start, parts and
trailing slash. -/
theorem partsOf_eq_ok {s : Text} {r : List Text × List Text × Bool} (h : partsOf s = .ok r) :
    s ≠ [] ∧ Utf8.escapedLength s < pathMax ∧
      r = (if Path.startsAtRoot s then [] else home, (Text.splitOn Path.slash s).filter (· ≠ []),
        s.getLast? == some (.char '/')) := by
  simp only [partsOf] at h
  by_cases hem : s.isEmpty = true
  · simp only [hem, if_true] at h
    cases h
  · by_cases hlong : pathMax ≤ Utf8.escapedLength s
    · simp only [hem, hlong, if_true] at h
      cases h
    · simp only [hem, hlong, if_false] at h
      cases h
      refine ⟨by simpa using hem, by omega, ?_⟩
      simp

/-- Where a resolution starts: the root, or the working directory. -/
theorem partsOf_start {s : Text} {start parts : List Text} {dirOnly : Bool}
    (h : partsOf s = .ok (start, parts, dirOnly)) : start = [] ∨ start = home := by
  obtain ⟨-, -, hr⟩ := partsOf_eq_ok h
  simp only [Prod.mk.injEq] at hr
  rw [hr.1]
  split <;> simp

/-- The steps of finding a place for a new file: the path is accepted and does not end with
`/`, the parts before the last lead to a directory, and the last part leads from there to a
location where no directory is. -/
def PlaceSteps (t : FileTree) (s : Text) (loc : List Text) : Prop :=
  ∃ start parts last dir, partsOf s = .ok (start, parts, false) ∧ parts.getLast? = some last ∧
    t.walkParts start parts.dropLast = .ok dir ∧ t.kindAt dir = some .directory ∧
    t.walkParts dir [last] = .ok loc ∧ t.kindAt loc ≠ some .directory

/-- A place is found for a new file exactly when its steps succeed. -/
theorem placeFor_eq_ok {s : Text} {loc : List Text} :
    t.placeFor s = .ok loc ↔ PlaceSteps t s loc := by
  constructor
  · intro h
    simp only [placeFor] at h
    rcases hp : partsOf s with c | ⟨start, parts, dirOnly⟩
    · rw [hp] at h
      cases h
    rw [hp] at h
    simp only [bind, Except.bind] at h
    split at h
    · cases h
    next last hlast =>
    split at h
    · cases h
    next dir hdir =>
    split at h
    · next hkd =>
      split at h
      · cases h
      next l hl =>
      split at h
      · cases h
      next hkl =>
      split_ifs at h with hdo
      obtain rfl : l = loc := by cases h; rfl
      exact ⟨start, parts, last, dir, by rw [hp]; simpa using hdo, hlast, hdir, hkd, hl, hkl⟩
    · cases h
    · cases h
  · rintro ⟨start, parts, last, dir, hp, hlast, hdir, hkd, hl, hkl⟩
    simp only [placeFor, hp, bind, Except.bind, hlast, hdir, hkd, hl]
    rfl

/-- A place found for a new file: the path is accepted and does not end with `/`, its walk
ends there, a file or nothing is there, and the location is reachable. -/
theorem placeFor_ok {s : Text} {loc : List Text} (h : t.placeFor s = .ok loc) :
    ∃ start parts, partsOf s = .ok (start, parts, false) ∧ t.walkParts start parts = .ok loc ∧
      t.kindAt loc ≠ some .directory ∧ Reachable t loc := by
  obtain ⟨start, parts, last, dir, hp, hlast, hdir, -, hl, hkl⟩ := placeFor_eq_ok.mp h
  have hwalk : t.walkParts start parts = .ok loc := by
    rw [← List.dropLast_append_getLast? last hlast, walkParts_append, hdir]
    exact hl
  refine ⟨start, parts, hp, hwalk, hkl, ?_⟩
  rcases partsOf_start hp with rfl | rfl
  · exact reachable_root.walkParts hwalk
  · exact reachable_home.walkParts hwalk

/-- A write the file system accepts: the path's bytes are accepted, a place is found, and the
file is set there, below the working directory or outside it. -/
theorem write_ok {s : Text} {t' : FileTree} (h : t.write s bs = .ok t') :
    (∃ b, pathBytes s = .ok b) ∧ ∃ loc, t.placeFor s = .ok loc ∧
      t' = if home.isPrefixOf loc then t.setFile (loc.drop home.length) bs
        else t.setOuter loc (some bs) := by
  simp only [write, bind, Except.bind] at h
  rcases hb : pathBytes s with f | b
  · rw [hb] at h
    cases h
  · rw [hb] at h
    refine ⟨⟨b, rfl⟩, ?_⟩
    rcases hpl : t.placeFor s with c | loc
    · rw [hpl] at h
      cases h
    · rw [hpl] at h
      exact ⟨loc, rfl, by cases h; rfl⟩

/-! ## What a location names and holds after setting a file -/

/-- Below the working directory the tree decides what a location names. -/
@[simp] theorem kindAt_home_append (q : List Text) : t.kindAt (home ++ q) = t.kindBelow q := by
  simp [kindAt, List.isPrefixOf_iff_prefix]

/-- After a file is set at a reachable location below the working directory where no directory
is, that location is a file and every other location names what it named. -/
theorem kindAt_setFile {loc : List Text} (hr : Reachable t loc) (hhome : home <+: loc)
    (hnot : t.kindAt loc ≠ some .directory) (l : List Text) :
    (t.setFile (loc.drop home.length) bs).kindAt l =
      if l = loc then some .file else t.kindAt l := by
  obtain ⟨ps, rfl⟩ := hhome
  rw [List.drop_left]
  have hform : ps.map Utf8.nameForm = ps := by
    simpa using hr.drop_named home.length
  have hne : ps ≠ [] := by
    rintro rfl
    apply hnot
    rw [kindAt_home_append]
    simp [kindBelow]
  have habove : ∀ q, q <+: ps → q ≠ ps → t.kindBelow q = some .directory := by
    intro q hq hqne
    rw [← kindAt_home_append]
    exact hr.above _ ((List.prefix_append_right_inj home).mpr hq) (by simpa using hqne)
  rw [kindAt_home_append] at hnot
  by_cases hl : home <+: l
  · obtain ⟨q, rfl⟩ := hl
    simp only [kindAt_home_append, kindBelow_setFile hform hne habove hnot,
      List.append_cancel_left_eq]
  · have hne' : l ≠ home ++ ps := fun he => hl (he ▸ List.prefix_append home ps)
    have hfalse : home.isPrefixOf l = false := by
      rw [← Bool.not_eq_true, List.isPrefixOf_iff_prefix]
      exact hl
    simp [kindAt, hfalse, hne']

/-- After a file is set at a reachable location below the working directory, that location
holds the new bytes and every other location the bytes it held. -/
theorem bytesAt_setFile {loc : List Text} (hr : Reachable t loc) (hhome : home <+: loc)
    (l : List Text) :
    (t.setFile (loc.drop home.length) bs).bytesAt l = if l = loc then some bs else t.bytesAt l := by
  have hform := hr.drop_named home.length
  obtain ⟨ps, rfl⟩ := hhome
  rw [List.drop_left] at hform ⊢
  by_cases hl : home <+: l
  · obtain ⟨q, rfl⟩ := hl
    simp only [bytesAt, List.isPrefixOf_iff_prefix, List.prefix_append, if_true, List.drop_left,
      find?_setFile hform, List.append_cancel_left_eq]
    split <;> rfl
  · have hne : l ≠ home ++ ps := fun he => hl (he ▸ List.prefix_append home ps)
    have hfalse : home.isPrefixOf l = false := by
      rw [← Bool.not_eq_true, List.isPrefixOf_iff_prefix]
      exact hl
    simp [bytesAt, hfalse, hne]

/-! ## What a location names and holds after recording a file outside the working directory -/

/-- Recording an entry outside the working directory changes what was recorded at that
location alone. -/
theorem outerAt_setOuter (loc : List Text) (e : Option (List UInt8)) (l : List Text) :
    (t.setOuter loc e).outerAt l = if l = loc then some e else t.outerAt l := by
  by_cases hl : l = loc
  · subst hl
    simp [setOuter, outerAt]
  · -- the records kept are those of other locations, and `l` is one of them
    have hne : (loc == l) = false := by simpa using Ne.symm hl
    simp only [setOuter, outerAt, if_neg hl, List.find?_cons, hne, List.find?_filter]
    congr 2
    funext a
    by_cases ha : a.1 = l
    · simp [ha, hl]
    · simp [ha]

/-- After a file is recorded at a location outside the working directory and off the way to
it, that location is a file and every other location names what it named. -/
theorem kindAt_setOuter {loc : List Text} (hout : ¬home <+: loc) (hway : ¬loc <+: home)
    (e : List UInt8) (l : List Text) :
    (t.setOuter loc (some e)).kindAt l = if l = loc then some .file else t.kindAt l := by
  by_cases hl : l = loc
  · subst hl
    simp [kindAt, outerAt_setOuter, List.isPrefixOf_iff_prefix, hout, hway]
  · simp only [kindAt, outerAt_setOuter, if_neg hl]
    rfl

/-- After a file is recorded at a location outside the working directory, that location holds
the new bytes and every other location the bytes it held. -/
theorem bytesAt_setOuter {loc : List Text} (hout : ¬home <+: loc) (e : List UInt8)
    (l : List Text) :
    (t.setOuter loc (some e)).bytesAt l = if l = loc then some e else t.bytesAt l := by
  by_cases hl : l = loc
  · subst hl
    simp [bytesAt, outerAt_setOuter, List.isPrefixOf_iff_prefix, hout]
  · simp only [bytesAt, outerAt_setOuter, if_neg hl]
    rfl

/-- Recording twice at one location keeps the second record. -/
theorem setOuter_setOuter (loc : List Text) (e e' : Option (List UInt8)) :
    (t.setOuter loc e).setOuter loc e' = t.setOuter loc e' := by
  simp only [setOuter, List.filter_cons, bne_self_eq_false, Bool.false_eq_true, if_false,
    List.filter_filter, Bool.and_self]

/-! ## Walking past a changed location -/

/-- A walk stops at a location that is not a directory. -/
theorem walkParts_stop {l : List Text} (hl : t.kindAt l ≠ some .directory) (p : Text)
    (rest : List Text) : (t.walkParts l (p :: rest)).toOption = none := by
  simp only [walkParts]
  split <;> simp_all [Except.toOption]

/-- Two trees that name the same things everywhere but at one location, where neither has a
directory, walk alike: a walk through that location stops in both. -/
theorem walkParts_congr {u : FileTree} {loc : List Text}
    (hk : ∀ l, l ≠ loc → u.kindAt l = t.kindAt l)
    (hu : u.kindAt loc ≠ some .directory) (ht : t.kindAt loc ≠ some .directory)
    (start ps : List Text) :
    (u.walkParts start ps).toOption = (t.walkParts start ps).toOption := by
  induction ps generalizing start with
  | nil => rfl
  | cons p rest ih =>
    by_cases hs : start = loc
    · subst hs
      rw [walkParts_stop hu, walkParts_stop ht]
    · simp only [walkParts, hk start hs]
      split
      · split_ifs
        · exact ih start
        · exact ih start.dropLast
        · rfl
        · exact ih _
      · rfl
      · rfl

/-! ## The file a path names -/

/-- The location a path text leads to, when the file system accepts its length and every part
on the way is looked up in a directory. -/
def locate (t : FileTree) (s : Text) : Option (List Text) :=
  match partsOf s with
  | .ok (start, parts, _) => (t.walkParts start parts).toOption
  | .error _ => none

/-- The bytes of the file a path text names, as reading it finds them. -/
def fileAt (t : FileTree) (s : Text) : Option (List UInt8) :=
  match pathBytes s, t.resolve s with
  | .ok _, .ok (loc, .file) => t.bytesAt loc
  | _, _ => none

/-- What a path text names, as the file system sees it: nothing when it refuses the path. -/
def kindOf (t : FileTree) (s : Text) : Option Kind :=
  match pathBytes s, t.resolve s with
  | .ok _, .ok (_, k) => some k
  | _, _ => none

/-- A path that names something exists. -/
theorem pathExists_of_kindOf {s : Text} {k : Kind} (h : t.kindOf s = some k) :
    t.pathExists s = .ok true := by
  simp only [kindOf] at h
  split at h
  · next hb hr => simp [pathExists, hb, hr]
  · cases h

/-- A path that names something can be walked. -/
theorem walk_isOk_of_kindOf {s : Text} {k : Kind} (h : t.kindOf s = some k) :
    ∃ vs, t.walk s = .ok vs := by
  simp only [kindOf] at h
  split at h
  · next hb hr =>
    simp only [walk, hb, bind, Except.bind]
    split <;> exact ⟨_, rfl⟩
  · cases h

/-- The place found for a new file is where its path leads. -/
theorem locate_of_placeFor {s : Text} {loc : List Text} (h : t.placeFor s = .ok loc) :
    t.locate s = some loc := by
  obtain ⟨start, parts, hp, hw, -⟩ := placeFor_ok h
  simp [locate, hp, hw, Except.toOption]

/-- A path that resolves leads where it resolves to, and names what is there. -/
theorem locate_of_resolve {s : Text} {l : List Text} {k : Kind}
    (h : t.resolve s = .ok (l, k)) : t.locate s = some l ∧ t.kindAt l = some k := by
  simp only [resolve, bind, Except.bind] at h
  simp only [locate]
  rcases hp : partsOf s with c | ⟨start, parts, dirOnly⟩
  · rw [hp] at h
    cases h
  rw [hp] at h
  dsimp only at h ⊢
  rcases hw : t.walkParts start parts with c | l'
  · rw [hw] at h
    cases h
  rw [hw] at h
  dsimp only at h
  -- what is there decides the kind, a file named with a trailing `/` failing
  rcases hk : t.kindAt l' with _ | _ | _
  · rw [hk] at h
    cases h
  · rw [hk] at h
    split_ifs at h
    cases h
    exact ⟨rfl, hk⟩
  · rw [hk] at h
    cases h
    exact ⟨rfl, hk⟩

/-- Two trees whose walks agree, and which name the same thing where a path leads, resolve the
path alike. -/
theorem resolve_congr {u : FileTree} {s : Text}
    (hwalk : ∀ start ps, (u.walkParts start ps).toOption = (t.walkParts start ps).toOption)
    (hat : ∀ l, t.locate s = some l → u.kindAt l = t.kindAt l) :
    (u.resolve s).toOption = (t.resolve s).toOption := by
  simp only [resolve, bind, Except.bind]
  rcases hp : partsOf s with c | ⟨start, parts, dirOnly⟩
  · rfl
  dsimp only
  have hw := hwalk start parts
  rcases ht : t.walkParts start parts with c | l
  · rcases hu : u.walkParts start parts with c' | l'
    · rfl
    · simp [ht, hu, Except.toOption] at hw
  · have hu : u.walkParts start parts = .ok l := by
      rw [ht] at hw
      exact Except.eq_ok_of_toOption hw
    rw [hu]
    dsimp only
    rw [hat l (by simp [locate, hp, ht, Except.toOption])]

/-- Two trees whose walks agree, and which name the same things and hold the same bytes where
a path leads, give that path the same file. -/
theorem fileAt_congr {u : FileTree} {s : Text}
    (hwalk : ∀ start ps, (u.walkParts start ps).toOption = (t.walkParts start ps).toOption)
    (hat : ∀ l, t.locate s = some l → u.kindAt l = t.kindAt l ∧ u.bytesAt l = t.bytesAt l) :
    u.fileAt s = t.fileAt s := by
  have hr := resolve_congr hwalk fun l hl => (hat l hl).1
  simp only [fileAt]
  rcases pathBytes s with f | b
  · rfl
  -- both resolve alike, and a file is read at the same place in both
  rcases ht : t.resolve s with c | ⟨l, k⟩
  · rcases hu : u.resolve s with c' | ⟨l', k'⟩
    · rfl
    · simp [ht, hu, Except.toOption] at hr
  · have hu : u.resolve s = .ok (l, k) := Except.eq_ok_of_toOption (by rw [hr, ht]; rfl)
    rw [hu]
    cases k with
    | file => exact (hat l (locate_of_resolve ht).1).2
    | directory => rfl

/-- Two trees whose walks agree, and which name the same thing where a path leads, give the
path the same kind. -/
theorem kindOf_congr {u : FileTree} {s : Text}
    (hwalk : ∀ start ps, (u.walkParts start ps).toOption = (t.walkParts start ps).toOption)
    (hat : ∀ l, t.locate s = some l → u.kindAt l = t.kindAt l) :
    u.kindOf s = t.kindOf s := by
  have hr := resolve_congr hwalk hat
  simp only [kindOf]
  rcases pathBytes s with f | b
  · rfl
  rcases ht : t.resolve s with c | ⟨l, k⟩ <;> rcases hu : u.resolve s with c' | ⟨l', k'⟩ <;>
    simp_all [Except.toOption]

/-- A path that leads to no file names no file's bytes. -/
theorem fileAt_eq_none {s : Text} (h : ∀ l, t.locate s = some l → t.kindAt l ≠ some .file) :
    t.fileAt s = none := by
  simp only [fileAt]
  split
  · next hres =>
    obtain ⟨hl, hk⟩ := locate_of_resolve hres
    exact absurd hk (h _ hl)
  · rfl

/-- A path the file system takes that leads to a directory names one. -/
theorem kindOf_of_locate {s : Text} {l : List Text} (hb : ∃ b, pathBytes s = .ok b)
    (hl : t.locate s = some l) (hk : t.kindAt l = some .directory) :
    t.kindOf s = some .directory := by
  obtain ⟨b, hb⟩ := hb
  simp only [locate] at hl
  split at hl
  · next start parts dirOnly hp =>
    have hw : t.walkParts start parts = .ok l := Except.eq_ok_of_toOption hl
    simp [kindOf, resolve, hb, hp, hw, hk, bind, Except.bind, pure, Except.pure]
  · cases hl

/-! ## Writing a file, seen through paths -/

section Write

variable {s : Text} {loc : List Text}

/-- A write the file system accepts sets the file at the place found for it, below the working
directory or outside it: that location is a file holding the bytes written, and every other
location names and holds what it did. -/
theorem write_places {t' : FileTree} (h : t.write s bs = .ok t') :
    ∃ loc, t.placeFor s = .ok loc ∧ ∀ l,
      t'.kindAt l = (if l = loc then some .file else t.kindAt l) ∧
        t'.bytesAt l = (if l = loc then some bs else t.bytesAt l) := by
  obtain ⟨-, loc, hpl, rfl⟩ := write_ok h
  obtain ⟨-, -, -, -, hnot, hr⟩ := placeFor_ok hpl
  refine ⟨loc, hpl, fun l => ?_⟩
  split
  · next hhome =>
    have hhome := List.isPrefixOf_iff_prefix.mp hhome
    exact ⟨kindAt_setFile hr hhome hnot l, bytesAt_setFile hr hhome l⟩
  · next hout =>
    have hout : ¬home <+: loc := fun h => hout (List.isPrefixOf_iff_prefix.mpr h)
    -- every location on the way to the working directory is a directory, so the place is off it
    have hway : ¬loc <+: home := fun h => hnot <| by
      simp [kindAt, List.isPrefixOf_iff_prefix, hout, h]
    exact ⟨kindAt_setOuter hout hway bs l, bytesAt_setOuter hout bs l⟩

/-- A write changes no walk's end, except that a walk through the new file stops there. -/
theorem walkParts_write {t' : FileTree} (h : t.write s bs = .ok t') (start ps : List Text) :
    (t'.walkParts start ps).toOption = (t.walkParts start ps).toOption := by
  obtain ⟨loc, hpl, hplaces⟩ := write_places h
  obtain ⟨-, -, -, -, hnot, -⟩ := placeFor_ok hpl
  refine walkParts_congr (fun l hl => ?_) ?_ hnot start ps
  · rw [(hplaces l).1, if_neg hl]
  · rw [(hplaces loc).1, if_pos rfl]
    simp

/-- What a write leaves: every walk ends where it ended, and every location but the one written
names and holds what it did. -/
theorem write_frame {t' : FileTree} (h : t.write s bs = .ok t') :
    (∀ start ps, (t'.walkParts start ps).toOption = (t.walkParts start ps).toOption) ∧
      ∀ l, t.locate s ≠ some l → t'.kindAt l = t.kindAt l ∧ t'.bytesAt l = t.bytesAt l := by
  obtain ⟨loc, hpl, hplaces⟩ := write_places h
  rw [locate_of_placeFor hpl]
  refine ⟨walkParts_write h, fun l hl => ?_⟩
  have hne : l ≠ loc := fun he => hl (he ▸ rfl)
  rw [(hplaces l).1, (hplaces l).2, if_neg hne, if_neg hne]
  exact ⟨rfl, rfl⟩

/-- Writing a file changes no file that a path leading elsewhere names. -/
theorem fileAt_write_of_locate_ne {t' : FileTree} (h : t.write s bs = .ok t') {q : Text}
    (hq : t.locate q ≠ t.locate s) : t'.fileAt q = t.fileAt q := by
  obtain ⟨hwalk, hat⟩ := write_frame h
  exact fileAt_congr hwalk fun l hl => hat l fun he => hq (hl.trans he.symm)

/-- Writing a file changes what no path leading elsewhere names. -/
theorem kindOf_write_of_locate_ne {t' : FileTree} (h : t.write s bs = .ok t') {q : Text}
    (hq : t.locate q ≠ t.locate s) : t'.kindOf q = t.kindOf q := by
  obtain ⟨hwalk, hat⟩ := write_frame h
  exact kindOf_congr hwalk fun l hl => (hat l fun he => hq (hl.trans he.symm)).1

/-- Writing a file makes its path name a file holding the bytes written. -/
theorem fileAt_write_self {t' : FileTree} (h : t.write s bs = .ok t') : t'.fileAt s = some bs := by
  obtain ⟨⟨b, hb⟩, -⟩ := write_ok h
  obtain ⟨loc, hpl, hplaces⟩ := write_places h
  obtain ⟨start, parts, hp, hw, -, -⟩ := placeFor_ok hpl
  have hw' : t'.walkParts start parts = .ok loc := by
    apply Except.eq_ok_of_toOption
    rw [walkParts_write h, hw]
    rfl
  have hkind : t'.kindAt loc = some .file := by simpa using (hplaces loc).1
  have hbytes : t'.bytesAt loc = some bs := by simpa using (hplaces loc).2
  simp only [fileAt, resolve, hb, hp, bind, Except.bind, hw', hkind]
  simpa [pure, Except.pure] using hbytes

/-- A path that can be written leads somewhere. -/
theorem locate_of_write {t' : FileTree} (h : t.write s bs = .ok t') :
    ∃ l, t.locate s = some l := by
  obtain ⟨-, loc, hpl, -⟩ := write_ok h
  exact ⟨loc, locate_of_placeFor hpl⟩

/-- Whether a write is accepted does not depend on the bytes written. -/
theorem write_isOk_bytes {t₀ : FileTree} {as : List UInt8} (h : t.write s as = .ok t₀) :
    ∃ t₁, t.write s bs = .ok t₁ := by
  obtain ⟨⟨b, hb⟩, loc, hpl, -⟩ := write_ok h
  exact ⟨_, by simp only [write, hb, bind, Except.bind, hpl]; rfl⟩

/-- A write changes no walk's end, so every path leads where it led. -/
theorem locate_write {t' : FileTree} (h : t.write s bs = .ok t') (q : Text) :
    t'.locate q = t.locate q := by
  simp only [locate]
  split
  · exact walkParts_write h _ _
  · rfl

/-- Writing a file twice leaves what the second write holds: the first write found the place
the second one finds again. -/
theorem write_write {t₀ : FileTree} {as : List UInt8} (h₀ : t.write s as = .ok t₀) :
    t₀.write s bs = t.write s bs := by
  obtain ⟨loc, hpl, hplaces⟩ := write_places h₀
  obtain ⟨start, parts, last, dir, hp, hlast, hdir, hkd, hl, hkl⟩ := placeFor_eq_ok.mp hpl
  have hdl : dir ≠ loc := fun he => hkl (he ▸ hkd)
  -- the first write leaves the place found, so the second one finds it again
  have hpl₀ : t₀.placeFor s = .ok loc := by
    refine placeFor_eq_ok.mpr ⟨start, parts, last, dir, hp, hlast, ?_, ?_, ?_, ?_⟩
    · apply Except.eq_ok_of_toOption
      rw [walkParts_write h₀, hdir]
      rfl
    · rw [(hplaces dir).1, if_neg hdl, hkd]
    · apply Except.eq_ok_of_toOption
      rw [walkParts_write h₀, hl]
      rfl
    · rw [(hplaces loc).1, if_pos rfl]
      simp
  obtain ⟨⟨b, hb⟩, loc', hpl', rfl⟩ := write_ok h₀
  obtain rfl : loc' = loc := Except.ok.inj (hpl'.symm.trans hpl)
  obtain ⟨-, -, -, -, -, hr⟩ := placeFor_ok hpl
  simp only [write, hb, bind, Except.bind, hpl₀, hpl]
  split
  · simp only [setFile_setFile (hr.drop_named home.length)]
  · simp only [setOuter_setOuter]

end Write

/-! ## Making a directory -/

/-- Nothing is named at a location below the root exactly when no listed directory and no file
lies at it or below it. -/
theorem kindBelow_eq_none_iff {ps : List Text} (hps : ps ≠ []) :
    t.kindBelow ps = none ↔ (∀ d ∈ t.dirs, ¬ps <+: d) ∧ ∀ f ∈ t.files, ¬ps <+: f.1 := by
  -- a file at or below `ps` is the file there or makes `ps` a directory
  have hfile : ∀ l : List Text, ps <+: l ↔ l = ps ∨ (ps <+: l ∧ ps.length < l.length) := by
    intro l
    constructor
    · intro h
      rcases Nat.lt_or_ge ps.length l.length with hlt | hge
      · exact .inr ⟨h, hlt⟩
      · exact .inl (h.eq_of_length (le_antisymm h.length_le hge)).symm
    · rintro (rfl | ⟨h, -⟩)
      · exact List.prefix_rfl
      · exact h
  simp only [kindBelow, List.isEmpty_iff, hps, if_false]
  split_ifs with hf hdir
  · simp only [false_iff, not_and, not_forall, not_not]
    obtain ⟨f, hf, hfe⟩ := List.any_eq_true.mp hf
    exact fun _ => ⟨f, hf, (beq_iff_eq.mp hfe) ▸ List.prefix_rfl⟩
  · simp only [false_iff, not_and, not_forall, not_not]
    rcases Bool.or_eq_true _ _ ▸ hdir with hd | hf'
    · obtain ⟨d, hd, hde⟩ := List.any_eq_true.mp hd
      exact fun h => absurd (List.isPrefixOf_iff_prefix.mp hde) (h d hd)
    · obtain ⟨f, hf', hfe⟩ := List.any_eq_true.mp hf'
      rw [Bool.and_eq_true, List.isPrefixOf_iff_prefix] at hfe
      exact fun _ => ⟨f, hf', hfe.1⟩
  · simp only [true_iff]
    rw [Bool.or_eq_true, not_or] at hdir
    refine ⟨fun d hd hpre =>
      hdir.1 (List.any_eq_true.mpr ⟨d, hd, List.isPrefixOf_iff_prefix.mpr hpre⟩),
      fun f hf' hpre => ?_⟩
    rcases (hfile f.1).mp hpre with heq | hlong
    · exact hf (List.any_eq_true.mpr ⟨f, hf', beq_iff_eq.mpr heq⟩)
    · exact hdir.2 (List.any_eq_true.mpr ⟨f, hf', by simp [List.isPrefixOf_iff_prefix, hlong]⟩)

/-- Below a location that names nothing nothing is named: a file or directory there would make
the location a directory. -/
theorem kindBelow_append_of_none {ps : List Text} (h : t.kindBelow ps = none) (q : List Text) :
    t.kindBelow (ps ++ q) = none := by
  have hps : ps ≠ [] := by
    rintro rfl
    simp [kindBelow] at h
  obtain ⟨hd, hf⟩ := (kindBelow_eq_none_iff hps).mp h
  -- whatever lies at or below `ps ++ q` lies below `ps`
  refine (kindBelow_eq_none_iff (by simp [hps])).mpr ⟨fun d hd' hpre => ?_, fun f hf' hpre => ?_⟩
  · exact hd d hd' ((List.prefix_append ps q).trans hpre)
  · exact hf f hf' ((List.prefix_append ps q).trans hpre)

/-- Listing a directory changes what no location off its way names. -/
theorem kindBelow_addDir_of_not_prefix {ps r : List Text} (hr : ¬r <+: ps.map Utf8.nameForm) :
    (t.addDir ps).kindBelow r = t.kindBelow r := by
  have hfalse : r.isPrefixOf (ps.map Utf8.nameForm) = false := by
    rw [← Bool.not_eq_true, List.isPrefixOf_iff_prefix]
    exact hr
  simp only [kindBelow, addDir, List.any_append, List.any_cons, List.any_nil, hfalse,
    Bool.or_false]

/-- Listing a directory where nothing was makes it a directory. -/
theorem kindBelow_addDir_self {ps : List Text} (hform : ps.map Utf8.nameForm = ps)
    (h : t.kindBelow ps = none) : (t.addDir ps).kindBelow ps = some .directory := by
  have hne : ps ≠ [] := by
    rintro rfl
    simp [kindBelow] at h
  have hfile : t.files.any (·.1 == ps) = false := by
    by_contra hf
    simp only [kindBelow, List.isEmpty_iff, hne, if_false, Bool.not_eq_false] at h hf
    simp [hf] at h
  simp [kindBelow, addDir, hform, hne, hfile, List.any_append]

/-- A path that leads to what is there, without asking for a directory, resolves to it. -/
theorem resolve_of_walk {s : Text} {start parts loc : List Text} {k : Kind}
    (hp : partsOf s = .ok (start, parts, false)) (hw : t.walkParts start parts = .ok loc)
    (hk : t.kindAt loc = some k) : t.resolve s = .ok (loc, k) := by
  cases k <;> simp [resolve, hp, hw, hk, bind, Except.bind, pure, Except.pure]

/-- Making a directory the file system accepts: where one is, nothing changes; otherwise the
place found for it held nothing, and a directory is listed there. -/
theorem makeDir_ok {s : Text} {t' : FileTree} (h : t.makeDir s = .ok t') :
    (t.kindOf s = some .directory ∧ t' = t) ∨
      ∃ loc, t.placeFor s = .ok loc ∧ t.kindAt loc = none ∧
        t' = if home.isPrefixOf loc then t.addDir (loc.drop home.length)
          else t.setOuter loc none := by
  simp only [makeDir, bind, Except.bind] at h
  rcases hb : pathBytes s with f | b
  · rw [hb] at h
    cases h
  rw [hb] at h
  dsimp only at h
  rcases hres : t.resolve s with c | ⟨l, _ | _⟩
  · rw [hres] at h
    dsimp only at h
    rcases hpl : t.placeFor s with c' | loc
    · rw [hpl] at h
      cases h
    rw [hpl] at h
    obtain ⟨start, parts, hp, hw, hnot, -⟩ := placeFor_ok hpl
    -- a file there would have resolved, a directory would not be a place for a new one
    have hnone : t.kindAt loc = none := by
      rcases hk : t.kindAt loc with _ | _ | _
      · rfl
      · rw [resolve_of_walk hp hw hk] at hres
        cases hres
      · exact absurd hk hnot
    exact .inr ⟨loc, rfl, hnone, (Except.ok.inj h).symm⟩
  · rw [hres] at h
    cases h
  · rw [hres] at h
    cases h
    exact .inl ⟨by simp [kindOf, hb, hres], rfl⟩

end FileTree

end NodeCatalog
