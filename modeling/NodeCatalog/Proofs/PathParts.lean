import NodeCatalog.Proofs.FileWrites
/-!
# Paths and their parts

The texts the file system is given are built from path objects and joined names, and the file system
cuts them at `/` again. This module says what it finds: the non-empty pieces of a path object's text
are the path's parts, the text starts at the root exactly when the path has a root, and a name
joined to a path leads one level below where the path leads. The paths are those
`run_doc_extraction` and `extract_metadata` build (`src/tools/extract_docs.py`, lines 69 and 98) and
`get_nodes_metadata` joins (`src/tools/fetch_all_nodes.py`, line 79).

- `Text.splitOn_single`: cutting at one point is the list library's `List.splitOn`.
- `Path.PartOk`, `Path.RootOk`: the parts and roots of path objects.
- `Path.filter_splitOn_toText`, `Path.startsAtRoot_toText`: a path object's text, cut again.
- `Path.Proper`, `Path.NameOk`: paths with a proper root and parts, and the names of files.
- `Path.ofText_toText`: **a proper path's text names it again**; `Path.joinText_toText`,
  `Path.relative_toText_append`: joining a name to it, and seeing a longer path from it.
- `FileTree.locate_join`: **a name joined to the path of a directory leads to that name in the
  directory.**
-/
namespace NodeCatalog

namespace Text

/-- Cutting at a one-point separator, the piece begun in `acc`. -/
theorem splitOn_go_single (c : Point) (acc s : Text) :
    splitOn.go [c] acc s = List.splitOnPPrepend (· == c) s acc := by
  induction s generalizing acc with
  | nil => simp [splitOn.go]
  | cons d r ih =>
    rw [splitOn.go, List.splitOnPPrepend_cons_eq_if]
    by_cases hd : d = c
    · subst hd
      simp [ih]
    · simp [hd, Ne.symm hd, ih]

/-- Cutting at one point is the list library's cutting at an element. -/
theorem splitOn_single (c : Point) (s : Text) : splitOn [c] s = List.splitOn c s :=
  splitOn_go_single c [] s

/-- No piece of a text cut at a point holds that point, when the piece begun holds none. -/
theorem not_mem_of_mem_splitOnPPrepend {c : Point} {s acc p : Text} (hacc : c ∉ acc)
    (hp : p ∈ List.splitOnPPrepend (· == c) s acc) : c ∉ p := by
  induction s generalizing acc with
  | nil => simp_all
  | cons d r ih =>
    rw [List.splitOnPPrepend_cons_eq_if] at hp
    by_cases hd : d = c
    · subst hd
      simp only [beq_self_eq_true, if_true, List.mem_cons] at hp
      rcases hp with rfl | hp
      · simpa using hacc
      · exact ih (by simp) hp
    · simp only [beq_iff_eq, hd, if_false] at hp
      exact ih (by simp [Ne.symm hd, hacc]) hp

/-- No piece of a text cut at a point holds that point. -/
theorem not_mem_of_mem_splitOn {c : Point} {s p : Text} (hp : p ∈ List.splitOn c s) : c ∉ p :=
  not_mem_of_mem_splitOnPPrepend (by simp : c ∉ ([] : Text)) hp

/-- Two strings spell the same text exactly when they are the same string. -/
@[simp] theorem ofString_inj {a b : String} : ofString a = ofString b ↔ a = b := by
  constructor
  · intro h
    have hmap : a.toList.map Point.char = b.toList.map Point.char := h
    exact String.toList_inj.mp (List.map_injective_iff.mpr (fun _ _ e => Point.char.inj e) hmap)
  · rintro rfl
    rfl

end Text

namespace Path

theorem slash_eq : slash = [.char '/'] := rfl

/-- A part a path object keeps: not empty, not `.`, and without `/`. -/
def PartOk (q : Text) : Prop :=
  q ≠ [] ∧ q ≠ Text.ofString "." ∧ Point.char '/' ∉ q

instance : DecidablePred PartOk := fun q =>
  inferInstanceAs (Decidable (q ≠ [] ∧ q ≠ Text.ofString "." ∧ Point.char '/' ∉ q))

/-- A root a path object starts at: none, `/` or `//`. -/
def RootOk (r : Text) : Prop :=
  r = [] ∨ r = slash ∨ r = slash ++ slash

/-- A name of a file or directory: a proper part that does not go up. -/
def NameOk (n : Text) : Prop :=
  PartOk n ∧ n ≠ up

instance : DecidablePred NameOk := fun n =>
  inferInstanceAs (Decidable (PartOk n ∧ n ≠ up))

/-- The parts a path object keeps from a text are proper parts. -/
theorem partOk_of_mem_partsOf {s q : Text} (h : q ∈ partsOf s) : PartOk q := by
  simp only [partsOf, List.mem_filter, slash_eq, Text.splitOn_single, decide_eq_true_eq] at h
  exact ⟨h.2.1, h.2.2, Text.not_mem_of_mem_splitOn h.1⟩

/-- The root of a path text is a proper root. -/
theorem rootOk_rootOf (s : Text) : RootOk (rootOf s) := by
  unfold rootOf RootOk
  split <;> simp

/-- The non-empty pieces of parts joined by `/` are the parts. -/
theorem filter_splitOn_intercalate {ps : List Text} (h : ∀ q ∈ ps, PartOk q) :
    (List.splitOn (Point.char '/') ([Point.char '/'].intercalate ps)).filter (· ≠ []) = ps := by
  cases ps with
  | nil => simp
  | cons q qs =>
    rw [List.splitOn_intercalate _ (fun l hl => (h l hl).2.2) (List.cons_ne_nil q qs)]
    exact List.filter_eq_self.mpr fun l hl => by simpa using (h l hl).1

/-- The text of a path object with parts: its root, then its parts joined by `/`. -/
theorem toText_of_parts {p : Path} (hroot : RootOk p.root) (hne : p.parts ≠ []) :
    p.toText = p.root ++ [Point.char '/'].intercalate p.parts := by
  unfold toText absolute
  rcases hroot with h | h | h <;> simp [h, hne, slash_eq]

/-- The non-empty pieces between the slashes of a path object's text are its parts. -/
theorem filter_splitOn_toText {p : Path} (hroot : RootOk p.root)
    (hparts : ∀ q ∈ p.parts, PartOk q) (hne : p.parts ≠ []) :
    (Text.splitOn slash p.toText).filter (· ≠ []) = p.parts := by
  rw [toText_of_parts hroot hne, slash_eq, Text.splitOn_single]
  -- each slash of the root cuts off one empty piece
  have hcut : ∀ X : Text, List.splitOn (Point.char '/') (Point.char '/' :: X) =
      [] :: List.splitOn (Point.char '/') X := fun X => by
    simpa using List.splitOn_append_cons_self (a := Point.char '/') [] X
  have hdrop : ∀ X : Text,
      (List.splitOn (Point.char '/') (Point.char '/' :: X)).filter (· ≠ []) =
        (List.splitOn (Point.char '/') X).filter (· ≠ []) := fun X => by
    rw [hcut]
    simp
  rcases hroot with h | h | h
  · rw [h, List.nil_append]
    exact filter_splitOn_intercalate hparts
  · rw [h, slash_eq, List.singleton_append, hdrop]
    exact filter_splitOn_intercalate hparts
  · rw [h, slash_eq, List.singleton_append, List.cons_append, List.singleton_append, hdrop, hdrop]
    exact filter_splitOn_intercalate hparts

/-- A path object's text starts at the root exactly when the path does. -/
theorem startsAtRoot_toText {p : Path} (hroot : RootOk p.root)
    (hparts : ∀ q ∈ p.parts, PartOk q) (hne : p.parts ≠ []) :
    startsAtRoot p.toText = !p.root.isEmpty := by
  rw [toText_of_parts hroot hne]
  rcases hroot with h | h | h
  · obtain ⟨q, qs, hq⟩ := List.exists_cons_of_ne_nil hne
    obtain ⟨c, cs, hc⟩ := List.exists_cons_of_ne_nil (hparts q (by simp [hq])).1
    have hslash : c ≠ Point.char '/' := fun he => (hparts q (by simp [hq])).2.2 (by simp [hc, he])
    simp [h, hq, hc, startsAtRoot, hslash]
  · simp [h, startsAtRoot, slash_eq]
  · simp [h, startsAtRoot, slash_eq]

/-- A path text has a root exactly when it starts at the root. -/
theorem isEmpty_rootOf (s : Text) : (rootOf s).isEmpty = !startsAtRoot s := by
  cases s with
  | nil => rfl
  | cons c r =>
    by_cases hc : c = Point.char '/'
    · subst hc
      simp only [rootOf, List.takeWhile_cons, beq_self_eq_true, if_true, List.length_cons]
      split <;> simp_all [startsAtRoot, slash_eq]
    · simp [rootOf, startsAtRoot, hc]

/-- Joining a relative text appends its parts. -/
theorem join_of_relative {p : Path} {n : Text} (h : (ofText n).root = []) :
    p.join n = ⟨p.root, p.parts ++ (ofText n).parts⟩ := by
  simp [join, absolute, h]

/-- The parts a path object keeps are the non-empty pieces other than `.`. -/
theorem partsOf_eq_filter (s : Text) :
    partsOf s = ((Text.splitOn slash s).filter (· ≠ [])).filter (· ≠ Text.ofString ".") := by
  simp [partsOf, List.filter_filter, Bool.and_comm]

/-! ## Proper paths and their texts -/

/-- Parts joined by a separator, two runs of them in turn. -/
theorem intercalate_append {sep : Text} {a b : List Text} (ha : a ≠ []) (hb : b ≠ []) :
    sep.intercalate (a ++ b) = sep.intercalate a ++ sep ++ sep.intercalate b := by
  induction a with
  | nil => exact absurd rfl ha
  | cons x xs ih =>
    cases xs with
    | nil => simp [List.intercalate_cons_of_ne_nil hb]
    | cons y ys =>
      rw [List.cons_append, List.intercalate_cons_of_ne_nil (by simp), ih (by simp),
        List.intercalate_cons_cons]
      simp

/-- A path object as the file system is given it: a proper root and at least one part, each
proper. -/
structure Proper (p : Path) : Prop where
  root : RootOk p.root
  parts : ∀ q ∈ p.parts, PartOk q
  ne : p.parts ≠ []

/-- A proper part does not start at the root. -/
theorem startsAtRoot_of_partOk {q : Text} (hq : PartOk q) : startsAtRoot q = false := by
  obtain ⟨c, cs, rfl⟩ := List.exists_cons_of_ne_nil hq.1
  have hc : c ≠ Point.char '/' := fun h => hq.2.2 (by simp [h])
  simp [startsAtRoot, hc]

/-- The root of a proper path's text is its root. -/
theorem rootOf_toText {p : Path} (hp : Proper p) : rootOf p.toText = p.root := by
  rw [toText_of_parts hp.root hp.ne]
  obtain ⟨q, qs, hq⟩ := List.exists_cons_of_ne_nil hp.ne
  obtain ⟨c, cs, hc⟩ := List.exists_cons_of_ne_nil (hp.parts q (by simp [hq])).1
  have hslash : c ≠ Point.char '/' := fun h => (hp.parts q (by simp [hq])).2.2 (by simp [hc, h])
  -- the slashes at the start are those of the root: the first part starts with another point
  rcases hp.root with h | h | h <;>
    simp [rootOf, h, hq, hc, hslash, slash_eq]

/-- A proper path's text names it again. -/
theorem ofText_toText {p : Path} (hp : Proper p) : ofText p.toText = p := by
  have hparts : partsOf p.toText = p.parts := by
    rw [partsOf_eq_filter, filter_splitOn_toText hp.root hp.parts hp.ne]
    exact List.filter_eq_self.mpr fun q hq => by simpa using (hp.parts q hq).2.1
  cases p
  simp only [ofText, rootOf_toText hp, hparts]

/-- Proper parts appended to a proper path keep it proper. -/
theorem Proper.append {p : Path} (hp : Proper p) {rest : List Text}
    (hrest : ∀ q ∈ rest, PartOk q) : Proper ⟨p.root, p.parts ++ rest⟩ where
  root := hp.root
  parts q hq := (List.mem_append.mp hq).elim (hp.parts q) (hrest q)
  ne := by simp [hp.ne]

/-- The text of a proper path with more parts: the path's text, `/`, and the parts joined. -/
theorem toText_append {p : Path} (hp : Proper p) {rest : List Text} (hne : rest ≠ []) :
    Path.toText ⟨p.root, p.parts ++ rest⟩ = p.toText ++ slash ++ slash.intercalate rest := by
  rw [@toText_of_parts ⟨p.root, p.parts ++ rest⟩ hp.root (by simp [hp.ne]),
    toText_of_parts hp.root hp.ne, intercalate_append hp.ne hne, slash_eq]
  simp

/-- A proper path's text ends with its last part. -/
theorem toText_eq_append_last {p : Path} (hp : Proper p) :
    ∃ pre, p.toText = pre ++ p.parts.getLast hp.ne := by
  obtain ⟨root, parts⟩ := p
  obtain ⟨init, q, hsplit⟩ := List.eq_nil_or_concat parts |>.resolve_left hp.ne
  rw [List.concat_eq_append] at hsplit
  subst hsplit
  by_cases hinit : init = []
  · subst hinit
    refine ⟨root, ?_⟩
    rw [toText_of_parts hp.root hp.ne]
    simp
  · have hp' : Proper ⟨root, init⟩ :=
      ⟨hp.root, fun q hq => hp.parts q (by simp [hq]), hinit⟩
    refine ⟨Path.toText ⟨root, init⟩ ++ slash, ?_⟩
    rw [toText_append hp' (List.cons_ne_nil q [])]
    simp

/-- Joining a proper name to a proper path's text appends it as a part. -/
theorem joinText_toText {p : Path} (hp : Proper p) {d : Text} (hd : PartOk d) :
    joinText p.toText d = Path.toText ⟨p.root, p.parts ++ [d]⟩ := by
  obtain ⟨pre, hpre⟩ := toText_eq_append_last hp
  have hlast := hp.parts _ (List.getLast_mem hp.ne)
  -- the text ends with the last part, which is not empty and holds no `/`
  have hend : (p.toText.isEmpty || p.toText.getLast? == some (.char '/')) = false := by
    obtain ⟨c, hc⟩ := List.getLast?_isSome.mpr hlast.1 |> Option.isSome_iff_exists.mp
    have hmem : c ∈ p.parts.getLast hp.ne := List.mem_of_getLast? hc
    have hne : c ≠ Point.char '/' := fun h => hlast.2.2 (h ▸ hmem)
    rw [hpre, List.getLast?_append_of_ne_nil _ hlast.1, hc]
    simp [hlast.1, hne]
  rw [joinText, startsAtRoot_of_partOk hd, if_neg Bool.false_ne_true, hend,
    if_neg Bool.false_ne_true, toText_append hp (List.cons_ne_nil d [])]
  simp

/-- Resolving parts in two runs. -/
theorem resolveParts_append (base xs ys : List Text) :
    resolveParts base (xs ++ ys) = resolveParts (resolveParts base xs) ys := by
  induction xs generalizing base with
  | nil => rfl
  | cons x xs ih =>
    simp only [List.cons_append, resolveParts]
    split <;> exact ih _

/-- Parts without `..` are appended as they are. -/
theorem resolveParts_of_not_up (base ys : List Text) (h : up ∉ ys) :
    resolveParts base ys = base ++ ys := by
  induction ys generalizing base with
  | nil => simp [resolveParts]
  | cons y ys ih =>
    have hy : y ≠ up := fun e => h (by simp [e])
    rw [resolveParts, if_neg hy, ih _ (fun e => h (by simp [e]))]
    simp

/-- A list shares all of itself with a longer one it starts. -/
theorem commonPrefix_append_self (a rest : List Text) : commonPrefix (a ++ rest) a = a.length := by
  induction a with
  | nil => cases rest <;> rfl
  | cons x xs ih => simp [commonPrefix, ih]

/-- A proper path with proper parts appended, none going up, is seen from the path as those
parts. -/
theorem relative_toText_append (here : List Text) {p : Path} (hp : Proper p)
    {rest : List Text} (hrest : ∀ q ∈ rest, NameOk q) (hne : rest ≠ []) :
    relative here (Path.toText ⟨p.root, p.parts ++ rest⟩) p.toText = slash.intercalate rest := by
  have hp' := hp.append fun q hq => (hrest q hq).1
  have hup : up ∉ rest := fun h => (hrest up h).2 rfl
  simp only [relative, ofText_toText hp, ofText_toText hp', absolute, resolveParts_append,
    resolveParts_of_not_up _ rest hup, commonPrefix_append_self, Nat.sub_self,
    List.replicate_zero, List.nil_append, List.drop_left, List.isEmpty_iff, hne, if_false]

/-- A proper part has no root and is its only part. -/
theorem ofText_of_partOk {q : Text} (hq : PartOk q) : ofText q = ⟨[], [q]⟩ := by
  have hroot : rootOf q = [] := by
    have := isEmpty_rootOf q
    rw [startsAtRoot_of_partOk hq] at this
    simpa using this
  have hsplit : Text.splitOn slash q = [q] := by
    rw [slash_eq, Text.splitOn_single]
    exact List.splitOn_eq_singleton hq.2.2
  simp [ofText, hroot, partsOf, hsplit, hq.1, hq.2.1]


/-- The last part of a proper path, read back from its text. -/
theorem name_ofText_toText {p : Path} (hp : p.Proper) :
    (ofText p.toText).name = p.parts.getLast hp.ne := by
  rw [ofText_toText hp, name, List.getLastD_eq_getLast?, List.getLast?_eq_some_getLast hp.ne]
  rfl

/-- A name joined to the text of a proper path with names appended, as texts or as path
objects: the path with one more name appended. -/
theorem joins_toText_append {p : Path} (hp : p.Proper) {ds : List Text}
    (hds : ∀ d ∈ ds, NameOk d) {n : Text} (hn : NameOk n) :
    joinText (Path.toText ⟨p.root, p.parts ++ ds⟩) n =
        Path.toText ⟨p.root, p.parts ++ (ds ++ [n])⟩ ∧
      ((ofText (Path.toText ⟨p.root, p.parts ++ ds⟩)).join n).toText =
        Path.toText ⟨p.root, p.parts ++ (ds ++ [n])⟩ := by
  have hpds := hp.append fun q hq => (hds q hq).1
  constructor
  · rw [joinText_toText hpds hn.1, List.append_assoc]
  · rw [ofText_toText hpds, join_of_relative (by rw [ofText_of_partOk hn.1]),
      ofText_of_partOk hn.1, List.append_assoc]
end Path

namespace FileTree

variable {t : FileTree}

/-- Dropping the `.` parts of a walk that succeeds changes nothing: each only stays in the
directory reached. -/
theorem walkParts_filter_dot {l l' : List Text} {ps : List Text}
    (h : t.walkParts l ps = .ok l') :
    t.walkParts l (ps.filter (· ≠ Text.ofString ".")) = .ok l' := by
  induction ps generalizing l with
  | nil => exact h
  | cons p rest ih =>
    simp only [walkParts] at h
    split at h
    · next hdir =>
      by_cases hp : p = Text.ofString "."
      · rw [if_pos hp] at h
        simpa [hp] using ih h
      · rw [List.filter_cons_of_pos (by simpa using hp), walkParts, hdir]
        simp only [if_neg hp]
        -- going up or into a child as before; a part too long stopped the walk
        split_ifs at h ⊢ <;> exact ih h
    · cases h
    · cases h

/-- The start and parts a path object's text is resolved with. -/
theorem partsOf_toText {p : Path} (hroot : Path.RootOk p.root)
    (hparts : ∀ q ∈ p.parts, Path.PartOk q) (hne : p.parts ≠ [])
    {r : List Text × List Text × Bool} (h : partsOf p.toText = .ok r) :
    r.1 = (if p.root.isEmpty then home else []) ∧ r.2.1 = p.parts := by
  obtain ⟨-, -, rfl⟩ := partsOf_eq_ok h
  refine ⟨?_, Path.filter_splitOn_toText hroot hparts hne⟩
  rw [Path.startsAtRoot_toText hroot hparts hne]
  cases p.root.isEmpty <;> rfl

/-- A name joined to a path leads into the directory the path leads to: to the name, in the
form names are kept in, one level below. -/
theorem locate_join {s n : Text} (hn : Path.ofText n = ⟨[], [n]⟩) (hup : n ≠ Path.up)
    (hlen : Utf8.escapedLength n ≤ nameMax) {l l' : List Text} (hl : t.locate s = some l)
    (hdir : t.kindAt l = some .directory)
    (hl' : t.locate ((Path.ofText s).join n).toText = some l') :
    l' = l ++ [Utf8.nameForm n] := by
  have hnparts : Path.partsOf n = [n] := congrArg Path.parts hn
  have hnok : Path.PartOk n := Path.partOk_of_mem_partsOf (by rw [hnparts]; simp)
  have hpeq : (Path.ofText s).join n = ⟨Path.rootOf s, Path.partsOf s ++ [n]⟩ := by
    rw [Path.join_of_relative (by rw [hn]), hn]
    rfl
  have hpartsOk : ∀ q ∈ Path.partsOf s ++ [n], Path.PartOk q := by
    intro q hq
    rcases List.mem_append.mp hq with hq | hq
    · exact Path.partOk_of_mem_partsOf hq
    · rw [List.mem_singleton.mp hq]
      exact hnok
  rw [hpeq] at hl'
  simp only [locate] at hl hl'
  rcases hs : partsOf s with c | ⟨start, raw, d⟩
  · rw [hs] at hl
    cases hl
  rcases hj : partsOf (Path.toText ⟨Path.rootOf s, Path.partsOf s ++ [n]⟩) with
    c | ⟨start', parts', d'⟩
  · rw [hj] at hl'
    cases hl'
  rw [hs] at hl
  rw [hj] at hl'
  have hw : t.walkParts start raw = .ok l := Except.eq_ok_of_toOption hl
  have hw' : t.walkParts start' parts' = .ok l' := Except.eq_ok_of_toOption hl'
  obtain ⟨hstart', hparts'⟩ :=
    partsOf_toText (Path.rootOk_rootOf s) hpartsOk (by simp) hj
  obtain ⟨-, -, hr⟩ := partsOf_eq_ok hs
  simp only [Prod.mk.injEq] at hr
  -- both start where the text of `s` starts, and the joined parts are those of `s` then the name
  have hstart : start' = start := by
    simp only at hstart'
    rw [hstart', hr.1, Path.isEmpty_rootOf]
    cases Path.startsAtRoot s <;> rfl
  simp only at hparts'
  rw [hstart, hparts', Path.partsOf_eq_filter, ← hr.2.1, walkParts_append,
    walkParts_filter_dot hw] at hw'
  have hdot : n ≠ Text.ofString "." := hnok.2.1
  simp only [bind, Except.bind, walkParts, hdir, hdot, hup, if_false, Nat.not_lt.mpr hlen] at hw'
  exact (Except.ok.inj hw').symm

end FileTree

end NodeCatalog
