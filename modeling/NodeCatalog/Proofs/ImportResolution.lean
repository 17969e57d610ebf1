import NodeCatalog.Proofs.FileWrites
import NodeCatalog.Node.Schema
/-!
# Resolving version imports

A version import names a file relative to the directory of the node file that imports it. The
candidates are the import's path joined to that directory, as it stands and with `.ts`, `.node.ts`,
`/index.ts` or `/index.node.ts` appended, each normalised as a path object. A candidate is only
asked whether it exists, and a directory exists as well as a file does. So the import resolves to
the first candidate that names a file or a directory, and that may be a directory even when a later
candidate is a file. This is `resolve_import_path` (`src/tools/extract_schemas.py`, lines 24–36).

Looking a path up fails only when the path is too long for the file system. A path whose whole
text and every part are within the limits is answered, never refused (`pathExists_of_short`),
so the import is resolved without fault whenever some candidate names something, or its path
ends with `.ts`.

- `FileTree.Short`: a path within the file system's length limits.
- `FileTree.pathExists_of_short`: looking up a short path answers whether it names something.
- `Schema.importCandidate`, `Schema.firstExisting_of_short`: the candidates, and the first one
  that names something.
- `Schema.resolveImport_first_existing`: **an import resolves to the first candidate that names a
  file or a directory, and to nothing when none does and its path ends with `.ts`.**
-/

namespace NodeCatalog

namespace FileTree

variable {t : FileTree}

/-- A path text the file system takes whole: it has fewer than `pathMax` bytes, and no part of
it more than `nameMax`. -/
def Short (s : Text) : Prop :=
  Utf8.escapedLength s < pathMax ∧ ∀ p ∈ Text.splitOn Path.slash s, Utf8.escapedLength p ≤ nameMax

instance (s : Text) : Decidable (Short s) :=
  inferInstanceAs (Decidable (_ ∧ _))

/-- A walk over parts within the name limit never finds a name too long. -/
theorem walkParts_ne_nameTooLong :
    ∀ (loc parts : List Text), (∀ p ∈ parts, Utf8.escapedLength p ≤ nameMax) →
      t.walkParts loc parts ≠ .error .nameTooLong
  | loc, [], _ => by
    rw [walkParts]
    intro h
    cases h
  | loc, p :: rest, hshort => by
    have hrest : ∀ q ∈ rest, Utf8.escapedLength q ≤ nameMax :=
      fun q hq => hshort q (List.mem_cons_of_mem p hq)
    have hp : ¬ nameMax < Utf8.escapedLength p := Nat.not_lt.mpr (hshort p List.mem_cons_self)
    rw [walkParts]
    split
    · -- in a directory: `.` and `..` move without a lookup, any other part is looked up
      split_ifs
      · exact walkParts_ne_nameTooLong loc rest hrest
      · exact walkParts_ne_nameTooLong loc.dropLast rest hrest
      · exact walkParts_ne_nameTooLong _ rest hrest
    · intro h
      cases h
    · intro h
      cases h

/-- Splitting a path text gives the parts a walk looks up. -/
theorem partsOf_error {s : Text} {c : FileCause} (h : partsOf s = .error c) :
    c = .missing ∨ (c = .nameTooLong ∧ pathMax ≤ Utf8.escapedLength s) := by
  simp only [partsOf] at h
  by_cases hem : s.isEmpty = true
  · simp only [hem, if_true] at h
    cases h
    exact .inl rfl
  · by_cases hlong : pathMax ≤ Utf8.escapedLength s
    · simp only [hem, hlong, if_true] at h
      cases h
      exact .inr ⟨rfl, hlong⟩
    · simp [hem, hlong, pure, Except.pure] at h

/-- A short path resolves, or fails for a reason other than its length. -/
theorem resolve_ne_nameTooLong {s : Text} (hs : Short s) : t.resolve s ≠ .error .nameTooLong := by
  intro h
  simp only [resolve] at h
  rcases Except.bind_eq_error.mp h with hparts | ⟨⟨start, parts, dirOnly⟩, hparts, hrest⟩
  · rcases partsOf_error hparts with hc | ⟨-, hlong⟩
    · cases hc
    · exact absurd hs.1 (Nat.not_lt.mpr hlong)
  · -- the walk looks up only parts of the text, all within the name limit
    obtain ⟨-, -, hr⟩ := partsOf_eq_ok hparts
    simp only [Prod.mk.injEq] at hr
    obtain ⟨-, rfl, -⟩ := hr
    have hwalk := walkParts_ne_nameTooLong (t := t) start
      ((Text.splitOn Path.slash s).filter (· ≠ [])) (fun p hp => hs.2 p (List.mem_filter.mp hp).1)
    rcases Except.bind_eq_error.mp hrest with hw | ⟨loc, -, hk⟩
    · exact hwalk hw
    · split at hk
      · split at hk
        · cases hk
        · cases hk
      · cases hk
      · cases hk

/-- **Looking up a short path** answers, without fault, whether it names a file or a
directory. -/
theorem pathExists_of_short {s : Text} (hs : Short s) :
    t.pathExists s = .ok (t.kindOf s).isSome := by
  cases hb : pathBytes s with
  | error e => simp [pathExists, kindOf, hb]
  | ok bs =>
    cases hr : t.resolve s with
    | ok r =>
      obtain ⟨loc, k⟩ := r
      simp [pathExists, kindOf, hb, hr]
    | error c =>
      -- a short path fails to resolve only for a reason other than its length
      have hc : c ≠ .nameTooLong := fun e => resolve_ne_nameTooLong hs (e ▸ hr)
      cases c <;> simp_all [pathExists, kindOf]

end FileTree

namespace Schema

variable {t : FileTree}

/-- The first of some short paths that exists is the first that names a file or a
directory. -/
theorem firstExisting_of_short {ps : List Text} (hshort : ∀ p ∈ ps, FileTree.Short p) :
    firstExisting t ps = .ok (ps.find? fun p => (t.kindOf p).isSome) := by
  induction ps with
  | nil => rfl
  | cons q qs ih =>
    have hrest := ih fun r hr => hshort r (List.mem_cons_of_mem q hr)
    simp only [firstExisting, bind, Except.bind,
      FileTree.pathExists_of_short (hshort q List.mem_cons_self)]
    by_cases hq : (t.kindOf q).isSome = true
    · rw [if_pos hq, List.find?_cons_of_pos (p := fun r => (t.kindOf r).isSome) hq]
      rfl
    · rw [if_neg hq, List.find?_cons_of_neg (p := fun r => (t.kindOf r).isSome) hq, hrest]

/-- The candidate an import path gives with a suffix: the import joined to the directory of the
importing file, the suffix appended, and the whole normalised as a path object. -/
def importCandidate (baseFile importPath e : Text) : Text :=
  Path.normalize (((Path.ofText baseFile).parent.join importPath).toText ++ e)

/-- Resolving an import looks its candidates up in order, and acts on what the search finds. -/
theorem resolveImport_eq_bind (t : FileTree) (baseFile importPath : Text) :
    resolveImport t baseFile importPath =
      (firstExisting t (importSuffixes.map (importCandidate baseFile importPath))).bind
        fun found => found.elim
          (if importPath.endsWith ".ts" then .ok none else .error .flagNotIterable)
          fun p => .ok (some p) := by
  simp only [resolveImport, bind]
  congr 1
  funext found
  cases found <;> rfl

/-- **Resolving a version import.** When every candidate is short enough to look up, the import
resolves to the first candidate that names a file or a directory; when none names anything and
the import path ends with `.ts`, to nothing. A directory stops the search as a file does. -/
theorem resolveImport_first_existing (t : FileTree) (baseFile importPath : Text)
    (hshort : ∀ e ∈ importSuffixes, FileTree.Short (importCandidate baseFile importPath e)) :
    (∀ p, ((importSuffixes.map (importCandidate baseFile importPath)).find?
        fun p => (t.kindOf p).isSome) = some p →
      resolveImport t baseFile importPath = .ok (some p)) ∧
    (((importSuffixes.map (importCandidate baseFile importPath)).find?
        fun p => (t.kindOf p).isSome) = none →
      importPath.endsWith ".ts" = true → resolveImport t baseFile importPath = .ok none) := by
  have hcands : ∀ p ∈ importSuffixes.map (importCandidate baseFile importPath),
      FileTree.Short p := by
    intro p hp
    obtain ⟨e, he, rfl⟩ := List.mem_map.mp hp
    exact hshort e he
  have hfirst := firstExisting_of_short (t := t) hcands
  have hresolve := resolveImport_eq_bind t baseFile importPath
  refine ⟨fun p hp => ?_, fun hnone hts => ?_⟩
  · rw [hresolve, hfirst, hp]
    rfl
  · rw [hresolve, hfirst, hnone]
    simp [Except.bind, hts]

/-- An import of `./v1` from `a.node.ts`, where `v1.ts` is a file: every candidate is short, and
the import resolves to `v1.ts`, the first candidate that names something. -/
theorem resolveImport_of_file_candidate :
    let t : FileTree := { files := [(["a.node.ts"], []), (["v1.ts"], [])] }
    (∀ e ∈ importSuffixes, FileTree.Short (importCandidate "a.node.ts" "./v1" e)) ∧
      resolveImport t "a.node.ts" "./v1" = .ok (some "v1.ts") := by
  intro t
  have hshort : ∀ e ∈ importSuffixes, FileTree.Short (importCandidate "a.node.ts" "./v1" e) := by
    decide +kernel
  refine ⟨hshort, (resolveImport_first_existing t "a.node.ts" "./v1" hshort).1 _ ?_⟩
  decide +kernel

/-- A directory `v1` beside a file `v1.ts`: the import of `./v1` resolves to the directory, not
to the file. -/
theorem resolveImport_stops_at_directory :
    let t : FileTree := { files := [(["a.node.ts"], []), (["v1.ts"], [])], dirs := [["v1"]] }
    resolveImport t "a.node.ts" "./v1" = .ok (some "v1") ∧
      t.kindOf "v1" = some .directory ∧ t.kindOf "v1.ts" = some .file := by
  intro t
  exact ⟨Except.eq_ok_of_toOption (by decide +kernel), by decide +kernel, by decide +kernel⟩

end Schema

end NodeCatalog
