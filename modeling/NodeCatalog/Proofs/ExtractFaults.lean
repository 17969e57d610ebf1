import NodeCatalog.Proofs.ImportResolution
/-!
# The faults of a node's extraction

Extracting a node's schema (`deep_extract_node_info`, `src/tools/extract_schemas.py`, lines
230–291) reads its source and the version files it imports, and most of what it does cannot
fail: a file that cannot be read counts as empty, and a pattern that finds nothing leaves a field
as it was. Two steps can stop it, and this module says exactly when they do.

Resolving the version imports in order (`resolve_import_path`, lines 24–36) stops at the
first import that fails: a candidate of it, the candidates before that one naming nothing, is
too long to look up; or none of its candidates names anything and its path, not ending with
`.ts`, sends the fallback loop over a truth value. Once every import is resolved, reading the
properties of the source and the imported files (`parse_property_block`, lines 146–200) stops
at the first block it reads whose `typeOptions` hold a bound with more digits than the limit.
The blocks it reads are those whose first quoted name is not empty and not yet remembered
(`Property.readBlocks`).

Each fault is a predicate that names what caused it, and each step is characterised both ways.

- `Schema.ImportFault`, `Schema.resolveImport_error_iff`: how resolving one import fails.
- `Schema.combined_error_iff`: resolving the imports fails at the first import that fails.
- `Property.BoundFault`, `Property.ofBlock_error_iff`: how reading one block fails.
- `Property.collect_error_iff`: reading the properties fails at the first block read that fails.
- `Schema.ExtractFault`, `Schema.extract_error_iff`: **a node's extraction fails exactly in
  those ways, with the candidate or the bound that caused it.**
-/

namespace NodeCatalog

/-- A list split at an element that satisfies `Q`, every element before it satisfying `P`:
either the head satisfies `Q`, or it satisfies `P` and the split lies in the tail. -/
theorem exists_split_cons {α : Type} {P Q : α → Prop} {a : α} {l : List α} :
    (∃ pre x post, a :: l = pre ++ x :: post ∧ (∀ y ∈ pre, P y) ∧ Q x) ↔
      Q a ∨ (P a ∧ ∃ pre x post, l = pre ++ x :: post ∧ (∀ y ∈ pre, P y) ∧ Q x) := by
  constructor
  · rintro ⟨pre, x, post, h, hpre, hx⟩
    cases pre with
    | nil =>
      obtain ⟨rfl, -⟩ := List.cons.inj h
      exact .inl hx
    | cons y pre =>
      obtain ⟨rfl, rfl⟩ := List.cons.inj h
      exact .inr ⟨hpre a List.mem_cons_self, pre, x, post, rfl,
        fun z hz => hpre z (List.mem_cons_of_mem a hz), hx⟩
  · rintro (ha | ⟨ha, pre, x, post, rfl, hpre, hx⟩)
    · exact ⟨[], a, l, rfl, by simp, ha⟩
    · refine ⟨a :: pre, x, post, rfl, fun y hy => ?_, hx⟩
      rcases List.mem_cons.mp hy with rfl | hy
      · exact ha
      · exact hpre y hy

/-- A fold whose step fails on an element exactly when the element has a fault, whatever the
fold carries, fails at the first element with a fault, the elements before it having none. -/
theorem foldlM_error_iff {α β ε : Type} {g : β → α → Except ε β} {F : α → ε → Prop}
    (hg : ∀ b a e, g b a = .error e ↔ F a e) {l : List α} {b : β} {f : ε} :
    l.foldlM g b = .error f ↔
      ∃ pre x post, l = pre ++ x :: post ∧ (∀ y ∈ pre, ∀ e, ¬F y e) ∧ F x f := by
  induction l generalizing b with
  | nil => simp [pure, Except.pure]
  | cons a l ih =>
    rw [List.foldlM_cons, exists_split_cons]
    simp only [← hg b a]
    -- the step on the head fails, and so does the fold; or it passes and the tail decides
    rcases g b a with e | b'
    · simp [bind, Except.bind]
    · simp only [bind, Except.bind, reduceCtorEq, false_or, not_false_eq_true, implies_true,
        true_and]
      exact ih

namespace FileTree

/-- Looking a path up fails only when the path is too long for the file system. -/
theorem pathExists_error {t : FileTree} {s : Text} {f : Fault} (h : t.pathExists s = .error f) :
    f = .fileSystem .nameTooLong s := by
  unfold pathExists at h
  split at h
  · cases h
  · split at h
    · cases h
    · cases h
      rfl
    · cases h

end FileTree

namespace Schema

variable {t : FileTree}

/-! ## Resolving the imports -/

/-- Looking for the first existing path fails at a path that fails to be looked up, the paths
before it naming nothing. -/
theorem firstExisting_error_iff {ps : List Text} {f : Fault} :
    firstExisting t ps = .error f ↔
      ∃ pre q post, ps = pre ++ q :: post ∧ (∀ r ∈ pre, t.pathExists r = .ok false) ∧
        t.pathExists q = .error f := by
  induction ps with
  | nil => simp [firstExisting]
  | cons p ps ih =>
    rw [exists_split_cons, ← ih]
    simp only [firstExisting, bind, Except.bind]
    -- the first path fails, names nothing and the search goes on, or names something
    rcases t.pathExists p with e | _ | _ <;> simp [pure, Except.pure]

/-- The path the search fails at is one too long, and the fault names it. -/
theorem firstExisting_error_iff_long {ps : List Text} {f : Fault} :
    firstExisting t ps = .error f ↔
      ∃ pre q post, ps = pre ++ q :: post ∧ (∀ r ∈ pre, t.pathExists r = .ok false) ∧
        t.pathExists q = .error (.fileSystem .nameTooLong q) ∧
        f = .fileSystem .nameTooLong q := by
  rw [firstExisting_error_iff]
  constructor
  · rintro ⟨pre, q, post, hps, hpre, hq⟩
    obtain rfl := FileTree.pathExists_error hq
    exact ⟨pre, q, post, hps, hpre, hq, rfl⟩
  · rintro ⟨pre, q, post, hps, hpre, hq, rfl⟩
    exact ⟨pre, q, post, hps, hpre, hq⟩

/-- Looking for the first existing path finds none exactly when every path names nothing. -/
theorem firstExisting_none_iff {ps : List Text} :
    firstExisting t ps = .ok none ↔ ∀ q ∈ ps, t.pathExists q = .ok false := by
  induction ps with
  | nil => simp [firstExisting]
  | cons p ps ih =>
    simp only [firstExisting, bind, Except.bind, List.mem_cons, forall_eq_or_imp]
    rcases t.pathExists p with e | _ | _
    · simp
    · simpa using ih
    · simp [pure, Except.pure]

/-- How resolving a version import fails: a candidate of it, the candidates before that one
naming nothing, is too long to look up; or none of its candidates names anything and its path,
not ending with `.ts`, sends the fallback over a truth value. -/
def ImportFault (t : FileTree) (file imp : Text) (f : Fault) : Prop :=
  (∃ pre q post, importSuffixes.map (importCandidate file imp) = pre ++ q :: post ∧
      (∀ r ∈ pre, t.pathExists r = .ok false) ∧
      t.pathExists q = .error (.fileSystem .nameTooLong q) ∧ f = .fileSystem .nameTooLong q) ∨
    ((∀ q ∈ importSuffixes.map (importCandidate file imp), t.pathExists q = .ok false) ∧
      imp.endsWith ".ts" = false ∧ f = .flagNotIterable)

/-- **Resolving an import fails exactly in its two ways.** -/
theorem resolveImport_error_iff {file imp : Text} {f : Fault} :
    resolveImport t file imp = .error f ↔ ImportFault t file imp f := by
  rw [ImportFault, ← firstExisting_error_iff_long, ← firstExisting_none_iff,
    resolveImport_eq_bind]
  -- the search fails on a long candidate, finds nothing and the path decides, or finds one
  rcases firstExisting t (importSuffixes.map (importCandidate file imp)) with e | _ | p
  · simp [Except.bind]
  · cases imp.endsWith ".ts" <;> simp [Except.bind, eq_comm]
  · simp [Except.bind]

/-- **Resolving the imports fails at the first import that fails**, the imports before it
resolving. -/
theorem combined_error_iff {file content : Text} {f : Fault} :
    combined t file content = .error f ↔
      ∃ pre imp post, Versions.imports content = pre ++ imp :: post ∧
        (∀ i ∈ pre, ∀ g, ¬ImportFault t file i g) ∧ ImportFault t file imp f := by
  refine foldlM_error_iff fun acc imp e => ?_
  rw [← resolveImport_error_iff]
  -- a resolved import is read or skipped, which cannot fail
  rcases resolveImport t file imp with e' | _ | p
  · simp [bind, Except.bind]
  · simp [bind, Except.bind, pure, Except.pure]
  · simp only [bind, Except.bind, reduceCtorEq, iff_false]
    rcases t.readText p with _ | text
    · simp [pure, Except.pure]
    · dsimp only
      split <;> simp [pure, Except.pure]

end Schema

/-! ## Reading the bounds -/

namespace TypeOptions

/-- The digits of a bound of a `typeOptions` body, when the body has that bound. -/
def boundDigits (name : String) (body : Text) : Option (List Char) :=
  ((bound name).search body).map fun m => (m.groupD 1).filterMap Point.char?

/-- A bound of a `typeOptions` body with more digits than the limit, the fault counting them. -/
def Overflows (name : String) (body : Text) (f : Fault) : Prop :=
  ∃ ds, boundDigits name body = some ds ∧ Decimal.digitLimit < ds.length ∧
    f = .tooManyDigits ds.length

/-- A bound of a `typeOptions` body that is absent or within the limit. -/
def Within (name : String) (body : Text) : Prop :=
  ∀ ds, boundDigits name body = some ds → ds.length ≤ Decimal.digitLimit

/-- A bound is within the limit exactly when it does not overflow, whatever the fault. -/
theorem within_iff {name : String} {body : Text} :
    Within name body ↔ ∀ f, ¬Overflows name body f := by
  constructor
  · rintro h f ⟨ds, hds, hlt, -⟩
    exact absurd (h ds hds) (Nat.not_le.mpr hlt)
  · intro h ds hds
    by_contra hlt
    exact h _ ⟨ds, hds, Nat.lt_of_not_le hlt, rfl⟩

/-- Reading a bound fails exactly when it has more digits than the limit. -/
theorem readBound_error_iff {name : String} {body : Text} {f : Fault} :
    readBound name body = .error f ↔ Overflows name body f := by
  unfold readBound Overflows boundDigits
  rcases (bound name).search body with _ | m
  · simp
  · by_cases h : Decimal.digitLimit < ((m.groupD 1).filterMap Point.char?).length
    · simp [Decimal.readNat, h, eq_comm]
    · simp [Decimal.readNat, h]

/-- Reading the bounds fails on the lower one, or on the upper one once the lower one is read. -/
theorem ofBody_error_iff {body : Text} {f : Fault} :
    ofBody body = .error f ↔
      Overflows "minValue" body f ∨ (Within "minValue" body ∧ Overflows "maxValue" body f) := by
  simp only [within_iff, ← readBound_error_iff]
  simp only [ofBody, bind, Except.bind]
  rcases readBound "minValue" body with e | lo
  · simp
  · rcases readBound "maxValue" body with e | hi <;> simp [pure, Except.pure]

end TypeOptions

/-! ## Reading the property blocks -/

namespace Property

/-- How reading a property block fails: the body of its `typeOptions` holds a `minValue` with
more digits than the limit, or a `maxValue` does while its `minValue` is absent or within the
limit. -/
def BoundFault (block : Text) (f : Fault) : Prop :=
  ∃ m, typeOptionsPattern.search block = some m ∧
    (TypeOptions.Overflows "minValue" (m.groupD 1) f ∨
      (TypeOptions.Within "minValue" (m.groupD 1) ∧
        TypeOptions.Overflows "maxValue" (m.groupD 1) f))

/-- **Reading a property block fails exactly on a bound too long.** -/
theorem ofBlock_error_iff {block : Text} {f : Fault} :
    ofBlock block = .error f ↔ BoundFault block f := by
  unfold BoundFault
  simp only [← TypeOptions.ofBody_error_iff]
  simp only [ofBlock, bind, Except.bind]
  rcases typeOptionsPattern.search block with _ | m
  · simp [pure, Except.pure]
  · dsimp only
    rcases h : TypeOptions.ofBody (m.groupD 1) with e | o <;> simp [h, pure, Except.pure]

/-- The names remembered once a block is read: its property's own name is added when it is
there and not empty. -/
def remember (seen : List Text) : Except Fault (Option Property) → List Text
  | .ok (some p) =>
    match p.name with
    | some n => if n.isEmpty then seen else n :: seen
    | none => seen
  | _ => seen

/-- The blocks the step over property blocks reads, in order: each whose first quoted name is
not empty and not yet remembered. -/
def readBlocks (seen : List Text) : List Match → List Text
  | [] => []
  | m :: ms =>
    match firstNamePattern.search m.text with
    | none => readBlocks seen ms
    | some nm =>
      if (nm.groupD 1).isEmpty || seen.contains (nm.groupD 1) then readBlocks seen ms
      else m.text :: readBlocks (remember seen (ofBlock m.text)) ms

/-- **The step over property blocks fails at the first block it reads that fails.** The
induction follows the blocks, with the remembered names and the kept properties generalised. -/
theorem collect_error_iff {seen : List Text} {acc : List Property} {ms : List Match}
    {f : Fault} :
    collect seen acc ms = .error f ↔
      ∃ pre b post, readBlocks seen ms = pre ++ b :: post ∧
        (∀ c ∈ pre, ∀ g, ¬BoundFault c g) ∧ BoundFault b f := by
  induction ms generalizing seen acc with
  | nil => simp [collect, readBlocks]
  | cons m ms ih =>
    simp only [collect, readBlocks]
    rcases firstNamePattern.search m.text with _ | nm
    · exact ih
    · by_cases hskip : ((nm.groupD 1).isEmpty || seen.contains (nm.groupD 1)) = true
      · simp only [hskip, if_true]
        exact ih
      · -- the block is read: it fails, or the step goes on with what it remembers
        simp only [hskip, Bool.false_eq_true, if_false, exists_split_cons,
          ← @ofBlock_error_iff m.text]
        rcases ofBlock m.text with e | o
        · simp
        simp only [reduceCtorEq, false_or, not_false_eq_true, implies_true, true_and]
        -- the block gives a property or none, and the step goes on with what it remembers
        rcases o with _ | p
        · exact ih
        simp only [remember]
        rcases p.name with _ | n
        · exact ih
        by_cases hn : n.isEmpty = true
        · simp only [hn, if_true]
          exact ih
        · simp only [hn, Bool.false_eq_true, if_false]
          exact ih

/-- Reading the properties of a text fails exactly where the step over its blocks fails. -/
theorem ofContent_error_iff {content : Text} {f : Fault} :
    ofContent content = .error f ↔
      ∃ pre b post, readBlocks [] (blockPattern.findAll content) = pre ++ b :: post ∧
        (∀ c ∈ pre, ∀ g, ¬BoundFault c g) ∧ BoundFault b f := by
  rw [← @collect_error_iff [] [] (blockPattern.findAll content) f]
  simp only [ofContent, bind, Except.bind]
  rcases collect [] [] (blockPattern.findAll content) with e | ps
  · exact Iff.rfl
  · dsimp only
    split <;> simp [pure, Except.pure]

end Property

/-! ## The whole extraction -/

namespace Schema

variable {t : FileTree}

/-- How extracting a node's schema fails: resolving a version import of its source fails, the
imports before it resolving; or every import resolves, and a property block read from the
source and the imported files fails on a bound, the blocks read before it not failing. -/
def ExtractFault (t : FileTree) (file : Text) (f : Fault) : Prop :=
  (∃ pre imp post, Versions.imports ((t.readText file).toOption.getD []) = pre ++ imp :: post ∧
      (∀ i ∈ pre, ∀ g, ¬ImportFault t file i g) ∧ ImportFault t file imp f) ∨
    ∃ c, combined t file ((t.readText file).toOption.getD []) = .ok c ∧
      ∃ pre b post,
        Property.readBlocks [] (Property.blockPattern.findAll c) = pre ++ b :: post ∧
        (∀ b' ∈ pre, ∀ g, ¬Property.BoundFault b' g) ∧ Property.BoundFault b f

/-- **Extracting a node's schema fails exactly in the ways `ExtractFault` lists.** -/
theorem extract_error_iff {file : Text} {f : Fault} :
    extract t file = .error f ↔ ExtractFault t file f := by
  rw [ExtractFault, ← combined_error_iff]
  simp only [extract, bind, Except.bind]
  -- the properties are read only from what resolving the imports gives
  rcases combined t file ((t.readText file).toOption.getD []) with e | c
  · simp
  · simp only [reduceCtorEq, false_or, Except.ok.injEq, exists_eq_left']
    rw [← Property.ofContent_error_iff]
    rcases Property.ofContent c with e | ps <;> simp [pure, Except.pure]

end Schema

end NodeCatalog
