import NodeCatalog.Proofs.JsonWriting
/-!
# Files written one after the other

A run of the catalog writes its documents one file after another, each into a file emptied first and
filled piece by piece. So it is not all or nothing: a fault stops the run once the file being
written holds the pieces before the fault. What can be said instead is an order. The writes are
those of `run_doc_extraction` (`src/tools/extract_docs.py`, lines 113–123) and of `main`
(`src/main.py`, lines 6–36).

- `Run.WritesOnly`: an operation changes the tree only at some files; every path leads where
  it led, and a path apart from those files (`FileTree.Apart`) names what it named.
- `Run.WritesInOrder`: how a run writing files in order ends: returning normally with every
  file left or written whole (`Run.KeptOrWhole`), or stopping at one file, those before it left
  or whole, that one left or holding what was written of it (`Run.KeptOrStarted`), and those
  after it untouched.
- `Run.writeJson_inOrder`: writing one document ends in that way.
- `Run.WritesInOrder.bind`: **two runs that write files in order, chained, write the files of
  both in order**, when each leaves the other's files alone.
-/

namespace NodeCatalog

namespace FileTree

variable {t : FileTree}

/-- Making a directory where one is changes nothing. -/
theorem makeDir_of_kindOf {s : Text} (h : t.kindOf s = some .directory) : t.makeDir s = .ok t := by
  simp only [kindOf] at h
  split at h
  · next hb hr =>
    cases h
    simp [makeDir, hb, hr, bind, Except.bind]
  · cases h

/-- Two paths that do not lead to one place: where one leads, the other does not. -/
def Apart (t : FileTree) (p q : Text) : Prop :=
  ∀ l, t.locate p = some l → t.locate q ≠ some l

theorem Apart.symm {p q : Text} (h : t.Apart p q) : t.Apart q p :=
  fun l hq hp => h l hp hq

end FileTree

namespace Run

variable {α β : Type}

/-- Looking a path up stops with the fault of a lookup that fails, and changes nothing. -/
theorem exec_exists_error {path : Text} {s : Session} {f : Fault}
    (h : s.tree.pathExists path = .error f) : exec (Run.exists path) s = (.error f, s) := by
  simp only [Run.exists]
  rw [exec_bind_ok (exec_tree s), h]
  rfl

/-- Making a directory the file system accepts replaces the tree. -/
theorem exec_makeDir_ok {path : Text} {s : Session} {t : FileTree}
    (h : s.tree.makeDir path = .ok t) : exec (makeDir path) s = (.ok (), { s with tree := t }) := by
  simp only [makeDir]
  rw [exec_bind_ok (exec_tree s), h]
  rfl

/-- Making a directory the file system refuses stops with its fault, and changes nothing. -/
theorem exec_makeDir_error {path : Text} {s : Session} {f : Fault}
    (h : s.tree.makeDir path = .error f) : exec (makeDir path) s = (.error f, s) := by
  simp only [makeDir]
  rw [exec_bind_ok (exec_tree s), h]
  rfl

/-! ## Operations that write only some files -/

/-- An operation that changes the tree only at the files the paths `ps` lead to: after it every
path leads where it led, and a path leading to none of those places names what it named and
the file it named. -/
def WritesOnly (op : Run α) (ps : List Text) : Prop :=
  ∀ s, (∀ q, (exec op s).2.tree.locate q = s.tree.locate q) ∧
    ∀ q, (∀ p ∈ ps, s.tree.Apart p q) →
      (exec op s).2.tree.kindOf q = s.tree.kindOf q ∧
        (exec op s).2.tree.fileAt q = s.tree.fileAt q

/-- An operation that keeps the tree writes nothing. -/
theorem WritesOnly.of_tree {op : Run α} (h : ∀ s, (exec op s).2.tree = s.tree) (ps : List Text) :
    WritesOnly op ps := by
  intro s
  rw [h s]
  exact ⟨fun _ => rfl, fun _ _ => ⟨rfl, rfl⟩⟩

theorem WritesOnly.mono {op : Run α} {ps qs : List Text} (h : WritesOnly op ps)
    (hsub : ∀ p ∈ ps, p ∈ qs) : WritesOnly op qs := by
  intro s
  exact ⟨(h s).1, fun q hq => (h s).2 q fun p hp => hq p (hsub p hp)⟩

/-- Chaining two operations writes what either part writes: the second part starts where every
path leads where it led. -/
theorem WritesOnly.bind {x : Run α} {f : α → Run β} {ps qs : List Text} (hx : WritesOnly x ps)
    (hf : ∀ a, WritesOnly (f a) qs) : WritesOnly (x >>= f) (ps ++ qs) := by
  intro s
  obtain ⟨hloc, hkept⟩ := hx s
  rcases hr : exec x s with ⟨_ | a, s'⟩
  · rw [exec_bind_error hr]
    rw [hr] at hloc hkept
    exact ⟨hloc, fun q hq => hkept q fun p hp => hq p (List.mem_append_left qs hp)⟩
  · rw [exec_bind_ok hr]
    rw [hr] at hloc hkept
    obtain ⟨hloc', hkept'⟩ := hf a s'
    refine ⟨fun q => (hloc' q).trans (hloc q), fun q hq => ?_⟩
    obtain ⟨hk, hb⟩ := hkept q fun p hp => hq p (List.mem_append_left qs hp)
    obtain ⟨hk', hb'⟩ := hkept' q fun p hp l => by
      rw [hloc, hloc]
      exact hq p (List.mem_append_right ps hp) l
    exact ⟨hk'.trans hk, hb'.trans hb⟩

/-- Writing bytes writes only the file the path leads to. -/
theorem writesOnly_writeBytes (path : Text) (bs : List UInt8) :
    WritesOnly (writeBytes path bs) [path] := by
  intro s
  rcases hw : s.tree.write path bs with f | t'
  · rw [exec_writeBytes_error hw]
    exact ⟨fun _ => rfl, fun _ _ => ⟨rfl, rfl⟩⟩
  · rw [exec_writeBytes_ok hw]
    refine ⟨FileTree.locate_write hw, fun q hq => ?_⟩
    -- the path written leads somewhere, and the other path does not lead there
    obtain ⟨l, hl⟩ := FileTree.locate_of_write hw
    have hne : s.tree.locate q ≠ s.tree.locate path := hl ▸ hq path List.mem_cons_self l hl
    exact ⟨FileTree.kindOf_write_of_locate_ne hw hne, FileTree.fileAt_write_of_locate_ne hw hne⟩

/-- Writing a value's document writes only the file the path leads to. -/
theorem writesOnly_writeJson (path : Text) (v : Value) : WritesOnly (writeJson path v) [path] := by
  simp only [writeJson]
  refine (WritesOnly.bind (writesOnly_writeBytes path []) fun _ =>
    WritesOnly.bind (writesOnly_writeBytes path _) fun _ => WritesOnly.of_tree ?_ []).mono ?_
  · intro s
    split <;> rfl
  · simp

/-! ## Files written one after the other -/

/-- A file a run leaves as it was, or holding a document written whole. -/
def KeptOrWhole (before after : FileTree) (f : Text) : Prop :=
  after.fileAt f = before.fileAt f ∨ ∃ v, Json.whole v = true ∧ after.fileAt f = some (jsonBytes v)

/-- A file a run leaves as it was, or holding what was written of a document: the whole of it,
or the part before a fault. -/
def KeptOrStarted (before after : FileTree) (f : Text) : Prop :=
  after.fileAt f = before.fileAt f ∨ ∃ v, after.fileAt f = some (jsonBytes v)

theorem KeptOrWhole.congr {before before' after after' : FileTree} {f : Text}
    (h : KeptOrWhole before after f) (hb : before'.fileAt f = before.fileAt f)
    (ha : after'.fileAt f = after.fileAt f) : KeptOrWhole before' after' f := by
  unfold KeptOrWhole at h ⊢
  rwa [ha, hb]

theorem KeptOrStarted.congr {before before' after after' : FileTree} {f : Text}
    (h : KeptOrStarted before after f) (hb : before'.fileAt f = before.fileAt f)
    (ha : after'.fileAt f = after.fileAt f) : KeptOrStarted before' after' f := by
  unfold KeptOrStarted at h ⊢
  rwa [ha, hb]

/-- How a run that writes the files `fs` one after the other ends, from tree `before` to the
outcome `r`: it returns normally with each file left as it was or written whole; or it stops at
one of them, the files before it left or written whole, that file left or holding what was
written of its document, and the files after it as they were. -/
def WritesInOrder (fs : List Text) (before : FileTree) (r : Except Fault Unit × Session) : Prop :=
  (r.1 = .ok () ∧ ∀ f ∈ fs, KeptOrWhole before r.2.tree f) ∨
    (r.1 ≠ .ok () ∧ ∃ pre f post, fs = pre ++ f :: post ∧
      (∀ g ∈ pre, KeptOrWhole before r.2.tree g) ∧ KeptOrStarted before r.2.tree f ∧
      ∀ g ∈ post, r.2.tree.fileAt g = before.fileAt g)

/-- Files written in order from one tree are written in order from any tree where they were the
same. -/
theorem WritesInOrder.congr {fs : List Text} {before before' : FileTree}
    {r : Except Fault Unit × Session} (h : WritesInOrder fs before r)
    (hb : ∀ f ∈ fs, before'.fileAt f = before.fileAt f) : WritesInOrder fs before' r := by
  rcases h with ⟨hok, hall⟩ | ⟨hne, pre, g, post, rfl, hpre, hg, hpost⟩
  · exact .inl ⟨hok, fun f hf => (hall f hf).congr (hb f hf) rfl⟩
  · refine .inr ⟨hne, pre, g, post, rfl, fun f hf => (hpre f hf).congr (hb f (by simp [hf])) rfl,
      hg.congr (hb g (by simp)) rfl, fun f hf => (hpost f hf).trans (hb f (by simp [hf])).symm⟩

/-- Writing a value's document into a file: the file is left as it was when it cannot be
opened, and otherwise holds what was written of the document, the run returning normally
exactly when that is the whole of it. -/
theorem writeJson_inOrder (path : Text) (v : Value) (s : Session) :
    WritesInOrder [path] s.tree (exec (writeJson path v) s) := by
  rcases hw₀ : s.tree.write path [] with f | t₀
  · -- the file cannot be opened: nothing changes
    rw [exec_writeJson_error hw₀ s rfl]
    exact .inr ⟨by simp, [], path, [], rfl, by simp, .inl rfl, by simp⟩
  obtain ⟨t₁, hw₁, hrun⟩ := @exec_writeJson_ok path v s.tree t₀ hw₀
  have hfile : t₁.fileAt path = some (jsonBytes v) := FileTree.fileAt_write_self hw₁
  rw [hrun s rfl]
  by_cases hwhole : Json.whole v = true
  · exact .inl ⟨(jsonResult_eq_ok v).mpr hwhole, by simpa using .inr ⟨v, hwhole, hfile⟩⟩
  · refine .inr ⟨fun h => hwhole ((jsonResult_eq_ok v).mp h), [], path, [], rfl, by simp,
      .inr ⟨v, hfile⟩, by simp⟩

/-- Chaining two runs that write files in order writes them in order, the first part's files
before the second's: the second part starts once the first returned normally, and each part
leaves the other's files alone. -/
theorem WritesInOrder.bind {x : Run Unit} {f : Unit → Run Unit} {ps qs : List Text} {s : Session}
    (hx : WritesInOrder ps s.tree (exec x s)) (hxw : WritesOnly x ps) (hfw : WritesOnly (f ()) qs)
    (hf : ∀ s', exec x s = (.ok (), s') → WritesInOrder qs s'.tree (exec (f ()) s'))
    (hapart : ∀ p ∈ ps, ∀ q ∈ qs, s.tree.Apart p q) :
    WritesInOrder (ps ++ qs) s.tree (exec (x >>= f) s) := by
  obtain ⟨hloc, hkept⟩ := hxw s
  rcases hr : exec x s with ⟨_ | ⟨⟩, s'⟩
  · -- the first part stops: the second part's files are as they were
    rw [exec_bind_error hr]
    rw [hr] at hx hloc hkept
    rcases hx with ⟨hok, -⟩ | ⟨hne, pre, g, post, rfl, hpre, hg, hpost⟩
    · cases hok
    refine .inr ⟨hne, pre, g, post ++ qs, by simp, hpre, hg, fun q hq => ?_⟩
    rcases List.mem_append.mp hq with hq | hq
    · exact hpost q hq
    · exact (hkept q fun p hp => hapart p hp q hq).2
  · rw [exec_bind_ok hr]
    rw [hr] at hx hloc hkept
    rcases hx with ⟨-, hps⟩ | ⟨hne, -⟩
    swap
    · exact absurd rfl hne
    obtain ⟨-, hkept'⟩ := hfw s'
    -- the first part's files are left alone by the second, which starts where they stand
    have hpsKept : ∀ p ∈ ps, (exec (f ()) s').2.tree.fileAt p = s'.tree.fileAt p := fun p hp =>
      (hkept' p fun q hq l => by rw [hloc, hloc]; exact (hapart p hp q hq).symm l).2
    have hqsKept : ∀ q ∈ qs, s'.tree.fileAt q = s.tree.fileAt q := fun q hq =>
      (hkept q fun p hp => hapart p hp q hq).2
    rcases hf s' hr with ⟨hok, hqs⟩ | ⟨hne, pre, g, post, rfl, hpre, hg, hpost⟩
    · refine .inl ⟨hok, fun g hg => ?_⟩
      rcases List.mem_append.mp hg with hg | hg
      · exact (hps g hg).congr rfl (hpsKept g hg)
      · exact (hqs g hg).congr (hqsKept g hg).symm rfl
    · refine .inr ⟨hne, ps ++ pre, g, post, by simp, fun h hh => ?_, ?_, fun h hh => ?_⟩
      · rcases List.mem_append.mp hh with hh | hh
        · exact (hps h hh).congr rfl (hpsKept h hh)
        · exact (hpre h hh).congr (hqsKept h (by simp [hh])).symm rfl
      · exact hg.congr (hqsKept g (by simp)).symm rfl
      · exact (hpost h hh).trans (hqsKept h (by simp [hh]))

end Run

end NodeCatalog
