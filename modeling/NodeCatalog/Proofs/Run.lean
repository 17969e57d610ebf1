import NodeCatalog.Session
import NodeCatalog.Proofs.Outcome
/-!
# Running operations on a session

An operation on a session either ends with a result or stops with a fault, and in both cases leaves
a session: the file tree and the text printed so far. This module gives each of the session's basic
operations its outcome as an equation, so that later proofs run an extraction step by step without
unfolding the monad. These are the `print`, read and write steps of `src/tools/extract_schemas.py`,
`src/tools/extract_docs.py` and `src/main.py`.

Most of an extraction only reads: it looks at the tree, prints, and goes on. Such an operation
is described once by what it gives and what it prints, both functions of the tree (`Run.Reads`),
and that description is kept by chaining and by running it over a list.

- `Run.exec_bind_ok`, `Run.exec_bind_error`: running a chained operation.
- `Run.Reads`, `Run.Reads.bind`, `Run.Reads.filterMapM`: operations that only read and print.
- `Run.readReported_reads`: reading a file, its failure printed.
- `Run.exec_exists`, `Run.exec_walk`, `Run.exec_writeBytes_ok`, `Run.exec_writeBytes_error`:
  the file-system steps.
-/

namespace NodeCatalog

namespace Run

variable {α β γ : Type}

/-- When the first part of a chained operation ends with a result, the rest runs on it from the
session the first part left. -/
theorem exec_bind_ok {x : Run α} {f : α → Run β} {s s' : Session} {a : α}
    (h : exec x s = (.ok a, s')) : exec (x >>= f) s = exec (f a) s' := by
  simp only [exec, ExceptT.run_bind] at h ⊢
  simp [StateT.run_bind, h]
  rfl

/-- When the first part of a chained operation stops with a fault, so does the whole, in the
session the first part left. -/
theorem exec_bind_error {x : Run α} {f : α → Run β} {s s' : Session} {e : Fault}
    (h : exec x s = (.error e, s')) : exec (x >>= f) s = (.error e, s') := by
  simp only [exec, ExceptT.run_bind] at h ⊢
  simp [StateT.run_bind, h]
  rfl

@[simp] theorem exec_pure (a : α) (s : Session) : exec (pure a : Run α) s = (.ok a, s) := rfl

@[simp] theorem exec_print (line : Text) (s : Session) :
    exec (print line) s = (.ok (), { s with out := s.out ++ line ++ [.char '\n'] }) := rfl

@[simp] theorem exec_tree (s : Session) : exec tree s = (.ok s.tree, s) := rfl

@[simp] theorem exec_fail (f : Fault) (s : Session) : exec (fail f : Run α) s = (.error f, s) :=
  rfl

/-! ## Operations that only read -/

/-- An operation that only reads: it ends with a result, keeps the tree, and prints; what it
gives and what it prints are functions of the tree. -/
def Reads (op : Run α) (result : FileTree → α) (printed : FileTree → Text) : Prop :=
  ∀ s, exec op s = (.ok (result s.tree), { s with out := s.out ++ printed s.tree })

theorem Reads.pure (a : α) : Reads (Pure.pure a : Run α) (fun _ => a) (fun _ => []) := by
  intro s
  simp

/-- Chaining two reading operations reads: the second runs on the first's result, on the same
tree, and the printed texts follow each other. -/
theorem Reads.bind {x : Run α} {f : α → Run β} {rx : FileTree → α} {px : FileTree → Text}
    {rf : α → FileTree → β} {pf : α → FileTree → Text} (hx : Reads x rx px)
    (hf : ∀ a, Reads (f a) (rf a) (pf a)) :
    Reads (x >>= f) (fun t => rf (rx t) t) (fun t => px t ++ pf (rx t) t) := by
  intro s
  rw [exec_bind_ok (hx s), hf]
  simp [List.append_assoc]

/-- Reading along a list and keeping the results given reads: the results are those of the
items in order, and the printed texts follow each other in the same order. -/
theorem Reads.filterMapM {g : γ → Run (Option β)} {r : γ → FileTree → Option β}
    {p : γ → FileTree → Text} (hg : ∀ x, Reads (g x) (r x) (p x)) (xs : List γ) :
    Reads (xs.filterMapM g) (fun t => xs.filterMap (r · t)) (fun t => xs.flatMap (p · t)) := by
  induction xs with
  | nil =>
    intro s
    simp
  | cons x xs ih =>
    intro s
    rw [List.filterMapM_cons, exec_bind_ok (hg x s)]
    cases hx : r x s.tree with
    | none =>
      rw [ih]
      simp [hx, List.append_assoc]
    | some b =>
      simp only
      rw [exec_bind_ok (ih _)]
      simp [hx, List.append_assoc]

/-- What reading a file prints: nothing when it can be read, else its failure line. -/
def readReport (t : FileTree) (path : Text) : Text :=
  match t.readText path with
  | .ok _ => []
  | .error f =>
    Text.ofString "Error reading " ++ path ++ Text.ofString (": " ++ f.message) ++ [.char '\n']

/-- Reading a file with its failure reported gives the file's text, if it can be read. -/
theorem readReported_reads (path : Text) :
    Reads (readReported path) (fun t => (t.readText path).toOption) (readReport · path) := by
  intro s
  simp only [readReported, readReport]
  rw [exec_bind_ok (exec_tree s)]
  cases s.tree.readText path with
  | ok text => simp [Except.toOption]
  | error f =>
    rw [exec_bind_ok (exec_print _ s)]
    simp [Except.toOption, List.append_assoc]

/-! ## File-system steps -/

/-- Looking a path up changes nothing, when the lookup succeeds. -/
theorem exec_exists {path : Text} {s : Session} {b : Bool} (h : s.tree.pathExists path = .ok b) :
    exec (Run.exists path) s = (.ok b, s) := by
  simp only [Run.exists]
  rw [exec_bind_ok (exec_tree s), h]
  rfl

/-- Walking a path changes nothing, when the walk succeeds. -/
theorem exec_walk {path : Text} {s : Session} {vs : List FileTree.Visit}
    (h : s.tree.walk path = .ok vs) : exec (walk path) s = (.ok vs, s) := by
  simp only [walk]
  rw [exec_bind_ok (exec_tree s), h]
  rfl

/-- Writing bytes the file system accepts replaces the tree. -/
theorem exec_writeBytes_ok {path : Text} {bs : List UInt8} {s : Session} {t : FileTree}
    (h : s.tree.write path bs = .ok t) :
    exec (writeBytes path bs) s = (.ok (), { s with tree := t }) := by
  simp only [writeBytes]
  rw [exec_bind_ok (exec_tree s), h]
  rfl

/-- Writing bytes the file system refuses stops with its fault and changes nothing. -/
theorem exec_writeBytes_error {path : Text} {bs : List UInt8} {s : Session} {f : Fault}
    (h : s.tree.write path bs = .error f) : exec (writeBytes path bs) s = (.error f, s) := by
  simp only [writeBytes]
  rw [exec_bind_ok (exec_tree s), h]
  rfl

end Run

end NodeCatalog
