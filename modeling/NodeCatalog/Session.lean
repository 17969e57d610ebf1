import NodeCatalog.Files.Tree
import NodeCatalog.Json.Write
/-!
# Sessions

An extraction run sees a file tree and prints progress lines; both stay observable when it stops
with a fault. A session holds the tree and the text printed so far, and `Run` is an operation on a
session that may stop with a fault, keeping the session as it was at that point. It carries the
effects of `src/tools/extract_schemas.py`, `src/tools/extract_docs.py` and `src/main.py`: their
`print` calls, their reads, their `open(path, 'w')` and `json.dump` writes, and the exceptions that
end them.

- `Session`, `Run`.
- `Run.print`: print a line.
- `Run.readReported`: read a file, printing the failure and going on without its text.
- `Run.exists`, `Run.walk`: look at the file tree.
- `Run.writeJson`: write a value as an indented JSON document. The file is created (or emptied)
  first, then written piece by piece as UTF-8; a fault while writing, or a piece that holds a
  surrogate, leaves the pieces written before it in the file.
-/

namespace NodeCatalog

/-- The file tree and the text printed so far. -/
structure Session where
  tree : FileTree
  out : Text := []

/-- An operation on a session that may stop with a fault. -/
abbrev Run := ExceptT Fault (StateM Session)

namespace Run

/-- Print a line. -/
def print (line : Text) : Run Unit :=
  modify fun s => { s with out := s.out ++ line ++ [.char '\n'] }

/-- The current file tree. -/
def tree : Run FileTree :=
  return (← get).tree

/-- Stop with a fault. -/
def fail {α : Type} (f : Fault) : Run α :=
  throw f

/-- Read a file; on failure print `Error reading <path>: <message>` and give none. -/
def readReported (path : Text) : Run (Option Text) := do
  match (← tree).readText path with
  | .ok s => return some s
  | .error f =>
    print (Text.ofString "Error reading " ++ path ++ Text.ofString (": " ++ f.message))
    return none

/-- Whether a path names a file or a directory; a path too long to look up is a fault. -/
def «exists» (path : Text) : Run Bool := do
  match (← tree).pathExists path with
  | .ok b => return b
  | .error f => fail f

/-- The directories met when walking a path, top down; a path the file system refuses is a
fault. -/
def walk (path : Text) : Run (List FileTree.Visit) := do
  match (← tree).walk path with
  | .ok vs => return vs
  | .error f => fail f

/-- Replace the file tree. -/
def setTree (t : FileTree) : Run Unit :=
  modify fun s => { s with tree := t }

/-- Write bytes to a file, stopping with the fault the file system gives. -/
def writeBytes (path : Text) (bs : List UInt8) : Run Unit := do
  match (← tree).write path bs with
  | .ok t => setTree t
  | .error f => fail f

/-- The UTF-8 bytes of pieces of text, in order, and the fault of the first piece that holds a
surrogate, positions counted within that piece; the bytes are those of the pieces before it. -/
def encodePieces : List Text → List UInt8 × Option Fault
  | [] => ([], none)
  | t :: ts =>
    match Utf8.encode? t with
    | .ok bs =>
      let (rest, fault) := encodePieces ts
      (bs ++ rest, fault)
    | .error f => ([], some f)

/-- Write a value to a file as an indented JSON document. The file is opened (created or
emptied) first; if the writing stops with a fault, or a piece of the text cannot be stored as
UTF-8, the pieces written before it stay in the file and the fault is raised. -/
def writeJson (path : Text) (v : Value) : Run Unit := do
  writeBytes path []
  let (pieces, fault) := Json.writeIndented v
  let (bytes, unencodable) := encodePieces pieces
  writeBytes path bytes
  match unencodable, fault with
  | some f, _ => fail f
  | none, some f => fail f
  | none, none => pure ()

/-- Make a directory unless it exists. -/
def makeDir (path : Text) : Run Unit := do
  match (← tree).makeDir path with
  | .ok t => setTree t
  | .error f => fail f

/-- Run an operation on a session: its outcome and the session after it. -/
def exec {α : Type} (r : Run α) (s : Session) : Except Fault α × Session :=
  (r.run).run s

end Run

end NodeCatalog
