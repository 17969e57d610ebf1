import NodeCatalog.Text.Basic
/-!
# Paths

Paths as text and as lists of parts. A path object keeps the parts of its text that are not empty
and not `.`, so `a//b/./c/` and `a/b/c` are one path, while `..` is kept as a part; the empty path
is `.`. A path starting with exactly two slashes keeps them as its root; one slash, or three and
more, make the root `/`. Joining appends parts, unless the second path is absolute. The parent drops
the last part, the name is the last part, and the stem is the name without its last suffix (a dot
that is neither the first nor the last character of the name starts the suffix). These are the
`pathlib` and `os.path` operations of `resolve_import_path` and `run_schema_extraction`
(`src/tools/extract_schemas.py`, lines 25–34 and 208–220), of `run_doc_extraction` and
`extract_metadata` (`src/tools/extract_docs.py`, lines 69, 84, 98, 114 and 120) and of
`get_nodes_metadata` (`src/tools/fetch_all_nodes.py`, line 79).

Joining texts is different: it only puts one `/` between them when the first does not end with
one. A relative path is found by cancelling the parts two absolute paths share, each first
resolved lexically (`..` removes the part before it).

- `Path`: a path object; `Path.ofText`, `Path.toText`, `Path.parent`, `Path.name`,
  `Path.stem`, `Path.join`.
- `Path.joinText`: join two path texts.
- `Path.relative`: the path of one location seen from another.
-/

namespace NodeCatalog

/-- A path object: the root it starts at (empty for a relative path, else `/` or `//`), and its
parts. -/
structure Path where
  root : Text
  parts : List Text
  deriving DecidableEq, Inhabited

namespace Path

/-- The separator of path parts. -/
def slash : Text := "/"

/-- The parts of a path text that are kept: not empty and not `.`. -/
def partsOf (s : Text) : List Text :=
  (Text.splitOn slash s).filter fun p => p ≠ [] ∧ p ≠ Text.ofString "."

/-- Whether a path text starts at the root. -/
def startsAtRoot (s : Text) : Bool :=
  s.head? == some (.char '/')

/-- The root a path text starts at: none, or `//` for exactly two slashes, or `/` for one or
for three and more. -/
def rootOf (s : Text) : Text :=
  match (s.takeWhile (· == .char '/')).length with
  | 0 => []
  | 2 => slash ++ slash
  | _ => slash

/-- The path object of a text. -/
def ofText (s : Text) : Path :=
  ⟨rootOf s, partsOf s⟩

/-- Whether a path starts at a root. -/
def absolute (p : Path) : Bool :=
  !p.root.isEmpty

/-- The text of a path object: its parts joined by `/` after its root, and `.` for a relative
path without parts. -/
def toText (p : Path) : Text :=
  if p.absolute then p.root ++ slash.intercalate p.parts
  else if p.parts.isEmpty then "."
  else slash.intercalate p.parts

/-- The path text normalised: the text of its path object. -/
def normalize (s : Text) : Text :=
  (ofText s).toText

/-- The parent: the path without its last part; a path without parts is its own parent. -/
def parent (p : Path) : Path :=
  ⟨p.root, p.parts.dropLast⟩

/-- The last part, or the empty text. -/
def name (p : Path) : Text :=
  p.parts.getLastD []

/-- Where the suffix of a name starts: the last dot, when it is neither the first nor the last
code point. -/
def suffixStart? (n : Text) : Option Nat :=
  match (List.range n.length).reverse.find? (fun i => n[i]? == some (.char '.')) with
  | some i => if 0 < i ∧ i + 1 < n.length then some i else none
  | none => none

/-- The name without its suffix. -/
def stem (p : Path) : Text :=
  let n := p.name
  match suffixStart? n with
  | some i => n.take i
  | none => n

/-- Join a path text to a path: the parts are appended, unless the text is absolute. -/
def join (p : Path) (s : Text) : Path :=
  let q := ofText s
  if q.absolute then q else ⟨p.root, p.parts ++ q.parts⟩

/-- Join two path texts with one `/` between them, unless the first is empty or already ends
with `/`; an absolute second text stands alone. -/
def joinText (a b : Text) : Text :=
  if startsAtRoot b then b
  else if a.isEmpty || a.getLast? == some (.char '/') then a ++ b
  else a ++ slash ++ b

/-- The part that goes up. -/
def up : Text := ".."

/-- Resolve parts lexically from a location given as parts: `..` removes the part before it
(nothing above the root), other parts are appended. -/
def resolveParts (base : List Text) : List Text → List Text
  | [] => base
  | p :: rest => if p = up then resolveParts base.dropLast rest else resolveParts (base ++ [p]) rest

/-- The parts shared at the start of two lists. -/
def commonPrefix : List Text → List Text → Nat
  | a :: as, b :: bs => if a = b then commonPrefix as bs + 1 else 0
  | _, _ => 0

/-- The path of `target` seen from `origin`, both texts relative to the location `here` (given
as parts from the root): `..` for each part of `origin` not shared, then the rest of `target`;
`.` when they are the same. -/
def relative (here : List Text) (target origin : Text) : Text :=
  let absolutely (s : Text) : List Text :=
    let p := ofText s
    resolveParts (if p.absolute then [] else here) p.parts
  let t := absolutely target
  let o := absolutely origin
  let n := commonPrefix t o
  let rel := List.replicate (o.length - n) up ++ t.drop n
  if rel.isEmpty then "." else slash.intercalate rel

end Path

end NodeCatalog
