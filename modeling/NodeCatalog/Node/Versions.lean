import NodeCatalog.Node.Fields
/-!
# Node versions and version imports

A versioned node declares `const nodeVersions = { 1: ..., 2: ..., }`; its versions are the keys of
that body, numbers written with an optional fraction and optionally quoted. Each key is read as a
double; a double equal (`==`) to one already listed is left out, and the list is sorted by `≤`
between doubles. Both comparisons are read off the doubles' fields, and the doubles are made from
their fields last. This is `extract_node_versions` (`src/tools/extract_schemas.py`, lines 104–115),
reading each key with `safe_float` (lines 15–19).

A versioned node also imports its version files: `import { ... } from '<path>';` lines whose path
names a version directory (contains `/v`) or a node file (ends with `.node`).

- `Versions.keysOf`: the number texts of the keys; `Versions.fieldsOf`: the fields of the
  versions, each once, sorted; `Versions.ofContent`: the versions.
- `Versions.imports`: the version import paths, in order.
-/

namespace NodeCatalog

namespace Versions

open Pattern

/-- The name of the declaration that lists a node's versions. -/
def declaration : String := "nodeVersions"

/-- A version key: an optional quote, digits with an optional fraction (group 1), an optional
quote, blanks and a colon. -/
def keyPattern : Pattern :=
  seqs [.opt (.one CharClass.quotes),
    .group 1 (.seq (.many .digit 1 true) (.opt (.seq (lit ".") (.many .digit 1 true)))),
    .opt (.one CharClass.quotes), blanks, lit ":"]

/-- Add a version to a list unless an equal one is there. -/
def addVersion (vs : List Binary.Parts) (v : Binary.Parts) : List Binary.Parts :=
  if vs.any (·.beq v) then vs else vs ++ [v]

/-- Versions as found, each kept once and then sorted. -/
def arrange (found : List Binary.Parts) : List Binary.Parts :=
  (found.foldl addVersion []).mergeSort Binary.Parts.le

/-- The number texts of the keys of a source's `nodeVersions` body, in order. -/
def keysOf (content : Text) : List Text :=
  match Fields.declarationBody declaration content with
  | none => []
  | some body => (keyPattern.findAll body).map (·.groupD 1)

/-- The fields of the versions of a source: its keys that read as numbers, each once, sorted. -/
def fieldsOf (content : Text) : List Binary.Parts :=
  arrange ((keysOf content).filterMap Decimal.readParts?)

/-- The versions of a source. -/
def ofContent (content : Text) : List Float :=
  (fieldsOf content).map Binary.Parts.toFloat

/-- An import line: `import`, a braced list of names, `from`, a quoted path on one line
(group 1, the shortest), and `;`. -/
def importPattern : Pattern :=
  seqs [lit "import", someBlanks, lit "\x7b", .many (.complement (.char '}')) 1 true, lit "\x7d",
    someBlanks, lit "from", someBlanks, .one CharClass.quotes,
    .group 1 (.many CharClass.notNewline 1 false), .one CharClass.quotes, blanks, lit ";"]

/-- Whether an import path names a version file: it contains `/v` or ends with `.node`. -/
def isVersionPath (path : Text) : Bool :=
  Text.occursIn "/v" path || path.endsWith ".node"

/-- The version import paths of a source, in order. -/
def imports (content : Text) : List Text :=
  (importPattern.findAll content).map (·.groupD 1) |>.filter isVersionPath

end Versions

end NodeCatalog
