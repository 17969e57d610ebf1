import NodeCatalog.Value.Text
import NodeCatalog.Text.Basic
/-!
# Node names

A node's source file is named `<Node>.node.ts`; the file's stem keeps `.node`, and the node's name
is the stem without it. This is `normalize_node_basename` (`src/tools/extract_schemas.py`, lines
21–22).

- `Node.baseName`: drop one trailing `.node`.
- `Node.baseNameValue`: the same on any value; only text has an ending to test.
-/

namespace NodeCatalog

namespace Node

/-- The ending that marks a node's source file stem. -/
def stemMark : Text := ".node"

/-- Drop one trailing `.node` from a stem. -/
def baseName (stem : Text) : Text :=
  if stem.endsWith stemMark then stem.take (stem.length - stemMark.length)
  else stem

/-- `baseName` on any value. -/
def baseNameValue (v : Value) : Except Fault Text :=
  baseName <$> v.textFor "endswith"

end Node

end NodeCatalog
