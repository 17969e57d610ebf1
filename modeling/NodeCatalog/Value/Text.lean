import NodeCatalog.Value.Basic
import NodeCatalog.Fault
/-!
# Values used as text

An operation that works on text may be handed any value. It takes the text out of a text value and
refuses every other kind with the fault its use of the value meets: a text method called on
something else has no such method, and a pattern applied to something else has no text to search.
This is how `normalize_node_basename` (`src/tools/extract_schemas.py`, lines 21–22) and
`clean_description` (`src/tools/extract_docs.py`, lines 9–18) fail on a value that is not a `str`.

- `Value.textFor`: the text of a value, for a text method of the given name.
- `Value.subject`: the text of a value, for a pattern.
-/

namespace NodeCatalog

namespace Value

/-- The text of a value whose method `name` is called; other kinds have no such method. -/
def textFor (name : String) : Value → Except Fault Text
  | .str s => .ok s
  | v => .error (.noAttribute v.kind name)

/-- The text of a value a pattern is applied to; other kinds cannot be searched. -/
def subject : Value → Except Fault Text
  | .str s => .ok s
  | v => .error (.notText v.kind)

end Value

end NodeCatalog
