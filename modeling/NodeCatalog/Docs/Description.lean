import NodeCatalog.Text.Basic
import NodeCatalog.Value.Text
/-!
# Doc descriptions

A doc description often ends with a standing invitation to read the technical documentation.
Cleaning cuts the description before the first occurrence of that sentence's opening words, then
trims blanks and the dots, semicolons, commas, dashes and spaces left hanging at the end. A
description without the words is kept as it is. This is `clean_description`, in
`src/tools/extract_docs.py` (lines 9–18) and in `src/tools/fetch_all_nodes.py` (lines 6–16).

- `Description.boilerplate`: the words that start the invitation.
- `Description.clean`: the cleaned description.
- `Description.cleanValue`: cleaning applied to any value: lists, tuples, sets and mappings
  are searched for the words as a member (and cannot be cut), other kinds cannot be searched.
-/

namespace NodeCatalog

namespace Description

/-- The words that start the invitation to read the technical documentation. -/
def boilerplate : Text := "Follow technical documentation"

/-- The characters dropped from the end of a cut description. -/
def hanging : List Char := ['.', ';', ',', '-', ' ']

/-- Cut a description before the first occurrence of `boilerplate`, trim blanks, and drop
hanging punctuation from the end; a description without the words is kept. -/
def clean (d : Text) : Text :=
  if Text.occursIn boilerplate d then
    Text.trimRightBy (Text.oneOf hanging) (Text.trim ((Text.splitOn boilerplate d).headD []))
  else d

/-- Whether the words stand as a whole member among some values. -/
def memberOf (vs : List Value) : Bool :=
  vs.any fun v => match v with
    | .str s => s == boilerplate
    | _ => false

/-- Cleaning applied to any value. A container holding the words as a member would have to be
cut, which only text can be; a container without them is kept; a value that holds nothing
cannot be searched. -/
def cleanValue : Value → Except Fault Value
  | .str s => .ok (.str (clean s))
  | .list vs => if memberOf vs then .error (.noAttribute "list" "split") else .ok (.list vs)
  | .tuple vs => if memberOf vs then .error (.noAttribute "tuple" "split") else .ok (.tuple vs)
  | .set vs => if memberOf vs then .error (.noAttribute "set" "split") else .ok (.set vs)
  | .dict es =>
    if memberOf (es.map (·.1)) then .error (.noAttribute "dict" "split") else .ok (.dict es)
  | v => .error (.notContainer v.kind)

end Description

end NodeCatalog
