import NodeCatalog.Node.Fields
import NodeCatalog.Fault
/-!
# Node properties

A node's properties are the object literals of its source that carry a `displayName`. Each such
block is read field by field: `name`, `displayName`, `type`, `default` (quoted, or else a number
kept as its text), `required`, `description` (quoted with a space after the opening quote, and
followed by a comma or a closing brace), `placeholder`, the `options` list (each braced option with
its `name`, `value`, `description` and `action`) and the `typeOptions` bounds `minValue` and
`maxValue`. This is `parse_property_block` (`src/tools/extract_schemas.py`, lines 146–200).

A block becomes a property when its first quoted name is new; the property is kept when its own
name is not empty, and that name is then the one remembered. A source without any such property
falls back to listing every quoted name once.

- `Property`, `Choice`, `TypeOptions`: what a property holds.
- `Property.ofBlock`: read one block; `Property.ofContent`: all properties of a source.
-/

namespace NodeCatalog

open Pattern

/-- One option of a property, with the fields found. -/
structure Choice where
  name : Option Text := none
  value : Option Text := none
  description : Option Text := none
  action : Option Text := none

/-- The numeric bounds of a property, with the fields found. -/
structure TypeOptions where
  minValue : Option Nat := none
  maxValue : Option Nat := none

/-- A property of a node, with the fields found; `options` is empty when none was found. -/
structure Property where
  name : Option Text := none
  displayName : Option Text := none
  type : Option Text := none
  default : Option Text := none
  required : Option Bool := none
  description : Option Text := none
  placeholder : Option Text := none
  options : List Choice := []
  typeOptions : Option TypeOptions := none

namespace Choice

/-- Whether no field was found. -/
def isEmpty (c : Choice) : Bool :=
  c.name.isNone && c.value.isNone && c.description.isNone && c.action.isNone

/-- The fields of an option block. -/
def ofBlock (block : Text) : Choice where
  name := ((Fields.quoted "name").search block).map (·.groupD 2)
  value := ((Fields.quoted "value").search block).map (·.groupD 2)
  description := ((Fields.quoted "description").search block).map (·.groupD 2)
  action := ((Fields.quoted "action").search block).map (·.groupD 2)

/-- The fields found, as a mapping. -/
def toValue (c : Choice) : Value :=
  .dict <| List.filterMap id [
    c.name.map fun v => (.str "name", .str v),
    c.value.map fun v => (.str "value", .str v),
    c.description.map fun v => (.str "description", .str v),
    c.action.map fun v => (.str "action", .str v)]

end Choice

namespace TypeOptions

/-- Whether no bound was found. -/
def isEmpty (t : TypeOptions) : Bool :=
  t.minValue.isNone && t.maxValue.isNone

/-- A bound: the name, a colon and digits (group 1). -/
def bound (name : String) : Pattern :=
  seqs [key name, .group 1 (.many .digit 1 true)]

/-- Read a bound's digits; too many digits are a fault. -/
def readBound (name : String) (body : Text) : Except Fault (Option Nat) :=
  match (bound name).search body with
  | none => .ok none
  | some m =>
    match Decimal.readNat ((m.groupD 1).filterMap Point.char?) with
    | .ok n => .ok (some n)
    | .error count => .error (.tooManyDigits count)

/-- The bounds in a `typeOptions` body, the lower one read first. -/
def ofBody (body : Text) : Except Fault TypeOptions := do
  let lo ← readBound "minValue" body
  let hi ← readBound "maxValue" body
  return ⟨lo, hi⟩

/-- The bounds found, as a mapping. -/
def toValue (t : TypeOptions) : Value :=
  .dict <| List.filterMap id [
    t.minValue.map fun v => (.str "minValue", .int v),
    t.maxValue.map fun v => (.str "maxValue", .int v)]

end TypeOptions

namespace Property

/-- `default: 1.5`: group 1 is the longest run of ASCII digits and dots. -/
def numericDefault : Pattern :=
  seqs [key "default", .group 1 (.many (.union (.range '0' '9') (.char '.')) 1 true)]

/-- `required: true` or `required: false`: group 1 is the word. -/
def requiredPattern : Pattern :=
  seqs [key "required", .group 1 (.alt (lit "true") (lit "false"))]

/-- `description: ' text'`: a quote (group 1), a space, the shortest text (group 2) up to the
same quote, where a comma or a closing brace follows after blanks. -/
def descriptionPattern : Pattern :=
  seqs [key "description", openQuote 1, lit " ", .group 2 (.many .any 0 false), .backref 1,
    .ahead (.alt (.seq blanks (lit ",")) (.seq blanks (lit "\x7d")))]

/-- `options: [ ... ]`: group 1 is the shortest text up to a closing bracket. -/
def optionsPattern : Pattern :=
  seqs [key "options", lit "[", .group 1 (.many .any 0 false), lit "]"]

/-- A braced option: group 1 is the shortest text up to a closing brace. -/
def bracedPattern : Pattern :=
  seqs [lit "\x7b", .group 1 (.many .any 0 false), lit "\x7d"]

/-- `typeOptions: { ... }`: group 1 is the shortest text up to a closing brace. -/
def typeOptionsPattern : Pattern :=
  seqs [key "typeOptions", lit "\x7b", .group 1 (.many .any 0 false), lit "\x7d"]

/-- Whether no field was found. -/
def isEmpty (p : Property) : Bool :=
  p.name.isNone && p.displayName.isNone && p.type.isNone && p.default.isNone &&
    p.required.isNone && p.description.isNone && p.placeholder.isNone && p.options.isEmpty &&
    p.typeOptions.isNone

/-- The options of an `options` list text: each braced block with a field found. -/
def choices (text : Text) : List Choice :=
  (bracedPattern.findAll text).map (fun m => Choice.ofBlock (m.groupD 1)) |>.filter (!·.isEmpty)

/-- Read the fields of a property block; none when no field is found. A bound with too many
digits is a fault. -/
def ofBlock (block : Text) : Except Fault (Option Property) := do
  let quotedField (name : String) : Option Text :=
    ((Fields.quoted name).search block).map (·.groupD 2)
  let typeOptions ← match typeOptionsPattern.search block with
    | none => pure none
    | some m => do
      let t ← TypeOptions.ofBody (m.groupD 1)
      pure (if t.isEmpty then none else some t)
  let p : Property := {
    name := quotedField "name"
    displayName := quotedField "displayName"
    type := quotedField "type"
    default := match quotedField "default" with
      | some d => some d
      | none => (numericDefault.search block).map (·.groupD 1)
    required := (requiredPattern.search block).map fun m => m.groupD 1 == Text.ofString "true"
    description := (descriptionPattern.search block).map (·.groupD 2)
    placeholder := quotedField "placeholder"
    options := match optionsPattern.search block with
      | some m => choices (m.groupD 1)
      | none => []
    typeOptions := typeOptions }
  return if p.isEmpty then none else some p

/-- The fields found, as a mapping in field order. -/
def toValue (p : Property) : Value :=
  .dict <| List.filterMap id [
    p.name.map fun v => (.str "name", .str v),
    p.displayName.map fun v => (.str "displayName", .str v),
    p.type.map fun v => (.str "type", .str v),
    p.default.map fun v => (.str "default", .str v),
    p.required.map fun v => (.str "required", .bool v),
    p.description.map fun v => (.str "description", .str v),
    p.placeholder.map fun v => (.str "placeholder", .str v),
    if p.options.isEmpty then none else some (.str "options", .list (p.options.map Choice.toValue)),
    p.typeOptions.map fun t => (.str "typeOptions", t.toValue)]

/-- A braced block that holds a `displayName` with a quoted non-empty value and no brace inside:
group 1 is the inside. -/
def blockPattern : Pattern :=
  seqs [lit "\x7b",
    .group 1 (seqs [.many (.complement (.char '}')) 0 true, key "displayName",
      .one CharClass.quotes, .many (.complement CharClass.quotes) 1 true, .one CharClass.quotes,
      .many (.complement (.char '}')) 0 true]),
    lit "\x7d"]

/-- The first quoted name of a block: `name:`, a quote, a text free of quotes (group 1) and a
quote. -/
def firstNamePattern : Pattern :=
  seqs [key "name", .one CharClass.quotes, .group 1 (.many (.complement CharClass.quotes) 1 true),
    .one CharClass.quotes]

/-- Any quoted name: a quote (group 1), the shortest text free of quotes (group 2) and the same
quote. -/
def anyNamePattern : Pattern :=
  seqs [key "name", openQuote 1, .group 2 (.many (.complement CharClass.quotes) 1 false),
    .backref 1]

/-- The property listed for a bare name when a source has no property blocks. -/
def bare (name : Text) : Property :=
  { name := some name, type := some "string", description := some "Extract manually if needed" }

/-- Step over the property blocks: a block whose first quoted name is not yet remembered is read,
and kept when its own name is not empty, which is then remembered. -/
def collect (seen : List Text) (acc : List Property) :
    List Match → Except Fault (List Property)
  | [] => .ok acc.reverse
  | m :: ms =>
    let block := m.text
    match firstNamePattern.search block with
    | none => collect seen acc ms
    | some nm =>
      let first := nm.groupD 1
      if first.isEmpty || seen.contains first then collect seen acc ms
      else
        match ofBlock block with
        | .error f => .error f
        | .ok (some p) =>
          match p.name with
          | some n => if n.isEmpty then collect seen acc ms else collect (n :: seen) (p :: acc) ms
          | none => collect seen acc ms
        | .ok none => collect seen acc ms

/-- Every quoted name, once, in order. -/
def bareNames (seen : List Text) : List Match → List Text
  | [] => []
  | m :: ms =>
    let n := m.groupD 2
    if n.isEmpty || seen.contains n then bareNames seen ms else n :: bareNames (n :: seen) ms

/-- The properties of a source: its property blocks, or when none of them gives one, a bare
property for every quoted name. -/
def ofContent (content : Text) : Except Fault (List Property) := do
  let props ← collect [] [] (blockPattern.findAll content)
  if props.isEmpty then
    return (bareNames [] (anyNamePattern.findAll content)).map bare
  else return props

end Property

end NodeCatalog
