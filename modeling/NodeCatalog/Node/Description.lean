import NodeCatalog.Node.Fields
/-!
# Node descriptions

What a node source says about the node as a whole, in two readings. These are
`extract_base_description` and `extract_single_node_fields` (`src/tools/extract_schemas.py`, lines
43–102), with `clean_multiline_string` (lines 38–39).

A *base description* is the body of the declaration `const baseDescription`; in it the first
`displayName`, `name`, `subtitle`, `description`, `group` and `defaultVersion` fields are
looked up. *Single fields* are looked up in the whole source: `group`, `version`,
`description` and the connection lists `inputs`, `outputs`, `credentials` and `webhooks`, whose
text is cleaned of line breaks and repeated blanks.

A number field that is found but does not read as a number is kept as found and unreadable.

- `BaseDescription`, `BaseDescription.ofContent`.
- `SingleFields`, `SingleFields.ofContent`.
-/

namespace NodeCatalog

open Pattern

/-- The fields of a base description, each present when found. A default version that was found
but does not read as a number is `some none`. -/
structure BaseDescription where
  displayName : Option Text := none
  name : Option Text := none
  subtitle : Option Text := none
  description : Option Text := none
  group : Option (List Text) := none
  defaultVersion : Option (Option Float) := none

namespace BaseDescription

/-- The name of the declaration that holds a base description. -/
def declaration : String := "baseDescription"

/-- The fields found in the body of a base description. -/
def ofBody (body : Text) : BaseDescription where
  displayName := ((Fields.quoted "displayName").search body).map (·.groupD 2)
  name := ((Fields.quoted "name").search body).map (·.groupD 2)
  subtitle := ((Fields.singleQuoted "subtitle").search body).map (·.groupD 1)
  description := ((Fields.quoted "description").search body).map (·.groupD 2)
  group := ((Fields.bracketed "group").search body).map fun m => Fields.splitList (m.groupD 1)
  defaultVersion :=
    ((Fields.numeric "defaultVersion").search body).map fun m => Decimal.readFloat? (m.groupD 1)

/-- The base description of a source: empty when it declares none. -/
def ofContent (content : Text) : BaseDescription :=
  match Fields.declarationBody declaration content with
  | some body => ofBody body
  | none => {}

/-- The fields found, as a mapping from field name to value, in declaration order. -/
def toValue (b : BaseDescription) : Value :=
  .dict <| List.filterMap id [
    b.displayName.map fun v => (.str "displayName", .str v),
    b.name.map fun v => (.str "name", .str v),
    b.subtitle.map fun v => (.str "subtitle", .str v),
    b.description.map fun v => (.str "description", .str v),
    b.group.map fun v => (.str "group", .list (v.map .str)),
    b.defaultVersion.map fun v => (.str "defaultVersion", Value.ofFloat? v)]

end BaseDescription

/-- The single fields of a node source, each present when found. A version that was found but
does not read as a number is `some none`. -/
structure SingleFields where
  group : Option (List Text) := none
  version : Option (Option Float) := none
  description : Option Text := none
  inputs : Option Text := none
  outputs : Option Text := none
  credentials : Option Text := none
  webhooks : Option Text := none

namespace SingleFields

/-- A connection list: the text between the brackets, cleaned. -/
def connection (name : String) (content : Text) : Option Text :=
  ((Fields.listed name).search content).map fun m => Text.clean (m.groupD 1)

/-- The single fields of a source. -/
def ofContent (content : Text) : SingleFields where
  group := ((Fields.bracketed "group").search content).map fun m => Fields.splitList (m.groupD 1)
  version := ((Fields.numeric "version").search content).map fun m =>
    Decimal.readFloat? (m.groupD 1)
  description := ((Fields.quoted "description").search content).map fun m =>
    Text.trim (m.groupD 2)
  inputs := connection "inputs" content
  outputs := connection "outputs" content
  credentials := connection "credentials" content
  webhooks := connection "webhooks" content

/-- The fields found, as a mapping from field name to value, in lookup order. -/
def toValue (f : SingleFields) : Value :=
  .dict <| List.filterMap id [
    f.group.map fun v => (.str "group", .list (v.map .str)),
    f.version.map fun v => (.str "version", Value.ofFloat? v),
    f.description.map fun v => (.str "description", .str v),
    f.inputs.map fun v => (.str "inputs", .str v),
    f.outputs.map fun v => (.str "outputs", .str v),
    f.credentials.map fun v => (.str "credentials", .str v),
    f.webhooks.map fun v => (.str "webhooks", .str v)]

end SingleFields

end NodeCatalog
