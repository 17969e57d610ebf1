import NodeCatalog.Node.Name
import NodeCatalog.Node.Description
import NodeCatalog.Node.Versions
import NodeCatalog.Node.Property
import NodeCatalog.Files.Tree
/-!
# Node schemas

The schema of a node, gathered from its source file and the version files it imports. This is
`deep_extract_node_info` (`src/tools/extract_schemas.py`, lines 230–291), with `resolve_import_path`
(lines 24–36) and `read_file` (lines 8–13).

It starts from the file name: name and display name are the file's stem without `.node`, and
the type is that name under `n8n-nodes-base.`. The base description then overrides what it
declares; the declared versions are listed, and their highest one becomes the default version
unless a default other than one was declared; the single fields of the whole source override
again. A subtitle still missing is looked up in the whole source. The properties are read from
the source followed by every version file it imports, and a placeholder property stands in when
there is none.

A version import is resolved against the directory of the source: the path itself, or with
`.ts`, `.node.ts`, `/index.ts` or `/index.node.ts` appended, whichever exists first. When none
exists, the fallback for paths without `.ts` fails: it iterates over a truth value.

- `Schema`: the fields of a schema, with `Schema.toValue`.
- `Schema.resolveImport`: the file a version import names.
- `Schema.extract`: the schema of a node source.
-/

namespace NodeCatalog

/-- The schema of a node. The default version is `none` while it is still the integer one it
starts as; a connection list is `none` while it is still the empty list it starts as, and
otherwise the text found. `version` is present when the source declares a readable one. -/
structure Schema where
  name : Text
  displayName : Text
  type : Text
  subtitle : Option Text := none
  description : Option Text := none
  group : List Text := []
  defaultVersion : Option Float := none
  availableVersions : List Float := []
  inputs : Option Text := none
  outputs : Option Text := none
  credentials : Option Text := none
  webhooks : Option Text := none
  properties : List Property := []
  version : Option Float := none

namespace Schema

/-- The prefix of every node type. -/
def typePrefix : Text := "n8n-nodes-base."

/-- The schema a node starts with: its name from the file name, and nothing else known. -/
def initial (base : Text) : Schema :=
  { name := base, displayName := base, type := typePrefix ++ base }

/-- The suffixes tried, in order, when resolving a version import. -/
def importSuffixes : List Text := ["", ".ts", ".node.ts", "/index.ts", "/index.node.ts"]

/-- The first of some paths that exists; a path too long to look up is a fault. -/
def firstExisting (t : FileTree) : List Text → Except Fault (Option Text)
  | [] => .ok none
  | p :: ps => do
    if ← t.pathExists p then return some p else firstExisting t ps

/-- The file a version import names, relative to the directory of the importing file: the
first of the suffixed paths that exists. When none exists, a path ending with `.ts` names
nothing, and for any other path the fallback fails. -/
def resolveImport (t : FileTree) (baseFile importPath : Text) : Except Fault (Option Text) := do
  let candidate := ((Path.ofText baseFile).parent.join importPath).toText
  match ← firstExisting t (importSuffixes.map fun e => Path.normalize (candidate ++ e)) with
  | some p => return some p
  | none =>
    if importPath.endsWith ".ts" then return none
    else throw .flagNotIterable

/-- The property that stands in when a node has none. -/
def placeholder : Property :=
  { name := some "TODO_add_property", type := some "string",
    description := some "Fill manually if needed" }

/-- Apply the fields of a base description. -/
def withBase (s : Schema) (b : BaseDescription) : Schema :=
  { s with
    displayName := b.displayName.getD s.displayName
    name := b.name.getD s.name
    subtitle := b.subtitle.orElse fun _ => s.subtitle
    description := b.description.orElse fun _ => s.description
    group := b.group.getD s.group
    defaultVersion := match b.defaultVersion with
      | some (some x) => some x
      | _ => s.defaultVersion }

/-- Whether the default version may be replaced by the highest declared version: it is still
the starting one, or it is one or zero. -/
def replaceableDefault : Option Float → Bool
  | none => true
  | some x => x == 1.0 || x == 0.0

/-- Apply the declared versions: they are listed, and the highest becomes the default when the
default is replaceable. -/
def withVersions (s : Schema) (vs : List Float) : Schema :=
  match vs.getLast? with
  | none => s
  | some top =>
    { s with
      availableVersions := vs
      defaultVersion := if replaceableDefault s.defaultVersion then some top else s.defaultVersion }

/-- Apply the single fields. -/
def withSingle (s : Schema) (f : SingleFields) : Schema :=
  { s with
    group := f.group.getD s.group
    version := match f.version with
      | some (some x) => some x
      | _ => s.version
    description := f.description.orElse fun _ => s.description
    inputs := f.inputs.orElse fun _ => s.inputs
    outputs := f.outputs.orElse fun _ => s.outputs
    credentials := f.credentials.orElse fun _ => s.credentials
    webhooks := f.webhooks.orElse fun _ => s.webhooks }

/-- Look up a missing subtitle in the whole source. -/
def withSubtitle (s : Schema) (content : Text) : Schema :=
  match s.subtitle with
  | some t => if t.isEmpty then lookup else s
  | none => lookup
where
  lookup : Schema :=
    match (Fields.singleQuoted "subtitle").search content with
    | some m => { s with subtitle := some (m.groupD 1) }
    | none => s

/-- The source followed by every version file it imports that can be read and is not empty,
each after a marker line naming the import. -/
def combined (t : FileTree) (file content : Text) : Except Fault Text :=
  (Versions.imports content).foldlM (fun acc imp => do
    match ← resolveImport t file imp with
    | none => pure acc
    | some resolved =>
      match t.readText resolved with
      | .ok text =>
        if text.isEmpty then pure acc
        else pure (acc ++ Text.ofString "\n\n// --- imported: " ++ imp ++
          Text.ofString " --- \n\n" ++ text)
      | .error _ => pure acc) content

/-- Clean a connection text again, as a last step. -/
def recleaned : Option Text → Option Text
  | some s => if s.isEmpty then some s else some (Text.clean s)
  | none => none

/-- The schema of a node source. A file that cannot be read counts as empty. -/
def extract (t : FileTree) (file : Text) : Except Fault Schema := do
  let base := Node.baseName (Path.ofText file).stem
  let content := (t.readText file).toOption.getD []
  let s := initial base
    |>.withBase (BaseDescription.ofContent content)
    |>.withVersions (Versions.ofContent content)
    |>.withSingle (SingleFields.ofContent content)
    |>.withSubtitle content
  let props ← Property.ofContent (← combined t file content)
  let s := { s with properties := if props.isEmpty then [placeholder] else props }
  return { s with
    inputs := recleaned s.inputs
    outputs := recleaned s.outputs
    credentials := recleaned s.credentials
    webhooks := recleaned s.webhooks }

/-- A connection list as a value: the empty list, or the text found. -/
def connectionValue : Option Text → Value
  | some s => .str s
  | none => .list []

/-- The schema as a mapping in field order, `version` last when present. -/
def toValue (s : Schema) : Value :=
  .dict <| [
    (.str "name", .str s.name),
    (.str "displayName", .str s.displayName),
    (.str "type", .str s.type),
    (.str "subtitle", match s.subtitle with | some t => .str t | none => .nothing),
    (.str "description", match s.description with | some t => .str t | none => .nothing),
    (.str "group", .list (s.group.map .str)),
    (.str "defaultVersion", match s.defaultVersion with | some x => .float x | none => .int 1),
    (.str "availableVersions", .list (s.availableVersions.map .float)),
    (.str "inputs", connectionValue s.inputs),
    (.str "outputs", connectionValue s.outputs),
    (.str "credentials", connectionValue s.credentials),
    (.str "webhooks", connectionValue s.webhooks),
    (.str "properties", .list (s.properties.map Property.toValue))] ++
    match s.version with
    | some v => [(.str "version", .float v)]
    | none => []

end Schema

end NodeCatalog
