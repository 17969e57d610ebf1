import NodeCatalog.Docs.FrontMatter
import NodeCatalog.Session
/-!
# Doc entries

A doc entry records what a doc's front matter gives, where the doc is, and, for the full catalog,
the doc's text. Two readers exist. The catalog reader takes a doc path and a base folder, prints a
read failure, and records the doc's path relative to the base folder with its full text. The listing
reader takes a doc path alone, prints a read failure the same way, and records the path as given; a
listing collects every `.md` doc below a folder. The catalog reader is `extract_metadata` with
`retrieve_file_content` (`src/tools/extract_docs.py`, lines 20–77); the listing reader is
`extract_metadata` (`src/tools/fetch_all_nodes.py`, lines 18–66), and the listing
`get_nodes_metadata` (lines 68–84).

In recorded paths a backslash becomes `/`.

- `DocEntry`, `DocEntry.toValue`, `DocEntry.summary`.
- `DocEntry.read`: the catalog reader; `DocEntry.list`: the listing reader;
  `DocEntry.listAll`: the listing of a folder.
-/

namespace NodeCatalog

/-- A doc entry: title, description and content types from the front matter, the doc's path,
and its text when the entry is for the full catalog. -/
structure DocEntry where
  title : Text
  description : Text
  contentType : List Value
  path : Text
  text : Option Text := none

namespace DocEntry

/-- The working directory, as parts below the scratch root. -/
def here : List Text := FileTree.home

/-- The entry as a mapping: title, description, content types, path, and the text when
present. -/
def toValue (e : DocEntry) : Value :=
  .dict <| [(.str "title", .str e.title), (.str "description", .str e.description),
    (.str "contentType", .list e.contentType), (.str "path", .str e.path)] ++
    match e.text with
    | some t => [(.str "file_content", .str t)]
    | none => []

/-- The short form of an entry: title, description and path. -/
def summary (e : DocEntry) : Value :=
  .dict [(.str "title", .str e.title), (.str "description", .str e.description),
    (.str "path", .str e.path)]

/-- Read a doc for the catalog: its fields, its path relative to the base folder (the working
directory when the base is empty), and its text. -/
def read (file base : Text) : Run (Option DocEntry) := do
  match ← Run.readReported file with
  | none => return none
  | some content =>
    match FrontMatter.fields? content with
    | none => return none
    | some f =>
      let rel := Path.relative here file base
      return some {
        title := f.title
        description := f.description
        contentType := f.contentType
        path := Text.replaceChar '\\' '/' rel
        text := some content }

/-- Read a doc for a listing: its fields and its path as given. -/
def list (file : Text) : Run (Option DocEntry) := do
  match ← Run.readReported file with
  | none => return none
  | some content =>
    match FrontMatter.fields? content with
    | none => return none
    | some f =>
      return some {
        title := f.title
        description := f.description
        contentType := f.contentType
        path := Text.replaceChar '\\' '/' file }

/-- Whether a file name ends with `.md`. -/
def isMarkdown (name : Text) : Bool :=
  name.endsWith ".md"

/-- The listing of every `.md` doc below a folder, directory by directory from the top, files
in name order. -/
def listAll (start : Text) : Run (List DocEntry) := do
  let visits ← Run.walk start
  let files := visits.flatMap fun v =>
    ((FileTree.sortNames v.files).filter isMarkdown).map fun f => Path.joinText v.path f
  files.filterMapM list

end DocEntry

end NodeCatalog
