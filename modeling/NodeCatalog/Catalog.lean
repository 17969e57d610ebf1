import NodeCatalog.Node.Schema
import NodeCatalog.Node.Name
import NodeCatalog.Docs.Entry
/-!
# The catalog

The catalog is three JSON documents built from two source trees: the schemas of every node
(`*.node.ts` below the core tree's `packages`), keyed by node name, and the doc entries of every
node doc (`index.md` below the docs tree's `docs/integrations`), in full and in short form. Each
step prints what it is doing; a node that cannot be read is reported and left out, and a missing
source tree is reported and ends that step without writing. It follows `run_schema_extraction`
(`src/tools/extract_schemas.py`, lines 204–228), `run_doc_extraction` (`src/tools/extract_docs.py`,
lines 80–123) and `main` (`src/main.py`, lines 6–36).

- `Catalog.nodeFiles`, `Catalog.schemaStep`, `Catalog.saveSchemas`, `Catalog.writeSchemas`:
  the node files, the step over one of them, the writing of the schemas, and the schema run.
- `Catalog.readDocs`, `Catalog.writeDocOutputs`, `Catalog.writeDocs`: the doc entries of a
  docs folder, and the two doc documents.
- `Catalog.build`: the `data` folder with all three, from `n8n-core` and `n8n-docs-core`.
-/

namespace NodeCatalog

namespace Catalog

/-- One node file of a schema run on tree `t`: its schema recorded under the node name its stem
gives, or its fault reported. -/
def schemaStep (t : FileTree) (acc : List (Value × Value)) (p : Path) :
    Run (List (Value × Value)) := do
  match Schema.extract t p.toText with
  | .ok s => return Value.putEntry acc (.str (Node.baseName p.stem)) s.toValue
  | .error f =>
    Run.print (Text.ofString "Error parsing " ++ p.toText ++ Text.ofString (": " ++ f.message))
    return acc

/-- The folder of a core tree that holds the node packages. -/
def nodesDir (core : Text) : Path :=
  (Path.ofText core).join "packages"

/-- The node files of a tree: the paths below the nodes folder named `*.node.ts`, directories
included. -/
def nodeFiles (t : FileTree) (core : Text) : List Path :=
  t.globSuffix (nodesDir core) ".node.ts"

/-- Write the recorded schemas to `outFile` as one object, and say how many were saved. -/
def saveSchemas (schemas : List (Value × Value)) (outFile : Text) : Run Unit := do
  Run.writeJson outFile (.dict schemas)
  Run.print (Text.ofString ("Extraction complete. " ++ toString schemas.length ++
    " nodes saved to ") ++ outFile)

/-- The schema of every node file below `<core>/packages`, keyed by the node name its stem
gives, written to `outFile`. A node whose file cannot be read or whose text does not fit is
reported as `Error parsing <path>: <message>` and left out. -/
def writeSchemas (core outFile : Text) : Run Unit := do
  let nodes := nodesDir core
  let t ← Run.tree
  if !(← Run.exists nodes.toText) then
    Run.print (Text.ofString "Nodes directory not found: " ++ nodes.toText)
  else
    let files := nodeFiles t core
    Run.print ("Scanning " ++ toString files.length ++ " node files...")
    let schemas ← files.foldlM (schemaStep t) []
    saveSchemas schemas outFile

/-- The folder of a docs tree that holds the node docs. -/
def docsRoot (docs : Text) : Text :=
  ((Path.ofText docs).join "docs/integrations").toText

/-- A file of an output folder. -/
def outputFile (outDir name : Text) : Text :=
  ((Path.ofText outDir).join name).toText

/-- The `index.md` files met on a walk, each joined to the path of its directory; a
directory's files are taken in code-point order. -/
def indexFiles (visits : List FileTree.Visit) : List Text :=
  visits.flatMap fun v =>
    ((FileTree.sortNames v.files).filter (· == Text.ofString "index.md")).map fun f =>
      ((Path.ofText v.path).join f).toText

/-- The doc entries of every `index.md` below a folder, with paths relative to it, walking the
folder from the top. -/
def readDocs (root : Text) : Run (List DocEntry) := do
  let visits ← Run.walk root
  (indexFiles visits).filterMapM fun f => DocEntry.read f root

/-- Write doc entries to an output folder: in full to `docs.json`, in short form to
`all_nodes_list.json`. -/
def writeDocOutputs (entries : List DocEntry) (outDir : Text) : Run Unit := do
  let full := outputFile outDir "docs.json"
  Run.writeJson full (.list (entries.map DocEntry.toValue))
  Run.print (Text.ofString ("Extracted documentation for " ++ toString entries.length ++
    " nodes to ") ++ full)
  let short := outputFile outDir "all_nodes_list.json"
  Run.writeJson short (.list (entries.map DocEntry.summary))
  Run.print (Text.ofString ("Extracted list of " ++ toString entries.length ++ " nodes to ") ++
    short)

/-- The doc entries of every `index.md` below `<docs>/docs/integrations`, with paths relative
to that folder: in full to `<outDir>/docs.json`, in short form to
`<outDir>/all_nodes_list.json`. -/
def writeDocs (docs outDir : Text) : Run Unit := do
  let root := docsRoot docs
  if !(← Run.exists root) then
    Run.print (Text.ofString "Documentation directory not found: " ++ root)
  else
    Run.print (Text.ofString "Scanning documentation files in " ++ root ++ Text.ofString "...")
    let entries ← readDocs root
    writeDocOutputs entries outDir

/-- The whole catalog in `data`, from `n8n-core` and `n8n-docs-core` in the working
directory. -/
def build : Run Unit := do
  Run.makeDir "data"
  Run.print "Starting data extraction..."
  writeSchemas "n8n-core" "data/schemas.json"
  writeDocs "n8n-docs-core" "data"
  Run.print "\nExtraction process completed."

end Catalog

end NodeCatalog
