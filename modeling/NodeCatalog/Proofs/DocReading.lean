import NodeCatalog.Catalog
import NodeCatalog.Proofs.FileWrites
import NodeCatalog.Proofs.Run
/-!
# Reading the docs

The doc readers only read: they look at the tree, print the failures to read a file, and give
entries. This module gives each of them as a function of the tree, so that what the catalog holds
can be said without running it. They are the walks of `run_doc_extraction`
(`src/tools/extract_docs.py`, lines 95–111) and `get_nodes_metadata`
(`src/tools/fetch_all_nodes.py`, lines 76–82).

- `DocEntry.ofContent`, `DocEntry.readFrom`: the catalog entry of a doc's text, and of a doc in
  a tree.
- `DocEntry.read_reads`: reading a doc for the catalog gives `readFrom` and prints the read
  failure.
- `DocEntry.listFrom`, `DocEntry.list_reads`: the same for the listing reader.
- `Catalog.docEntries`, `Catalog.exec_readDocs`: **the catalog's entries below a folder are
  those of its index files, in walk order**, and reading them changes no file;
  `DocEntry.exec_listAll`: the listing's entries are those of its `.md` files.
- `Catalog.exec_writeDocs`: the doc extraction prints, reads, and writes the entries read.
-/

namespace NodeCatalog

namespace DocEntry

/-- The entry of a doc for the catalog, from the doc's text: none when the front matter lacks
a title or a description. -/
def ofContent (content file base : Text) : Option DocEntry :=
  (FrontMatter.fields? content).map fun f =>
    { title := f.title
      description := f.description
      contentType := f.contentType
      path := Text.replaceChar '\\' '/' (Path.relative here file base)
      text := some content }

/-- What reading a doc for the catalog gives, as a function of the tree. -/
def readFrom (t : FileTree) (file base : Text) : Option DocEntry :=
  (t.readText file).toOption.bind (ofContent · file base)

/-- Reading a doc for the catalog only reads: it gives `readFrom` and prints the failure to
read the file. -/
theorem read_reads (file base : Text) :
    Run.Reads (read file base) (readFrom · file base) (Run.readReport · file) := by
  intro s
  simp only [read]
  rw [Run.exec_bind_ok (Run.readReported_reads file s)]
  cases h : (s.tree.readText file).toOption with
  | none => simp [readFrom, h]
  | some content =>
    simp only [readFrom, h, Option.bind_some, ofContent]
    cases FrontMatter.fields? content <;> simp

/-- The entry of a doc for a listing, from the doc's text: none when the front matter lacks a
title or a description. -/
def ofContentListed (content file : Text) : Option DocEntry :=
  (FrontMatter.fields? content).map fun f =>
    { title := f.title
      description := f.description
      contentType := f.contentType
      path := Text.replaceChar '\\' '/' file }

/-- What reading a doc for a listing gives, as a function of the tree. -/
def listFrom (t : FileTree) (file : Text) : Option DocEntry :=
  (t.readText file).toOption.bind (ofContentListed · file)

/-- Reading a doc for a listing only reads: it gives `listFrom` and prints the failure to read
the file. -/
theorem list_reads (file : Text) :
    Run.Reads (list file) (listFrom · file) (Run.readReport · file) := by
  intro s
  simp only [list]
  rw [Run.exec_bind_ok (Run.readReported_reads file s)]
  cases h : (s.tree.readText file).toOption with
  | none => simp [listFrom, h]
  | some content =>
    simp only [listFrom, h, Option.bind_some, ofContentListed]
    cases FrontMatter.fields? content <;> simp

/-- The `.md` files met on a walk, in code-point order within a directory, each joined to the
path of its directory. -/
def listedFiles (visits : List FileTree.Visit) : List Text :=
  visits.flatMap fun v =>
    ((FileTree.sortNames v.files).filter isMarkdown).map fun f => Path.joinText v.path f

/-- Listing the docs below a folder that can be walked gives the entries of its `.md` files in
walk order, and prints the failures to read them. -/
theorem exec_listAll {start : Text} {t : FileTree} {visits : List FileTree.Visit}
    (h : t.walk start = .ok visits) {s : Session} (hs : s.tree = t) :
    Run.exec (listAll start) s =
      (.ok ((listedFiles visits).filterMap (listFrom t)),
        { s with out := s.out ++ (listedFiles visits).flatMap (Run.readReport t ·) }) := by
  subst hs
  simp only [listAll]
  rw [Run.exec_bind_ok (Run.exec_walk h)]
  exact Run.Reads.filterMapM list_reads _ s

end DocEntry

namespace Catalog

/-- The doc entries the catalog reads below a folder, as a function of the tree: none when the
folder cannot be walked. -/
def docEntries (t : FileTree) (root : Text) : List DocEntry :=
  match t.walk root with
  | .ok visits => (indexFiles visits).filterMap (DocEntry.readFrom t · root)
  | .error _ => []

/-- Reading the docs below a folder that can be walked gives the entries of its index files in
walk order, and prints the failures to read them. -/
theorem exec_readDocs {root : Text} {t : FileTree} {visits : List FileTree.Visit}
    (h : t.walk root = .ok visits) {s : Session} (hs : s.tree = t) :
    Run.exec (readDocs root) s =
      (.ok (docEntries t root),
        { s with out := s.out ++ (indexFiles visits).flatMap (Run.readReport t ·) }) := by
  subst hs
  simp only [readDocs]
  rw [Run.exec_bind_ok (Run.exec_walk h), docEntries, h]
  exact Run.Reads.filterMapM (fun f => DocEntry.read_reads f root) _ s

/-- The doc extraction, from a tree whose docs folder is there, prints its scan line, reads the
entries of the index files with their read failures printed, and writes those entries. -/
theorem exec_writeDocs {docs out : Text} {t : FileTree}
    (hroot : t.kindOf (docsRoot docs) = some .directory) {visits : List FileTree.Visit}
    (hwalk : t.walk (docsRoot docs) = .ok visits) {s : Session} (hs : s.tree = t) :
    Run.exec (writeDocs docs out) s =
      Run.exec (writeDocOutputs (docEntries t (docsRoot docs)) out)
        { s with out := s.out ++ (Text.ofString "Scanning documentation files in " ++
            docsRoot docs ++ Text.ofString "...") ++ [.char '\n'] ++
            (indexFiles visits).flatMap (Run.readReport t ·) } := by
  subst hs
  simp only [writeDocs]
  rw [Run.exec_bind_ok (Run.exec_exists (FileTree.pathExists_of_kindOf hroot))]
  simp only [Bool.not_true, Bool.false_eq_true, if_false]
  rw [Run.exec_bind_ok (Run.exec_print _ _), Run.exec_bind_ok (exec_readDocs hwalk ?same)]
  case same => rfl

end Catalog

end NodeCatalog
