import NodeCatalog.Catalog
import NodeCatalog.Files.Snapshot
import NodeCatalog.Json.Read
import NodeCatalog.Json.Write
/-!
# Command line

Builds the catalog of a working directory. The directory is read as a snapshot (a JSON object of
files and directories) from standard input. The progress lines are printed as the catalog prints
them, and then the files it wrote, as one JSON object from path to text; a surrogate in either is
shown as the replacement character. A fault ends the run with its message on standard error and exit
code 1; the files written before it are still shown. It stands for running `src/main.py` as a script
(lines 38–39).
-/

/-- All of a stream's text. -/
private partial def readAll (s : IO.FS.Stream) (acc : String) : IO String := do
  let line ← s.getLine
  if line.isEmpty then return acc else readAll s (acc ++ line)

/-- Build the catalog of the snapshot on standard input. -/
def main : IO UInt32 := do
  let text ← readAll (← IO.getStdin) ""
  match (NodeCatalog.Json.read? text).bind NodeCatalog.FileTree.ofSnapshot? with
  | none =>
    IO.eprintln "expected a JSON object with files (path to text) and dirs (paths)"
    return 2
  | some t =>
    let (r, s) := NodeCatalog.Run.exec NodeCatalog.Catalog.build { tree := t }
    IO.print s.out.display
    IO.println (NodeCatalog.Json.render (NodeCatalog.FileTree.changesValue t s.tree)).display
    match r with
    | .ok _ => return 0
    | .error f =>
      IO.eprintln f.message
      return 1
