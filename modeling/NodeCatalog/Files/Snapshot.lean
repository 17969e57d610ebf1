import NodeCatalog.Files.Tree
import NodeCatalog.Value.Basic
/-!
# Snapshots

A snapshot is a file tree written as a value: a mapping `files` from relative paths to file texts,
and an optional list `dirs` of relative paths of directories. Paths are relative and do not go up
(`..`); `.` and empty parts are dropped. File texts are stored as UTF-8, so they may not hold
surrogates. Comparing the tree after a run with the tree before it gives the files the run wrote. It
is how the command line is given the working directory `src/main.py` runs in.

- `FileTree.ofSnapshot?`: the tree a snapshot describes.
- `FileTree.changes`, `FileTree.changesFrom`: the files new or changed from one tree, or from a
  listing of files, to another tree.
- `FileTree.changesValue`: those files as a mapping from path to text.
-/

namespace NodeCatalog

namespace FileTree

/-- The parts of a relative path that does not go up. -/
def snapshotParts? (s : Text) : Option (List Text) :=
  let p := Path.ofText s
  if p.absolute || p.parts.contains Path.up then none else some p.parts

/-- The value a mapping gives for a text key. -/
def entry? (es : List (Value × Value)) (key : String) : Option Value :=
  (es.find? fun e => match e.1 with
    | .str k => k == Text.ofString key
    | _ => false).map (·.2)

/-- The tree a snapshot describes, or none when it is not one. -/
def ofSnapshot? : Value → Option FileTree
  | .dict es => do
    let files ← match entry? es "files" with
      | some (.dict fs) => fs.mapM fun (k, v) =>
        match k, v with
        | .str p, .str text => do
          let ps ← snapshotParts? p
          let bs ← (Utf8.encode? text).toOption
          pure (ps, bs)
        | _, _ => none
      | _ => none
    let dirs ← match entry? es "dirs" with
      | some (.list ds) => ds.mapM fun d =>
        match d with
        | .str p => snapshotParts? p
        | _ => none
      | some _ => none
      | none => some []
    let t := dirs.foldl FileTree.addDir {}
    return files.foldl (fun t (ps, bs) => t.setFile ps bs) t
  | _ => none

/-- The files of `after` whose path text a listing of files lacks or gives other bytes, as path
texts relative to the working directory. A listing names files by the texts it was given, so a
file listed under a text other than the one its name is kept in counts as new. -/
def changesFrom (old : List (Text × List UInt8)) (after : FileTree) : List (Text × List UInt8) :=
  after.fileTexts.filter fun (p, bs) => old.lookup p != some bs

/-- The files of `after` that `before` lacks or holds with other bytes, as path texts relative
to the working directory. -/
def changes (before after : FileTree) : List (Text × List UInt8) :=
  changesFrom before.fileTexts after

/-- The changed files as a mapping from path to text (undecodable bytes give the empty
text). -/
def changesValue (before after : FileTree) : Value :=
  .dict <| (changes before after).map fun (p, bs) =>
    (.str p, .str (match Utf8.decode bs with
      | .ok cs => cs.map .char
      | .error _ => []))

end FileTree

end NodeCatalog
