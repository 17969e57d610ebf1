import NodeCatalog.Files.Path
import NodeCatalog.Files.Utf8
/-!
# File trees

The files an extraction sees: a working directory holding files (paths to bytes) and
directories. Every directory on the way to a file or to a listed directory exists too. The
working directory is `w/r` in a scratch directory below `/tmp`; the scratch directory's name
cannot be written in a path, and `w` holds nothing but `r`. Around it stands a system of the
usual layout: the top directories, their common subdirectories and a few common files, whose
contents are unknown and read as empty. So `..` leads out of the tree into places that hold
nothing else.

A file or directory made outside the working directory is kept too, at its location from the
root. The order a directory lists its names in is the file system's to choose: it is a parameter
of the tree (`Listing`), and every walk and glob takes names in that order.

An absolute path is resolved from the root, any other from the working directory. A path text
reaches the file system as bytes (`Utf8.encodeEscaped?`): a surrogate that stands
for no byte, or a null character, refuses it before any lookup. A file name is its bytes, so
texts with the same bytes name the same file; names are kept, and listed, as the text of their
bytes (`Utf8.nameForm`). A path of 4096 bytes or more,
or a part of more than 255 bytes, is too long. Paths are resolved the way the operating system
does it: part by part, each part looked up in the directory reached so far, `..` going up, `.`
staying; a part looked up in a file fails with "not a directory", in nothing with "no such
file". A path that ends with `/` must name a directory.

- `Listing`: the order a directory lists its names in.
- `FileTree`: files and directories below the working directory, and those made outside it.
- `FileTree.kindAt`, `FileTree.resolve`, `FileTree.pathExists`: what a path names.
- `FileTree.readText`: the text of a file.
- `FileTree.write`, `FileTree.makeDir`: change the tree.
- `FileTree.entries`, `FileTree.children`: what a directory holds, in listing order.
- `FileTree.walk`: the directories below one, top down, as `run_doc_extraction` and
  `get_nodes_metadata` walk them (`src/tools/extract_docs.py`, `src/tools/fetch_all_nodes.py`).
- `FileTree.globSuffix`: the paths below a directory with a name suffix, in the order the
  recursive glob of `run_schema_extraction` meets them (`src/tools/extract_schemas.py`).
-/

namespace NodeCatalog

/-- What a path names. -/
inductive Kind where
  | file
  | directory
  deriving DecidableEq, Repr

/-- The order a file system lists a directory's names in: an arrangement of the names, given in
code-point order, that may depend on the directory's location and leaves no name out. -/
structure Listing where
  arrange : List Text → List Text → List Text
  perm : ∀ loc names, (arrange loc names).Perm names

/-- Names listed in code-point order. -/
def Listing.byName : Listing := ⟨fun _ names => names, fun _ _ => .refl _⟩

instance : Inhabited Listing := ⟨.byName⟩

/-- The files (paths as parts, to bytes) and directories below the working directory; the files
(with their bytes) and directories (with none) made outside it, at their locations from the root;
and the order directories list their names in. -/
structure FileTree where
  files : List (List Text × List UInt8) := []
  dirs : List (List Text) := []
  outer : List (List Text × Option (List UInt8)) := []
  listing : Listing := .byName
  deriving Inhabited

namespace FileTree

/-- The directories of the system, as paths from the root. -/
def systemDirs : List String :=
  ["bin", "boot", "dev", "etc", "home", "lib", "lib64", "media", "mnt", "opt", "proc", "root",
    "run", "sbin", "srv", "sys", "tmp", "usr", "var", "etc/apt", "etc/default", "etc/init.d",
    "etc/profile.d", "etc/skel", "etc/ssl", "usr/bin", "usr/games", "usr/include", "usr/lib",
    "usr/libexec", "usr/local", "usr/sbin", "usr/share", "usr/src", "usr/local/bin",
    "usr/local/etc", "usr/local/games", "usr/local/include", "usr/local/lib", "usr/local/sbin",
    "usr/local/share", "usr/local/src", "var/backups", "var/cache", "var/lib", "var/local",
    "var/lock", "var/log", "var/mail", "var/opt", "var/run", "var/spool", "var/tmp"]

/-- The files of the system known to be there, as paths from the root. -/
def systemFiles : List String :=
  ["bin/bash", "bin/sh", "dev/null", "etc/bash.bashrc", "etc/debian_version", "etc/environment",
    "etc/fstab", "etc/group", "etc/hostname", "etc/hosts", "etc/issue", "etc/login.defs",
    "etc/nsswitch.conf", "etc/os-release", "etc/passwd", "etc/profile", "etc/resolv.conf",
    "etc/shadow", "etc/shells", "usr/bin/bash", "usr/bin/env", "usr/bin/sh"]

/-- The parts of a system path. -/
def systemParts (s : String) : List Text :=
  Text.splitOn Path.slash (Text.ofString s)

/-- What a location outside the way to the working directory names in the system. -/
def systemKind (loc : List Text) : Option Kind :=
  if systemFiles.any (systemParts · == loc) then some .file
  else if loc.isEmpty || systemDirs.any (systemParts · == loc) then some .directory
  else none

/-- The name of the scratch directory: it holds a null character, which every path is refused
for, so the directory is reached only by going up from the working directory. -/
def scratch : Text := [.char '\x00']

/-- The location of the working directory, as parts below the root. -/
def home : List Text := ["tmp", scratch, "w", "r"]

/-- What a path below the working directory names: a file, a directory (listed, or on the way
to something), or nothing. -/
def kindBelow (t : FileTree) (ps : List Text) : Option Kind :=
  if ps.isEmpty then some .directory
  else if t.files.any (·.1 == ps) then some .file
  else if t.dirs.any (fun d => ps.isPrefixOf d) ||
      t.files.any (fun f => ps.isPrefixOf f.1 && ps.length < f.1.length) then
    some .directory
  else none

/-- What was made at a location outside the working directory: a file with its bytes, or a
directory (none). -/
def outerAt (t : FileTree) (loc : List Text) : Option (Option (List UInt8)) :=
  (t.outer.find? (·.1 == loc)).map (·.2)

/-- What a location (parts below the root) names: below the working directory the tree decides,
the directories on the way to it are directories, and elsewhere what was made there, or else
the system's files and directories. -/
def kindAt (t : FileTree) (loc : List Text) : Option Kind :=
  if home.isPrefixOf loc then t.kindBelow (loc.drop home.length)
  else if loc.isPrefixOf home then some .directory
  else
    match t.outerAt loc with
    | some (some _) => some .file
    | some none => some .directory
    | none => systemKind loc

/-- The most bytes a part of a path may have. -/
def nameMax : Nat := 255

/-- The least number of bytes that make a path too long. -/
def pathMax : Nat := 4096

/-- Resolve the parts of a path from a location, checking that every part is looked up in a
directory and is not too long. -/
def walkParts (t : FileTree) (loc : List Text) : List Text → Except FileCause (List Text)
  | [] => .ok loc
  | p :: rest =>
    match t.kindAt loc with
    | some .directory =>
      if p = Text.ofString "." then t.walkParts loc rest
      else if p = Path.up then t.walkParts loc.dropLast rest
      else if nameMax < Utf8.escapedLength p then .error .nameTooLong
      else t.walkParts (loc ++ [Utf8.nameForm p]) rest
    | some .file => .error .notDirectory
    | none => .error .missing

/-- Where the resolution of a path text starts, its parts, and whether it names a directory by
ending with `/`: an absolute path starts at the root, any other at the working directory. The
empty path names nothing, and a path too long is refused. -/
def partsOf (s : Text) : Except FileCause (List Text × List Text × Bool) := do
  if s.isEmpty then throw .missing
  if pathMax ≤ Utf8.escapedLength s then throw .nameTooLong
  let start := if Path.startsAtRoot s then [] else home
  return (start, (Text.splitOn Path.slash s).filter (· ≠ []), s.getLast? == some (.char '/'))

/-- Resolve a path text: the location it names and what is there. -/
def resolve (t : FileTree) (s : Text) : Except FileCause (List Text × Kind) := do
  let (start, parts, dirOnly) ← partsOf s
  let loc ← t.walkParts start parts
  match t.kindAt loc with
  | some .file => if dirOnly then throw .notDirectory else pure (loc, .file)
  | some .directory => pure (loc, .directory)
  | none => throw .missing

/-- The bytes of a path text as the file system gets them; a surrogate that stands for no byte
or a null character refuses the path. -/
def pathBytes (s : Text) : Except Fault (List UInt8) := do
  let bs ← Utf8.encodeEscaped? s
  if bs.contains 0 then throw .nullByte
  return bs

/-- Whether a path names a file or a directory. A path the file system refuses names nothing;
a path too long is a fault. -/
def pathExists (t : FileTree) (s : Text) : Except Fault Bool :=
  match pathBytes s with
  | .error _ => .ok false
  | .ok _ =>
    match t.resolve s with
    | .ok _ => .ok true
    | .error .nameTooLong => .error (.fileSystem .nameTooLong s)
    | .error _ => .ok false

/-- The bytes at a location: a file below the working directory or made outside it, or a
system file, read as empty. -/
def bytesAt (t : FileTree) (loc : List Text) : Option (List UInt8) :=
  if home.isPrefixOf loc then (t.files.find? (·.1 == loc.drop home.length)).map (·.2)
  else
    match t.outerAt loc with
    | some e => e
    | none => if systemKind loc == some .file then some [] else none

/-- The text of a file: decoded as UTF-8 with uniform line ends. A path that is refused, names
nothing or a directory is a fault, and so are bytes that are not UTF-8. -/
def readText (t : FileTree) (s : Text) : Except Fault Text := do
  let _ ← pathBytes s
  match t.resolve s with
  | .error c => .error (.fileSystem c s)
  | .ok (_, .directory) => .error (.fileSystem .isDirectory s)
  | .ok (loc, .file) =>
    match t.bytesAt loc with
    | some bs => Utf8.readText bs
    | none => .error (.fileSystem .missing s)

/-- The location a path text names when the last part is to be created: the parts before it
must lead through directories. -/
def placeFor (t : FileTree) (s : Text) : Except FileCause (List Text) := do
  let (start, parts, dirOnly) ← partsOf s
  match parts.getLast? with
  | none => throw .isDirectory
  | some last =>
    let dir ← t.walkParts start parts.dropLast
    match t.kindAt dir with
    | some .directory =>
      let loc ← t.walkParts dir [last]
      match t.kindAt loc with
      | some .directory => throw .isDirectory
      | _ => if dirOnly then throw .isDirectory else pure loc
    | some .file => throw .notDirectory
    | none => throw .missing

/-- Set the bytes of the file at a location below the working directory, its names taken in
the form they are kept in. -/
def setFile (t : FileTree) (parts : List Text) (bs : List UInt8) : FileTree :=
  let ps := parts.map Utf8.nameForm
  if t.files.any (·.1 == ps) then
    { t with files := t.files.map fun f => if f.1 == ps then (ps, bs) else f }
  else { t with files := t.files ++ [(ps, bs)] }

/-- List a directory at a location below the working directory, its names taken in the form
they are kept in. -/
def addDir (t : FileTree) (parts : List Text) : FileTree :=
  { t with dirs := t.dirs ++ [parts.map Utf8.nameForm] }

/-- Record a file (its bytes) or a directory (none) made at a location outside the working
directory, in place of what was recorded there. -/
def setOuter (t : FileTree) (loc : List Text) (e : Option (List UInt8)) : FileTree :=
  { t with outer := (loc, e) :: t.outer.filter (·.1 != loc) }

/-- Write bytes to the file a path names, creating it in its directory; the path must not name
a directory, and its directory must exist. -/
def write (t : FileTree) (s : Text) (bs : List UInt8) : Except Fault FileTree := do
  let _ ← pathBytes s
  match t.placeFor s with
  | .error c => .error (.fileSystem c s)
  | .ok loc =>
    .ok (if home.isPrefixOf loc then t.setFile (loc.drop home.length) bs
      else t.setOuter loc (some bs))

/-- Make a directory unless one is there; a file in its place, or a missing parent, is a
fault. -/
def makeDir (t : FileTree) (s : Text) : Except Fault FileTree := do
  let _ ← pathBytes s
  match t.resolve s with
  | .ok (_, .directory) => .ok t
  | .ok (_, .file) => .error (.fileSystem .exists s)
  | .error _ =>
    match t.placeFor s with
    | .error c => .error (.fileSystem c s)
    | .ok loc =>
      .ok (if home.isPrefixOf loc then t.addDir (loc.drop home.length) else t.setOuter loc none)

/-- Insert a name into a sorted list of names, keeping it sorted by code points and without
repeats. -/
def insertName (n : Text) : List Text → List Text
  | [] => [n]
  | m :: ms =>
    if n = m then m :: ms else if Text.codeLE n m then n :: m :: ms else m :: insertName n ms

/-- Every location the tree knows of, from the root: the system's files and directories, the
working directory, what was made outside it, and the files and directories below it. -/
def known (t : FileTree) : List (List Text) :=
  (systemFiles ++ systemDirs).map systemParts ++ home :: t.outer.map (·.1) ++
    (t.files.map (·.1) ++ t.dirs).map (home ++ ·)

/-- The name that follows a location on the way to a location below it. -/
def childOf (loc q : List Text) : Option Text :=
  if loc.isPrefixOf q && loc.length < q.length then q[loc.length]? else none

/-- The names a location holds, each once, in code-point order. -/
def namesAt (t : FileTree) (loc : List Text) : List Text :=
  (t.known.filterMap (childOf loc)).foldl (fun acc n => insertName n acc) []

/-- The names a location holds, in the order the directory lists them. -/
def entries (t : FileTree) (loc : List Text) : List Text :=
  t.listing.arrange loc (t.namesAt loc)

/-- The names a location holds, in listing order: those of its files, and those of its
directories. -/
def children (t : FileTree) (loc : List Text) : List Text × List Text :=
  let isFile (n : Text) : Bool := t.kindAt (loc ++ [n]) == some .file
  ((t.entries loc).filter isFile, (t.entries loc).filter (!isFile ·))

/-- More steps than any walk from a location of the tree takes: one more than the length of the
longest location it knows of. -/
def reach (t : FileTree) : Nat :=
  (t.known.map List.length).foldl max 0 + 1

/-- A directory met on a walk: its path text, and the names of its files. -/
structure Visit where
  path : Text
  files : List Text

/-- The directories below a directory, top down: each directory, then the directories below
its subdirectories in listing order. The path texts join each name to the path text of its
directory. `fuel` bounds the depth. -/
def walkFrom (t : FileTree) : Nat → Text → List Text → List Visit
  | 0, _, _ => []
  | fuel + 1, text, loc =>
    let (files, dirs) := t.children loc
    ⟨text, files⟩ :: dirs.flatMap fun d => t.walkFrom fuel (Path.joinText text d) (loc ++ [d])

/-- The directories met when walking a path text, top down; nothing when it names no
directory. A path the file system refuses is a fault. -/
def walk (t : FileTree) (s : Text) : Except Fault (List Visit) := do
  let _ ← pathBytes s
  match t.resolve s with
  | .ok (loc, .directory) => return t.walkFrom t.reach s loc
  | _ => return []

/-- The paths below a location whose names end with `suffix`, as names from it, the way a
recursive glob meets them: the location's own names that end so, in listing order, then the
paths below each of its subdirectories in turn. `fuel` bounds the depth. -/
def globFrom (t : FileTree) (suffix : Text) : Nat → List Text → List (List Text)
  | 0, _ => []
  | fuel + 1, loc =>
    ((t.entries loc).filter (·.endsWith suffix)).map ([·]) ++
      (t.children loc).2.flatMap fun d => (t.globFrom suffix fuel (loc ++ [d])).map (d :: ·)

/-- The paths below a directory (as path objects joined to `base`) whose names end with
`suffix`, files and directories alike, searching every directory below it; nothing when `base`
names no directory. -/
def globSuffix (t : FileTree) (base : Path) (suffix : Text) : List Path :=
  match t.resolve base.toText with
  | .ok (loc, .directory) =>
    (t.globFrom suffix t.reach loc).map fun q => ⟨base.root, base.parts ++ q⟩
  | _ => []

/-- Insert a name into names in code-point order, after the names not above it. -/
def insertByCode (n : Text) : List Text → List Text
  | [] => [n]
  | m :: ms => if Text.codeLE n m then n :: m :: ms else m :: insertByCode n ms

/-- Names in code-point order, as a sort of a directory's file names gives them. -/
def sortNames (names : List Text) : List Text :=
  names.foldr insertByCode []

/-- The files of the tree, as path texts relative to the working directory. -/
def fileTexts (t : FileTree) : List (Text × List UInt8) :=
  t.files.map fun (ps, bs) => (Path.slash.intercalate ps, bs)

end FileTree

end NodeCatalog
