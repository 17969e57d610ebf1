import NodeCatalog.Proofs.DocReading
import NodeCatalog.Proofs.Walks
import Mathlib.Data.List.Forall2
/-!
# The doc catalog and the doc listing

Two readers go through a docs folder. The listing reads every `.md` file below it and records each
doc's path as it was read; the catalog reads the files called `index.md` and records each doc's text
and its path below the folder. Both cut a doc's front matter the same way, so the catalog is the
listing cut down to the index files, each entry made for the catalog: the same title, description
and content types, the file's text, and the path below the folder, which the path the listing
records ends with (`Catalog.ListedAs`). Both print the same failure for a file they cannot read. The
catalog is `run_doc_extraction` (`src/tools/extract_docs.py`, lines 80–123), the listing
`get_nodes_metadata` (`src/tools/fetch_all_nodes.py`, lines 68–84).

The walk names each file by joining names to the folder's path, and the two readers join in two
ways (as texts, and as path objects); in a well-named tree they give the same text, and seen
from the folder that text is the names joined (`Catalog.listed_eq_relative`).

- `Catalog.indexFiles_eq_filter`: the files the catalog reads are the listing's index files.
- `Catalog.readFrom_listedAs`: for a file below the folder, the two entries are related.
- `Catalog.read_agrees_list`: the two readers agree on any file.
- `Catalog.docCatalog_refines_listing`: **the doc catalog is the listing of the same folder,
  cut down to the index files and made for the catalog.**
-/

namespace NodeCatalog

namespace Catalog

/-- Whether a path text names a file called `index.md`. -/
def isIndexFile (f : Text) : Bool :=
  (Path.ofText f).name == Text.ofString "index.md"

variable {t : FileTree} {p : Path} {visits : List FileTree.Visit}

/-- The index files the catalog reads are the files the listing reads that are called
`index.md`, in the same order. -/
theorem indexFiles_eq_filter (ht : t.WellNamed) (hp : p.Proper)
    (hwalk : t.walk p.toText = .ok visits) :
    indexFiles visits = (DocEntry.listedFiles visits).filter isIndexFile := by
  simp only [indexFiles, DocEntry.listedFiles, List.filter_flatMap]
  refine List.flatMap_congr fun v hv => ?_
  obtain ⟨ds, hds, hpath, hfiles⟩ := FileTree.walk_paths ht hp hwalk v hv
  replace hfiles : ∀ f ∈ FileTree.sortNames v.files, Path.NameOk f := fun f hf =>
    hfiles f (FileTree.mem_sortNames.mp hf)
  rw [List.filter_map, List.filter_filter]
  -- a listed file is an index file exactly when its own name is `index.md`
  have hcond : ∀ f ∈ FileTree.sortNames v.files,
      ((isIndexFile ∘ Path.joinText v.path) f && DocEntry.isMarkdown f) =
        (f == Text.ofString "index.md") := by
    intro f hf
    have hpf := hp.append fun q hq =>
      (List.mem_append.mp hq).elim (fun hq => (hds q hq).1) fun hq => by
        rw [List.mem_singleton.mp hq]
        exact (hfiles f hf).1
    simp only [Function.comp_apply, hpath, (Path.joins_toText_append hp hds (hfiles f hf)).1,
      isIndexFile,
      Path.name_ofText_toText hpf]
    simp only [← List.append_assoc, List.getLast_concat]
    by_cases hidx : f = Text.ofString "index.md"
    · subst hidx
      decide
    · simp [hidx]
  rw [List.filter_congr hcond]
  refine List.map_congr_left fun f hf => ?_
  have hf' := (List.mem_filter.mp hf).1
  obtain ⟨hjoin, hjoin'⟩ := Path.joins_toText_append hp hds (hfiles f hf')
  rw [hpath, hjoin, hjoin']

/-- A file the listing reads below a proper path is the path's text, `/`, and the file's path
relative to the path. -/
theorem listed_eq_relative (ht : t.WellNamed) (hp : p.Proper)
    (hwalk : t.walk p.toText = .ok visits) (here : List Text) :
    ∀ f ∈ DocEntry.listedFiles visits,
      f = p.toText ++ Path.slash ++ Path.relative here f p.toText := by
  intro f hf
  simp only [DocEntry.listedFiles, List.mem_flatMap, List.mem_map, List.mem_filter] at hf
  obtain ⟨v, hv, n, ⟨hn, -⟩, rfl⟩ := hf
  obtain ⟨ds, hds, hpath, hfiles⟩ := FileTree.walk_paths ht hp hwalk v hv
  replace hn := FileTree.mem_sortNames.mp hn
  have hrest : ∀ q ∈ ds ++ [n], Path.NameOk q := fun q hq =>
    (List.mem_append.mp hq).elim (hds q) fun hq => by
      rw [List.mem_singleton.mp hq]
      exact hfiles n hn
  rw [hpath, (Path.joins_toText_append hp hds (hfiles n hn)).1,
    Path.relative_toText_append here hp hrest (by simp),
    Path.toText_append hp (by simp)]

/-- A catalog entry is the listing's entry `fe.2` of the file `fe.1` below the folder `root`,
made for the catalog: the same front matter, the file's text, and the path seen from the
folder, which the listing's path ends with. -/
def ListedAs (t : FileTree) (root : Text) (c : DocEntry) (fe : Text × DocEntry) : Prop :=
  c.title = fe.2.title ∧ c.description = fe.2.description ∧ c.contentType = fe.2.contentType ∧
    c.text = (t.readText fe.1).toOption ∧
    fe.2.path = Text.replaceChar '\\' '/' root ++ Text.ofString "/" ++ c.path

/-- Reading a file that lies below a folder, the catalog has an entry exactly when the listing
has one, and it is the listing's entry made for the catalog. -/
theorem readFrom_listedAs {root f : Text}
    (hf : f = root ++ Path.slash ++ Path.relative DocEntry.here f root) :
    Option.Rel (ListedAs t root) (DocEntry.readFrom t f root)
      ((DocEntry.listFrom t f).map (f, ·)) := by
  simp only [DocEntry.readFrom, DocEntry.listFrom]
  cases hread : (t.readText f).toOption with
  | none => exact .none
  | some content =>
    simp only [Option.bind_some, DocEntry.ofContent, DocEntry.ofContentListed]
    cases FrontMatter.fields? content with
    | none => exact .none
    | some fm =>
      refine .some ⟨rfl, rfl, rfl, hread.symm, ?_⟩
      -- the listing records the path as read, the catalog the path below the folder
      show Text.replaceChar '\\' '/' f = _
      conv_lhs => rw [hf]
      simp [Text.replaceChar, Path.slash_eq]
      rfl

/-- The docs folder of a docs tree is a proper path. -/
theorem docsRoot_proper (docs : Text) : ((Path.ofText docs).join "docs/integrations").Proper := by
  have hsub : Path.ofText "docs/integrations" = ⟨[], ["docs", "integrations"]⟩ := by
    decide +kernel
  rw [Path.join_of_relative (by rw [hsub]), hsub]
  refine ⟨Path.rootOk_rootOf docs, fun q hq => ?_, by simp⟩
  rcases List.mem_append.mp hq with hq | hq
  · exact Path.partOk_of_mem_partsOf hq
  · simp only [List.mem_cons, List.not_mem_nil, or_false] at hq
    rcases hq with rfl | rfl <;> decide

/-- A mapping cut down to the entries whose keys are among `keys`, in order; a value that is not
a mapping stays as it is. -/
def restrictKeys (keys : List Text) : Value → Value
  | .dict es => .dict (es.filter fun e => match e.1 with
    | .str k => keys.contains k
    | _ => false)
  | v => v

/-- The short form of an entry is its full form cut down to title, description and path. -/
theorem summary_eq_restrictKeys (e : DocEntry) :
    e.summary = restrictKeys ["title", "description", "path"] e.toValue := by
  cases h : e.text <;> simp [DocEntry.summary, DocEntry.toValue, h, restrictKeys,
    Text.ofString_inj]

/-- The short forms of entries are their full forms cut down to title, description and path,
in the same order. -/
theorem summaries_eq_restrictKeys (es : List DocEntry) :
    es.map DocEntry.summary =
      (es.map DocEntry.toValue).map (restrictKeys ["title", "description", "path"]) := by
  rw [List.map_map]
  exact List.map_congr_left fun e _ => summary_eq_restrictKeys e

/-- The catalog reader and the listing reader of a doc print the same and give entries with the
same front matter, or none alike. -/
theorem read_agrees_list (s : Session) (file base : Text) :
    (Run.exec (DocEntry.read file base) s).2 = (Run.exec (DocEntry.list file) s).2 ∧
      (Run.exec (DocEntry.read file base) s).1.map
          (Option.map fun e => (e.title, e.description, e.contentType)) =
        (Run.exec (DocEntry.list file) s).1.map
          (Option.map fun e => (e.title, e.description, e.contentType)) := by
  rw [DocEntry.read_reads file base s, DocEntry.list_reads file s]
  refine ⟨rfl, ?_⟩
  simp only [Except.map, DocEntry.readFrom, DocEntry.listFrom, Except.ok.injEq]
  cases (s.tree.readText file).toOption with
  | none => rfl
  | some content =>
    simp only [Option.bind_some, DocEntry.ofContent, DocEntry.ofContentListed]
    cases FrontMatter.fields? content <;> rfl

/-- The doc catalog is the listing of the same folder, cut down to the index files and made for
the catalog. Below the docs folder of a docs tree, the listing reads the `.md` files of a walk
in walk order; the doc extraction reads those called `index.md`, prints the same read failures
for them, and writes one entry for each such file the listing has an entry for, in order: the
same front matter, the file's text, and its path below the folder, which the listing's path
ends with. The two readers of a doc agree in general, and the short forms written are the full
entries cut down to title, description and path. -/
theorem docCatalog_refines_listing (t : FileTree) (ht : t.WellNamed) (docs : Text)
    (hroot : t.kindOf (docsRoot docs) = some .directory) :
    (∃ files : List Text,
      (∀ s : Session, s.tree = t → Run.exec (DocEntry.listAll (docsRoot docs)) s =
        (.ok (files.filterMap (DocEntry.listFrom t)),
          { s with out := s.out ++ files.flatMap (Run.readReport t ·) })) ∧
      (∀ (s : Session) (out : Text), s.tree = t → Run.exec (writeDocs docs out) s =
        Run.exec (writeDocOutputs (docEntries t (docsRoot docs)) out)
          { s with out := s.out ++ (Text.ofString "Scanning documentation files in " ++
              docsRoot docs ++ Text.ofString "...") ++ [.char '\n'] ++
              (files.filter isIndexFile).flatMap (Run.readReport t ·) }) ∧
      List.Forall₂ (ListedAs t (docsRoot docs)) (docEntries t (docsRoot docs))
        ((files.filter isIndexFile).filterMap fun f => (DocEntry.listFrom t f).map (f, ·))) ∧
    (∀ es : List DocEntry,
      es.map DocEntry.summary = (es.map DocEntry.toValue).map
        (restrictKeys ["title", "description", "path"])) ∧
    (∀ (s : Session) (file base : Text),
      (Run.exec (DocEntry.read file base) s).2 = (Run.exec (DocEntry.list file) s).2 ∧
      (Run.exec (DocEntry.read file base) s).1.map
          (Option.map fun e => (e.title, e.description, e.contentType)) =
        (Run.exec (DocEntry.list file) s).1.map
          (Option.map fun e => (e.title, e.description, e.contentType))) := by
  refine ⟨?_, summaries_eq_restrictKeys, read_agrees_list⟩
  have hp := docsRoot_proper docs
  obtain ⟨visits, hwalk⟩ := FileTree.walk_isOk_of_kindOf hroot
  have hindex := indexFiles_eq_filter ht hp hwalk
  refine ⟨DocEntry.listedFiles visits, fun s hs => DocEntry.exec_listAll hwalk hs,
    fun s out hs => hindex ▸ exec_writeDocs hroot hwalk hs, ?_⟩
  -- each index file gives related entries, or none on both sides
  have hrel : ∀ f ∈ (DocEntry.listedFiles visits).filter isIndexFile,
      Option.Rel (ListedAs t (docsRoot docs)) (DocEntry.readFrom t f (docsRoot docs))
        ((DocEntry.listFrom t f).map (f, ·)) := fun f hf =>
    readFrom_listedAs (listed_eq_relative ht hp hwalk DocEntry.here f (List.mem_filter.mp hf).1)
  rw [docEntries, hwalk]
  dsimp only
  rw [hindex]
  let files := (DocEntry.listedFiles visits).filter isIndexFile
  have hsame : List.Forall₂ (fun a b => a = b ∧ a ∈ files) files files :=
    List.forall₂_same.mpr fun x hx => ⟨rfl, hx⟩
  refine List.rel_filterMap ?_ hsame
  rintro a b ⟨rfl, ha⟩
  exact hrel a ha

/-- A docs folder with an index file and another doc, every hypothesis met. -/
theorem docCatalog_of_two_docs :
    let t : FileTree := { files :=
      [(["d", "docs", "integrations", "x", "index.md"],
          Utf8.encode "---\ntitle: T\ndescription: D\n---\n"),
        (["d", "docs", "integrations", "x", "notes.md"],
          Utf8.encode "---\ntitle: N\ndescription: E\n---\n")] }
    t.WellNamed ∧ t.kindOf (docsRoot "d") = some .directory ∧
    (∃ files : List Text,
      (∀ s : Session, s.tree = t → Run.exec (DocEntry.listAll (docsRoot "d")) s =
        (.ok (files.filterMap (DocEntry.listFrom t)),
          { s with out := s.out ++ files.flatMap (Run.readReport t ·) })) ∧
      (∀ (s : Session) (out : Text), s.tree = t → Run.exec (writeDocs "d" out) s =
        Run.exec (writeDocOutputs (docEntries t (docsRoot "d")) out)
          { s with out := s.out ++ (Text.ofString "Scanning documentation files in " ++
              docsRoot "d" ++ Text.ofString "...") ++ [.char '\n'] ++
              (files.filter isIndexFile).flatMap (Run.readReport t ·) }) ∧
      List.Forall₂ (ListedAs t (docsRoot "d")) (docEntries t (docsRoot "d"))
        ((files.filter isIndexFile).filterMap fun f => (DocEntry.listFrom t f).map (f, ·))) ∧
    (∀ es : List DocEntry,
      es.map DocEntry.summary = (es.map DocEntry.toValue).map
        (restrictKeys ["title", "description", "path"])) ∧
    (∀ (s : Session) (file base : Text),
      (Run.exec (DocEntry.read file base) s).2 = (Run.exec (DocEntry.list file) s).2 ∧
      (Run.exec (DocEntry.read file base) s).1.map
          (Option.map fun e => (e.title, e.description, e.contentType)) =
        (Run.exec (DocEntry.list file) s).1.map
          (Option.map fun e => (e.title, e.description, e.contentType))) := by
  intro t
  have ht : t.WellNamed := by decide +kernel
  have hroot : t.kindOf (docsRoot "d") = some .directory := by decide +kernel
  exact ⟨ht, hroot, docCatalog_refines_listing t ht "d" hroot⟩

end Catalog

end NodeCatalog
