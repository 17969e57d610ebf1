import NodeCatalog.Proofs.WriteOrder
import NodeCatalog.Proofs.SchemaRun
import NodeCatalog.Proofs.DocPaths
import NodeCatalog.Proofs.DocOutputs
/-!
# The catalog's documents, one after the other

A catalog build (`main`, `src/main.py`, lines 6–36) makes the folder `data` where it is missing
and writes three documents into it: the schemas, the doc entries and their short forms. Each is
written into a file emptied first and filled piece by piece, so a fault can stop the build once
a document is cut short, the documents before it already written. What holds instead of all or
nothing is an order: the build writes its documents one after the other (`Run.WritesInOrder`),
and where `data` was a folder already no other file changes.

Everything a build does besides writing (looking a path up, walking a folder, reading files,
printing) keeps the tree (`Run.KeepsTree`), so it neither writes nor breaks the order. Making
`data` where it is missing adds an empty folder, so each document still names the file it named
before: none.

- `Run.KeepsTree`: the steps that only look, read and print.
- `Run.WritesInOrder.kept`, `Run.WritesInOrder.bind_of_keepsTree`: a run that stops before it
  writes, or looks before it writes, keeps the order.
- `Run.WritesOnly.bind_print`, `Run.WritesInOrder.bind_print`: printing after a run changes no
  file and keeps the order.
- `Catalog.writeSchemas_inOrder`, `Catalog.writeDocs_inOrder`: the two extractions.
- `Catalog.makeDir_data`: making `data` leaves each document naming the file it named.
- `Catalog.build_writes_in_order`: **from any tree, the build returns with each document left as
  it was or written whole, or stops at one of them with those before it left or whole, that one
  left or holding what was written of it, and those after it untouched; started where `data` is
  a folder, it changes no other file.**
- `Catalog.docOutputs_complete_or_docs_cut`: **the doc extraction returns with both documents
  whole, stops having changed nothing, or stops with docs.json cut and the list untouched; and
  the whole build writes its three documents in order.**
-/

namespace NodeCatalog

namespace FileTree

variable {t : FileTree}

/-- Two files named differently in one folder are apart. -/
theorem apart_of_names {p q out m n : Text}
    (hp : ∀ l', t.locate p = some l' → ∃ l, t.locate out = some l ∧ l' = l ++ [m])
    (hq : ∀ l', t.locate q = some l' → ∃ l, t.locate out = some l ∧ l' = l ++ [n])
    (hmn : m ≠ n) : t.Apart p q := by
  intro l hpl hql
  obtain ⟨l₀, h₀, rfl⟩ := hp l hpl
  obtain ⟨l₁, h₁, he⟩ := hq _ hql
  rw [h₀, Option.some.injEq] at h₁
  subst h₁
  rw [List.append_cancel_left_eq, List.cons.injEq] at he
  exact hmn he.1

/-- A file of a folder is apart from the folder. -/
theorem apart_of_name {p out n : Text}
    (hp : ∀ l', t.locate p = some l' → ∃ l, t.locate out = some l ∧ l' = l ++ [n]) :
    t.Apart p out := by
  intro l hpl hout
  obtain ⟨l₀, h₀, rfl⟩ := hp l hpl
  rw [h₀, Option.some.injEq] at hout
  simpa using congrArg List.length hout

/-- The folder `data` lies in the working directory, whatever the tree. -/
theorem locate_data : t.locate "data" = some (home ++ [Text.ofString "data"]) := by
  have hparts : partsOf "data" = .ok (home, [Text.ofString "data"], false) := by decide +kernel
  have hhome : t.kindAt home = some .directory := by
    simpa [kindBelow] using kindAt_home_append (t := t) []
  simp only [locate, hparts, walkParts, hhome]
  rw [if_neg (by decide +kernel), if_neg (by decide +kernel), if_neg (by decide +kernel),
    show Utf8.nameForm "data" = "data" by decide +kernel]
  rfl

end FileTree

namespace Run

variable {α β : Type}

/-! ## Steps that keep the tree -/

/-- An operation that leaves the tree of every session as it was: it looks, reads and prints. -/
def KeepsTree (op : Run α) : Prop :=
  ∀ s, (exec op s).2.tree = s.tree

theorem Reads.keepsTree {op : Run α} {r : FileTree → α} {p : FileTree → Text}
    (h : Reads op r p) : KeepsTree op := by
  intro s
  rw [h s]

theorem keepsTree_tree : KeepsTree tree := fun _ => rfl

theorem keepsTree_print (line : Text) : KeepsTree (print line) := fun _ => rfl

theorem keepsTree_exists (path : Text) : KeepsTree (Run.exists path) := by
  intro s
  rcases h : s.tree.pathExists path with f | b
  · rw [exec_exists_error h]
  · rw [exec_exists h]

theorem keepsTree_walk (path : Text) : KeepsTree (walk path) := by
  intro s
  rcases h : s.tree.walk path with f | vs
  · rw [exec_walk_error h]
  · rw [exec_walk h]

theorem KeepsTree.bind {x : Run α} {f : α → Run β} (hx : KeepsTree x)
    (hf : ∀ a, KeepsTree (f a)) : KeepsTree (x >>= f) := by
  intro s
  have hkeep := hx s
  rcases hr : exec x s with ⟨_ | a, s'⟩
  · rw [hr] at hkeep
    rw [exec_bind_error hr]
    exact hkeep
  · rw [hr] at hkeep
    rw [exec_bind_ok hr, hf a s']
    exact hkeep

/-- Looking before writing writes what the rest writes. -/
theorem WritesOnly.bind_of_keepsTree {x : Run α} {f : α → Run β} {ps : List Text}
    (hx : KeepsTree x) (hf : ∀ a, WritesOnly (f a) ps) : WritesOnly (x >>= f) ps := by
  simpa using WritesOnly.bind (WritesOnly.of_tree hx []) hf

/-! ## Keeping the order -/

/-- A run that leaves the tree as it was writes any files in order: it left each of them. -/
theorem WritesInOrder.kept {fs : List Text} {before : FileTree}
    {r : Except Fault Unit × Session} (hfs : fs ≠ []) (h : r.2.tree = before) :
    WritesInOrder fs before r := by
  obtain ⟨f, post, rfl⟩ := List.exists_cons_of_ne_nil hfs
  obtain ⟨_ | ⟨⟩, s⟩ := r
  · -- a run that stopped, stopped at the first file
    exact .inr ⟨by simp, [], f, post, rfl, by simp, .inl (by rw [h]), fun g _ => by rw [h]⟩
  · exact .inl ⟨rfl, fun g _ => .inl (by rw [h])⟩

/-- Looking before writing keeps the order: when the first part leaves the tree as it was, the
files are written in order as the rest writes them, or left when the first part stops. -/
theorem WritesInOrder.bind_of_keepsTree {x : Run α} {f : α → Run Unit} {fs : List Text}
    {before : FileTree} {s : Session} (hfs : fs ≠ []) (hx : KeepsTree x) (hs : s.tree = before)
    (hf : ∀ a s', s'.tree = before → WritesInOrder fs before (exec (f a) s')) :
    WritesInOrder fs before (exec (x >>= f) s) := by
  have hkeep := hx s
  rcases hr : exec x s with ⟨_ | a, s'⟩
  · rw [hr] at hkeep
    rw [exec_bind_error hr]
    exact .kept hfs (hkeep.trans hs)
  · rw [hr] at hkeep
    rw [exec_bind_ok hr]
    exact hf a s' (hkeep.trans hs)

/-- Printing after an operation writes what the operation writes. -/
theorem WritesOnly.bind_print {x : Run α} {ps : List Text} (hx : WritesOnly x ps) (line : Text) :
    WritesOnly (x >>= fun _ => print line) ps := by
  simpa using hx.bind fun _ => WritesOnly.of_tree (keepsTree_print line) []

/-- Printing after a run that writes in order keeps the order: the line is printed only when
the run returned normally, and it changes no file. -/
theorem WritesInOrder.bind_print {x : Run Unit} {fs : List Text} {before : FileTree}
    {s : Session} (hx : WritesInOrder fs before (exec x s)) (line : Text) :
    WritesInOrder fs before (exec (x >>= fun _ => print line) s) := by
  rcases hr : exec x s with ⟨_ | ⟨⟩, s'⟩
  · rw [hr] at hx
    rw [exec_bind_error hr]
    exact hx
  · rw [hr] at hx
    rw [exec_bind_ok hr]
    exact hx

end Run

namespace Catalog

open Run

/-! ## The schemas -/

theorem keepsTree_schemaFold (t : FileTree) (files : List Path) (acc : List (Value × Value)) :
    KeepsTree (files.foldlM (schemaStep t) acc) := by
  intro s
  rw [exec_schemaFold]

/-- A schema run writes only its output file. -/
theorem writesOnly_writeSchemas (core out : Text) : WritesOnly (writeSchemas core out) [out] := by
  simp only [writeSchemas]
  refine WritesOnly.bind_of_keepsTree keepsTree_tree fun t => ?_
  refine WritesOnly.bind_of_keepsTree (keepsTree_exists _) fun found => ?_
  split
  · exact WritesOnly.of_tree (keepsTree_print _) _
  · refine WritesOnly.bind_of_keepsTree (keepsTree_print _) fun _ => ?_
    exact WritesOnly.bind_of_keepsTree (keepsTree_schemaFold t _ []) fun schemas =>
      (writesOnly_writeJson out _).bind_print _

/-- A schema run leaves its output file when the nodes folder is missing or cannot be looked up,
and otherwise writes it as its document is written. -/
theorem writeSchemas_inOrder (core out : Text) (s : Session) :
    WritesInOrder [out] s.tree (exec (writeSchemas core out) s) := by
  simp only [writeSchemas]
  refine WritesInOrder.bind_of_keepsTree (by simp) keepsTree_tree rfl fun t s₁ h₁ => ?_
  refine WritesInOrder.bind_of_keepsTree (by simp) (keepsTree_exists _) h₁ fun found s₂ h₂ => ?_
  split
  · exact .kept (by simp) ((keepsTree_print _ s₂).trans h₂)
  · refine WritesInOrder.bind_of_keepsTree (by simp) (keepsTree_print _) h₂ fun _ s₃ h₃ => ?_
    refine WritesInOrder.bind_of_keepsTree (by simp) (keepsTree_schemaFold t _ []) h₃
      fun schemas s₄ h₄ => ?_
    rw [← h₄]
    exact (writeJson_inOrder out _ s₄).bind_print _

/-! ## The doc entries -/

theorem keepsTree_readDocs (root : Text) : KeepsTree (readDocs root) :=
  (keepsTree_walk root).bind fun visits =>
    (Reads.filterMapM (fun f => DocEntry.read_reads f root) (indexFiles visits)).keepsTree

/-- Writing the doc documents writes only their two files. -/
theorem writesOnly_writeDocOutputs (es : List DocEntry) (out : Text) :
    WritesOnly (writeDocOutputs es out)
      [outputFile out "docs.json", outputFile out "all_nodes_list.json"] := by
  simp only [writeDocOutputs]
  refine ((writesOnly_writeJson _ _).bind fun _ =>
    WritesOnly.bind_of_keepsTree (keepsTree_print _) fun _ =>
      (writesOnly_writeJson _ _).bind_print _).mono ?_
  simp

/-- The doc extraction writes only the two doc documents. -/
theorem writesOnly_writeDocs (docs out : Text) :
    WritesOnly (writeDocs docs out)
      [outputFile out "docs.json", outputFile out "all_nodes_list.json"] := by
  simp only [writeDocs]
  refine WritesOnly.bind_of_keepsTree (keepsTree_exists _) fun found => ?_
  split
  · exact WritesOnly.of_tree (keepsTree_print _) _
  · refine WritesOnly.bind_of_keepsTree (keepsTree_print _) fun _ => ?_
    exact WritesOnly.bind_of_keepsTree (keepsTree_readDocs _) fun es =>
      writesOnly_writeDocOutputs es out

/-- Writing the doc documents into a folder writes the full document, then the short one. -/
theorem writeDocOutputs_inOrder (es : List DocEntry) (out : Text) (s : Session)
    (hout : s.tree.kindOf out = some .directory) :
    WritesInOrder [outputFile out "docs.json", outputFile out "all_nodes_list.json"] s.tree
      (exec (writeDocOutputs es out) s) := by
  obtain ⟨hfull, hshort⟩ := locate_docOutputs hout
  have hapart : s.tree.Apart (outputFile out "docs.json") (outputFile out "all_nodes_list.json") :=
    FileTree.apart_of_names hfull hshort (by decide)
  simp only [writeDocOutputs]
  refine @WritesInOrder.bind _ _ _ [outputFile out "all_nodes_list.json"] _
    (writeJson_inOrder _ _ s) (writesOnly_writeJson _ _)
    (WritesOnly.bind_of_keepsTree (keepsTree_print _) fun _ => (writesOnly_writeJson _ _).bind_print _)
    (fun s₁ _ => ?_) (by simpa using hapart)
  -- the short document is written after the line that reports the full one
  refine WritesInOrder.bind_of_keepsTree (by simp) (keepsTree_print _) rfl fun _ s₂ h₂ => ?_
  rw [← h₂]
  exact (writeJson_inOrder _ _ s₂).bind_print _

/-- The doc extraction into a folder leaves both documents when the docs folder is missing or
cannot be walked, and otherwise writes the full document, then the short one. -/
theorem writeDocs_inOrder (docs out : Text) (s : Session)
    (hout : s.tree.kindOf out = some .directory) :
    WritesInOrder [outputFile out "docs.json", outputFile out "all_nodes_list.json"] s.tree
      (exec (writeDocs docs out) s) := by
  simp only [writeDocs]
  refine WritesInOrder.bind_of_keepsTree (by simp) (keepsTree_exists _) rfl fun found s₁ h₁ => ?_
  split
  · exact .kept (by simp) ((keepsTree_print _ s₁).trans h₁)
  · refine WritesInOrder.bind_of_keepsTree (by simp) (keepsTree_print _) h₁ fun _ s₂ h₂ => ?_
    refine WritesInOrder.bind_of_keepsTree (by simp) (keepsTree_readDocs _) h₂
      fun es s₃ h₃ => ?_
    rw [← h₃] at hout ⊢
    exact writeDocOutputs_inOrder es out s₃ hout

/-! ## The whole build -/

/-- The documents of the catalog, in the order the build writes them. -/
def documents : List Text :=
  ["data/schemas.json", "data/docs.json", "data/all_nodes_list.json"]

/-- A document of the catalog leads, when it leads anywhere, through the folder `data`, which is
then a directory, to a name in it. -/
theorem locate_document {t : FileTree} {p : Text} (hp : p ∈ documents) {l : List Text}
    (h : t.locate p = some l) :
    t.kindAt (FileTree.home ++ [Text.ofString "data"]) = some .directory ∧
      ∃ n, l = FileTree.home ++ [Text.ofString "data", n] := by
  -- each document is `data`, a slash and an ordinary name
  have hparts : ∃ n, FileTree.partsOf p = .ok (FileTree.home, [Text.ofString "data", n], false) ∧
      n ≠ Text.ofString "." ∧ n ≠ Path.up := by
    simp only [documents, List.mem_cons, List.not_mem_nil, or_false] at hp
    rcases hp with rfl | rfl | rfl
    · exact ⟨Text.ofString "schemas.json", by decide +kernel, by decide, by decide +kernel⟩
    · exact ⟨Text.ofString "docs.json", by decide +kernel, by decide, by decide +kernel⟩
    · exact ⟨Text.ofString "all_nodes_list.json", by decide +kernel, by decide, by decide +kernel⟩
  obtain ⟨n, hpn, hdot, hup⟩ := hparts
  simp only [FileTree.locate, hpn] at h
  obtain ⟨-, hw⟩ := FileTree.walkParts_cons_ok (by decide) (by decide +kernel)
    (Except.eq_ok_of_toOption h)
  rw [show Utf8.nameForm "data" = "data" by decide +kernel] at hw
  obtain ⟨hdir, hw⟩ := FileTree.walkParts_cons_ok hdot hup hw
  simp only [FileTree.walkParts, Except.ok.injEq] at hw
  exact ⟨hdir, Utf8.nameForm n, by rw [← hw]; simp⟩

/-- Making the folder `data`: afterwards it is a folder, and each document names the file it
named before; none, when the folder was not there. -/
theorem makeDir_data {t t' : FileTree} (h : t.makeDir "data" = .ok t') :
    t'.kindOf "data" = some .directory ∧ ∀ p ∈ documents, t'.fileAt p = t.fileAt p := by
  rcases FileTree.makeDir_ok h with ⟨hdir, rfl⟩ | ⟨loc, hpl, hnone, rfl⟩
  · exact ⟨hdir, fun _ _ => rfl⟩
  -- the folder was missing: it is made in the working directory, empty
  have hloc : loc = FileTree.home ++ [Text.ofString "data"] :=
    Option.some.inj ((FileTree.locate_of_placeFor hpl).symm.trans FileTree.locate_data)
  subst hloc
  have hbelow : t.kindBelow [Text.ofString "data"] = none := by
    rwa [FileTree.kindAt_home_append] at hnone
  have hform : [Text.ofString "data"].map Utf8.nameForm = [Text.ofString "data"] := by
    decide +kernel
  simp only [List.isPrefixOf_iff_prefix.mpr (List.prefix_append _ _), if_true, List.drop_left]
  have hmade : (t.addDir [Text.ofString "data"]).kindAt (FileTree.home ++ [Text.ofString "data"]) =
      some .directory := by
    rw [FileTree.kindAt_home_append, FileTree.kindBelow_addDir_self hform hbelow]
  refine ⟨FileTree.kindOf_of_locate (Except.exists_ok_of_isOk (by decide +kernel))
    FileTree.locate_data hmade,
    fun p hp => ?_⟩
  -- neither tree has a file below `data`: before, the way stops there; after, nothing is in it
  rw [FileTree.fileAt_eq_none fun l hl => ?_, FileTree.fileAt_eq_none fun l hl => ?_]
  · obtain ⟨hdir, -⟩ := locate_document hp hl
    rw [hnone] at hdir
    cases hdir
  · obtain ⟨-, n, rfl⟩ := locate_document hp hl
    have hoff : ¬[Text.ofString "data", n] <+: [Text.ofString "data"].map Utf8.nameForm := by
      rw [hform]
      intro hpre
      simpa using hpre.length_le
    rw [FileTree.kindAt_home_append, FileTree.kindBelow_addDir_of_not_prefix hoff,
      show [Text.ofString "data", n] = [Text.ofString "data"] ++ [n] from rfl,
      FileTree.kindBelow_append_of_none hbelow]
    simp
/-- Once the folder `data` is made, the rest of the build writes the documents in order, seen
from the tree after making it, and changes no other file. -/
theorem build_after_makeDir {s s' : Session} (hmk : exec (makeDir "data") s = (.ok (), s'))
    (hdata : s'.tree.kindOf "data" = some .directory) :
    WritesInOrder documents s'.tree (exec build s) ∧
      ∀ q, (∀ p ∈ documents, s'.tree.Apart p q) →
        (exec build s).2.tree.fileAt q = s'.tree.fileAt q := by
  have hschemas : outputFile "data" "schemas.json" = "data/schemas.json" := by decide +kernel
  have hdocs : outputFile "data" "docs.json" = "data/docs.json" := by decide +kernel
  have hlist : outputFile "data" "all_nodes_list.json" = "data/all_nodes_list.json" := by
    decide +kernel
  -- each document leads to its name in `data`
  have hfile : ∀ l', s'.tree.locate "data/schemas.json" = some l' →
      ∃ l, s'.tree.locate "data" = some l ∧ l' = l ++ [Text.ofString "schemas.json"] := by
    intro l' h
    rw [← hschemas] at h
    have := locate_outputFile hdata (by decide +kernel) (by decide) (by decide +kernel) h
    rwa [show Utf8.nameForm "schemas.json" = "schemas.json" by decide +kernel] at this
  obtain ⟨hfull, hshort⟩ := locate_docOutputs hdata
  simp only [build, documents]
  rw [exec_bind_ok hmk]
  constructor
  · refine WritesInOrder.bind_of_keepsTree (by simp) (keepsTree_print _) rfl fun _ s₁ h₁ => ?_
    rw [← h₁, ← hdocs, ← hlist]
    refine @WritesInOrder.bind _ _ _
      [outputFile "data" "docs.json", outputFile "data" "all_nodes_list.json"] _
      (writeSchemas_inOrder "n8n-core" "data/schemas.json" s₁)
      (writesOnly_writeSchemas _ _) ?docsOnly ?docsInOrder ?apart
    case docsOnly => exact (writesOnly_writeDocs _ _).bind_print _
    case docsInOrder =>
      intro s₂ h₂
      -- writing the schemas left `data` a folder
      obtain ⟨-, hkept⟩ := writesOnly_writeSchemas "n8n-core" "data/schemas.json" s₁
      rw [h₂, h₁] at hkept
      have hdata₂ : s₂.tree.kindOf "data" = some .directory := by
        rw [(hkept "data" fun p hp => ?_).1, hdata]
        rw [List.mem_singleton.mp hp]
        exact FileTree.apart_of_name hfile
      exact (writeDocs_inOrder "n8n-docs-core" "data" s₂ hdata₂).bind_print _
    case apart =>
      intro p hp q hq
      rw [List.mem_singleton.mp hp, h₁]
      simp only [List.mem_cons, List.not_mem_nil, or_false] at hq
      rcases hq with rfl | rfl
      · exact FileTree.apart_of_names hfile hfull (by decide)
      · exact FileTree.apart_of_names hfile hshort (by decide)
  · intro q hq
    have hw := WritesOnly.bind_of_keepsTree (keepsTree_print "Starting data extraction...") fun _ =>
      (writesOnly_writeSchemas "n8n-core" "data/schemas.json").bind fun _ =>
        (writesOnly_writeDocs "n8n-docs-core" "data").bind_print "\nExtraction process completed."
    exact ((hw s').2 q fun p hp => hq p (by simpa [hdocs, hlist] using hp)).2

/-- **The catalog build writes its documents one after the other.** The build makes the folder
`data` where it is missing and ends in one of two ways. It returns normally with each of
`data/schemas.json`, `data/docs.json` and `data/all_nodes_list.json` left as it was (its source
folder missing) or holding a document written whole. Or it stops with a fault at one of them:
those before it are left or whole, that one is left or holds what was written of its document,
and those after it are as they were; a `data` that cannot be made stops it before the first.
Started where `data` is a folder, it changes no file apart from the three. -/
theorem build_writes_in_order (s : Session) :
    WritesInOrder documents s.tree (exec build s) ∧
      (s.tree.kindOf "data" = some .directory → ∀ q, (∀ p ∈ documents, s.tree.Apart p q) →
        (exec build s).2.tree.fileAt q = s.tree.fileAt q) := by
  rcases hmk : s.tree.makeDir "data" with f | t'
  · -- `data` cannot be made: the build stops before it writes
    have hrun : exec build s = (.error f, s) := by
      simp only [build]
      rw [exec_bind_error (exec_makeDir_error hmk)]
    refine ⟨.kept (by simp [documents]) (by rw [hrun]), fun hdata => ?_⟩
    rw [FileTree.makeDir_of_kindOf hdata] at hmk
    cases hmk
  · -- the rest of the build starts from the tree with `data` made, where the documents name
    -- the files they named
    obtain ⟨hdata', hsame⟩ := makeDir_data hmk
    obtain ⟨horder, hframe⟩ := build_after_makeDir (exec_makeDir_ok hmk) hdata'
    refine ⟨horder.congr fun p hp => (hsame p hp).symm, fun hdata => ?_⟩
    rw [FileTree.makeDir_of_kindOf hdata, Except.ok.injEq] at hmk
    subst hmk
    exact hframe

-- a working directory without `data` is one the build starts from: it makes the folder
example : (({} : FileTree).makeDir "data").isOk = true := by
  decide +kernel

/-- **The catalog's documents are never left half updated, save the one being written.** Started
on a tree whose docs folder and output folder are there, the doc extraction returns normally
having written both its documents whole; or it stops with a fault having changed nothing; or it
stops with a fault once docs.json holds the bytes the writer gave before it stopped (the whole
document, or a cut one), the list document untouched. And from any tree the whole build, which
makes `data` where it is missing, writes its three documents one after the other: each left or
whole when it returns normally, and otherwise those before the one it stopped at left or whole,
that one left or holding what was written of it, those after it untouched. -/
theorem docOutputs_complete_or_docs_cut (docs out : Text) (s : Session)
    (hroot : s.tree.kindOf (docsRoot docs) = some .directory)
    (hout : s.tree.kindOf out = some .directory) :
    DocOutputsEnd (docEntries s.tree (docsRoot docs)) out s.tree
        (Run.exec (writeDocs docs out) s) ∧
      ∀ s₀ : Session, WritesInOrder documents s₀.tree (Run.exec build s₀) := by
  refine ⟨?_, fun s₀ => (build_writes_in_order s₀).1⟩
  obtain ⟨visits, hwalk⟩ := FileTree.walk_isOk_of_kindOf hroot
  -- the run prints its scan line and reads the entries, changing no file, then writes them
  rw [exec_writeDocs hroot hwalk rfl]
  exact writeDocOutputs_outcome _ out _ hout

/-- Two folders and one doc, every step of the extraction possible. -/
theorem docOutputs_of_one_doc :
    let s : Session := { tree := { files := [(["d", "docs", "integrations", "x", "index.md"],
      Utf8.encode "---\ntitle: T\n---\n")], dirs := [["o"]] } }
    s.tree.kindOf (docsRoot "d") = some .directory ∧ s.tree.kindOf "o" = some .directory ∧
      DocOutputsEnd (docEntries s.tree (docsRoot "d")) "o" s.tree
          (Run.exec (writeDocs "d" "o") s) ∧
        ∀ s₀ : Session, WritesInOrder documents s₀.tree (Run.exec build s₀) := by
  intro s
  have hroot : s.tree.kindOf (docsRoot "d") = some .directory := by decide +kernel
  have hout : s.tree.kindOf "o" = some .directory := by decide +kernel
  exact ⟨hroot, hout, docOutputs_complete_or_docs_cut "d" "o" s hroot hout⟩

/-- A doc folder whose name is not UTF-8 stops the doc extraction once docs.json has been
started: its path cannot be written, the run fails, and docs.json, not there before, holds a
cut document. -/
theorem docs_cut_by_undecodable_folder_name :
    let before : FileTree :=
      { files := [(["n8n-docs-core", "docs", "integrations", [.surrogate 0xDCFF], "index.md"],
          Utf8.encode "---\ntitle: T\ndescription: D\n---\n")],
        dirs := [["data"]] }
    let r := Run.exec (writeDocs "n8n-docs-core" "data") { tree := before }
    r.1.isOk = false ∧ before.fileAt "data/docs.json" = none ∧
      r.2.tree.fileAt "data/docs.json" = some (Utf8.encode
        ("[\n  \x7b\n    \"title\": \"T\",\n    \"description\": \"D\",\n" ++
          "    \"contentType\": [],\n    \"path\": ")) := by
  decide +kernel

end Catalog

end NodeCatalog
