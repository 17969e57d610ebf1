import NodeCatalog.Proofs.ExtractFaults
import NodeCatalog.Proofs.JsonWriting
import NodeCatalog.Catalog
/-!
# The schema run

A schema run (`run_schema_extraction`, `src/tools/extract_schemas.py`, lines 204–228) scans
the paths below `<core>/packages` named `*.node.ts`, in the order the recursive scan finds
them: each directory's own matches in its listing order, then those of its subdirectories in
turn. It extracts the schema of each, records it under the node name the path's stem gives,
and writes the recorded schemas as one JSON object; a node whose extraction fails is reported
and left out. Its key is the name without `.node.ts`: the stem drops `.ts` and the node name
then drops `.node`.

When the names found are pairwise distinct, no schema replaces another, and the document is the
object of every extracted schema under its key, in scan order. It is written piece by piece into
a file emptied first, so it is not written all or nothing: a key or a value that UTF-8 or JSON
cannot hold stops the run once the pieces before it are in the file, and the closing line is
not printed. A node file named with a surrogate is such a key.

- `FileTree.name_of_mem_globSuffix`: every path a suffix search finds is named with the suffix.
- `Node.baseName_stem`: the node name of a `*.node.ts` file is its name without `.node.ts`.
- `Catalog.exec_schemaFold`: the scan over the node files only reads, recording and reporting.
- `Catalog.foldl_schemaAdd`: with distinct names, the recorded schemas are the extracted ones.
- `Catalog.schemaRun_records_extracted`: **a schema run writes the extracted schemas under
  their keys, ending as writing that document ends, and reports each failed node, whose
  extraction fails exactly in the ways `Schema.ExtractFault` lists**.
- `Catalog.schemaRun_cut_by_undecodable_name`: a run that stops with schemas.json cut.
-/

namespace NodeCatalog

namespace Text

theorem endsWith_iff {s suf : Text} : s.endsWith suf = true ↔ suf <:+ s := by
  rw [endsWith, List.isPrefixOf_iff_prefix, List.reverse_prefix]

/-- A text that ends with another is some text followed by it. -/
theorem eq_append_of_endsWith {s suf : Text} (h : s.endsWith suf = true) :
    s = s.take (s.length - suf.length) ++ suf := by
  obtain ⟨r, rfl⟩ := endsWith_iff.mp h
  simp

end Text

namespace Node

/-- A name ending with `.node.ts`, its suffix starting at the dot of `.ts`. -/
theorem suffixStart?_nodeFile (k : Text) :
    Path.suffixStart? (k ++ Text.ofString ".node.ts") = some (k.length + 5) := by
  have hlen : (k ++ Text.ofString ".node.ts").length = k.length + 5 + 1 + 1 + 1 := by
    simp [Text.ofString]
  have hat : ∀ j, (k ++ Text.ofString ".node.ts")[k.length + j]? =
      (Text.ofString ".node.ts")[j]? := fun j => by
    rw [List.getElem?_append_right (by omega), Nat.add_sub_cancel_left]
  -- the last three places hold `s`, `t` and the dot
  rw [Path.suffixStart?, hlen, List.range_succ, List.range_succ, List.range_succ]
  simp only [List.reverse_append, List.reverse_cons, List.reverse_nil, List.nil_append,
    List.cons_append, List.find?_cons]
  rw [show k.length + 5 + 1 + 1 = k.length + 7 by omega,
    show k.length + 5 + 1 = k.length + 6 by omega, hat, hat, hat]
  have h7 : (Text.ofString ".node.ts")[7]? = some (.char 's') := by decide
  have h6 : (Text.ofString ".node.ts")[6]? = some (.char 't') := by decide
  have h5 : (Text.ofString ".node.ts")[5]? = some (.char '.') := by decide
  simp only [h7, h6, h5]
  rw [show (some (Point.char 's') == some (Point.char '.')) = false from rfl,
    show (some (Point.char 't') == some (Point.char '.')) = false from rfl,
    show (some (Point.char '.') == some (Point.char '.')) = true from rfl]
  simp

/-- The node name a node file's stem gives is its name without `.node.ts`. -/
theorem baseName_stem {p : Path} {k : Text} (h : p.name = k ++ Text.ofString ".node.ts") :
    baseName p.stem = k := by
  have hstem : p.stem = k ++ Text.ofString ".node" := by
    simp only [Path.stem, h, suffixStart?_nodeFile]
    rw [List.take_length_add_append]
    rfl
  have hends : (k ++ Text.ofString ".node").endsWith stemMark = true :=
    Text.endsWith_iff.mpr (List.suffix_append _ _)
  rw [hstem, baseName, if_pos hends, List.length_append,
    show stemMark.length = (Text.ofString ".node").length from rfl, Nat.add_sub_cancel,
    List.take_left']
  rfl

end Node

namespace FileTree

/-- Every path a recursive glob finds below a location ends in a name with the suffix: a name
of the location itself, or a subdirectory's name and a path found below it. -/
theorem last_of_mem_globFrom {t : FileTree} {suffix : Text} :
    ∀ (fuel : Nat) (loc q : List Text), q ∈ t.globFrom suffix fuel loc →
      q ≠ [] ∧ (q.getLastD []).endsWith suffix = true
  | 0, _, _, h => by simp [globFrom] at h
  | fuel + 1, loc, q, h => by
    simp only [globFrom, List.mem_append, List.mem_map, List.mem_filter, List.mem_flatMap] at h
    rcases h with ⟨n, ⟨-, hn⟩, rfl⟩ | ⟨d, -, q', hq', rfl⟩
    · exact ⟨by simp, by simpa using hn⟩
    · obtain ⟨hne, hend⟩ := last_of_mem_globFrom fuel _ q' hq'
      obtain ⟨y, ys, rfl⟩ := List.exists_cons_of_ne_nil hne
      refine ⟨by simp, ?_⟩
      rwa [List.getLastD_eq_getLast?, List.getLast?_cons_cons, ← List.getLastD_eq_getLast?]

/-- Every path a suffix search finds is named with the suffix. -/
theorem name_of_mem_globSuffix {t : FileTree} {base : Path} {suffix : Text} {p : Path}
    (hp : p ∈ t.globSuffix base suffix) : p.name.endsWith suffix = true := by
  unfold globSuffix at hp
  split at hp
  · obtain ⟨q, hq, rfl⟩ := List.mem_map.mp hp
    obtain ⟨hne, hend⟩ := last_of_mem_globFrom _ _ q hq
    have hlast : (base.parts ++ q).getLastD [] = q.getLastD [] := by
      rw [List.getLastD_eq_getLast?, List.getLast?_append_of_ne_nil _ hne,
        ← List.getLastD_eq_getLast?]
    rw [Path.name, hlast]
    exact hend
  · cases hp

end FileTree

namespace Catalog

/-- The key a node file's schema is recorded under: its name without `.node.ts`. -/
def nodeKey (p : Path) : Text :=
  p.name.take (p.name.length - (Text.ofString ".node.ts").length)

/-- What a schema run records for a node file of tree `t`: its schema under its key, when the
schema can be extracted. -/
def schemaEntry (t : FileTree) (p : Path) : Option (Value × Value) :=
  (Schema.extract t p.toText).toOption.map fun sc => (.str (nodeKey p), sc.toValue)

/-- What a schema run prints for a node file of tree `t`: nothing when its schema can be
extracted, else the fault. -/
def parseReport (t : FileTree) (p : Path) : Text :=
  match Schema.extract t p.toText with
  | .ok _ => []
  | .error f =>
    Text.ofString "Error parsing " ++ p.toText ++ Text.ofString (": " ++ f.message) ++ [.char '\n']

/-- The schemas recorded so far, after one more node file of tree `t`. -/
def schemaAdd (t : FileTree) (acc : List (Value × Value)) (p : Path) : List (Value × Value) :=
  match Schema.extract t p.toText with
  | .ok s => Value.putEntry acc (.str (Node.baseName p.stem)) s.toValue
  | .error _ => acc

/-- One node file of a schema run only reads: it records the file's schema and prints its
fault. -/
theorem schemaStep_reads (t : FileTree) (acc : List (Value × Value)) (p : Path) :
    Run.Reads (schemaStep t acc p) (fun _ => schemaAdd t acc p) (fun _ => parseReport t p) := by
  intro s
  simp only [schemaStep, schemaAdd, parseReport]
  cases Schema.extract t p.toText with
  | ok sc => simp
  | error f =>
    rw [Run.exec_bind_ok (Run.exec_print _ s)]
    simp [List.append_assoc]

/-- The node files of a schema run, one after the other, record their schemas in turn and print
their faults in order. -/
theorem exec_schemaFold (t : FileTree) (files : List Path) (acc : List (Value × Value))
    (s : Session) :
    Run.exec (files.foldlM (schemaStep t) acc) s =
      (.ok (files.foldl (schemaAdd t) acc),
        { s with out := s.out ++ files.flatMap (parseReport t) }) := by
  induction files generalizing acc s with
  | nil => simp
  | cons p ps ih =>
    rw [List.foldlM_cons, Run.exec_bind_ok (schemaStep_reads t acc p s), ih]
    simp [List.append_assoc]

/-- A node file's key is the node name its stem gives. -/
theorem baseName_stem_eq_nodeKey {p : Path} (h : p.name.endsWith ".node.ts" = true) :
    Node.baseName p.stem = nodeKey p :=
  Node.baseName_stem (Text.eq_append_of_endsWith h)

/-- Node files of different names have different keys. -/
theorem nodeKey_ne {p q : Path} (hp : p.name.endsWith ".node.ts" = true)
    (hq : q.name.endsWith ".node.ts" = true) (hne : p.name ≠ q.name) : nodeKey p ≠ nodeKey q := by
  intro h
  apply hne
  rw [Text.eq_append_of_endsWith hp, Text.eq_append_of_endsWith hq]
  exact congrArg (· ++ Text.ofString ".node.ts") h

/-- Node files of distinct names, each named `*.node.ts`, add their schemas after those
recorded before, when no key is recorded already. -/
theorem foldl_schemaAdd {t : FileTree} {files : List Path}
    (hsuf : ∀ p ∈ files, p.name.endsWith ".node.ts" = true) (hnd : (files.map Path.name).Nodup)
    {acc : List (Value × Value)}
    (hacc : ∀ e ∈ acc, ∀ p ∈ files, Value.sameKey e.1 (.str (nodeKey p)) = false) :
    files.foldl (schemaAdd t) acc = acc ++ files.filterMap (schemaEntry t) := by
  induction files generalizing acc with
  | nil => simp
  | cons p ps ih =>
    rw [List.map_cons, List.nodup_cons] at hnd
    have hsufs : ∀ q ∈ ps, q.name.endsWith ".node.ts" = true :=
      fun q hq => hsuf q (List.mem_cons_of_mem p hq)
    -- the key of `p` is fresh among those recorded and differs from every later key
    have hfresh : acc.any (fun e => Value.sameKey e.1 (.str (nodeKey p))) = false := by
      simpa using fun e he => hacc e he p List.mem_cons_self
    have hlater : ∀ q ∈ ps, Value.sameKey (.str (nodeKey p)) (.str (nodeKey q)) = false := by
      intro q hq
      have hne : p.name ≠ q.name := fun h => hnd.1 (h ▸ List.mem_map_of_mem hq)
      simpa [Value.sameKey] using nodeKey_ne (hsuf p List.mem_cons_self) (hsufs q hq) hne
    rw [List.foldl_cons, List.filterMap_cons]
    simp only [schemaAdd, schemaEntry]
    cases Schema.extract t p.toText with
    | ok sc =>
      rw [baseName_stem_eq_nodeKey (hsuf p List.mem_cons_self)]
      simp only [Value.putEntry, hfresh, Bool.false_eq_true, if_false]
      rw [ih hsufs hnd.2]
      · simp [Except.toOption]
      · intro e he q hq
        rcases List.mem_append.mp he with he | he
        · exact hacc e he q (List.mem_cons_of_mem p hq)
        · rw [List.mem_singleton.mp he]
          exact hlater q hq
    | error f =>
      exact ih hsufs hnd.2 fun e he q hq => hacc e he q (List.mem_cons_of_mem p hq)

/-- A schema run from a tree whose nodes folder is there prints its scan line, goes over the
node files, reporting those whose extraction fails, and saves the schemas it recorded. -/
theorem exec_writeSchemas {core out : Text} {s : Session}
    (hnodes : (s.tree.kindOf (nodesDir core).toText).isSome = true) :
    Run.exec (writeSchemas core out) s =
      Run.exec (saveSchemas ((nodeFiles s.tree core).foldl (schemaAdd s.tree) []) out)
        { s with out := s.out ++ (Text.ofString "Scanning " ++
            Text.ofString (toString (nodeFiles s.tree core).length) ++
            Text.ofString " node files...") ++ [.char '\n'] ++
            (nodeFiles s.tree core).flatMap (parseReport s.tree) } := by
  obtain ⟨k, hk⟩ := Option.isSome_iff_exists.mp hnodes
  simp only [writeSchemas]
  rw [Run.exec_bind_ok (Run.exec_tree s),
    Run.exec_bind_ok (Run.exec_exists (FileTree.pathExists_of_kindOf hk))]
  simp only [Bool.not_true, Bool.false_eq_true, if_false]
  rw [Run.exec_bind_ok (Run.exec_print _ _), Run.exec_bind_ok (exec_schemaFold _ _ _ _)]

/-- Saving schemas into a file that can be opened ends as writing their document ends and
leaves the file holding what was written of it; the closing line is printed once the document
is written whole. -/
theorem exec_saveSchemas (schemas : List (Value × Value)) {out : Text} (s : Session)
    (hopen : (s.tree.write out []).isOk = true) :
    let r := Run.exec (saveSchemas schemas out) s
    r.1 = Run.jsonResult (.dict schemas) ∧
      r.2.tree.fileAt out = some (Run.jsonBytes (.dict schemas)) ∧
      r.2.out = s.out ++ (if Json.whole (.dict schemas) then
        Text.ofString ("Extraction complete. " ++ toString schemas.length ++ " nodes saved to ") ++
          out ++ [.char '\n']
      else []) := by
  intro r
  obtain ⟨t₀, hw₀⟩ := Except.exists_ok_of_isOk hopen
  obtain ⟨t₁, hw₁, hrun⟩ := @Run.exec_writeJson_ok out (.dict schemas) s.tree t₀ hw₀
  have hfile : t₁.fileAt out = some (Run.jsonBytes (.dict schemas)) :=
    FileTree.fileAt_write_self hw₁
  simp only [r, saveSchemas]
  rcases hres : Run.jsonResult (.dict schemas) with e | u
  · -- the document is cut short by a fault: the run stops before its closing line
    have hcut : Json.whole (.dict schemas) = false := by
      rw [← Bool.not_eq_true, ← Run.jsonResult_eq_ok, hres]
      simp
    rw [Run.exec_bind_error ((hrun s rfl).trans (by rw [hres]))]
    exact ⟨rfl, hfile, by simp [hcut]⟩
  · have hwhole : Json.whole (.dict schemas) = true := (Run.jsonResult_eq_ok _).mp hres
    rw [Run.exec_bind_ok ((hrun s rfl).trans (by rw [hres])), Run.exec_print]
    exact ⟨rfl, hfile, by simp [hwhole]⟩

/-- How a schema run over node files `files` into `out` ends, from session `s` to the outcome
`r`: as writing the document of the schemas extracted from them ends; with the output file
holding what was written of that document; and having printed its scan line, the fault of each
node file in turn, and its closing line once the document is written whole. -/
def SchemaRunEnd (files : List Path) (out : Text) (s : Session)
    (r : Except Fault Unit × Session) : Prop :=
  let entries := files.filterMap (schemaEntry s.tree)
  r.1 = Run.jsonResult (.dict entries) ∧
    r.2.tree.fileAt out = some (Run.jsonBytes (.dict entries)) ∧
    r.2.out = s.out ++ (Text.ofString "Scanning " ++ Text.ofString (toString files.length) ++
      Text.ofString " node files...") ++ [.char '\n'] ++ files.flatMap (parseReport s.tree) ++
      (if Json.whole (.dict entries) then
        Text.ofString ("Extraction complete. " ++ toString entries.length ++ " nodes saved to ") ++
          out ++ [.char '\n']
      else [])

/-- **A schema run writes the extracted schemas under their keys**: started on a tree whose
nodes folder is there, whose node files have distinct names, with an output file that can be
opened, the run writes the object of every extracted schema under its node file's name without
`.node.ts`, in the order the recursive scan finds the files; it returns normally exactly when
that document is written whole, and otherwise stops with the file cut at the fault; it reports
each node whose extraction fails, and the extraction fails exactly in the ways `ExtractFault`
lists: an import none of whose candidates exists, a candidate too long, or a bound too long. -/
theorem schemaRun_records_extracted (core out : Text) (s : Session)
    (hnodes : (s.tree.kindOf (nodesDir core).toText).isSome = true)
    (hopen : (s.tree.write out []).isOk = true)
    (hnames : ((nodeFiles s.tree core).map Path.name).Nodup) :
    SchemaRunEnd (nodeFiles s.tree core) out s (Run.exec (writeSchemas core out) s) ∧
      ∀ p ∈ nodeFiles s.tree core, ∀ f,
        Schema.extract s.tree p.toText = .error f ↔ Schema.ExtractFault s.tree p.toText f := by
  refine ⟨?_, fun _ _ _ => Schema.extract_error_iff⟩
  unfold SchemaRunEnd
  intro entries
  -- every key is fresh when recorded: the names found are distinct and end with `.node.ts`
  have hrec : (nodeFiles s.tree core).foldl (schemaAdd s.tree) [] = entries :=
    foldl_schemaAdd (fun p hp => FileTree.name_of_mem_globSuffix hp) hnames (by simp)
  rw [exec_writeSchemas hnodes, hrec]
  exact exec_saveSchemas entries _ hopen

/-- One node file, every step of the run possible. -/
theorem schemaRun_of_one_node :
    let s : Session := { tree := { files := [(["c", "packages", "A.node.ts"],
      Utf8.encode "\x7b displayName: 'A', name: 'a' \x7d")] } }
    (s.tree.kindOf (nodesDir "c").toText).isSome = true ∧
      (s.tree.write "schemas.json" []).isOk = true ∧
      ((nodeFiles s.tree "c").map Path.name).Nodup ∧
      SchemaRunEnd (nodeFiles s.tree "c") "schemas.json" s
        (Run.exec (writeSchemas "c" "schemas.json") s) ∧
      ∀ p ∈ nodeFiles s.tree "c", ∀ f,
        Schema.extract s.tree p.toText = .error f ↔ Schema.ExtractFault s.tree p.toText f := by
  intro s
  have hnodes : (s.tree.kindOf (nodesDir "c").toText).isSome = true := by decide +kernel
  have hopen : (s.tree.write "schemas.json" []).isOk = true := by decide +kernel
  have hnames : ((nodeFiles s.tree "c").map Path.name).Nodup := by decide +kernel
  exact ⟨hnodes, hopen, hnames,
    schemaRun_records_extracted "c" "schemas.json" s hnodes hopen hnames⟩

/-- A node file named with a surrogate stops the schema run: its key cannot be written as UTF-8,
so the run fails once schemas.json is started, the document cut before its first key. -/
theorem schemaRun_cut_by_undecodable_name :
    let before : FileTree :=
      { files := [(["n8n-core", "packages", [.surrogate 0xDCFF] ++ Text.ofString ".node.ts"],
          Utf8.encode "\x7b displayName: 'A', name: 'a' \x7d")] }
    let r := Run.exec (writeSchemas "n8n-core" "schemas.json") { tree := before }
    r.1.isOk = false ∧ before.fileAt "schemas.json" = none ∧
      r.2.tree.fileAt "schemas.json" = some (Utf8.encode "\x7b\n  ") := by
  decide +kernel

end Catalog

end NodeCatalog
