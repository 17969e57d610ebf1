import NodeCatalog.Proofs.DocReading
import NodeCatalog.Proofs.JsonWriting
import NodeCatalog.Proofs.PathParts
/-!
# Writing the doc catalog

The last step of `run_doc_extraction` (`src/tools/extract_docs.py`, lines 113–123).

The doc extraction writes two documents into an output folder, one after the other: docs.json,
the full entries, and all_nodes_list.json, their short forms. Each is written piece by piece
into a file emptied first, so a fault while writing leaves the pieces before it in the file.
Such a fault comes from the entries themselves: a text that UTF-8 cannot hold (a name whose
bytes are not UTF-8), or a content type JSON has no form for.

The two documents are therefore not written all or nothing. The extraction ends in one of
three ways (`Catalog.DocOutputsEnd`): both documents written whole; a fault before anything
was changed; or a fault once docs.json holds what was written of it, the list document as it
was. The short forms hold texts the full forms hold, so the list document never fails once
docs.json was written whole.

- `DocEntry.whole_summaries`: the short forms of entries written whole are written whole.
- `Catalog.locate_docOutputs`: the two documents are two names in the output folder.
- `Catalog.writeDocOutputs_outcome`: **writing the two documents into an output folder ends in
  one of the three ways**.
-/

namespace NodeCatalog

namespace DocEntry

theorem whole_toValue (e : DocEntry) :
    Json.whole e.toValue = (e.title.isChars && e.description.isChars &&
      e.contentType.all Json.whole && e.path.isChars && (e.text.map Text.isChars).getD true) := by
  cases h : e.text <;> simp [toValue, h, Json.wholeEntries, Json.keyText, Bool.and_assoc]

theorem whole_summary (e : DocEntry) :
    Json.whole e.summary = (e.title.isChars && e.description.isChars && e.path.isChars) := by
  simp [summary, Json.wholeEntries, Json.keyText, Bool.and_assoc]

/-- The short forms of entries written whole are written whole: they hold texts the full
forms hold. -/
theorem whole_summaries {es : List DocEntry} (h : Json.whole (.list (es.map toValue)) = true) :
    Json.whole (.list (es.map summary)) = true := by
  simp only [Json.whole_list, List.all_map, List.all_eq_true, Function.comp_apply] at h ⊢
  intro e he
  have he' := h e he
  simp only [whole_toValue, Bool.and_eq_true] at he'
  simp only [whole_summary, Bool.and_eq_true]
  exact ⟨⟨he'.1.1.1.1, he'.1.1.1.2⟩, he'.1.2⟩

end DocEntry

namespace Catalog

variable {t : FileTree}

/-- A file of an output folder leads, when it leads anywhere, to its name in the folder. -/
theorem locate_outputFile {out n : Text} (hout : t.kindOf out = some .directory)
    (hn : Path.ofText n = ⟨[], [n]⟩) (hup : n ≠ Path.up)
    (hlen : Utf8.escapedLength n ≤ FileTree.nameMax) {l' : List Text}
    (h : t.locate (outputFile out n) = some l') :
    ∃ l, t.locate out = some l ∧ l' = l ++ [Utf8.nameForm n] := by
  simp only [FileTree.kindOf] at hout
  split at hout
  · next hres =>
    obtain ⟨hl, hk⟩ := FileTree.locate_of_resolve hres
    cases hout
    exact ⟨_, hl, FileTree.locate_join hn hup hlen hl hk h⟩
  · cases hout

/-- Where the two doc documents lead: to their names in the output folder. -/
theorem locate_docOutputs {out : Text} (hout : t.kindOf out = some .directory) :
    (∀ l', t.locate (outputFile out "docs.json") = some l' →
      ∃ l, t.locate out = some l ∧ l' = l ++ [Text.ofString "docs.json"]) ∧
    (∀ l', t.locate (outputFile out "all_nodes_list.json") = some l' →
      ∃ l, t.locate out = some l ∧ l' = l ++ [Text.ofString "all_nodes_list.json"]) := by
  constructor
  · intro l' h
    have := locate_outputFile hout (by decide +kernel) (by decide) (by decide +kernel) h
    rwa [show Utf8.nameForm "docs.json" = "docs.json" by decide +kernel] at this
  · intro l' h
    have := locate_outputFile hout (by decide +kernel) (by decide) (by decide +kernel) h
    rwa [show Utf8.nameForm "all_nodes_list.json" = "all_nodes_list.json" by decide +kernel] at this

/-- The ways writing the doc documents of entries `es` into folder `out` may end, from tree
`before` to the outcome `r`: the run returns normally with both documents written whole; or it
stops with a fault having changed nothing; or it stops with a fault once docs.json holds the
bytes the writer gave before it stopped, the list document as it was. -/
def DocOutputsEnd (es : List DocEntry) (out : Text) (before : FileTree)
    (r : Except Fault Unit × Session) : Prop :=
  let docsV := Value.list (es.map DocEntry.toValue)
  let listV := Value.list (es.map DocEntry.summary)
  let full := outputFile out "docs.json"
  let short := outputFile out "all_nodes_list.json"
  (r.1 = .ok () ∧ Json.whole docsV = true ∧
      r.2.tree.fileAt full = some (Run.jsonBytes docsV) ∧
      r.2.tree.fileAt short = some (Run.jsonBytes listV)) ∨
    (r.1 ≠ .ok () ∧ r.2.tree = before) ∨
    (r.1 ≠ .ok () ∧ r.2.tree.fileAt full = some (Run.jsonBytes docsV) ∧
      r.2.tree.fileAt short = before.fileAt short)

/-- Writing the doc documents of any entries into an output folder ends in one of the three
ways: the list document is written on the tree docs.json left, at another name, and its short
forms are whole when the full entries are. -/
theorem writeDocOutputs_outcome (es : List DocEntry) (out : Text) (s : Session)
    (hout : s.tree.kindOf out = some .directory) :
    DocOutputsEnd es out s.tree (Run.exec (writeDocOutputs es out) s) := by
  unfold DocOutputsEnd
  intro docsV listV full short
  obtain ⟨hfull, hshort⟩ := locate_docOutputs hout
  -- both documents lead into the output folder, to different names
  have hapart : ∀ lf, s.tree.locate full = some lf →
      s.tree.locate short ≠ s.tree.locate full := by
    intro lf hlf heq
    obtain ⟨l₀, h₀, rfl⟩ := hfull lf hlf
    rw [hlf] at heq
    obtain ⟨l₁, h₁, hl₁⟩ := hshort _ heq
    rw [h₀, Option.some.injEq] at h₁
    subst h₁
    rw [List.append_cancel_left_eq, List.cons.injEq] at hl₁
    exact absurd hl₁.1 (by decide)
  simp only [writeDocOutputs]
  rcases hw₀ : s.tree.write full [] with f | t₀
  · -- the full document's file cannot be opened: nothing changes
    rw [Run.exec_bind_error (Run.exec_writeJson_error hw₀ s rfl)]
    exact .inr (.inl ⟨by simp, rfl⟩)
  obtain ⟨t₁, hw₁, hrun₁⟩ := @Run.exec_writeJson_ok full docsV s.tree t₀ hw₀
  have hself₁ : t₁.fileAt full = some (Run.jsonBytes docsV) := FileTree.fileAt_write_self hw₁
  obtain ⟨lf, hlf⟩ := FileTree.locate_of_write hw₁
  have hframe₁ : t₁.fileAt short = s.tree.fileAt short :=
    FileTree.fileAt_write_of_locate_ne hw₁ (hapart lf hlf)
  rcases hres₁ : Run.jsonResult docsV with e | u
  · -- the full document is cut short by a fault
    rw [Run.exec_bind_error ((hrun₁ s rfl).trans (by rw [hres₁]))]
    exact .inr (.inr ⟨by simp, hself₁, hframe₁⟩)
  have hwhole : Json.whole docsV = true := (Run.jsonResult_eq_ok docsV).mp hres₁
  rw [Run.exec_bind_ok ((hrun₁ s rfl).trans (by rw [hres₁])),
    Run.exec_bind_ok (Run.exec_print _ _)]
  -- the list is written on the tree the full document left, at another name
  rcases hw₂ : t₁.write short [] with f | t₂
  · rw [Run.exec_bind_error (Run.exec_writeJson_error hw₂ _ rfl)]
    exact .inr (.inr ⟨by simp, hself₁, hframe₁⟩)
  obtain ⟨t₃, hw₃, hrun₂⟩ := @Run.exec_writeJson_ok short listV t₁ t₂ hw₂
  have hres₂ : Run.jsonResult listV = .ok () :=
    (Run.jsonResult_eq_ok listV).mpr (DocEntry.whole_summaries hwhole)
  rw [Run.exec_bind_ok ((hrun₂ _ rfl).trans (by rw [hres₂])), Run.exec_print]
  refine .inl ⟨rfl, hwhole, ?_, ?_⟩
  · rw [FileTree.fileAt_write_of_locate_ne hw₃ ?ne, hself₁]
    case ne =>
      rw [FileTree.locate_write hw₁, FileTree.locate_write hw₁]
      exact (hapart lf hlf).symm
  · exact FileTree.fileAt_write_self hw₃

end Catalog

end NodeCatalog
