import NodeCatalog.Proofs.DocPaths
import NodeCatalog.Proofs.FrontMatterFields
/-!
# Descriptions free of the boilerplate

Cleaning a description cuts it before the first occurrence of the boilerplate words. The piece
before the first occurrence holds no occurrence: one inside it would start earlier. Trimming blanks
and hanging punctuation only takes a part of that piece, and a description without the words is kept
whole. So a cleaned description holds no occurrence, is a piece of the description it came from, and
is cleaned for good: cleaning it again keeps it. This is `clean_description`
(`src/tools/extract_docs.py`, lines 9–18, and its copy in `src/tools/fetch_all_nodes.py`, lines
6–16).

Both doc readers, the catalog's and the listing's, clean the description they find in the front
matter, so no description the doc extraction writes, and none a listing gives, holds the words.

- `Text.occursIn_iff_isInfix`: occurring is being an infix.
- `Text.NoStartIn`, `Text.splitOn_go_head`: the invariant of cutting, and what it gives for the
  first piece; `Text.splitOn_head`, the first piece is a prefix without the separator.
- `Description.clean_isInfix`, `Description.occursIn_clean`, `Description.clean_of_not_occurs`:
  the laws of cleaning.
- `Description.clean_removes_boilerplate`: **the four laws, and no doc entry of the catalog or
  of a listing has the words in its description.**
-/

namespace NodeCatalog

namespace Text

/-- Occurring somewhere in a text is standing in it as a block of consecutive code points. -/
theorem occursIn_iff_isInfix {n h : Text} : occursIn n h = true ↔ n <:+: h := by
  induction h with
  | nil => simp [occursIn, List.isEmpty_iff]
  | cons c r ih =>
    rw [occursIn, Bool.or_eq_true, List.isPrefixOf_iff_prefix, ih, List.infix_cons_iff]

theorem occursIn_eq_false_iff {n h : Text} : occursIn n h = false ↔ ¬ n <:+: h := by
  rw [← occursIn_iff_isInfix, Bool.not_eq_true]

/-! ## The first piece of a cut -/

variable {sep : Text}

/-- No occurrence of `sep` starts inside the piece being gathered: `acc` holds the piece last
code point first, so each non-empty prefix of `acc` is a tail of the piece read backwards, and
that tail followed by the text still to cut does not start with `sep`. -/
def NoStartIn (sep acc s : Text) : Prop :=
  ∀ p, p ≠ [] → p <+: acc → ¬ sep <+: p.reverse ++ s

theorem noStartIn_nil (sep s : Text) : NoStartIn sep [] s :=
  fun _ hp hpre => absurd (List.prefix_nil.mp hpre) hp

/-- A piece in which no occurrence starts holds none. -/
theorem not_infix_of_noStartIn (hsep : sep ≠ []) {acc s : Text} (h : NoStartIn sep acc s) :
    ¬ sep <:+: acc.reverse := by
  intro hin
  obtain ⟨t, hpre, hsuf⟩ := List.infix_iff_prefix_suffix.mp hin
  have ht : t ≠ [] := fun e => hsep (List.prefix_nil.mp (e ▸ hpre))
  have hacc : t.reverse <+: acc := by
    simpa using List.reverse_prefix.mpr hsuf
  refine h t.reverse (by simpa using ht) hacc ?_
  rw [List.reverse_reverse]
  exact hpre.trans (List.prefix_append _ _)

/-- Gathering one more code point keeps the invariant when no occurrence starts at it. -/
theorem noStartIn_cons {acc r : Text} {c : Point} (h : NoStartIn sep acc (c :: r))
    (hc : ¬ sep <+: c :: r) : NoStartIn sep (c :: acc) r := by
  intro p hp hpre
  rcases List.prefix_cons_iff.mp hpre with rfl | ⟨q, rfl, hq⟩
  · exact absurd rfl hp
  · -- the tail `q` read backwards, then `c`, then the rest: `q` is older and `c` just checked
    rw [List.reverse_cons, List.append_assoc, List.singleton_append]
    by_cases hqe : q = []
    · subst hqe
      exact hc
    · exact h q hqe hq

/-- The first piece of a cut is the piece gathered so far followed by a prefix of the text
still to cut, and it holds no occurrence of the separator. -/
theorem splitOn_go_head (hsep : sep ≠ []) (acc s : Text) (h : NoStartIn sep acc s) :
    ∃ u, u <+: s ∧ (splitOn.go sep acc s).head? = some (acc.reverse ++ u) ∧
      ¬ sep <:+: acc.reverse ++ u := by
  fun_induction splitOn.go sep acc s with
  | case1 acc =>
    refine ⟨[], List.nil_prefix, by simp, ?_⟩
    simpa using not_infix_of_noStartIn hsep h
  | case2 acc c r hcut _ _ =>
    refine ⟨[], List.nil_prefix, by simp, ?_⟩
    simpa using not_infix_of_noStartIn hsep h
  | case3 acc c r hcut ih =>
    have hc : ¬ sep <+: c :: r := fun hpre => hcut ⟨hsep, List.isPrefixOf_iff_prefix.mpr hpre⟩
    obtain ⟨u, hu, hhead, hno⟩ := ih (noStartIn_cons h hc)
    refine ⟨c :: u, List.cons_prefix_cons.mpr ⟨rfl, hu⟩, ?_, ?_⟩
    · rw [hhead]
      simp
    · simpa using hno

/-- The first piece of a text cut at a non-empty separator is a prefix of the text without an
occurrence of the separator. -/
theorem splitOn_head (hsep : sep ≠ []) (s : Text) :
    (splitOn sep s).headD [] <+: s ∧ ¬ sep <:+: (splitOn sep s).headD [] := by
  obtain ⟨u, hu, hhead, hno⟩ := splitOn_go_head hsep [] s (noStartIn_nil sep s)
  rw [splitOn, List.headD_eq_head?_getD, hhead]
  exact ⟨hu, by simpa using hno⟩

/-- Trimming keeps a piece of the text. -/
theorem trim_isInfix (s : Text) : trim s <:+: s :=
  (FrontMatter.trimRightBy_isPrefix _ _).isInfix.trans (List.dropWhile_suffix _).isInfix

end Text

namespace Description

open Text

theorem boilerplate_ne_nil : boilerplate ≠ [] := by
  simp [boilerplate, Text.ofString]

/-- A description without the words is kept. -/
theorem clean_of_not_occurs {d : Text} (h : occursIn boilerplate d = false) : clean d = d := by
  rw [clean, if_neg (by simp [h])]

/-- The cut description lies inside the piece before the first occurrence of the words. -/
theorem clean_isInfix_head {d : Text} (h : occursIn boilerplate d = true) :
    clean d <:+: (splitOn boilerplate d).headD [] := by
  rw [clean, if_pos h]
  exact (FrontMatter.trimRightBy_isPrefix _ _).isInfix.trans (trim_isInfix _)

/-- A cleaned description is a piece of the description. -/
theorem clean_isInfix (d : Text) : clean d <:+: d := by
  by_cases h : occursIn boilerplate d = true
  · exact (clean_isInfix_head h).trans (splitOn_head boilerplate_ne_nil d).1.isInfix
  · rw [clean, if_neg h]

/-- A cleaned description holds no occurrence of the words. -/
theorem occursIn_clean (d : Text) : occursIn boilerplate (clean d) = false := by
  by_cases h : occursIn boilerplate d = true
  · -- an occurrence in the kept part would be one in the piece before the first occurrence
    rw [occursIn_eq_false_iff]
    exact fun hocc => (splitOn_head boilerplate_ne_nil d).2 (hocc.trans (clean_isInfix_head h))
  · rw [clean, if_neg h]
    simpa using h

theorem clean_clean (d : Text) : clean (clean d) = clean d :=
  clean_of_not_occurs (occursIn_clean d)

end Description

/-! ## The descriptions of doc entries -/

namespace FrontMatter

/-- The description front matter gives is a cleaned one. -/
theorem occursIn_description {content : Text} {f : Fields} (h : fields? content = some f) :
    Text.occursIn Description.boilerplate f.description = false := by
  simp only [fields?, bind, Option.bind_eq_some_iff, pure, Option.some.injEq] at h
  obtain ⟨_, -, _, -, _, -, rfl⟩ := h
  exact Description.occursIn_clean _

end FrontMatter

namespace DocEntry

theorem occursIn_readFrom {t : FileTree} {file base : Text} {e : DocEntry}
    (h : readFrom t file base = some e) :
    Text.occursIn Description.boilerplate e.description = false := by
  simp only [readFrom, ofContent, Option.bind_eq_some_iff, Option.map_eq_some_iff] at h
  obtain ⟨_, -, f, hf, rfl⟩ := h
  exact FrontMatter.occursIn_description hf

theorem occursIn_listFrom {t : FileTree} {file : Text} {e : DocEntry}
    (h : listFrom t file = some e) :
    Text.occursIn Description.boilerplate e.description = false := by
  simp only [listFrom, ofContentListed, Option.bind_eq_some_iff, Option.map_eq_some_iff] at h
  obtain ⟨_, -, f, hf, rfl⟩ := h
  exact FrontMatter.occursIn_description hf

/-- Every entry a listing gives was read by the listing reader from a file of the tree. -/
theorem listFrom_of_mem_listAll {start : Text} {s : Session} {es : List DocEntry}
    (h : (Run.exec (listAll start) s).1 = .ok es) : ∀ e ∈ es, ∃ f, listFrom s.tree f = some e := by
  cases hw : s.tree.walk start with
  | error f =>
    have hexec : Run.exec (listAll start) s = (.error f, s) := by
      simp only [listAll]
      exact Run.exec_bind_error (Run.exec_walk_error hw)
    rw [hexec] at h
    cases h
  | ok visits =>
    rw [exec_listAll hw rfl] at h
    cases h
    intro e he
    obtain ⟨f, -, hlist⟩ := List.mem_filterMap.mp he
    exact ⟨f, hlist⟩

end DocEntry

namespace Description

open Text

/-- **Cleaning removes the boilerplate for good.** A cleaned description holds no occurrence
of the words, is a piece of the description it came from, is the description itself when that
holds none, and is kept by cleaning again. Every entry of the doc catalog (the entries written
to docs.json and, in short form, to all_nodes_list.json) and every entry a listing of a folder
gives has a description without the words. -/
theorem clean_removes_boilerplate :
    (∀ d : Text, occursIn boilerplate (clean d) = false ∧ clean d <:+: d ∧
      (occursIn boilerplate d = false → clean d = d) ∧ clean (clean d) = clean d) ∧
    (∀ (t : FileTree) (root : Text), ∀ e ∈ Catalog.docEntries t root,
      occursIn boilerplate e.description = false) ∧
    (∀ (start : Text) (s : Session) (es : List DocEntry),
      (Run.exec (DocEntry.listAll start) s).1 = .ok es →
      ∀ e ∈ es, occursIn boilerplate e.description = false) := by
  refine ⟨fun d => ⟨occursIn_clean d, clean_isInfix d, clean_of_not_occurs, clean_clean d⟩,
    fun t root e he => ?_, fun start s es h e he => ?_⟩
  · -- the catalog reads each index file with the catalog reader
    unfold Catalog.docEntries at he
    split at he
    · obtain ⟨f, -, hread⟩ := List.mem_filterMap.mp he
      exact DocEntry.occursIn_readFrom hread
    · cases he
  · obtain ⟨f, hlist⟩ := DocEntry.listFrom_of_mem_listAll h e he
    exact DocEntry.occursIn_listFrom hlist

/-- A description ending with the invitation is cut before it, its hanging full stop dropped; a
description without it is kept. -/
theorem clean_cuts_invitation :
    clean (Text.ofString "Sends mail. Follow technical documentation to set it up.") =
        Text.ofString "Sends mail" ∧
      clean (Text.ofString "Sends mail.") = Text.ofString "Sends mail." :=
  ⟨by decide +kernel, (clean_removes_boilerplate.1 _).2.2.1 (by decide +kernel)⟩

end Description

end NodeCatalog
