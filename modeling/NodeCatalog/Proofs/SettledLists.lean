import NodeCatalog.Proofs.ConnectionLists
/-!
# Cleaned text, and the last cleaning of a schema

Cleaning trims the blanks at both ends of a text and makes every inner run of blanks one space. What
comes out is in normal form: every blank in it is a single space standing between two code points
that are not blanks, so it neither starts nor ends with a blank (`Text.Normal`). The texts cleaning
keeps are exactly those in normal form, so cleaning twice is cleaning once. One blank predicate
serves trimming and collapsing alike, so the two agree on every character. Cleaning is
`clean_multiline_string` (`src/tools/extract_schemas.py`, lines 38–39), applied again by
`deep_extract_node_info` (lines 287–289).

A node's schema gets its connection lists (`inputs`, `outputs`, `credentials`, `webhooks`) from
the single fields alone, each either missing or a cleaned list text; the last step of extraction
cleans them again, and so changes nothing: extraction without that step gives the same result
on every file tree and every file.

- `Text.Normal`, `Text.normal_clean`, `Text.normal_iff_clean_eq`: the normal form, reached by
  cleaning and kept by it.
- `Schema.merged_connection_cleaned`: the connection lists of a schema before its last step.
- `Schema.extractOnce`, `Schema.extract_eq_extractOnce`: extraction without the last cleaning.
- `Schema.cleaned_lists_stay_cleaned`: **cleaned text is in normal form and kept by cleaning,
  and the last cleaning of a schema is idle.**
-/

namespace NodeCatalog

namespace Text

/-! ## The normal form -/

/-- Text whose every blank is a space between two code points that are not blanks. -/
def Normal (t : Text) : Prop :=
  ∀ u x v, t = u ++ x :: v → x.isBlank = true →
    x = .char ' ' ∧ (∃ a, u.getLast? = some a ∧ a.isBlank = false) ∧
      ∃ b, v.head? = some b ∧ b.isBlank = false

/-- Whether the code point before `v` in `u ++ v` is a blank, `prevBlank` standing for the one
before `u`. -/
def blankBefore (prevBlank : Bool) (u : Text) : Bool :=
  (u.getLast?.map Point.isBlank).getD prevBlank

@[simp] theorem blankBefore_nil (p : Bool) : blankBefore p [] = p := rfl

@[simp] theorem blankBefore_cons (p : Bool) (a : Point) (u : Text) :
    blankBefore p (a :: u) = blankBefore a.isBlank u := by
  simp only [blankBefore, List.getLast?_cons]
  cases u.getLast? <;> rfl

/-- In spaced text each blank is a space after a code point that is not a blank, and the text
after it starts with no blank. -/
theorem spaced_append_cons {x : Point} (hx : x.isBlank = true) :
    ∀ {p : Bool} (u : Text) {v : Text}, Spaced p (u ++ x :: v) →
      x = .char ' ' ∧ blankBefore p u = false ∧ Spaced true v
  | p, [], v, h => by
    rw [List.nil_append, Spaced, if_pos hx] at h
    exact ⟨h.2.1, h.1, h.2.2⟩
  | p, a :: u, v, h => by
    rw [List.cons_append, Spaced] at h
    rw [blankBefore_cons]
    -- the text after `a` is spaced from `a`'s side, whichever branch `a` takes
    by_cases ha : a.isBlank = true
    · rw [if_pos ha] at h
      simpa [ha] using spaced_append_cons hx u h.2.2
    · rw [if_neg ha] at h
      simpa [ha] using spaced_append_cons hx u h

/-- Spaced text whose first and last code points are not blanks is in normal form. -/
theorem normal_of_spaced {t : Text} (h : Spaced false t)
    (hhead : ∀ x ∈ t.head?, x.isBlank = false) (hlast : ∀ x ∈ t.getLast?, x.isBlank = false) :
    Normal t := by
  rintro u x v rfl hx
  obtain ⟨hsp, hbefore, hafter⟩ := spaced_append_cons hx u h
  refine ⟨hsp, ?_, ?_⟩
  · -- a blank that is not the first code point follows one that is not a blank
    cases hu : u.getLast? with
    | none =>
      rw [List.getLast?_eq_none_iff.mp hu] at hhead
      simp [hx] at hhead
    | some a =>
      refine ⟨a, rfl, ?_⟩
      simpa [blankBefore, hu] using hbefore
  · -- a blank that is not the last code point comes before one that is not a blank
    cases v with
    | nil => simp [hx] at hlast
    | cons b w =>
      refine ⟨b, rfl, ?_⟩
      by_cases hb : b.isBlank = true
      · rw [Spaced, if_pos hb] at hafter
        exact absurd hafter.1 (by decide)
      · simpa using hb

/-- Cleaned text is in normal form. -/
theorem normal_clean (s : Text) : Normal (clean s) :=
  normal_of_spaced (spaced_collapseFrom false _) (clean_ends s).1 (clean_ends s).2

/-- The ends of text in normal form are not blanks. -/
theorem Normal.ends {t : Text} (h : Normal t) :
    (∀ x ∈ t.head?, x.isBlank = false) ∧ ∀ x ∈ t.getLast?, x.isBlank = false := by
  constructor
  · intro x hx
    obtain ⟨v, rfl⟩ : ∃ v, t = x :: v := by
      cases t with
      | nil => cases hx
      | cons y v => cases hx; exact ⟨v, rfl⟩
    by_contra hb
    obtain ⟨-, ⟨a, ha, -⟩, -⟩ := h [] x v rfl (by simpa using hb)
    cases ha
  · intro x hx
    obtain ⟨u, rfl⟩ : ∃ u, t = u ++ [x] :=
      ⟨t.dropLast, by rw [List.dropLast_append_getLast? x hx]⟩
    by_contra hb
    obtain ⟨-, -, ⟨b, hb', -⟩⟩ := h u x [] rfl (by simpa using hb)
    cases hb'

/-- Every blank of a text is a space after a code point other than a blank (`prevBlank` for the
one before the text) and before one or the end. -/
def SpacedBlanks (prevBlank : Bool) (t : Text) : Prop :=
  ∀ u x v, t = u ++ x :: v → x.isBlank = true →
    x = .char ' ' ∧ blankBefore prevBlank u = false ∧ ∀ b ∈ v.head?, b.isBlank = false

theorem spaced_of_spacedBlanks : ∀ {p : Bool} {t : Text}, SpacedBlanks p t → Spaced p t
  | _, [], _ => trivial
  | p, c :: r, h => by
    -- the rest of the text has its blanks spaced from `c`'s side
    have hr : SpacedBlanks c.isBlank r := by
      intro u x v hr hx
      simpa using h (c :: u) x v (by rw [hr, List.cons_append]) hx
    by_cases hc : c.isBlank = true
    · obtain ⟨hsp, hp, -⟩ := h [] c r rfl hc
      rw [Spaced, if_pos hc]
      refine ⟨hp, hsp, ?_⟩
      rw [hc] at hr
      exact spaced_of_spacedBlanks hr
    · rw [Spaced, if_neg hc]
      rw [Bool.not_eq_true] at hc
      rw [hc] at hr
      exact spaced_of_spacedBlanks hr

theorem Normal.spacedBlanks {t : Text} (h : Normal t) : SpacedBlanks false t := by
  intro u x v ht hx
  obtain ⟨hsp, ⟨a, ha, hab⟩, ⟨b, hb, hbb⟩⟩ := h u x v ht hx
  refine ⟨hsp, by simp [blankBefore, ha, hab], fun b' hb' => ?_⟩
  rw [hb] at hb'
  cases hb'
  exact hbb

/-- Text in normal form is kept by cleaning. -/
theorem clean_of_normal {t : Text} (h : Normal t) : clean t = t := by
  obtain ⟨hhead, hlast⟩ := h.ends
  have htrim : trim t = t := by
    simpa [trim] using trimBy_frame Point.isBlank [] t [] (by simp) (by simp) hhead hlast
  rw [clean, htrim, collapse, collapseFrom_of_spaced false t (spaced_of_spacedBlanks h.spacedBlanks)]

/-- The texts cleaning keeps are exactly those in normal form. -/
theorem normal_iff_clean_eq (t : Text) : Normal t ↔ clean t = t :=
  ⟨clean_of_normal, fun h => h ▸ normal_clean t⟩

end Text

/-! ## The last cleaning of a schema -/

namespace Schema

/-- The schema of a node source without the last cleaning of its connection lists. -/
def extractOnce (t : FileTree) (file : Text) : Except Fault Schema := do
  let content := (t.readText file).toOption.getD []
  let s := merged (Node.baseName (Path.ofText file).stem) content
  let props ← Property.ofContent (← combined t file content)
  return { s with properties := if props.isEmpty then [placeholder] else props }

/-- A connection list of the single fields is missing or a cleaned text, and the last cleaning
keeps it. -/
theorem recleaned_connection (k : String) (content : Text) :
    recleaned (SingleFields.connection k content) = SingleFields.connection k content := by
  rw [SingleFields.connection]
  cases (Fields.listed k).search content with
  | none => rfl
  | some m => exact recleaned_clean (m.groupD 1)

/-- Before its last step, each connection list of a schema is missing or a cleaned text: the
single fields set it, and no other stage does. -/
theorem merged_connection_cleaned {k : String} (hk : k ∈ connectionNames) (base content : Text) :
    (merged base content).connectionOf k = none ∨
      ∃ Y, (merged base content).connectionOf k = some (Text.clean Y) := by
  rw [merged_connectionOf hk, connectionOf_ofContent hk, SingleFields.connection]
  cases (Fields.listed k).search content with
  | none => exact .inl rfl
  | some m => exact .inr ⟨m.groupD 1, rfl⟩

/-- The last cleaning keeps the connection lists of a schema before its last step. -/
theorem recleaned_merged {k : String} (hk : k ∈ connectionNames) (base content : Text) :
    recleaned ((merged base content).connectionOf k) = (merged base content).connectionOf k := by
  rw [merged_connectionOf hk, connectionOf_ofContent hk, recleaned_connection]

/-- Extraction gives what it gives without its last cleaning. -/
theorem extract_eq_extractOnce (t : FileTree) (file : Text) :
    extract t file = extractOnce t file := by
  have hfields : ∀ m : Schema, (∀ k ∈ connectionNames, recleaned (m.connectionOf k) =
      m.connectionOf k) → ∀ ps : List Property,
      ({ m with
          properties := ps
          inputs := recleaned m.inputs
          outputs := recleaned m.outputs
          credentials := recleaned m.credentials
          webhooks := recleaned m.webhooks } : Schema) = { m with properties := ps } := by
    intro m hm ps
    have hi : recleaned m.inputs = m.inputs := hm "inputs" (by decide)
    have ho : recleaned m.outputs = m.outputs := hm "outputs" (by decide)
    have hc : recleaned m.credentials = m.credentials := hm "credentials" (by decide)
    have hw : recleaned m.webhooks = m.webhooks := hm "webhooks" (by decide)
    rw [hi, ho, hc, hw]
  simp only [extract, extractOnce]
  congr 1
  funext combinedText
  congr 1
  funext props
  -- the stages of extraction are those of `merged`
  exact congrArg pure (hfields (merged _ _) (fun k hk => recleaned_merged hk _ _) _)

/-- **Cleaned lists stay cleaned.** Cleaned text starts and ends with a code point that is not a
blank, every blank in it is a single space between two such code points, and cleaning it again
keeps it. Before the last step of extraction, every connection list of a schema is missing (the
empty list it starts as) or a cleaned text, so the last step, which cleans them again, changes
nothing: extraction without it gives the same result for every file tree and file. -/
theorem cleaned_lists_stay_cleaned :
    (∀ s : Text, (∀ x ∈ (Text.clean s).head?, x.isBlank = false) ∧
      (∀ x ∈ (Text.clean s).getLast?, x.isBlank = false) ∧ Text.Normal (Text.clean s) ∧
      Text.clean (Text.clean s) = Text.clean s) ∧
    (∀ base content : Text, ∀ k ∈ connectionNames,
      (merged base content).connectionOf k = none ∨
        ∃ Y, (merged base content).connectionOf k = some (Text.clean Y)) ∧
    ∀ (t : FileTree) (file : Text), extract t file = extractOnce t file :=
  ⟨fun s => ⟨(Text.clean_ends s).1, (Text.clean_ends s).2, Text.normal_clean s,
      (Text.normal_iff_clean_eq _).mp (Text.normal_clean s)⟩,
    fun base content _ hk => merged_connection_cleaned hk base content,
    extract_eq_extractOnce⟩

/-- A list text spread over lines is cleaned to one line with single spaces, in normal form. -/
theorem cleaned_list_on_one_line :
    Text.clean (Text.ofString " 'main',\n\t\t'aux' ") = Text.ofString "'main', 'aux'" ∧
      Text.Normal (Text.ofString "'main', 'aux'") := by
  have hclean : Text.clean (Text.ofString " 'main',\n\t\t'aux' ") =
      Text.ofString "'main', 'aux'" := by decide +kernel
  exact ⟨hclean, hclean ▸ (cleaned_lists_stay_cleaned.1 _).2.2.1⟩

end Schema

end NodeCatalog
