import NodeCatalog.Proofs.DocReading
import NodeCatalog.Proofs.PathParts
import NodeCatalog.Proofs.PatternSteps
import NodeCatalog.Proofs.TextFiles
import Mathlib
/-!
# What front matter gives

A doc that opens with front matter made of field lines: a line `---`, lines `key: value`, a line
`---`, and then the end of the file or a line end and any text. Each line may end with `\n`, `\r\n`
or `\r`; each key is ASCII letters; each value is on one line, starts with no blank and holds no
`---`. For every such doc, both doc readers give an entry exactly when `title` and `description` are
among the keys, and then the entry's title is the title's value trimmed and its description the
description's value trimmed and cleaned. The readers are `extract_metadata` in
`src/tools/extract_docs.py` (lines 31–77) and in `src/tools/fetch_all_nodes.py` (lines 18–66).

The proof reads the file as the readers do. The bytes decode to the doc's characters, and every
line end reads as `\n` (`text_of_doc`). The section pattern then finds the field lines, the last
value without its trailing blanks (`section?_eq`): the lazy group stops at the first blanks
followed by three dashes, and no value holds three dashes. A field pattern is found at the start
of the first line with its key and nowhere inside a line (`searchFrom_field`).

A doc whose file starts with a byte order mark is not read so: the mark is kept as a character,
so the opening dashes do not start a line (`byteOrderMark_hides_frontMatter`).

- `FrontMatter.Break`, `FrontMatter.Line`, `FrontMatter.Doc`, `FrontMatter.Doc.Ok`: docs of this
  form, and their bytes.
- `FrontMatter.Doc.titleAndDescription`: what the readers should give.
- `FrontMatter.readers_of_frontMatter_doc`: **both readers give it.**
-/

namespace NodeCatalog

namespace FrontMatter

open Pattern

/-! ## Docs that open with field lines -/

/-- How a line of a file may end. -/
inductive Break where
  | lf
  | crlf
  | cr
  deriving DecidableEq, Repr

/-- The characters a line end is written with. -/
def Break.chars : Break → List Char
  | .lf => ['\n']
  | .crlf => ['\r', '\n']
  | .cr => ['\r']

/-- A field line: a key, `: `, a value, and the end of the line. -/
structure Line where
  key : String
  value : String
  brk : Break
  deriving Repr

/-- The text of a field line, without its end. -/
def Line.text (l : Line) : Text :=
  Text.ofString l.key ++ .char ':' :: .char ' ' :: Text.ofString l.value

/-- The characters of a field line, its end included. -/
def Line.chars (l : Line) : List Char :=
  l.key.toList ++ ':' :: ' ' :: l.value.toList ++ l.brk.chars

/-- A key: one or more ASCII letters. -/
def KeyOk (key : String) : Prop :=
  key.toList ≠ [] ∧ ∀ c ∈ key.toList, c.isAlpha = true

/-- A value: not empty, on one line, starting with no blank, and without three dashes. -/
def ValueOk (value : String) : Prop :=
  value.toList ≠ [] ∧ '\n' ∉ value.toList ∧ '\r' ∉ value.toList ∧
    (∀ c ∈ value.toList.head?, Text.isBlank c = false) ∧ ¬ ['-', '-', '-'] <:+: value.toList

-- decided through List.all: the instance for a bounded quantifier over Char would run through
-- every character
instance : DecidablePred KeyOk := fun key =>
  decidable_of_iff (key.toList ≠ [] ∧ key.toList.all Char.isAlpha = true) (by simp [KeyOk])

instance : DecidablePred ValueOk := fun value =>
  decidable_of_iff (value.toList ≠ [] ∧ '\n' ∉ value.toList ∧ '\r' ∉ value.toList ∧
      (value.toList.head?.all fun c => !Text.isBlank c) = true ∧
      ¬ ['-', '-', '-'] <:+: value.toList)
    (by
      unfold ValueOk
      cases value.toList.head? <;> simp)

/-- A field line of the form front matter is read in. -/
def Line.Ok (l : Line) : Prop :=
  KeyOk l.key ∧ ValueOk l.value

instance : DecidablePred Line.Ok := fun l =>
  inferInstanceAs (Decidable (KeyOk l.key ∧ ValueOk l.value))

/-- A doc that opens with front matter of field lines: a line `---`, the field lines, a line
`---`, then the end of the file or a line end and any text. -/
structure Doc where
  openBrk : Break
  lines : List Line
  body : Option (Break × String)
  deriving Repr

/-- The characters after the closing dashes. -/
def Doc.bodyChars (d : Doc) : List Char :=
  match d.body with
  | none => []
  | some (b, s) => b.chars ++ s.toList

/-- The characters of a doc. -/
def Doc.chars (d : Doc) : List Char :=
  ['-', '-', '-'] ++ d.openBrk.chars ++ d.lines.flatMap Line.chars ++ ['-', '-', '-'] ++
    d.bodyChars

/-- The file of a doc: the UTF-8 bytes of its characters. -/
def Doc.bytes (d : Doc) : List UInt8 :=
  Utf8.encode (String.ofList d.chars)

/-- A doc whose field lines all have the form front matter is read in. -/
def Doc.Ok (d : Doc) : Prop :=
  ∀ l ∈ d.lines, l.Ok

instance : DecidablePred Doc.Ok := fun d => inferInstanceAs (Decidable (∀ l ∈ d.lines, l.Ok))

/-- The value of the first field line with a key. -/
def Doc.lookup (d : Doc) (key : String) : Option String :=
  (d.lines.find? (·.key == key)).map (·.value)

/-- What the front matter of a doc promises a reader: the title's value trimmed, and the
description's value trimmed and cleaned, when both keys are there. -/
def Doc.titleAndDescription (d : Doc) : Option (Text × Text) := do
  let title ← d.lookup "title"
  let description ← d.lookup "description"
  pure (Text.trim (Text.ofString title), Description.clean (Text.trim (Text.ofString description)))

theorem lookup_isSome_iff (d : Doc) (key : String) :
    (d.lookup key).isSome ↔ key ∈ d.lines.map (·.key) := by
  simp [Doc.lookup, List.find?_isSome]

/-- The readers should give an entry exactly when both keys are there. -/
theorem titleAndDescription_isSome_iff (d : Doc) :
    d.titleAndDescription.isSome ↔
      "title" ∈ d.lines.map (·.key) ∧ "description" ∈ d.lines.map (·.key) := by
  rw [← lookup_isSome_iff, ← lookup_isSome_iff, Doc.titleAndDescription]
  cases d.lookup "title" <;> cases d.lookup "description" <;> simp

/-! ## The text the readers see -/

theorem isBlank_of_isAlpha {c : Char} (h : c.isAlpha = true) : Text.isBlank c = false := by
  simp only [Char.isAlpha, Char.isUpper, Char.isLower, Bool.or_eq_true, Bool.and_eq_true,
    decide_eq_true_eq] at h
  simp only [Text.isBlank, Text.blankRanges, List.any_cons, List.any_nil, Bool.or_false,
    Bool.or_eq_false_iff, Bool.and_eq_false_iff, decide_eq_false_iff_not, Nat.not_le]
  have hval : c.toNat = c.val.toNat := rfl
  have hA : 'A'.val.toNat = 65 := rfl
  have hZ : 'Z'.val.toNat = 90 := rfl
  have ha : 'a'.val.toNat = 97 := rfl
  have hz : 'z'.val.toNat = 122 := rfl
  rcases h with h | h <;> simp only [UInt32.le_iff_toNat_le] at h <;> omega

/-- A key holds no character other than a letter. -/
theorem KeyOk.not_mem {key : String} (hk : KeyOk key) {c : Char} (hc : c.isAlpha = false) :
    c ∉ key.toList := fun hm => by
  rw [hk.2 c hm] at hc
  cases hc

theorem KeyOk.char_not_mem {key : String} (hk : KeyOk key) {c : Char} (hc : c.isAlpha = false) :
    Point.char c ∉ Text.ofString key := by
  intro hm
  obtain ⟨d, hd, he⟩ := List.mem_map.mp hm
  cases he
  exact hk.not_mem hc hd

/-- A line end reads as a line feed, when no line feed follows it. -/
theorem Break.uniformLines_chars (b : Break) {ys : List Char} (h : ys.head? ≠ some '\n') :
    Utf8.uniformLines (b.chars ++ ys) = '\n' :: Utf8.uniformLines ys := by
  cases b with
  | lf => exact Utf8.uniformLines_cons_of_ne (by decide) ys
  | crlf => rfl
  | cr => exact Utf8.uniformLines_cr h

/-- The characters of a field line before its end hold no carriage return. -/
theorem Line.Ok.not_cr {l : Line} (hl : l.Ok) :
    '\r' ∉ l.key.toList ++ ':' :: ' ' :: l.value.toList := by
  intro hm
  rcases List.mem_append.mp hm with hk | hv
  · exact hl.1.not_mem (by decide) hk
  · simp only [List.mem_cons] at hv
    rcases hv with h | h | h
    · cases h
    · cases h
    · exact hl.2.2.2.1 h

/-- Field lines, and then three dashes, start with no line feed. -/
theorem head_lines_ne {ls : List Line} (hls : ∀ l ∈ ls, l.Ok) (ys : List Char) :
    (ls.flatMap Line.chars ++ '-' :: ys).head? ≠ some '\n' := by
  cases ls with
  | nil => simp
  | cons l ls =>
    obtain ⟨c, cs, hkey⟩ := List.exists_cons_of_ne_nil (hls l List.mem_cons_self).1.1
    have hc : c ≠ '\n' := by
      rintro rfl
      exact (hls l List.mem_cons_self).1.not_mem (c := '\n') (by decide) (by simp [hkey])
    simp [Line.chars, hkey, hc]

/-- Field lines read with a line feed at the end of each. -/
theorem uniformLines_lines (ys : List Char) :
    ∀ ls : List Line, (∀ l ∈ ls, l.Ok) →
      Utf8.uniformLines (ls.flatMap Line.chars ++ '-' :: ys) =
        ls.flatMap (fun l => (l.key.toList ++ ':' :: ' ' :: l.value.toList) ++ ['\n']) ++
          Utf8.uniformLines ('-' :: ys)
  | [], _ => rfl
  | l :: ls, hls => by
    have hl := hls l List.mem_cons_self
    have hrest : ∀ l ∈ ls, l.Ok := fun l' h => hls l' (List.mem_cons_of_mem _ h)
    rw [List.flatMap_cons, List.append_assoc, Line.chars, List.append_assoc,
      Utf8.uniformLines_append_of_not_cr hl.not_cr,
      Break.uniformLines_chars _ (head_lines_ne hrest ys),
      uniformLines_lines ys ls hrest, List.flatMap_cons]
    simp

/-- **The text of a doc, as the readers see it**: every line end a line feed, up to the closing
dashes. -/
theorem text_of_doc {d : Doc} (hd : d.Ok) :
    (Utf8.uniformLines d.chars).map Point.char =
      Text.ofString "---" ++ .char '\n' :: ((d.lines.flatMap fun l => l.text ++ [.char '\n']) ++
        (Text.ofString "---" ++ (Utf8.uniformLines d.bodyChars).map Point.char)) := by
  have hdash : ∀ ys, Utf8.uniformLines (['-', '-', '-'] ++ ys) = ['-', '-', '-'] ++
      Utf8.uniformLines ys := fun ys => Utf8.uniformLines_append_of_not_cr (by decide) ys
  rw [Doc.chars, List.append_assoc, List.append_assoc, List.append_assoc, hdash,
    show ['-', '-', '-'] ++ d.bodyChars = '-' :: ('-' :: '-' :: d.bodyChars) from rfl,
    Break.uniformLines_chars _ (head_lines_ne hd _), uniformLines_lines _ _ hd,
    show '-' :: '-' :: '-' :: d.bodyChars = ['-', '-', '-'] ++ d.bodyChars from rfl, hdash]
  simp [Line.text, Text.ofString, List.map_flatMap]

/-! ## Three dashes -/

theorem dashes_eq : Text.ofString "---" = [.char '-', .char '-', .char '-'] := rfl

/-- Three dashes that start within `u` and reach past a code point other than a dash lie within
`u`. -/
theorem dashes_prefix_of_append {u z : Text} {x : Point} (hx : x ≠ .char '-')
    (h : Text.ofString "---" <+: u ++ x :: z) : Text.ofString "---" <+: u := by
  rw [dashes_eq] at h ⊢
  match u, h with
  | [], h => exact absurd (List.cons_prefix_cons.mp h).1.symm hx
  | [_], h => exact absurd (List.cons_prefix_cons.mp (List.cons_prefix_cons.mp h).2).1.symm hx
  | [_, _], h =>
    exact absurd
      (List.cons_prefix_cons.mp (List.cons_prefix_cons.mp (List.cons_prefix_cons.mp h).2).2).1.symm
      hx
  | a :: b :: c :: u, h =>
    simp only [List.cons_append, List.cons_prefix_cons, List.nil_prefix, and_true] at h
    obtain ⟨rfl, rfl, rfl⟩ := h
    exact List.prefix_append [_, _, _] u

/-- Three dashes in text cut by a code point other than a dash lie on one side of it. -/
theorem dashes_infix_of_append {z : Text} {x : Point} (hx : x ≠ .char '-') :
    ∀ {u : Text}, Text.ofString "---" <:+: u ++ x :: z →
      Text.ofString "---" <:+: u ∨ Text.ofString "---" <:+: z
  | [], h => by
    rcases List.infix_cons_iff.mp h with hp | hi
    · rw [dashes_eq] at hp
      exact absurd (List.cons_prefix_cons.mp hp).1.symm hx
    · exact .inr hi
  | a :: u, h => by
    rw [List.cons_append] at h
    rcases List.infix_cons_iff.mp h with hp | hi
    · exact .inl (dashes_prefix_of_append (u := a :: u) hx hp).isInfix
    · rcases dashes_infix_of_append hx hi with hu | hz
      · exact .inl (hu.trans (List.suffix_cons a u).isInfix)
      · exact .inr hz

/-- A text of letters holds no dash. -/
theorem not_dashes_infix_of_key {key : String} (hk : KeyOk key) :
    ¬ Text.ofString "---" <:+: Text.ofString key := by
  intro h
  exact hk.char_not_mem (c := '-') (by decide) (h.subset (by simp [dashes_eq]))

/-- A value without three dashes, as a text. -/
theorem not_dashes_infix_of_value {v : String} (hv : ¬ ['-', '-', '-'] <:+: v.toList) :
    ¬ Text.ofString "---" <:+: Text.ofString v := by
  rintro ⟨s, t, h⟩
  obtain ⟨x, y, hxy, hx, -⟩ := List.map_eq_append_iff.mp h.symm
  obtain ⟨x₁, x₂, hx₁₂, -, hx₂⟩ := List.map_eq_append_iff.mp hx
  have hdash : x₂ = ['-', '-', '-'] :=
    (List.map_injective_iff.mpr fun _ _ e => Point.char.inj e) (hx₂.trans dashes_eq)
  exact hv ⟨x₁, y, by rw [hxy, hx₁₂, hdash]⟩

/-- A field line holds no three dashes when its value holds none. -/
theorem not_dashes_infix_line {key : String} (hk : KeyOk key) {v : Text}
    (hv : ¬ Text.ofString "---" <:+: v) :
    ¬ Text.ofString "---" <:+: Text.ofString key ++ .char ':' :: .char ' ' :: v := by
  intro h
  rcases dashes_infix_of_append (by decide) h with hkey | hrest
  · exact not_dashes_infix_of_key hk hkey
  · rcases List.infix_cons_iff.mp hrest with hp | hi
    · rw [dashes_eq] at hp
      exact absurd (List.cons_prefix_cons.mp hp).1 (by decide)
    · exact hv hi

/-! ## Trailing blanks -/

theorem trimRightBy_append_trailing (p : Point → Bool) (s : Text) :
    Text.trimRightBy p s ++ (s.reverse.takeWhile p).reverse = s := by
  rw [Text.trimRightBy, ← List.reverse_append, List.takeWhile_append_dropWhile,
    List.reverse_reverse]

theorem trailing_of_mem {p : Point → Bool} {s : Text} {x : Point}
    (hx : x ∈ (s.reverse.takeWhile p).reverse) : p x = true :=
  List.mem_takeWhile_imp (List.mem_reverse.mp hx)

theorem getLast?_trimRightBy (p : Point → Bool) (s : Text) :
    ∀ x ∈ (Text.trimRightBy p s).getLast?, p x = false := by
  intro x hx
  rw [Text.trimRightBy, List.getLast?_reverse] at hx
  have := List.head?_dropWhile_not p s.reverse
  rw [Option.mem_def.mp hx] at this
  exact this

/-- A text that starts with a code point `p` keeps is not emptied by trimming its end. -/
theorem trimRightBy_ne_nil {p : Point → Bool} {s : Text} (hs : s ≠ [])
    (hhead : ∀ x ∈ s.head?, p x = false) : Text.trimRightBy p s ≠ [] := by
  intro h
  obtain ⟨x, xs, rfl⟩ := List.exists_cons_of_ne_nil hs
  have hall := trimRightBy_append_trailing p (x :: xs)
  rw [h, List.nil_append] at hall
  have hx : x ∈ ((x :: xs).reverse.takeWhile p).reverse := by
    rw [hall]
    exact List.mem_cons_self
  have hpx := hhead x rfl
  rw [trailing_of_mem hx] at hpx
  cases hpx

/-- Blanks at the end do not change a trimmed text. -/
theorem trim_append_blanks (a : Text) {b : Text} (hb : ∀ x ∈ b, x.isBlank = true) :
    Text.trim (a ++ b) = Text.trim a := by
  have hright : ∀ u : Text, Text.trimRightBy Point.isBlank (u ++ b) =
      Text.trimRightBy Point.isBlank u := by
    intro u
    rw [Text.trimRightBy, Text.trimRightBy, List.reverse_append,
      List.dropWhile_append_of_pos fun x hx => hb x (List.mem_reverse.mp hx)]
  simp only [Text.trim, Text.trimBy]
  rw [List.dropWhile_append]
  split
  · rename_i hnil
    rw [List.isEmpty_iff.mp hnil,
      List.dropWhile_eq_nil_iff.mpr fun x hx => hb x hx]
  · exact hright _

/-! ## The section -/

/-- The text the section of a doc holds: its field lines joined by line feeds, the last value
without its trailing blanks. -/
def sectionText : List Line → Text
  | [] => []
  | [l] => Text.ofString l.key ++ .char ':' :: .char ' ' ::
      Text.trimRightBy Point.isBlank (Text.ofString l.value)
  | l :: l' :: ls => l.text ++ .char '\n' :: sectionText (l' :: ls)

/-- The first code point of a field line is a letter, so no blank. -/
theorem head_key {l : Line} (hl : l.Ok) (rest : Text) :
    ∀ x ∈ (Text.ofString l.key ++ rest).head?, x.isBlank = false := by
  obtain ⟨c, cs, hkey⟩ := List.exists_cons_of_ne_nil hl.1.1
  have hc := isBlank_of_isAlpha (hl.1.2 c (by simp [hkey]))
  simp [Text.ofString, hkey, Point.isBlank, hc]

theorem value_head {l : Line} (hl : l.Ok) :
    ∀ x ∈ (Text.ofString l.value).head?, x.isBlank = false := by
  intro x hx
  obtain ⟨c, hc, rfl⟩ : ∃ c ∈ l.value.toList.head?, Point.char c = x := by
    simpa [Text.ofString, List.head?_map] using hx
  exact hl.2.2.2.2.1 c hc

/-- The value of a field line, trimmed at its end, is not empty. -/
theorem trimmed_value_ne_nil {l : Line} (hl : l.Ok) :
    Text.trimRightBy Point.isBlank (Text.ofString l.value) ≠ [] :=
  trimRightBy_ne_nil (by simpa [Text.ofString] using hl.2.1) (value_head hl)

theorem sectionText_ne_nil {ls : List Line} (hne : ls ≠ []) : sectionText ls ≠ [] := by
  match ls, hne with
  | [_], _ => simp [sectionText]
  | _ :: _ :: _, _ => simp [sectionText]

/-- The field lines, each with a line feed, are the section and then blanks. -/
theorem lines_eq_sectionText : ∀ ls : List Line, ls ≠ [] → (∀ l ∈ ls, l.Ok) →
    ∃ ws : Text, ws ≠ [] ∧ (∀ x ∈ ws, x.isBlank = true) ∧
      ls.flatMap (fun l => l.text ++ [.char '\n']) = sectionText ls ++ ws
  | [l], _, _ => by
    refine ⟨((Text.ofString l.value).reverse.takeWhile Point.isBlank).reverse ++ [.char '\n'],
      by simp, fun x hx => ?_, ?_⟩
    · rcases List.mem_append.mp hx with hx | hx
      · exact trailing_of_mem hx
      · rw [List.mem_singleton.mp hx]
        rfl
    · simp only [List.flatMap_cons, List.flatMap_nil, List.append_nil, sectionText, Line.text]
      conv_lhs => rw [← trimRightBy_append_trailing Point.isBlank (Text.ofString l.value)]
      simp
  | l :: l' :: ls, _, hls => by
    obtain ⟨ws, hne, hws, heq⟩ := lines_eq_sectionText (l' :: ls) (List.cons_ne_nil _ _)
      fun l'' h => hls l'' (List.mem_cons_of_mem _ h)
    refine ⟨ws, hne, hws, ?_⟩
    rw [List.flatMap_cons, heq, sectionText]
    simp

theorem head_sectionText {ls : List Line} (hls : ∀ l ∈ ls, l.Ok) :
    ∀ x ∈ (sectionText ls).head?, x.isBlank = false := by
  match ls, hls with
  | [], _ => simp [sectionText]
  | [l], hls => exact head_key (hls l List.mem_cons_self) _
  | l :: _ :: _, hls =>
    rw [sectionText, Line.text, List.append_assoc]
    exact head_key (hls l List.mem_cons_self) _

/-- The section ends with the last value's last code point other than a blank. -/
theorem getLast_sectionText : ∀ ls : List Line, (∀ l ∈ ls, l.Ok) →
    ∀ x ∈ (sectionText ls).getLast?, x.isBlank = false
  | [], _ => by simp [sectionText]
  | [l], hls => by
    have hne := trimmed_value_ne_nil (hls l List.mem_cons_self)
    intro x hx
    rw [sectionText, List.getLast?_append_of_ne_nil _ (by simp), List.getLast?_cons_cons,
      List.getLast?_cons, List.getLast?_eq_some_getLast hne] at hx
    simp only [Option.getD_some, Option.mem_def, Option.some.injEq] at hx
    subst hx
    exact getLast?_trimRightBy _ _ _ (List.getLast?_eq_some_getLast hne)
  | l :: l' :: ls, hls => by
    intro x hx
    have hne := sectionText_ne_nil (List.cons_ne_nil l' ls)
    rw [sectionText, List.getLast?_append_of_ne_nil _ (by simp), List.getLast?_cons,
      List.getLast?_eq_some_getLast hne] at hx
    simp only [Option.getD_some, Option.mem_def, Option.some.injEq] at hx
    subst hx
    exact getLast_sectionText (l' :: ls) (fun l'' h => hls l'' (List.mem_cons_of_mem _ h)) _
      (List.getLast?_eq_some_getLast hne)

/-- No value holds three dashes, and neither does the section. -/
theorem not_dashes_infix_sectionText : ∀ ls : List Line, (∀ l ∈ ls, l.Ok) →
    ¬ Text.ofString "---" <:+: sectionText ls
  | [], _ => by simp [sectionText, dashes_eq]
  | [l], hls => by
    have hl := hls l List.mem_cons_self
    refine not_dashes_infix_line hl.1 fun h => not_dashes_infix_of_value hl.2.2.2.2.2 ?_
    have hpre := trimRightBy_append_trailing Point.isBlank (Text.ofString l.value)
    exact h.trans ⟨[], _, by rw [List.nil_append, hpre]⟩
  | l :: l' :: ls, hls => by
    have hl := hls l List.mem_cons_self
    intro h
    rw [sectionText] at h
    rcases dashes_infix_of_append (by decide) h with h | h
    · exact not_dashes_infix_line hl.1 (not_dashes_infix_of_value hl.2.2.2.2.2) h
    · exact not_dashes_infix_sectionText (l' :: ls)
        (fun l'' h => hls l'' (List.mem_cons_of_mem _ h)) h

theorem head_dashes_append (r : Text) :
    ∀ x ∈ (Text.ofString "---" ++ r).head?, x.isBlank = false := by
  intro x hx
  rw [dashes_eq, List.cons_append, List.head?_cons, Option.mem_some_iff] at hx
  subst hx
  decide

/-- From where the section starts, the lazy group stops at the first blanks followed by three
dashes: right after `F`, which holds no three dashes and ends with no blank, since blanks
separate it from the closing dashes. Before that, every place leaves a code point other than a
blank or a dash where the dashes should start. -/
theorem go_section_rest (m i : Nat) (p : Option Point) (g : Groups) {F ws r : Text}
    (hlast : ∀ x ∈ F.getLast?, x.isBlank = false) (hws : ∀ x ∈ ws, x.isBlank = true)
    (hsep : F ≠ [] → ws ≠ []) (hD : ¬ Text.ofString "---" <:+: F) :
    ∃ stop, go (m + 4)
        (.seq (.group 1 (.many .any 0 false)) (.seq blanks (.word (Text.ofString "---"))))
        ⟨i, p, F ++ (ws ++ (Text.ofString "---" ++ r))⟩ g (fun c' g' => some (c', g')) =
      some (stop,
        g.set! 1 (some ⟨i, i + F.length, F ++ (ws ++ (Text.ofString "---" ++ r))⟩)) := by
  have hdash : ∀ x ∈ (Text.ofString "---").head?, x.isBlank = false := by decide
  rw [go_seq, go_group, go_many_lazy]
  dsimp only
  refine ⟨⟨i + F.length + ws.length + (Text.ofString "---").length,
    (Text.ofString "---").getLast?.or (ws.getLast?.or (F.getLast?.or p)), r⟩,
    lazyRun_append .any _ _ F i p (fun _ _ => rfl) ?_ ?_⟩
  · -- inside the section: the blanks from there run up to a code point of the section
    intro i' p' s hs hsuf
    have hF : F ≠ [] := fun e => hs (List.eq_nil_of_suffix_nil (e ▸ hsuf))
    obtain ⟨w, ws', rfl⟩ := List.exists_cons_of_ne_nil (hsep hF)
    have hlast' : ∀ x ∈ s.getLast?, x.isBlank = false := by
      obtain ⟨t, rfl⟩ := hsuf
      rw [List.getLast?_append, List.getLast?_eq_some_getLast hs, Option.some_or] at hlast
      rwa [List.getLast?_eq_some_getLast hs]
    have hrest : s.dropWhile Point.isBlank ≠ [] := by
      intro h
      have hall := List.dropWhile_eq_nil_iff.mp h
      have := hlast' _ (List.getLast?_eq_some_getLast hs)
      rw [hall _ (List.getLast_mem hs)] at this
      cases this
    obtain ⟨y, ys, hy⟩ := List.exists_cons_of_ne_nil hrest
    have hyb : y.isBlank = false := by
      have := List.head?_dropWhile_not Point.isBlank s
      rw [hy] at this
      exact this
    rw [← List.takeWhile_append_dropWhile (p := Point.isBlank) (l := s), List.append_assoc,
      go_blanks_word hdash (by decide) (fun x hx => List.mem_takeWhile_imp hx)
        (by rw [hy]; simpa using hyb),
      Cursor.eat_eq_none, Option.bind_none]
    intro hpre
    have hw : w ≠ .char '-' := fun e => by
      have := hws w List.mem_cons_self
      rw [e] at this
      cases this
    rw [List.cons_append] at hpre
    have hpre' := dashes_prefix_of_append hw hpre
    exact hD (hpre'.isInfix.trans ((List.dropWhile_suffix _).trans hsuf).isInfix)
  · -- after the section: blanks, then the closing dashes
    rw [go_blanks_word hdash (by decide) hws (head_dashes_append r), Cursor.eat_append]
    rfl

theorem sectionPattern_eq : sectionPattern =
    .seq .lineStart (.seq (.word (Text.ofString "---")) (.seq blanks
      (.seq (.group 1 (.many .any 0 false)) (.seq blanks (.word (Text.ofString "---")))))) := rfl

/-- **The section of front matter.** After the opening dashes and a line feed, the section is
the text `F` before blanks and the closing dashes, when `F` holds no three dashes, starts and ends
with no blank, and is empty exactly when no blanks follow it. -/
theorem section?_eq {F ws B : Text} (hhead : ∀ x ∈ F.head?, x.isBlank = false)
    (hlast : ∀ x ∈ F.getLast?, x.isBlank = false) (hws : ∀ x ∈ ws, x.isBlank = true)
    (hsep : F = [] ↔ ws = []) (hD : ¬ Text.ofString "---" <:+: F) :
    FrontMatter.section?
      (Text.ofString "---" ++ .char '\n' :: (F ++ (ws ++ (Text.ofString "---" ++ B)))) =
      some F := by
  -- after the opening dashes, the blanks are the line feed alone
  have hnext : ∀ x ∈ (F ++ (ws ++ (Text.ofString "---" ++ B))).head?, x.isBlank = false := by
    by_cases hF : F = []
    · rw [hF, hsep.mp hF, List.nil_append, List.nil_append]
      exact head_dashes_append B
    · obtain ⟨x, xs, rfl⟩ := List.exists_cons_of_ne_nil hF
      exact hhead
  simp only [section?, search]
  rw [fuelFor_eq_add sectionPattern _ (k := 8) (by decide)]
  generalize sectionPattern.fuelFor _ - 8 = m
  -- the match at the first position: the line feed is the run of blanks, then the section
  have hgo : ∀ g₀ : Groups, ∃ stop, go (m + 8) sectionPattern
      ⟨0, none, Text.ofString "---" ++ .char '\n' :: (F ++ (ws ++ (Text.ofString "---" ++ B)))⟩
      g₀ (fun c' g' => some (c', g')) =
      some (stop,
        g₀.set! 1 (some ⟨4, 4 + F.length, F ++ (ws ++ (Text.ofString "---" ++ B))⟩)) := by
    intro g₀
    obtain ⟨stop, hrest⟩ := go_section_rest (m + 1) 4 (some (.char '\n')) g₀ (r := B) hlast
      hws (fun hF hw => hF (hsep.mpr hw)) hD
    refine ⟨stop, ?_⟩
    rw [sectionPattern_eq, go_seq, go_lineStart, if_pos (by simp), go_seq, go_word,
      Cursor.eat_append, Option.bind_some]
    exact go_blanks_of_end (show ∀ x ∈ [Point.char '\n'], x.isBlank = true by decide) hnext _ _
      hrest
  obtain ⟨stop, hstop⟩ := hgo (Array.replicate (sectionPattern.groupCount + 1) none)
  obtain ⟨found, hfound, hgroup⟩ := searchFrom_group_one (by decide) hstop
  rw [hfound, Option.map_some, hgroup]
  simp [Span.chars]

/-! ## Fields -/

theorem fieldPattern_eq (name : String) : fieldPattern name =
    .seq .lineStart (.seq (.word (Text.ofString (name ++ ":"))) (.seq blanks
      (.seq (.group 1 (.many CharClass.notNewline 1 true)) .lineEnd))) := rfl

/-- A name and a colon begin a text that is another name and a colon only when the two names are
the same, as neither holds a colon. -/
theorem eq_of_prefix_append_sep {x : Point} {r : Text} :
    ∀ {a b : Text}, x ∉ a → x ∉ b → a ++ [x] <+: b ++ x :: r → a = b
  | [], [], _, _, _ => rfl
  | [], y :: b, _, hb, h =>
    absurd (List.cons_prefix_cons.mp h).1 fun e => hb (e ▸ List.mem_cons_self)
  | y :: a, [], ha, _, h =>
    absurd (List.cons_prefix_cons.mp h).1 fun e => ha (e ▸ List.mem_cons_self)
  | y :: a, z :: b, ha, hb, h => by
    rw [List.cons_append, List.cons_append] at h
    obtain ⟨rfl, htail⟩ := List.cons_prefix_cons.mp h
    rw [eq_of_prefix_append_sep (fun hm => ha (List.mem_cons_of_mem _ hm))
      (fun hm => hb (List.mem_cons_of_mem _ hm)) htail]

theorem lineStart_ok {prev : Option Point} (hprev : prev = none ∨ prev = some (.char '\n')) :
    (prev.isNone || prev == some (.char '\n')) = true := by
  rcases hprev with rfl | rfl <;> rfl

/-- At a line start, a field pattern does not match a line with another key. -/
theorem go_field_of_ne {name key : String} (hname : KeyOk name) (hkey : KeyOk key)
    (hne : key ≠ name) (m i : Nat) {prev : Option Point}
    (hprev : prev = none ∨ prev = some (.char '\n')) (rest : Text) (g : Groups) (k : Cont) :
    go (m + 6) (fieldPattern name) ⟨i, prev, Text.ofString key ++ .char ':' :: rest⟩ g k =
      none := by
  rw [fieldPattern_eq, go_seq, go_lineStart, if_pos (lineStart_ok hprev), go_seq, go_word,
    Cursor.eat_eq_none, Option.bind_none]
  intro hpre
  rw [show Text.ofString (name ++ ":") = Text.ofString name ++ [.char ':'] by
    simp [Text.ofString]] at hpre
  exact hne (Text.ofString_inj.mp (eq_of_prefix_append_sep (hname.char_not_mem (by decide))
    (hkey.char_not_mem (by decide)) hpre).symm)

/-- **A field line.** At a line start, a field pattern matches the line with its name as key:
the blank after the colon is skipped, and group 1 runs to the end of the line. -/
theorem go_field_of_eq {name : String} {v tail : Text} (hv : v ≠ [])
    (hvhead : ∀ x ∈ v.head?, x.isBlank = false)
    (hvline : ∀ x ∈ v, CharClass.notNewline.test x = true)
    (htail : ∀ x ∈ tail.head?, x = .char '\n') (m i : Nat) {prev : Option Point}
    (hprev : prev = none ∨ prev = some (.char '\n')) (g : Groups) :
    ∃ stop, go (m + 6) (fieldPattern name)
        ⟨i, prev, Text.ofString name ++ .char ':' :: .char ' ' :: (v ++ tail)⟩ g
        (fun c' g' => some (c', g')) =
      some (stop, g.set! 1 (some ⟨i + (Text.ofString (name ++ ":")).length + 1,
        i + (Text.ofString (name ++ ":")).length + 1 + v.length, v ++ tail⟩)) := by
  have htext : Text.ofString name ++ .char ':' :: .char ' ' :: (v ++ tail) =
      Text.ofString (name ++ ":") ++ ([.char ' '] ++ (v ++ tail)) := by
    simp [Text.ofString]
  have hvnext : ∀ x ∈ (v ++ tail).head?, x.isBlank = false := by
    obtain ⟨y, ys, rfl⟩ := List.exists_cons_of_ne_nil hv
    exact hvhead
  have htailout : ∀ x ∈ tail.head?, CharClass.notNewline.test x = false := by
    intro x hx
    rw [htail x hx]
    rfl
  obtain ⟨inner, hlen, -, hrun⟩ := Cursor.run_append .notNewline v tail hvline htailout
    (i + (Text.ofString (name ++ ":")).length + 1) (some (.char ' '))
  have hinner : 1 ≤ inner.length := by
    rw [hlen]
    exact List.length_pos_of_ne_nil hv
  set j := i + (Text.ofString (name ++ ":")).length + 1
  refine ⟨⟨j + v.length, v.getLast?.or (some (.char ' ')), tail⟩, ?_⟩
  rw [fieldPattern_eq, go_seq, go_lineStart, if_pos (lineStart_ok hprev), go_seq, go_word, htext,
    Cursor.eat_append, Option.bind_some]
  refine go_blanks_of_end (show ∀ x ∈ [Point.char ' '], x.isBlank = true by decide) hvnext
    _ _ ?_
  rw [go_seq, go_group, go_many_greedy]
  dsimp only
  rw [show (Text.ofString (name ++ ":")).getLast?.or prev = some (.char ':') by
      simp [Text.ofString],
    show ([Point.char ' '] : Text).getLast?.or (some (.char ':')) = some (.char ' ') from rfl,
    show ([Point.char ' '] : Text).length = 1 from rfl, hrun,
    List.drop_append_of_le_length hinner, List.reverse_append, List.reverse_singleton,
    List.singleton_append, firstOf_cons, go_lineEnd]
  -- the value is taken whole, and the line ends after it
  cases tail with
  | nil => rfl
  | cons y ys =>
    obtain rfl := htail y rfl
    rfl

/-- A field line whose key is the field's name is found where it starts, its value in group 1. -/
theorem searchFrom_field_of_eq {name : String} {fuel : Nat} (hfuel : 6 ≤ fuel) {v r : Text}
    (hv : v ≠ []) (hvhead : ∀ x ∈ v.head?, x.isBlank = false)
    (hvline : ∀ x ∈ v, CharClass.notNewline.test x = true)
    (hr : ∀ x ∈ r.head?, x = .char '\n') (i : Nat) {prev : Option Point}
    (hprev : prev = none ∨ prev = some (.char '\n')) :
    ∃ m, (fieldPattern name).searchFrom fuel i prev
      (Text.ofString name ++ .char ':' :: .char ' ' :: (v ++ r)) = some m ∧ m.groupD 1 = v := by
  obtain ⟨m, rfl⟩ : ∃ m, fuel = m + 6 := ⟨fuel - 6, by omega⟩
  obtain ⟨stop, hgo⟩ := @go_field_of_eq name v r hv hvhead hvline hr m i prev hprev
    (Array.replicate ((fieldPattern name).groupCount + 1) none)
  obtain ⟨found, hfound, hgroup⟩ :=
    searchFrom_group_one (by rw [show (fieldPattern name).groupCount = 1 from rfl]) hgo
  refine ⟨found, hfound, ?_⟩
  rw [hgroup]
  simp [Span.chars]

/-- The search for a field pattern steps over a line with another key: the pattern does not
match at its start, and no line starts inside it. -/
theorem searchFrom_field_of_ne {name key : String} (hname : KeyOk name) (hkey : KeyOk key)
    (hne : key ≠ name) {fuel : Nat} (hfuel : 6 ≤ fuel) {v : Text} (hvnl : .char '\n' ∉ v)
    (r : Text) (i : Nat) {prev : Option Point} (hprev : prev = none ∨ prev = some (.char '\n')) :
    ∃ j y, y ≠ .char '\n' ∧
      (fieldPattern name).searchFrom fuel i prev
          (Text.ofString key ++ .char ':' :: .char ' ' :: (v ++ r)) =
        (fieldPattern name).searchFrom fuel j (some y) r := by
  obtain ⟨m, rfl⟩ : ∃ m, fuel = m + 6 := ⟨fuel - 6, by omega⟩
  obtain ⟨x, xs, hkeyx⟩ := List.exists_cons_of_ne_nil
    (show Text.ofString key ++ .char ':' :: .char ' ' :: v ≠ [] by simp)
  -- the line holds no line feed: a key of letters, a colon, a blank and the value
  have hline : Point.char '\n' ∉ x :: xs := by
    rw [← hkeyx]
    intro hm
    rcases List.mem_append.mp hm with hk | hk
    · exact hkey.char_not_mem (by decide) hk
    · simp only [List.mem_cons, Point.char.injEq] at hk
      rcases hk with h | h | h
      · cases h
      · cases h
      · exact hvnl h
  have htext : Text.ofString key ++ .char ':' :: .char ' ' :: (v ++ r) = x :: (xs ++ r) := by
    show _ = (x :: xs) ++ r
    rw [← hkeyx]
    simp
  have h0 : (fieldPattern name).matchWith (m + 6) ⟨i, prev, x :: (xs ++ r)⟩ = none := by
    rw [← htext, matchWith]
    dsimp only
    rw [go_field_of_ne hname hkey hne m i hprev]
    rfl
  have hlast : xs.getLast?.or (some x) = some ((x :: xs).getLast (List.cons_ne_nil x xs)) := by
    rw [← getLast?_or_cons x xs none, List.getLast?_eq_some_getLast (List.cons_ne_nil x xs)]
    rfl
  refine ⟨i + 1 + xs.length, (x :: xs).getLast (List.cons_ne_nil x xs),
    fun hy => hline (hy ▸ List.getLast_mem _), ?_⟩
  rw [htext, searchFrom_of_matchWith_none h0, fieldPattern_eq,
    searchFrom_skip _ _ r xs (i + 1) (fun e => hline (e ▸ List.mem_cons_self))
      (fun hm => hline (List.mem_cons_of_mem _ hm)), hlast]

/-- The search for a field pattern finds nothing in an empty text: the key is never empty. -/
theorem searchFrom_field_nil (name : String) {fuel : Nat} (hfuel : 6 ≤ fuel) (i : Nat)
    (prev : Option Point) : (fieldPattern name).searchFrom fuel i prev [] = none := by
  obtain ⟨m, rfl⟩ : ∃ m, fuel = m + 6 := ⟨fuel - 6, by omega⟩
  have hword : ¬ Text.ofString (name ++ ":") <+: [] := by simp [Text.ofString]
  rw [searchFrom, matchWith, fieldPattern_eq, go_seq, go_lineStart]
  split_ifs
  · rw [go_seq, go_word, Cursor.eat_eq_none hword]
    rfl
  · rfl

/-- No line starts after a code point other than a line feed, up to the next line feed. -/
theorem searchFrom_field_after (name : String) (fuel j : Nat) {y : Point}
    (hy : y ≠ .char '\n') (s : Text) :
    (fieldPattern name).searchFrom fuel j (some y) s =
      match s with
      | [] => none
      | x :: r => (fieldPattern name).searchFrom fuel (j + 1) (some x) r := by
  rw [fieldPattern_eq]
  cases s with
  | nil => exact matchWith_lineStart_of_prev _ fuel j hy []
  | cons x r => exact searchFrom_of_matchWith_none (matchWith_lineStart_of_prev _ fuel j hy _)

theorem value_notNewline {l : Line} (hl : l.Ok) :
    ∀ x ∈ Text.ofString l.value, CharClass.notNewline.test x = true := by
  intro x hx
  obtain ⟨c, hc, rfl⟩ := List.mem_map.mp hx
  have hne : c.toNat ≠ '\n'.toNat := fun e => hl.2.2.1 (Char.toNat_inj.mp e ▸ hc)
  simpa [CharClass.notNewline, CharClass.test, Point.code] using hne

theorem trimRightBy_isPrefix (p : Point → Bool) (s : Text) : Text.trimRightBy p s <+: s :=
  ⟨_, trimRightBy_append_trailing p s⟩

/-- Dropping the trailing blanks first does not change the trimmed text. -/
theorem trim_trimRightBy_blank (s : Text) :
    Text.trim (Text.trimRightBy Point.isBlank s) = Text.trim s := by
  conv_rhs => rw [← trimRightBy_append_trailing Point.isBlank s]
  exact (trim_append_blanks _ fun x hx => trailing_of_mem hx).symm

/-- The last value, its trailing blanks dropped, still starts with no blank and holds no line
feed. -/
theorem trimmed_value_head {l : Line} (hl : l.Ok) :
    ∀ x ∈ (Text.trimRightBy Point.isBlank (Text.ofString l.value)).head?,
      x.isBlank = false := by
  obtain ⟨u, hu⟩ := trimRightBy_isPrefix Point.isBlank (Text.ofString l.value)
  intro x hx
  refine value_head hl x ?_
  rw [← hu, List.head?_append_of_ne_nil _ (trimmed_value_ne_nil hl)]
  exact hx

/-- **The field search in the section**: trimmed, group 1 of the first match of a field's
pattern is the value of the first line whose key is the field's name. The induction follows
the section's lines; a line with another key is stepped over, and the search goes on at the
next line's start. -/
theorem searchFrom_field {name : String} (hname : KeyOk name) {fuel : Nat} (hfuel : 6 ≤ fuel) :
    ∀ (ls : List Line) (i : Nat) {prev : Option Point}, (∀ l ∈ ls, l.Ok) →
      (prev = none ∨ prev = some (.char '\n')) →
      ((fieldPattern name).searchFrom fuel i prev (sectionText ls)).map
          (fun m => Text.trim (m.groupD 1)) =
        (ls.find? (·.key == name)).map (fun l => Text.trim (Text.ofString l.value))
  | [], i, prev, _, _ => by
    rw [sectionText, searchFrom_field_nil name hfuel]
    rfl
  | [l], i, prev, hls, hprev => by
    have hl := hls l List.mem_cons_self
    have htext : sectionText [l] = Text.ofString l.key ++ .char ':' :: .char ' ' ::
        (Text.trimRightBy Point.isBlank (Text.ofString l.value) ++ []) := by
      rw [List.append_nil, sectionText]
    have hline : ∀ x ∈ Text.trimRightBy Point.isBlank (Text.ofString l.value),
        CharClass.notNewline.test x = true := fun x hx =>
      value_notNewline hl x ((trimRightBy_isPrefix _ _).subset hx)
    rw [htext]
    by_cases hkey : l.key = name
    · -- the last value, without its trailing blanks, trims to the value trimmed
      rw [hkey]
      obtain ⟨m, hm, hg⟩ := searchFrom_field_of_eq hfuel (trimmed_value_ne_nil hl)
        (trimmed_value_head hl) hline (r := []) (by simp) i hprev
      rw [hm, Option.map_some, hg, trim_trimRightBy_blank]
      simp [hkey]
    · obtain ⟨j, y, hy, hstep⟩ := searchFrom_field_of_ne hname hl.1 hkey hfuel
        (fun h => absurd (hline _ h) (by decide)) [] i hprev
      rw [hstep, searchFrom_field_after name fuel j hy []]
      simp [hkey]
  | l :: l' :: ls, i, prev, hls, hprev => by
    have hl := hls l List.mem_cons_self
    have htext : sectionText (l :: l' :: ls) = Text.ofString l.key ++ .char ':' :: .char ' ' ::
        (Text.ofString l.value ++ .char '\n' :: sectionText (l' :: ls)) := by
      simp [sectionText, Line.text]
    rw [htext]
    by_cases hkey : l.key = name
    · rw [hkey]
      obtain ⟨m, hm, hg⟩ := searchFrom_field_of_eq hfuel (by simpa [Text.ofString] using hl.2.1)
        (value_head hl) (value_notNewline hl)
        (show ∀ x ∈ (Point.char '\n' :: sectionText (l' :: ls)).head?, x = .char '\n' by simp)
        i hprev
      rw [hm, Option.map_some, hg]
      simp [hkey]
    · -- the line is stepped over, and the search goes on after its line feed
      obtain ⟨j, y, hy, hstep⟩ := searchFrom_field_of_ne hname hl.1 hkey hfuel
        (fun h => absurd (value_notNewline hl _ h) (by decide))
        (.char '\n' :: sectionText (l' :: ls)) i hprev
      rw [hstep, searchFrom_field_after name fuel j hy,
        searchFrom_field hname hfuel (l' :: ls) (j + 1)
          (fun l'' h => hls l'' (List.mem_cons_of_mem _ h)) (Or.inr rfl)]
      simp [hkey]

/-! ## Reading a doc -/

/-- The section of a doc's front matter: its field lines, each but the last with its line feed,
the last without its trailing blanks. -/
theorem section?_of_doc {d : Doc} (hd : d.Ok) :
    FrontMatter.section? ((Utf8.uniformLines d.chars).map Point.char) =
      some (sectionText d.lines) := by
  rw [text_of_doc hd]
  rcases eq_or_ne d.lines [] with hnil | hne
  · -- no field lines: the closing dashes follow the opening line
    have h := section?_eq (F := []) (B := (Utf8.uniformLines d.bodyChars).map Point.char)
      (by simp) (by simp) (show ∀ x ∈ ([] : Text), x.isBlank = true by simp) Iff.rfl
      (by simp [dashes_eq])
    rw [hnil, List.flatMap_nil, sectionText, List.nil_append]
    rwa [List.nil_append, List.nil_append] at h
  · obtain ⟨ws, hws0, hws, heq⟩ := lines_eq_sectionText d.lines hne hd
    rw [heq, List.append_assoc]
    exact section?_eq (head_sectionText hd) (getLast_sectionText _ hd) hws
      ⟨fun h => absurd h (sectionText_ne_nil hne), fun h => absurd h hws0⟩
      (not_dashes_infix_sectionText _ hd)

/-- The search for a field in the section gives the trimmed value of its first line. -/
theorem search_sectionText (name : String) (hname : KeyOk name) {ls : List Line}
    (hls : ∀ l ∈ ls, l.Ok) :
    ((fieldPattern name).search (sectionText ls)).map (fun m => Text.trim (m.groupD 1)) =
      (ls.find? (·.key == name)).map (fun l => Text.trim (Text.ofString l.value)) := by
  have hfuel := fuelFor_eq_add (fieldPattern name) (sectionText ls).length (k := 6)
    (by rw [show (fieldPattern name).size = 10 from rfl]; decide)
  rw [search]
  exact searchFrom_field hname (by omega) ls 0 hls (Or.inl rfl)

/-- The title and description read from a doc's text are the values of its first lines with
these keys, trimmed, the description cleaned. -/
theorem fields?_of_doc {d : Doc} (hd : d.Ok) :
    (FrontMatter.fields? ((Utf8.uniformLines d.chars).map Point.char)).map
        (fun f => (f.title, f.description)) = d.titleAndDescription := by
  have htitle := search_sectionText "title" (by decide) hd
  have hdesc := search_sectionText "description" (by decide) hd
  rw [fields?, section?_of_doc hd]
  unfold Doc.titleAndDescription Doc.lookup
  simp only [Option.bind_eq_bind, Option.bind_some]
  -- a title is found exactly when a line has its key, and then with the same value; the same
  -- for the description
  generalize (fieldPattern "title").search (sectionText d.lines) = mt at htitle ⊢
  generalize d.lines.find? (·.key == "title") = lt at htitle ⊢
  generalize (fieldPattern "description").search (sectionText d.lines) = md at hdesc ⊢
  generalize d.lines.find? (·.key == "description") = ld at hdesc ⊢
  rcases mt with _ | mt <;> rcases lt with _ | lt <;>
    simp only [Option.map_none, Option.map_some, reduceCtorEq, Option.some.injEq] at htitle
  · rfl
  · rcases md with _ | md <;> rcases ld with _ | ld <;>
      simp only [Option.map_none, Option.map_some, reduceCtorEq, Option.some.injEq] at hdesc
    · rfl
    · simp [htitle, hdesc]

/-- The text read from a file holding a doc's bytes. -/
theorem readText_of_doc {d : Doc} {t : FileTree} {file : Text}
    (hfile : t.fileAt file = some d.bytes) :
    t.readText file = .ok ((Utf8.uniformLines d.chars).map Point.char) := by
  rw [FileTree.readText_of_fileAt hfile, Doc.bytes, Utf8.readText_encode, String.toList_ofList]

/-- **Both readers of a doc with front matter.** Take a file holding a doc: a line of three
dashes, field lines of letters for a key, a colon, a blank and a value, a closing line of three
dashes and any body, with any of the three line breaks. The catalog reader and the listing
reader both give an entry exactly when some line has the key title and some the key
description. The entry's title is the value of the first title line, trimmed, and its
description the value of the first description line, trimmed and cleaned. -/
theorem readers_of_frontMatter_doc {d : Doc} (hd : d.Ok) {t : FileTree} {file : Text}
    (hfile : t.fileAt file = some d.bytes) (base : Text) :
    ((DocEntry.readFrom t file base).isSome ↔
      "title" ∈ d.lines.map (·.key) ∧ "description" ∈ d.lines.map (·.key)) ∧
    ((DocEntry.listFrom t file).isSome ↔
      "title" ∈ d.lines.map (·.key) ∧ "description" ∈ d.lines.map (·.key)) ∧
    (DocEntry.readFrom t file base).map (fun e => (e.title, e.description)) =
      d.titleAndDescription ∧
    (DocEntry.listFrom t file).map (fun e => (e.title, e.description)) =
      d.titleAndDescription := by
  have hread : (DocEntry.readFrom t file base).map (fun e => (e.title, e.description)) =
      d.titleAndDescription := by
    rw [DocEntry.readFrom, readText_of_doc hfile, Except.toOption, Option.bind_some,
      DocEntry.ofContent, Option.map_map]
    exact fields?_of_doc hd
  have hlist : (DocEntry.listFrom t file).map (fun e => (e.title, e.description)) =
      d.titleAndDescription := by
    rw [DocEntry.listFrom, readText_of_doc hfile, Except.toOption, Option.bind_some,
      DocEntry.ofContentListed, Option.map_map]
    exact fields?_of_doc hd
  refine ⟨?_, ?_, hread, hlist⟩
  · rw [← titleAndDescription_isSome_iff, ← hread, Option.isSome_map]
  · rw [← titleAndDescription_isSome_iff, ← hlist, Option.isSome_map]

/-- Both readers on a doc with every kind of line break, a value with trailing blanks, a repeated
key and a body. -/
theorem readers_of_doc_with_mixed_breaks :
    let d : Doc := { openBrk := .crlf
                     lines := [⟨"title", "Send  ", .crlf⟩, ⟨"author", "x", .cr⟩,
                       ⟨"description", "Sends a message.", .lf⟩, ⟨"title", "Other", .cr⟩]
                     body := some (.crlf, "# Send\n") }
    let t : FileTree := { files := [(["x.md"], d.bytes)] }
    d.Ok ∧ t.fileAt (Text.ofString "x.md") = some d.bytes ∧
    d.titleAndDescription = some (Text.ofString "Send", Text.ofString "Sends a message.") ∧
    (((DocEntry.readFrom t (Text.ofString "x.md") []).isSome ↔
      "title" ∈ d.lines.map (·.key) ∧ "description" ∈ d.lines.map (·.key)) ∧
    ((DocEntry.listFrom t (Text.ofString "x.md")).isSome ↔
      "title" ∈ d.lines.map (·.key) ∧ "description" ∈ d.lines.map (·.key)) ∧
    (DocEntry.readFrom t (Text.ofString "x.md") []).map (fun e => (e.title, e.description)) =
      d.titleAndDescription ∧
    (DocEntry.listFrom t (Text.ofString "x.md")).map (fun e => (e.title, e.description)) =
      d.titleAndDescription) := by
  intro d t
  have hd : d.Ok := by decide
  have hfile : t.fileAt (Text.ofString "x.md") = some d.bytes := by decide +kernel
  exact ⟨hd, hfile, by decide +kernel, readers_of_frontMatter_doc hd hfile []⟩

/-- A byte-order mark before the opening dashes hides the front matter: the section must start
the text, so neither reader gives an entry. -/
theorem byteOrderMark_hides_frontMatter :
    let d : Doc := { openBrk := .lf
                     lines := [⟨"title", "T", .lf⟩, ⟨"description", "D", .lf⟩]
                     body := none }
    let t : FileTree := { files := [(["x.md"], Utf8.encode (String.ofList ('\ufeff' :: d.chars)))] }
    d.Ok ∧ d.titleAndDescription = some (Text.ofString "T", Text.ofString "D") ∧
    DocEntry.readFrom t (Text.ofString "x.md") [] = none ∧
    DocEntry.listFrom t (Text.ofString "x.md") = none := by
  decide +kernel

end FrontMatter

end NodeCatalog
