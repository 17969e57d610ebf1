import NodeCatalog.Proofs.PatternTakes
import NodeCatalog.Node.Fields
/-!
# Fields of object literals

An object literal as node sources write it, `{ key: value, key: value }`, is read field by field:
for each field name, the whole literal is searched for the name, a colon and a value of the expected
shape. This module says what such a search finds in a literal laid out with single spaces: the value
of the first field whose key is the name, as long as the text before that field holds no key of the
name, and nothing when the literal holds no key of the name at all. These are the field searches of
`parse_property_block` (`src/tools/extract_schemas.py`, lines 146–200).

The layout is `Literal.field` (a key, `: ` and a value), `Literal.spaced` (items between spaces,
separated by `, `), `Literal.enclose` (spaced items between an opening and a closing mark) and
`Literal.quote` (a single-quoted text). Key words are made of letters. A key cannot run across a
*stop*, a code point that is no letter of the word, no blank and no colon (`keyLike_of_stop`), so
a literal holds a key only where one of its items does (`keyLike_spaced`).

- `KeyedAt`: the first key of a name in a text starts the field with a given value;
  `keyedAt_spaced`, `keyedAt_enclose`, `keyedAt_field`: such a field inside a larger literal.
- `SoleAt`: the only key of a name in a text starts the field.
- `Pattern.searchFrom_keyedAt`, `Pattern.searchFrom_soleAt`, `Pattern.searchFrom_quiet`: **the
  search for a field reads the value after the first key, and finds nothing in text without a
  key.**
- `Pattern.go_quotedValue`, `Pattern.go_enclosedValue`, `Pattern.go_runValue`: the values that the
  field patterns read.
-/

namespace NodeCatalog

/-! ## Key words -/

/-- Whether a code point is a letter. -/
def Point.isLetter : Point → Bool
  | .char c => c.isAlpha
  | .surrogate _ => false

/-- A key word: one letter or more, and nothing else. -/
def Text.isWord (w : Text) : Bool :=
  !w.isEmpty && w.all Point.isLetter

namespace Text

variable {w : Text}

theorem ne_nil_of_isWord (hw : w.isWord = true) : w ≠ [] := by
  rintro rfl
  cases hw

theorem not_mem_of_isWord (hw : w.isWord = true) {z : Point} (hz : z.isLetter = false) :
    z ∉ w := by
  intro hm
  simp only [isWord, Bool.and_eq_true, List.all_eq_true] at hw
  rw [hw.2 z hm] at hz
  cases hz

theorem isBlank_of_isWord (hw : w.isWord = true) : ∀ y ∈ w, y.isBlank = false := by
  intro y hy
  simp only [isWord, Bool.and_eq_true, List.all_eq_true] at hw
  cases y with
  | char c => exact FrontMatter.isBlank_of_isAlpha (hw.2 _ hy)
  | surrogate n => rfl

theorem colon_not_mem_of_isWord (hw : w.isWord = true) : Point.char ':' ∉ w :=
  not_mem_of_isWord hw (by decide)

end Text

/-- A list without `a`, inside a list around an `a`, lies before it or after it. -/
theorem infix_of_infix_append_cons {α : Type} {a : α} {t ys : List α} (ha : a ∉ t) :
    ∀ {xs : List α}, t <:+: xs ++ a :: ys → t <:+: xs ∨ t <:+: ys
  | [], h => by
    rcases List.infix_cons_iff.mp h with hpre | hin
    · rcases List.prefix_cons_iff.mp hpre with rfl | ⟨t', rfl, -⟩
      · exact .inl List.nil_infix
      · exact absurd List.mem_cons_self ha
    · exact .inr hin
  | x :: xs, h => by
    rw [List.cons_append] at h
    rcases List.infix_cons_iff.mp h with hpre | hin
    · have hpre' : t <+: (x :: xs) ++ a :: ys := hpre
      exact .inl (prefix_of_prefix_append_cons ha hpre').isInfix
    · rcases infix_of_infix_append_cons ha hin with hxs | hys
      · exact .inl (List.infix_cons hxs)
      · exact .inr hys

/-! ## Keys inside text -/

section Keys

variable {w x y : Text}

/-- Text without a colon holds no key. -/
theorem not_keyLike_of_colon (h : Point.char ':' ∉ x) : ¬ KeyLike w x := by
  rintro ⟨ws, -, hin⟩
  exact h (hin.subset (by simp))

/-- A stop, a code point outside the word that is neither a blank nor a colon, is in no key. -/
theorem stop_not_mem_key {z : Point} (hzw : z ∉ w) (hzb : z.isBlank = false)
    (hzc : z ≠ .char ':') {ws : Text} (hws : ∀ x ∈ ws, x.isBlank = true) :
    z ∉ w ++ ws ++ [.char ':'] := by
  intro hm
  simp only [List.mem_append, List.mem_singleton] at hm
  rcases hm with (hm | hm) | hm
  · exact hzw hm
  · rw [hws z hm] at hzb
    cases hzb
  · exact hzc hm

/-- A key cannot run across a stop. -/
theorem keyLike_of_stop {z : Point} (hzw : z ∉ w) (hzb : z.isBlank = false)
    (hzc : z ≠ .char ':') (h : KeyLike w (x ++ z :: y)) : KeyLike w x ∨ KeyLike w y := by
  obtain ⟨ws, hws, hin⟩ := h
  exact (infix_of_infix_append_cons (stop_not_mem_key hzw hzb hzc hws) hin).imp
    (fun h => ⟨ws, hws, h⟩) (fun h => ⟨ws, hws, h⟩)

/-- A key does not start at a code point that does not start the word. -/
theorem keyLike_of_cons {a : Point} (hw : w ≠ []) (ha : a ∉ w) (h : KeyLike w (a :: y)) :
    KeyLike w y := by
  obtain ⟨ws, hws, hin⟩ := h
  rcases List.infix_cons_iff.mp hin with hpre | hin
  · obtain ⟨b, w', rfl⟩ := List.exists_cons_of_ne_nil hw
    have hba : b = a := (List.cons_prefix_cons.mp hpre).1
    exact absurd (hba ▸ List.mem_cons_self) ha
  · exact ⟨ws, hws, hin⟩

/-- A key ends with its colon: one in text followed by a code point other than a colon lies in
the text. -/
theorem keyLike_of_snoc {a : Point} (ha : a ≠ .char ':') (h : KeyLike w (y ++ [a])) :
    KeyLike w y := by
  obtain ⟨ws, hws, hin⟩ := h
  rcases List.infix_concat_iff.mp hin with hsuf | hin
  · obtain ⟨u, hu, -⟩ := eq_append_of_suffix_append_singleton hsuf (by simp)
    have hlast : [Point.char ':'] = [a] := (List.append_inj' hu rfl).2
    exact absurd (List.singleton_inj.mp hlast).symm ha
  · exact ⟨ws, hws, hin⟩

/-- A key inside a key word followed by its colon: either the word is a part at the end of the
key word, or the key lies after the colon. -/
theorem keyLike_of_key {K : Text} (hKb : ∀ y ∈ K, y.isBlank = false)
    (hKc : .char ':' ∉ K) (hw : w ≠ []) (hwc : .char ':' ∉ w)
    (h : KeyLike w (K ++ .char ':' :: y)) : w <:+ K ∨ KeyLike w y := by
  obtain ⟨ws, hws, hin⟩ := h
  obtain ⟨t, hpre, hsuf⟩ := List.infix_iff_prefix_suffix.mp hin
  rcases suffix_append_cases hsuf with hs | ⟨u, hu, rfl⟩
  · rcases List.suffix_cons_iff.mp hs with rfl | hs
    · -- a key does not start at the colon
      obtain ⟨b, w', rfl⟩ := List.exists_cons_of_ne_nil hw
      have hb : b = .char ':' := (List.cons_prefix_cons.mp hpre).1
      exact absurd (hb ▸ List.mem_cons_self) hwc
    · exact .inr ⟨ws, hws, hpre.isInfix.trans hs.isInfix⟩
  · -- the key ends at the colon after the key word, and its blanks would be part of the word
    have hcolon : .char ':' ∉ w ++ ws := by
      intro hm
      rcases List.mem_append.mp hm with hm | hm
      · exact hwc hm
      · have := hws _ hm
        cases this
    have heq : w ++ ws = u :=
      FrontMatter.eq_of_prefix_append_sep hcolon (fun hm => hKc (hu.subset hm)) hpre
    have hnil : ws = [] := by
      rcases List.eq_nil_or_concat ws with h | ⟨ws', z, rfl⟩
      · exact h
      · have hz : z ∈ K := hu.subset (heq ▸ by simp)
        have := hKb z hz
        rw [hws z (by simp)] at this
        cases this
    subst hnil
    rw [List.append_nil] at heq
    exact .inl (heq ▸ hu)

end Keys

/-! ## The layout of literals -/

namespace Literal

/-- The separator between the items of a literal. -/
def comma : Text := [.char ',', .char ' ']

/-- Items joined by separators. -/
def commaJoin : List Text → Text
  | [] => []
  | [x] => x
  | x :: y :: ys => x ++ comma ++ commaJoin (y :: ys)

/-- Items between single spaces: the inside of `{ a, b }` or `[ a, b ]`. -/
def spaced (xs : List Text) : Text :=
  .char ' ' :: (commaJoin xs ++ [.char ' '])

/-- Spaced items between an opening and a closing mark, as in `{ a, b }`. -/
def enclose (o c : Char) (xs : List Text) : Text :=
  .char o :: (spaced xs ++ [.char c])

/-- A field: its key, a colon, a space and its value. -/
def field (key : String) (v : Text) : Text :=
  Text.ofString key ++ .char ':' :: .char ' ' :: v

/-- A single-quoted text. -/
def quote (s : Text) : Text :=
  .char '\'' :: (s ++ [.char '\''])

/-- The items before a place in a literal, each followed by a separator. -/
def before (xs : List Text) : Text :=
  (xs.map (· ++ comma)).flatten

/-- The items after a place in a literal, each preceded by a separator. -/
def after (xs : List Text) : Text :=
  (xs.map (comma ++ ·)).flatten

theorem commaJoin_cons (x : Text) : ∀ xs, commaJoin (x :: xs) = x ++ after xs
  | [] => by simp [commaJoin, after]
  | y :: ys => by
    rw [commaJoin, commaJoin_cons y ys]
    simp [after]

theorem commaJoin_append_cons (x : Text) (post : List Text) :
    ∀ pre, commaJoin (pre ++ x :: post) = before pre ++ commaJoin (x :: post)
  | [] => rfl
  | [p] => by simp [commaJoin, before]
  | p :: q :: pre => by
    rw [List.cons_append, List.cons_append, commaJoin, ← List.cons_append,
      commaJoin_append_cons x post (q :: pre)]
    simp [before]

/-- An item of a spaced literal, with the text before and after it. -/
theorem spaced_append_cons (pre : List Text) (x : Text) (post : List Text) :
    spaced (pre ++ x :: post) =
      (.char ' ' :: before pre) ++ (x ++ (after post ++ [.char ' '])) := by
  simp [spaced, commaJoin_append_cons, commaJoin_cons]

theorem mem_commaJoin {z : Point} :
    ∀ {xs : List Text}, z ∈ commaJoin xs → z ∈ comma ∨ ∃ x ∈ xs, z ∈ x
  | [], h => absurd h List.not_mem_nil
  | [x], h => .inr ⟨x, List.mem_singleton_self x, h⟩
  | x :: y :: ys, h => by
    simp only [commaJoin, List.mem_append] at h
    rcases h with (h | h) | h
    · exact .inr ⟨x, List.mem_cons_self, h⟩
    · exact .inl h
    · rcases mem_commaJoin h with h | ⟨x', hx', h⟩
      · exact .inl h
      · exact .inr ⟨x', List.mem_cons_of_mem x hx', h⟩

/-- A code point other than the space and the comma is in a spaced literal only inside an item. -/
theorem not_mem_spaced {z : Point} (hsp : z ≠ .char ' ') (hcomma : z ≠ .char ',')
    {xs : List Text} (hxs : ∀ x ∈ xs, z ∉ x) : z ∉ spaced xs := by
  intro h
  simp only [spaced, List.mem_cons, List.mem_append, List.not_mem_nil, or_false] at h
  rcases h with h | h | h
  · exact hsp h
  · rcases mem_commaJoin h with h | ⟨x, hx, h⟩
    · simp only [comma, List.mem_cons, List.not_mem_nil, or_false] at h
      rcases h with h | h
      exacts [hcomma h, hsp h]
    · exact hxs x hx h
  · exact hsp h

theorem not_mem_field {z : Point} {K : String} (hK : z ∉ Text.ofString K) (hcolon : z ≠ .char ':')
    (hsp : z ≠ .char ' ') {v : Text} (hv : z ∉ v) : z ∉ field K v := by
  simp only [field, List.mem_append, List.mem_cons, not_or]
  exact ⟨hK, hcolon, hsp, hv⟩

/-- Every item of a literal is at least as long as one code point, so a literal of items that
are not empty is at least as long as it has items. -/
theorem length_le_commaJoin : ∀ {xs : List Text}, (∀ x ∈ xs, x ≠ []) →
    xs.length ≤ (commaJoin xs).length
  | [], _ => Nat.le_refl 0
  | [x], h => List.length_pos_iff.mpr (h x List.mem_cons_self)
  | x :: y :: ys, h => by
    have hrest := length_le_commaJoin fun z hz => h z (List.mem_cons_of_mem x hz)
    have hx := List.length_pos_iff.mpr (h x List.mem_cons_self)
    simp only [commaJoin, comma, List.length_append, List.length_cons] at hrest ⊢
    omega

end Literal

open Literal

/-! ## Keys in literals -/

section Layout

variable {w : Text}

/-- Text of code points that are not letters is clear of every key word. -/
theorem clear_of_not_letter (hw : w.isWord = true) {x : Text}
    (hx : ∀ y ∈ x, y.isLetter = false) : Clear w x := by
  obtain ⟨b, w', rfl⟩ := List.exists_cons_of_ne_nil (Text.ne_nil_of_isWord hw)
  exact clear_of_not_mem fun hb => Text.not_mem_of_isWord hw (hx b hb) List.mem_cons_self

theorem keyLike_commaJoin (hw : w.isWord = true) :
    ∀ {xs : List Text}, KeyLike w (commaJoin xs) → ∃ x ∈ xs, KeyLike w x
  | [], h => absurd h (not_keyLike_of_colon List.not_mem_nil)
  | [x], h => ⟨x, List.mem_singleton_self x, h⟩
  | x :: y :: ys, h => by
    have h' : KeyLike w (x ++ .char ',' :: (.char ' ' :: commaJoin (y :: ys))) := by
      simpa [commaJoin, comma] using h
    rcases keyLike_of_stop (Text.not_mem_of_isWord hw (by decide)) (by decide) (by decide) h'
      with hx | hrest
    · exact ⟨x, List.mem_cons_self, hx⟩
    · obtain ⟨z, hz, hkz⟩ := keyLike_commaJoin hw
        (keyLike_of_cons (Text.ne_nil_of_isWord hw) (Text.not_mem_of_isWord hw (by decide)) hrest)
      exact ⟨z, List.mem_cons_of_mem x hz, hkz⟩

/-- A spaced literal holds a key only where one of its items does. -/
theorem keyLike_spaced (hw : w.isWord = true) {xs : List Text} (h : KeyLike w (spaced xs)) :
    ∃ x ∈ xs, KeyLike w x :=
  keyLike_commaJoin hw (keyLike_of_snoc (by decide)
    (keyLike_of_cons (Text.ne_nil_of_isWord hw) (Text.not_mem_of_isWord hw (by decide)) h))

theorem keyLike_enclose (hw : w.isWord = true) {o c : Char} (ho : (Point.char o).isLetter = false)
    (hc : c ≠ ':') {xs : List Text} (h : KeyLike w (enclose o c xs)) : ∃ x ∈ xs, KeyLike w x :=
  keyLike_spaced hw (keyLike_of_snoc (by simpa using hc)
    (keyLike_of_cons (Text.ne_nil_of_isWord hw) (Text.not_mem_of_isWord hw ho) h))

theorem keyLike_quote (hw : w.isWord = true) {s : Text} (h : KeyLike w (quote s)) : KeyLike w s :=
  keyLike_of_snoc (by decide)
    (keyLike_of_cons (Text.ne_nil_of_isWord hw) (Text.not_mem_of_isWord hw (by decide)) h)

/-- A field holds a key of another word only in its value, unless the word ends its key. -/
theorem keyLike_field (hw : w.isWord = true) {K : String} (hK : (Text.ofString K).isWord = true)
    {v : Text} (h : KeyLike w (field K v)) : w <:+ Text.ofString K ∨ KeyLike w v :=
  (keyLike_of_key (Text.isBlank_of_isWord hK) (Text.colon_not_mem_of_isWord hK)
    (Text.ne_nil_of_isWord hw) (Text.colon_not_mem_of_isWord hw) h).imp_right
    (keyLike_of_cons (Text.ne_nil_of_isWord hw) (Text.not_mem_of_isWord hw (by decide)))

/-- Items without a key, each followed by a separator, are clear of the key. -/
theorem clear_before (hw : w.isWord = true) :
    ∀ {pre : List Text}, (∀ p ∈ pre, ¬ KeyLike w p) → Clear w (before pre)
  | [], _ => clear_nil w
  | p :: pre, h => by
    have hp : Clear w ((p ++ [.char ',']) ++ [.char ' ']) :=
      clear_append (clear_stopped (Text.not_mem_of_isWord hw (by decide)) (by decide) (by decide)
        (h p List.mem_cons_self)) (clear_of_not_letter hw (by decide))
    have hrest := clear_before hw fun q hq => h q (List.mem_cons_of_mem p hq)
    simpa [before, comma] using clear_append hp hrest

end Layout

/-! ## The first field of a name -/

/-- What may follow a field's value: a separator, or the space before a closing mark. -/
def Follows (S : Text) : Prop :=
  ∃ z r, S = z :: r ∧ (z = .char ',' ∨ z = .char ' ')

/-- The first key `name` in the text starts the field of value `v`: the text before the field is
clear of the key, and a separator or a space follows the value. -/
def KeyedAt (name : String) (v x : Text) : Prop :=
  ∃ P S, Clear (Text.ofString name) P ∧ Follows S ∧ x = P ++ (field name v ++ S)

/-- The only key `name` in the text starts the field of value `v`: the text before the field is
clear of the key, and the value with what follows it holds none. -/
def SoleAt (name : String) (v x : Text) : Prop :=
  ∃ P S, Clear (Text.ofString name) P ∧ Follows S ∧ ¬ KeyLike (Text.ofString name) (v ++ S) ∧
    x = P ++ (field name v ++ S)

theorem SoleAt.keyedAt {name : String} {v x : Text} (h : SoleAt name v x) : KeyedAt name v x := by
  obtain ⟨P, S, hP, hS, -, rfl⟩ := h
  exact ⟨P, S, hP, hS, rfl⟩

section Fields

variable {name : String} {v : Text}

theorem follows_after (post : List Text) : Follows (after post ++ [.char ' ']) := by
  cases post with
  | nil => exact ⟨_, [], rfl, .inr rfl⟩
  | cons p post =>
    exact ⟨.char ',', .char ' ' :: (p ++ (after post ++ [.char ' '])), by simp [after, comma],
      .inl rfl⟩

theorem Follows.append {S : Text} (h : Follows S) (T : Text) : Follows (S ++ T) := by
  obtain ⟨z, r, rfl, hz⟩ := h
  exact ⟨z, r ++ T, rfl, hz⟩

/-- After a field's value comes a separator or a space, which a class of neither holds. -/
theorem Follows.test_false {S : Text} (hS : Follows S) {cls : CharClass}
    (hc : cls.test (.char ',') = false) (hs : cls.test (.char ' ') = false) :
    ∀ x ∈ S.head?, cls.test x = false := by
  obtain ⟨z, r, rfl, hz⟩ := hS
  intro x hx
  cases hx
  rcases hz with rfl | rfl
  exacts [hc, hs]

/-- A field of a spaced literal whose earlier items hold no key of its name. -/
theorem keyedAt_spaced_field (hw : (Text.ofString name).isWord = true) {pre post : List Text}
    (hpre : ∀ p ∈ pre, ¬ KeyLike (Text.ofString name) p) :
    KeyedAt name v (spaced (pre ++ field name v :: post)) := by
  refine ⟨.char ' ' :: before pre, after post ++ [.char ' '], ?_, follows_after post,
    spaced_append_cons pre _ post⟩
  exact clear_append (x := [.char ' ']) (clear_of_not_letter hw (by decide)) (clear_before hw hpre)

/-- An item of a spaced literal that holds the first key, after items that hold none. -/
theorem keyedAt_spaced (hw : (Text.ofString name).isWord = true) {pre post : List Text} {x : Text}
    (hpre : ∀ p ∈ pre, ¬ KeyLike (Text.ofString name) p) (h : KeyedAt name v x) :
    KeyedAt name v (spaced (pre ++ x :: post)) := by
  obtain ⟨P, S, hP, hS, rfl⟩ := h
  refine ⟨(.char ' ' :: before pre) ++ P, S ++ (after post ++ [.char ' ']), ?_, hS.append _, ?_⟩
  · exact clear_append (clear_append (x := [.char ' ']) (clear_of_not_letter hw (by decide))
      (clear_before hw hpre)) hP
  · rw [spaced_append_cons]
    simp

/-- Marks around a text keep its first key. -/
theorem keyedAt_enclose (hw : (Text.ofString name).isWord = true) {o c : Char}
    (ho : (Point.char o).isLetter = false) {y : Text} (h : KeyedAt name v y) :
    KeyedAt name v (.char o :: (y ++ [.char c])) := by
  obtain ⟨P, S, hP, hS, rfl⟩ := h
  refine ⟨.char o :: P, S ++ [.char c], ?_, hS.append _, by simp⟩
  exact clear_append (x := [.char o]) (clear_of_not_letter hw (by simpa using ho)) hP

/-- The value of a field keeps its first key when the field's own key does not end with it. -/
theorem keyedAt_field (hw : (Text.ofString name).isWord = true) {K : String}
    (hK : (Text.ofString K).isWord = true) (hsuf : ¬ Text.ofString name <:+ Text.ofString K)
    {y : Text} (h : KeyedAt name v y) : KeyedAt name v (field K y) := by
  obtain ⟨P, S, hP, hS, rfl⟩ := h
  refine ⟨(Text.ofString K ++ [.char ':']) ++ (.char ' ' :: P), S, ?_, hS, by simp [field]⟩
  exact clear_append (clear_keyWord (Text.isBlank_of_isWord hK) (Text.colon_not_mem_of_isWord hK)
      (Text.colon_not_mem_of_isWord hw) hsuf)
    (clear_append (x := [.char ' ']) (clear_of_not_letter hw (by decide)) hP)

/-- The field of a name in a literal between marks, when no other item holds a key of it. -/
theorem soleAt_enclose (hw : (Text.ofString name).isWord = true) {o c : Char}
    (ho : (Point.char o).isLetter = false) (hc : c ≠ ':') {pre post : List Text}
    (hpre : ∀ p ∈ pre, ¬ KeyLike (Text.ofString name) p)
    (hpost : ∀ p ∈ post, ¬ KeyLike (Text.ofString name) p)
    (hv : ¬ KeyLike (Text.ofString name) v) :
    SoleAt name v (enclose o c (pre ++ field name v :: post)) := by
  have hlead : ∀ y ∈ [Point.char o, .char ' '], y.isLetter = false := by
    intro y hy
    rcases List.mem_pair.mp hy with rfl | rfl
    exacts [ho, by decide]
  refine ⟨.char o :: .char ' ' :: before pre, (after post ++ [.char ' ']) ++ [.char c],
    clear_append (x := [.char o, .char ' ']) (clear_of_not_letter hw hlead) (clear_before hw hpre),
    (follows_after post).append _, fun h => ?_, by simp [enclose, spaced_append_cons]⟩
  -- the value and the items after it are one spaced run
  have hrun : KeyLike (Text.ofString name) (commaJoin (v :: post)) := by
    have hend : KeyLike (Text.ofString name) ((v ++ after post ++ [.char ' ']) ++ [.char c]) := by
      simpa using h
    rw [commaJoin_cons]
    exact keyLike_of_snoc (by decide) (keyLike_of_snoc (by simpa using hc) hend)
  obtain ⟨x, hx, hkx⟩ := keyLike_commaJoin hw hrun
  rcases List.mem_cons.mp hx with rfl | hx
  exacts [hv hkx, hpost x hx hkx]

end Fields

/-! ## Searching for a field -/

namespace Pattern

variable {n : Nat} {c : Cursor} {g : Groups} {k : Cont}

/-- In text that holds no key of its name, the search for a field finds nothing. -/
theorem searchFrom_quiet {name : String} {q : Pattern} {x : Text}
    (hx : ¬ KeyLike (Text.ofString name) x) (m i : Nat) (prev : Option Point) :
    (Pattern.seq (key name) q).searchFrom (m + 5) i prev x = none := by
  refine searchFrom_eq_none x i prev fun u hsuf j p => ?_
  have hu : ¬ KeyAt (Text.ofString name) u := by
    rintro ⟨ws, r, hws, rfl⟩
    exact hx ⟨ws, hws, (List.prefix_append _ r).isInfix.trans
      (by simpa using hsuf.isInfix)⟩
  rw [matchWith_eq, go_key_none hu j p]
  rfl

/-- The text of a field, as the key pattern reads it: the name, no blanks, the colon, one blank
and the value. -/
theorem field_append (name : String) (v S : Text) :
    field name v ++ S = Text.ofString name ++ [] ++ .char ':' :: ([.char ' '] ++ (v ++ S)) := by
  simp [field]

/-- **The search for a field at its first key** reads the value there: whatever the value's
pattern makes of the value and the text after it is what the search finds. -/
theorem searchFrom_keyedAt {name : String} {q : Pattern} (hq : RefusesBlank q) {v x : Text}
    (hv : ∀ y ∈ v.head?, y.isBlank = false) (hvne : v ≠ []) (h : KeyedAt name v x)
    {R : Groups → Prop} {m : Nat}
    (hgo : ∀ S, Follows S → ∀ j p, ∃ c' g', go (m + 4) q ⟨j, p, v ++ S⟩
        (Array.replicate ((Pattern.seq (key name) q).groupCount + 1) none)
        (fun c g => some (c, g)) = some (c', g') ∧ R g')
    (i : Nat) (prev : Option Point) :
    ∃ mt, (Pattern.seq (key name) q).searchFrom (m + 5) i prev x = some mt ∧ R mt.groups := by
  obtain ⟨P, S, hP, hS, rfl⟩ := h
  have hhead : ∀ y ∈ (v ++ S).head?, y.isBlank = false := by
    rwa [List.head?_append_of_ne_nil _ hvne]
  obtain ⟨c', g', hgo', hR⟩ := hgo S hS
    (i + P.length + (Text.ofString name).length + ([] : Text).length + 1 + [Point.char ' '].length)
    ([Point.char ' '].getLast?.or (some (.char ':')))
  refine ⟨⟨⟨i + P.length, P.getLast?.or prev, field name v ++ S⟩, c', g'⟩, ?_, hR⟩
  rw [searchFrom_key_skip (by omega) hP]
  refine searchFrom_of_matchWith ?_
  rw [matchWith_eq, field_append, go_key_eq hq (by simp) (by decide) hhead, hgo']
  rfl

/-- **The search for a field at its only key** finds nothing when the value's pattern fails
there. -/
theorem searchFrom_soleAt {name : String} (hw : (Text.ofString name).isWord = true) {q : Pattern}
    (hq : RefusesBlank q) {v x : Text} (hv : ∀ y ∈ v.head?, y.isBlank = false) (hvne : v ≠ [])
    (h : SoleAt name v x) {m : Nat}
    (hgo : ∀ S j p, go (m + 4) q ⟨j, p, v ++ S⟩
        (Array.replicate ((Pattern.seq (key name) q).groupCount + 1) none)
        (fun c g => some (c, g)) = none)
    (i : Nat) (prev : Option Point) :
    (Pattern.seq (key name) q).searchFrom (m + 5) i prev x = none := by
  obtain ⟨P, S, hP, -, hvS, rfl⟩ := h
  have hhead : ∀ y ∈ (v ++ S).head?, y.isBlank = false := by
    rwa [List.head?_append_of_ne_nil _ hvne]
  rw [searchFrom_key_skip (by omega) hP]
  obtain ⟨b, w', hbw⟩ := List.exists_cons_of_ne_nil (Text.ne_nil_of_isWord hw)
  have hw' : Text.isWord (b :: w') = true := hbw ▸ hw
  -- the pattern fails at the key, and no key starts after its first letter
  have hat : (Pattern.seq (key name) q).matchWith (m + 5)
      ⟨i + P.length, P.getLast?.or prev, field name v ++ S⟩ = none := by
    rw [matchWith_eq, field_append, go_key_eq hq (by simp) (by decide) hhead, hgo]
    rfl
  have htail : ¬ KeyLike (Text.ofString name) (w' ++ .char ':' :: .char ' ' :: (v ++ S)) := by
    rw [hbw] at hvS ⊢
    intro hk
    rcases keyLike_of_key (fun y hy => Text.isBlank_of_isWord hw' y (List.mem_cons_of_mem b hy))
        (fun hm => Text.colon_not_mem_of_isWord hw' (List.mem_cons_of_mem b hm))
        (List.cons_ne_nil b w') (Text.colon_not_mem_of_isWord hw') hk with hsuf | hk
    · exact absurd hsuf.length_le (by simp)
    · exact hvS
        (keyLike_of_cons (List.cons_ne_nil b w') (Text.not_mem_of_isWord hw' (by decide)) hk)
  have htext : field name v ++ S = b :: (w' ++ .char ':' :: .char ' ' :: (v ++ S)) := by
    simp [field, hbw]
  rw [htext, searchFrom_of_matchWith_none (htext ▸ hat), searchFrom_quiet htail]

/-! ## Values -/

theorem go_one (cls : CharClass) (i : Nat) (p : Option Point) (x : Point) (r : Text) :
    go (n + 1) (.one cls) ⟨i, p, x :: r⟩ g k =
      if cls.test x then k ⟨i + 1, some x, r⟩ g else none := by
  simp only [go, Cursor.advance]
  cases cls.test x <;> rfl

theorem go_backref {j : Nat} {sp : Span} (hg : g[j]? = some (some sp)) :
    go (n + 1) (.backref j) c g k = (c.eat sp.chars).bind fun c' => k c' g := by
  simp only [go, hg]
  cases c.eat sp.chars <;> rfl

/-- A span covers the text its end cursor stepped over. -/
theorem chars_between_append (i : Nat) (p p' : Option Point) (s r : Text) :
    (Span.between ⟨i, p, s ++ r⟩ ⟨i + s.length, p', r⟩).chars = s := by
  simp [Span.between, Span.chars]

theorem eat_single (i : Nat) (p : Option Point) (x : Point) (r : Text) :
    Cursor.eat [x] ⟨i, p, x :: r⟩ = some ⟨i + 1, some x, r⟩ := by
  simp [Cursor.eat]

theorem eat_single_none {x y : Point} (hxy : y ≠ x) (i : Nat) (p : Option Point) (r : Text) :
    Cursor.eat [x] ⟨i, p, y :: r⟩ = none :=
  Cursor.eat_eq_none fun h => hxy (List.cons_prefix_cons.mp h).1.symm

/-- The value of a quoted field: a quote, remembered as group 1, the shortest text (group 2),
and the same quote again. -/
def quotedValue : Pattern :=
  .seq (openQuote 1) (.seq (.group 2 (.many .any 0 false)) (.backref 1))

theorem quoted_eq (name : String) : Fields.quoted name = .seq (key name) quotedValue := rfl

/-- No quote is a blank. -/
theorem quotes_test_blank (x : Point) (hx : x.isBlank = true) :
    CharClass.quotes.test x = false := by
  cases x with
  | char c =>
    simp only [CharClass.quotes, CharClass.ofList, CharClass.test, Point.code_char,
      Bool.or_eq_false_iff, beq_eq_false_iff_ne]
    -- a code point with a quote's code is that quote, and neither quote is a blank
    constructor <;> (rintro hc; rw [Char.toNat_inj.mp hc] at hx; exact absurd hx (by decide))
  | surrogate m => cases hx

theorem refusesBlank_quotedValue : RefusesBlank quotedValue :=
  refusesBlank_seq (refusesBlank_group (refusesBlank_one quotes_test_blank) 1) _

/-- A quoted value reads the text up to the closing quote. -/
theorem go_quotedValue {s : Text} (hs : .char '\'' ∉ s) (S : Text) {G : Groups}
    (hG : 2 < G.size) (j : Nat) (p : Option Point) :
    ∃ c' g', go (n + 4) quotedValue ⟨j, p, .char '\'' :: (s ++ .char '\'' :: S)⟩ G
        (fun c g => some (c, g)) = some (c', g') ∧
      ∀ a b : Cursor, (⟨a, b, g'⟩ : Match).groupD 2 = s := by
  set c1 : Cursor := ⟨j + 1, some (.char '\''), s ++ .char '\'' :: S⟩
  set g1 := G.set! 1 (some (Span.between ⟨j, p, .char '\'' :: (s ++ .char '\'' :: S)⟩ c1))
  set cEnd : Cursor := ⟨j + 1 + s.length, s.getLast?.or (some (.char '\'')), .char '\'' :: S⟩
  have hg1 : 2 < g1.size := by simpa [g1] using hG
  -- the quote that group 1 remembers
  have hquote : ∀ sp, (g1.set! 2 sp)[1]? =
      some (some (Span.between ⟨j, p, .char '\'' :: (s ++ .char '\'' :: S)⟩ c1)) := by
    intro sp
    simp [g1, Array.set!_eq_setIfInBounds, Array.getElem?_setIfInBounds]
    omega
  have hchars : (Span.between ⟨j, p, .char '\'' :: (s ++ .char '\'' :: S)⟩ c1).chars =
      [.char '\''] := by
    simp [c1, Span.between, Span.chars]
  refine ⟨⟨j + 1 + s.length + 1, some (.char '\''), S⟩,
    g1.set! 2 (some (Span.between c1 cEnd)), ?_, fun a b => ?_⟩
  · rw [quotedValue, go_seq, openQuote, go_group, go_one, if_pos (by decide), go_seq, go_group,
      go_many_lazy]
    refine lazyRun_append .any _ (.char '\'' :: S) s (j + 1) (some (.char '\''))
      (fun _ _ => rfl) (fun i' p' u hu hsuf => ?_) ?_
    · -- before the end of the text, the next code point is not the quote
      obtain ⟨y, u', rfl⟩ := List.exists_cons_of_ne_nil hu
      have hy : y ≠ .char '\'' := fun e => hs (hsuf.subset (e ▸ List.mem_cons_self))
      rw [go_backref (hquote _), hchars, List.cons_append, eat_single_none hy]
      rfl
    · rw [go_backref (hquote _), hchars, eat_single]
      rfl
  · rw [groupD_set hg1]
    exact chars_between_append _ _ _ s _

theorem go_quotedValue_none {x : Point} (hx : CharClass.quotes.test x = false) (r : Text)
    (j : Nat) (p : Option Point) : go (n + 4) quotedValue ⟨j, p, x :: r⟩ g k = none := by
  rw [quotedValue, go_seq, openQuote, go_group, go_one, if_neg (by simp [hx])]

/-- The value of a field between marks: the opening mark, the shortest text (group 1) and the
closing mark. -/
def enclosedValue (o c : Char) : Pattern :=
  .seq (.word [.char o]) (.seq (.group 1 (.many .any 0 false)) (.word [.char c]))

/-- A value between marks reads the text up to the first closing mark. -/
theorem go_enclosedValue {o c : Char} {s : Text} (hs : .char c ∉ s) (S : Text) {G : Groups}
    (hG : 1 < G.size) (j : Nat) (p : Option Point) :
    ∃ g', go (n + 4) (enclosedValue o c) ⟨j, p, .char o :: (s ++ .char c :: S)⟩ G
        (fun c g => some (c, g)) = some (⟨j + 1 + s.length + 1, some (.char c), S⟩, g') ∧
      ∀ a b : Cursor, (⟨a, b, g'⟩ : Match).groupD 1 = s := by
  set c1 : Cursor := ⟨j + 1, some (.char o), s ++ .char c :: S⟩
  set cEnd : Cursor := ⟨j + 1 + s.length, s.getLast?.or (some (.char o)), .char c :: S⟩
  refine ⟨G.set! 1 (some (Span.between c1 cEnd)), ?_, fun a b => ?_⟩
  · rw [enclosedValue, go_seq, go_word, eat_single, Option.bind_some, go_seq, go_group,
      go_many_lazy]
    refine lazyRun_append .any _ (.char c :: S) s (j + 1) (some (.char o))
      (fun _ _ => rfl) (fun i' p' u hu hsuf => ?_) ?_
    · obtain ⟨y, u', rfl⟩ := List.exists_cons_of_ne_nil hu
      have hy : y ≠ .char c := fun e => hs (hsuf.subset (e ▸ List.mem_cons_self))
      rw [go_word, List.cons_append, eat_single_none hy]
      rfl
    · rw [go_word, eat_single]
      rfl
  · rw [groupD_set hG]
    exact chars_between_append _ _ _ s _

/-- A greedy run of a class, as group 1, reads the whole run. -/
theorem go_runValue {cls : CharClass} {v S : Text} (hv : ∀ x ∈ v, cls.test x = true)
    (hvne : v ≠ []) (hS : ∀ x ∈ S.head?, cls.test x = false) {G : Groups} (hG : 1 < G.size)
    (j : Nat) (p : Option Point) :
    ∃ c' g', go (n + 2) (.group 1 (.many cls 1 true)) ⟨j, p, v ++ S⟩ G
        (fun c g => some (c, g)) = some (c', g') ∧
      ∀ a b : Cursor, (⟨a, b, g'⟩ : Match).groupD 1 = v := by
  obtain ⟨inner, hlen, -, hrun⟩ := Cursor.run_append cls v S hv hS j p
  have hone : 1 ≤ inner.length := by
    rw [hlen]
    exact List.length_pos_iff.mpr hvne
  refine ⟨⟨j + v.length, v.getLast?.or p, S⟩,
    G.set! 1 (some (Span.between ⟨j, p, v ++ S⟩ ⟨j + v.length, v.getLast?.or p, S⟩)), ?_,
    fun a b => ?_⟩
  · rw [go_group, go_many_greedy]
    dsimp only
    rw [hrun, List.drop_append_of_le_length hone, List.reverse_append, List.reverse_singleton,
      List.singleton_append, firstOf_cons]
    rfl
  · rw [groupD_set hG]
    exact chars_between_append _ _ _ v _

/-! ## Whole searches -/

theorem size_key_seq (name : String) (q : Pattern) :
    5 ≤ 2 * ((Pattern.seq (key name) q).size + 1) := by
  simp only [size, key_eq]
  omega

/-- The search for a field at its first key, with the fuel the search gives each place. -/
theorem search_keyedAt {name : String} {q : Pattern} (hq : RefusesBlank q) {v x : Text}
    (hv : ∀ y ∈ v.head?, y.isBlank = false) (hvne : v ≠ []) (h : KeyedAt name v x)
    {R : Groups → Prop}
    (hgo : ∀ m S, Follows S → ∀ j p, ∃ c' g', go (m + 4) q ⟨j, p, v ++ S⟩
        (Array.replicate ((Pattern.seq (key name) q).groupCount + 1) none)
        (fun c g => some (c, g)) = some (c', g') ∧ R g') :
    ∃ mt, (Pattern.seq (key name) q).search x = some mt ∧ R mt.groups := by
  rw [search, fuelFor_eq_add _ _ (size_key_seq name q)]
  exact searchFrom_keyedAt hq hv hvne h (hgo _) 0 none

theorem search_soleAt {name : String} (hw : (Text.ofString name).isWord = true) {q : Pattern}
    (hq : RefusesBlank q) {v x : Text} (hv : ∀ y ∈ v.head?, y.isBlank = false) (hvne : v ≠ [])
    (h : SoleAt name v x)
    (hgo : ∀ m S j p, go (m + 4) q ⟨j, p, v ++ S⟩
        (Array.replicate ((Pattern.seq (key name) q).groupCount + 1) none)
        (fun c g => some (c, g)) = none) :
    (Pattern.seq (key name) q).search x = none := by
  rw [search, fuelFor_eq_add _ _ (size_key_seq name q)]
  exact searchFrom_soleAt hw hq hv hvne h (hgo _) 0 none

theorem search_quiet {name : String} {q : Pattern} {x : Text}
    (hx : ¬ KeyLike (Text.ofString name) x) : (Pattern.seq (key name) q).search x = none := by
  rw [search, fuelFor_eq_add _ _ (size_key_seq name q)]
  exact searchFrom_quiet hx _ 0 none

/-- A quoted field at its first key reads the quoted text. -/
theorem search_quoted {name : String} {s x : Text} (hs : .char '\'' ∉ s)
    (h : KeyedAt name (quote s) x) :
    ((Fields.quoted name).search x).map (·.groupD 2) = some s := by
  rw [quoted_eq]
  obtain ⟨mt, hmt, hR⟩ := search_keyedAt (R := fun g => ∀ a b, (⟨a, b, g⟩ : Match).groupD 2 = s)
    refusesBlank_quotedValue (by simp [quote]; decide) (by simp [quote]) h
    fun m S _ j p => by simpa [quote] using go_quotedValue hs S (by simp [quotedValue, openQuote,
      groupCount, key_eq, blanks]) j p
  rw [hmt, Option.map_some, hR]

/-- A field whose value is a run of a class without blanks, commas or spaces, at its first key,
reads the whole run. -/
theorem search_run {name : String} {cls : CharClass}
    (hcls : ∀ x, x.isBlank = true → cls.test x = false) (hcomma : cls.test (.char ',') = false)
    (hsp : cls.test (.char ' ') = false) {v x : Text} (hv : ∀ y ∈ v, cls.test y = true)
    (hvne : v ≠ []) (h : KeyedAt name v x) :
    ((Pattern.seq (key name) (.group 1 (.many cls 1 true))).search x).map (·.groupD 1) =
      some v := by
  -- the run starts with a code point of the class, so with no blank
  have hhead : ∀ y ∈ v.head?, y.isBlank = false := by
    intro y hy
    cases hb : y.isBlank with
    | false => rfl
    | true =>
      have hy' := hv y (List.mem_of_mem_head? hy)
      rw [hcls y hb] at hy'
      cases hy'
  obtain ⟨mt, hmt, hR⟩ := search_keyedAt (R := fun g => ∀ a b, (⟨a, b, g⟩ : Match).groupD 1 = v)
    (refusesBlank_group (refusesBlank_many hcls 0 true) 1) hhead hvne h
    fun m S hS j p => go_runValue hv hvne (hS.test_false hcomma hsp)
      (by simp [groupCount, key_eq, blanks]) j p
  rw [hmt, Option.map_some, hR]

/-! ## Items between marks, one after the other -/

/-- The search for a value between marks steps over text without the opening mark. -/
theorem searchFrom_enclosed_skip {o c : Char} {m : Nat} {lead : Text} (hlead : .char o ∉ lead)
    (r : Text) (i : Nat) (prev : Option Point) :
    (enclosedValue o c).searchFrom (m + 4) i prev (lead ++ r) =
      (enclosedValue o c).searchFrom (m + 4) (i + lead.length) (lead.getLast?.or prev) r := by
  refine searchFrom_append lead (fun u hu hsuf j q => ?_) i prev
  obtain ⟨y, u', rfl⟩ := List.exists_cons_of_ne_nil hu
  have hy : y ≠ .char o := fun e => hlead (hsuf.subset (e ▸ List.mem_cons_self))
  rw [matchWith_eq, enclosedValue, go_seq, go_word, List.cons_append, eat_single_none hy]
  rfl

/-- A value between marks after text without the opening mark. -/
theorem searchFrom_enclosed_item {o c : Char} {m : Nat} {lead x : Text} (hlead : .char o ∉ lead)
    (hx : .char c ∉ x) (S : Text) (i : Nat) (prev : Option Point) :
    ∃ g', (enclosedValue o c).searchFrom (m + 4) i prev (lead ++ .char o :: (x ++ .char c :: S)) =
        some ⟨⟨i + lead.length, lead.getLast?.or prev, .char o :: (x ++ .char c :: S)⟩,
          ⟨i + lead.length + 1 + x.length + 1, some (.char c), S⟩, g'⟩ ∧
      ∀ a b : Cursor, (⟨a, b, g'⟩ : Match).groupD 1 = x := by
  obtain ⟨g', hgo, hR⟩ := go_enclosedValue (n := m) (o := o) hx S
    (G := Array.replicate ((enclosedValue o c).groupCount + 1) none)
    (by simp [enclosedValue, groupCount]) (i + lead.length) (lead.getLast?.or prev)
  refine ⟨g', ?_, hR⟩
  rw [searchFrom_enclosed_skip hlead]
  exact searchFrom_of_matchWith (by rw [matchWith_eq, hgo]; rfl)

/-- No value between marks in text without the opening mark. -/
theorem searchFrom_enclosed_none {o c : Char} {m : Nat} {r : Text} (hr : .char o ∉ r)
    (i : Nat) (prev : Option Point) : (enclosedValue o c).searchFrom (m + 4) i prev r = none := by
  refine searchFrom_eq_none r i prev fun u hsuf j q => ?_
  rw [matchWith_eq, enclosedValue, go_seq, go_word]
  cases u with
  | nil => rfl
  | cons y u' =>
    have hy : y ≠ .char o := fun e => hr (hsuf.subset (e ▸ List.mem_cons_self))
    rw [eat_single_none hy]
    rfl

/-- All values between marks in items each set between the marks, separated by separators and
ended by a space: the insides of the items, in order. -/
theorem findFrom_enclosed {o c : Char} (ho : Point.char o ∉ comma) (hsp : o ≠ ' ') {m : Nat} :
    ∀ (xs : List Text) (x lead : Text) (fuel i : Nat) (prev : Option Point),
      (∀ y ∈ x :: xs, .char c ∉ y) → .char o ∉ lead → xs.length + 2 ≤ fuel →
      ((enclosedValue o c).findFrom (m + 4) fuel ⟨i, prev, lead ++
          ((Point.char o :: (x ++ [Point.char c])) ++
            (after (xs.map fun y => Point.char o :: (y ++ [Point.char c])) ++
              [Point.char ' ']))⟩).map
        (·.groupD 1) = x :: xs := by
  intro xs
  induction xs with
  | nil =>
    intro x lead fuel i prev hc hlead hfuel
    obtain ⟨f, rfl⟩ : ∃ f, fuel = f + 1 + 1 := ⟨fuel - 2, by simp at hfuel; omega⟩
    obtain ⟨g', hs, hR⟩ :=
      searchFrom_enclosed_item (m := m) hlead (hc x List.mem_cons_self) [.char ' '] i prev
    have htext : lead ++ ((Point.char o :: (x ++ [Point.char c])) ++
        (after (([] : List Text).map fun y => Point.char o :: (y ++ [Point.char c])) ++
          [Point.char ' '])) =
        lead ++ Point.char o :: (x ++ Point.char c :: [Point.char ' ']) := by
      simp [after]
    -- after the last item only the closing space is left
    have hend := searchFrom_enclosed_none (m := m) (o := o) (c := c) (r := [.char ' '])
      (by simpa using hsp) (i + lead.length + 1 + x.length + 1) (some (.char c))
    rw [htext, findFrom_of_searchFrom hs (by dsimp only; omega), findFrom_of_searchFrom_none hend,
      List.map_cons, hR]
    rfl
  | cons y ys ih =>
    intro x lead fuel i prev hc hlead hfuel
    obtain ⟨f, rfl⟩ : ∃ f, fuel = f + 1 := ⟨fuel - 1, by simp at hfuel; omega⟩
    have htext : lead ++ ((Point.char o :: (x ++ [Point.char c])) ++
        (after ((y :: ys).map fun y => Point.char o :: (y ++ [Point.char c])) ++
          [Point.char ' '])) =
        lead ++ Point.char o :: (x ++ Point.char c :: (comma ++
          ((Point.char o :: (y ++ [Point.char c])) ++
            (after (ys.map fun y => Point.char o :: (y ++ [Point.char c])) ++
              [Point.char ' '])))) := by
      simp [after]
    obtain ⟨g', hs, hR⟩ :=
      searchFrom_enclosed_item (m := m) hlead (hc x List.mem_cons_self) _ i prev
    rw [htext, findFrom_of_searchFrom hs (by dsimp only; omega), List.map_cons, hR,
      ih y comma f _ _ (fun z hz => hc z (List.mem_cons_of_mem x hz)) ho
        (by simp at hfuel ⊢; omega)]

end Pattern

end NodeCatalog
