import NodeCatalog.Proofs.FieldSearch
import NodeCatalog.Node.Property
/-!
# Reading property literals

The reader of a property block is `parse_property_block` (`src/tools/extract_schemas.py`, lines
146–200). A property of a node is written as an object literal. This module takes the literals laid
out as `{ key: value, key: value }` with single spaces, distinct keys in any order, and values of
each field's shape: quoted texts, `true` or `false` for `required`, a quoted text or a decimal
number for `default`, a list of option objects for `options`, and `{ minValue: m, maxValue: M }` for
`typeOptions`. Reading the block of such a literal gives the value of each key present, with three
departures that come from how each field is found, by a search of the whole block for the field's
name and a colon:

* the `name` is the first name in the text, and an option's name counts: in
  `{ options: [ { name: 'a' } ], name: 'b' }` the property's name is `a`;
* a quoted text must not hold a field name followed by a colon (`Quoted.plain`), or the search
  for that field may stop inside it;
* `description` is read only when its text starts with a space, which it drops; it is left out
  here.

- `PropertyLiteral`: the literals; `PropertyLiteral.text` lays one out and
  `PropertyLiteral.spec` is the property its keys give.
- `PropertyLiteral.Entry.keyLike_text`: an entry holds a key only at its own key and at the keys
  inside its value.
- `PropertyLiteral.ofBlock_text`: **reading a literal gives its property, `description` apart.**
-/

namespace NodeCatalog

open Literal Pattern

namespace PropertyLiteral

/-! ## Literals -/

/-- The words the fields of a property block are searched for. -/
def fieldWords : List String :=
  ["name", "displayName", "type", "default", "required", "description", "placeholder", "options",
    "typeOptions", "value", "action"]

/-- The keys of a literal: the field words and the bounds of `typeOptions`. -/
def keyWords : List String :=
  fieldWords ++ ["minValue", "maxValue"]

/-- A quoted text of a literal: no quote, closing brace or closing bracket inside, and no field
word followed by a colon. -/
structure Quoted where
  text : Text
  quote_not_mem : .char '\'' ∉ text
  brace_not_mem : .char '}' ∉ text
  bracket_not_mem : .char ']' ∉ text
  plain : ∀ w ∈ fieldWords, ¬ KeyLike (Text.ofString w) text

/-- A run of ASCII digits, at least one. -/
structure Digits where
  chars : List Char
  ne_nil : chars ≠ []
  ascii : ∀ c ∈ chars, '0' ≤ c ∧ c ≤ '9'

def Digits.text (d : Digits) : Text :=
  d.chars.map .char

/-- The number the digits stand for. -/
def Digits.value (d : Digits) : Nat :=
  Decimal.natOfDigits d.chars

/-- A decimal literal: digits, then possibly a point and more digits. -/
structure Number where
  whole : Digits
  fraction : Option Digits

def Number.text (x : Number) : Text :=
  x.whole.text ++ (x.fraction.map fun f => .char '.' :: f.text).getD []

/-- A bound of `typeOptions`: digits, no more of them than numbers are read with. -/
structure Bound where
  digits : Digits
  short : digits.chars.length ≤ Decimal.digitLimit

/-- The keys of an option object. -/
inductive OptionKey
  | name
  | value
  | description
  | action
  deriving DecidableEq

def OptionKey.word : OptionKey → String
  | .name => "name"
  | .value => "value"
  | .description => "description"
  | .action => "action"

/-- An option object: quoted fields with distinct keys, in any order. -/
structure OptionObject where
  fields : List (OptionKey × Quoted)
  keys_nodup : (fields.map Prod.fst).Nodup

/-- The text of an option's field. -/
def optionField (f : OptionKey × Quoted) : Text :=
  field f.1.word (quote f.2.text)

/-- The inside of an option object, between its braces. -/
def OptionObject.inside (o : OptionObject) : Text :=
  spaced (o.fields.map optionField)

def OptionObject.text (o : OptionObject) : Text :=
  .char '{' :: (o.inside ++ [.char '}'])

/-- The quoted text of a key, when the object has the key. -/
def OptionObject.get? (o : OptionObject) (k : OptionKey) : Option Text :=
  o.fields.findSome? fun f => if f.1 = k then some f.2.text else none

/-- The option an object describes. -/
def OptionObject.choice (o : OptionObject) : Choice where
  name := o.get? .name
  value := o.get? .value
  description := o.get? .description
  action := o.get? .action

/-- The keys of a property whose value is a quoted text. -/
inductive QuotedKey
  | name
  | displayName
  | type
  | default
  | description
  | placeholder
  deriving DecidableEq

def QuotedKey.word : QuotedKey → String
  | .name => "name"
  | .displayName => "displayName"
  | .type => "type"
  | .default => "default"
  | .description => "description"
  | .placeholder => "placeholder"

/-- A field of a property literal. -/
inductive Entry
  /-- A quoted text, under one of the keys that take one. -/
  | quoted (key : QuotedKey) (s : Quoted)
  /-- `default` as a decimal number. -/
  | number (x : Number)
  /-- `required`, `true` or `false`. -/
  | required (b : Bool)
  /-- `options`, a list of option objects. -/
  | options (os : List OptionObject)
  /-- `typeOptions`, with the two bounds. -/
  | typeOptions (lo hi : Bound)

namespace Entry

def key : Entry → String
  | .quoted k _ => k.word
  | .number _ => "default"
  | .required _ => "required"
  | .options _ => "options"
  | .typeOptions _ _ => "typeOptions"

/-- The text of an entry's value. -/
def value : Entry → Text
  | .quoted _ s => quote s.text
  | .number x => x.text
  | .required b => Text.ofString (toString b)
  | .options os => enclose '[' ']' (os.map OptionObject.text)
  | .typeOptions lo hi =>
    enclose '{' '}' [field "minValue" lo.digits.text, field "maxValue" hi.digits.text]

def text (e : Entry) : Text :=
  field e.key e.value

/-- The keys inside an entry's value. -/
def innerWords : Entry → List String
  | .options os => os.flatMap fun o => o.fields.map (·.1.word)
  | .typeOptions _ _ => ["minValue", "maxValue"]
  | _ => []

end Entry

end PropertyLiteral

/-- A property literal: entries with distinct keys, in any order. -/
structure PropertyLiteral where
  entries : List PropertyLiteral.Entry
  keys_nodup : (entries.map PropertyLiteral.Entry.key).Nodup

namespace PropertyLiteral

def text (l : PropertyLiteral) : Text :=
  enclose '{' '}' (l.entries.map Entry.text)

/-! ## The property a literal describes -/

namespace Entry

/-- The quoted text of a key. -/
def quoted? (k : QuotedKey) : Entry → Option Text
  | .quoted k' s => if k' = k then some s.text else none
  | _ => none

/-- The first name an entry holds: its own, or the first of its options' names. -/
def firstName? : Entry → Option Text
  | .quoted .name s => some s.text
  | .options os => os.findSome? (·.get? .name)
  | _ => none

/-- The default, quoted or a number's text. -/
def default? : Entry → Option Text
  | .quoted .default s => some s.text
  | .number x => some x.text
  | _ => none

def required? : Entry → Option Bool
  | .required b => some b
  | _ => none

/-- The options, those with no field left out. -/
def choices? : Entry → Option (List Choice)
  | .options os => some ((os.map OptionObject.choice).filter (!·.isEmpty))
  | _ => none

def bounds? : Entry → Option TypeOptions
  | .typeOptions lo hi => some ⟨some lo.digits.value, some hi.digits.value⟩
  | _ => none

end Entry

/-- The property a literal describes: each key's value, the name first in the text, and no
`description`. -/
def spec (l : PropertyLiteral) : Property where
  name := l.entries.findSome? Entry.firstName?
  displayName := l.entries.findSome? (Entry.quoted? .displayName)
  type := l.entries.findSome? (Entry.quoted? .type)
  default := l.entries.findSome? Entry.default?
  required := l.entries.findSome? Entry.required?
  placeholder := l.entries.findSome? (Entry.quoted? .placeholder)
  options := (l.entries.findSome? Entry.choices?).getD []
  typeOptions := l.entries.findSome? Entry.bounds?

/-! ## Keys inside literals -/

theorem isWord_of_mem : ∀ w ∈ keyWords, (Text.ofString w).isWord = true := by
  decide

/-- No key of a literal ends with another. -/
theorem eq_of_suffix : ∀ w ∈ keyWords, ∀ K ∈ keyWords,
    Text.ofString w <:+ Text.ofString K → w = K := by
  decide +kernel

theorem OptionKey.word_mem (k : OptionKey) : k.word ∈ fieldWords := by
  cases k <;> decide

theorem OptionKey.word_inj {k k' : OptionKey} (h : k.word = k'.word) : k = k' := by
  cases k <;> cases k' <;> first | rfl | exact absurd h (by decide)

theorem QuotedKey.word_mem (k : QuotedKey) : k.word ∈ fieldWords := by
  cases k <;> decide

theorem QuotedKey.word_inj {k k' : QuotedKey} (h : k.word = k'.word) : k = k' := by
  cases k <;> cases k' <;> first | rfl | exact absurd h (by decide)

theorem Entry.key_mem (e : Entry) : e.key ∈ fieldWords := by
  cases e with
  | quoted k s => exact k.word_mem
  | number x => exact (by decide : "default" ∈ fieldWords)
  | required b => exact (by decide : "required" ∈ fieldWords)
  | options os => exact (by decide : "options" ∈ fieldWords)
  | typeOptions lo hi => exact (by decide : "typeOptions" ∈ fieldWords)

theorem keyWords_of_fieldWords {w : String} (hw : w ∈ fieldWords) : w ∈ keyWords :=
  List.mem_append_left _ hw

theorem Digits.colon_not_mem (d : Digits) : Point.char ':' ∉ d.text := by
  intro h
  obtain ⟨c, hc, hcc⟩ := List.mem_map.mp h
  cases hcc
  exact absurd (d.ascii ':' hc).2 (by decide)

theorem Digits.not_mem_text (d : Digits) {z : Char} (hz : ¬ ('0' ≤ z ∧ z ≤ '9')) :
    Point.char z ∉ d.text := by
  intro h
  obtain ⟨c, hc, hcc⟩ := List.mem_map.mp h
  cases hcc
  exact hz (d.ascii z hc)

theorem Number.colon_not_mem (x : Number) : Point.char ':' ∉ x.text := by
  intro h
  rcases List.mem_append.mp h with h | h
  · exact x.whole.colon_not_mem h
  · cases hf : x.fraction with
    | none => simp [hf] at h
    | some f =>
      simp only [hf, Option.map_some, Option.getD_some, List.mem_cons] at h
      rcases h with h | h
      · cases h
      · exact f.colon_not_mem h

section Words

variable {w : String}

/-- A key word of a field a literal is searched for, with the facts its searches use. -/
theorem isWord_of_field (hw : w ∈ fieldWords) : (Text.ofString w).isWord = true :=
  isWord_of_mem w (keyWords_of_fieldWords hw)

/-- A field of a literal holds a key of a field word only at its own key or in its value. -/
theorem keyLike_field_of_mem {K : String} (hw : w ∈ fieldWords) (hK : K ∈ keyWords) {v : Text}
    (h : KeyLike (Text.ofString w) (field K v)) : w = K ∨ KeyLike (Text.ofString w) v :=
  (keyLike_field (isWord_of_field hw) (isWord_of_mem K hK) h).imp_left
    (eq_of_suffix w (keyWords_of_fieldWords hw) K hK)

theorem Quoted.not_keyLike_quote (s : Quoted) (hw : w ∈ fieldWords) :
    ¬ KeyLike (Text.ofString w) (quote s.text) :=
  fun h => s.plain w hw (keyLike_quote (isWord_of_field hw) h)

/-- An option field holds a key of a field word only at its own key. -/
theorem keyLike_optionField (hw : w ∈ fieldWords) {f : OptionKey × Quoted}
    (h : KeyLike (Text.ofString w) (optionField f)) : w = f.1.word :=
  (keyLike_field_of_mem hw (keyWords_of_fieldWords f.1.word_mem) h).resolve_right
    (f.2.not_keyLike_quote hw)

/-- An option object holds a key of a field word only at the key of one of its fields. -/
theorem OptionObject.keyLike_inside (hw : w ∈ fieldWords) {o : OptionObject}
    (h : KeyLike (Text.ofString w) o.inside) : ∃ f ∈ o.fields, w = f.1.word := by
  obtain ⟨x, hx, hkx⟩ := keyLike_spaced (isWord_of_field hw) h
  obtain ⟨f, hf, rfl⟩ := List.mem_map.mp hx
  exact ⟨f, hf, keyLike_optionField hw hkx⟩

theorem OptionObject.keyLike_text (hw : w ∈ fieldWords) {o : OptionObject}
    (h : KeyLike (Text.ofString w) o.text) : ∃ f ∈ o.fields, w = f.1.word :=
  o.keyLike_inside hw (keyLike_of_snoc (by decide) (keyLike_of_cons
    (Text.ne_nil_of_isWord (isWord_of_field hw))
    (Text.not_mem_of_isWord (isWord_of_field hw) (by decide)) h))

/-- The value of an entry holds a key of a field word only at the keys inside it. -/
theorem Entry.keyLike_value (hw : w ∈ fieldWords) :
    ∀ {e : Entry}, KeyLike (Text.ofString w) e.value → w ∈ e.innerWords
  | .quoted _ s, h => absurd h (s.not_keyLike_quote hw)
  | .number x, h => absurd h (not_keyLike_of_colon x.colon_not_mem)
  | .required b, h => by
    cases b <;> exact absurd h (not_keyLike_of_colon (by decide))
  | .options os, h => by
    obtain ⟨x, hx, hkx⟩ := keyLike_enclose (isWord_of_field hw) (by decide) (by decide) h
    obtain ⟨o, ho, rfl⟩ := List.mem_map.mp hx
    obtain ⟨f, hf, rfl⟩ := o.keyLike_text hw hkx
    exact List.mem_flatMap.mpr ⟨o, ho, List.mem_map.mpr ⟨f, hf, rfl⟩⟩
  | .typeOptions lo hi, h => by
    obtain ⟨x, hx, hkx⟩ := keyLike_enclose (isWord_of_field hw) (by decide) (by decide) h
    simp only [List.mem_cons, List.not_mem_nil, or_false] at hx
    rcases hx with rfl | rfl
    · rcases keyLike_field_of_mem hw (by decide) hkx with rfl | hd
      · simp [innerWords]
      · exact absurd hd (not_keyLike_of_colon lo.digits.colon_not_mem)
    · rcases keyLike_field_of_mem hw (by decide) hkx with rfl | hd
      · simp [innerWords]
      · exact absurd hd (not_keyLike_of_colon hi.digits.colon_not_mem)

/-- **An entry holds a key of a field word only at its own key and at the keys inside its
value.** -/
theorem Entry.keyLike_text (hw : w ∈ fieldWords) {e : Entry}
    (h : KeyLike (Text.ofString w) e.text) : w = e.key ∨ w ∈ e.innerWords :=
  (keyLike_field_of_mem hw (keyWords_of_fieldWords e.key_mem) h).imp_right (keyLike_value hw)

/-- The keys inside values are those of options and bounds. -/
theorem Entry.innerWords_sub {e : Entry} (h : w ∈ e.innerWords) :
    w ∈ ["name", "value", "description", "action", "minValue", "maxValue"] := by
  cases e with
  | options os =>
    obtain ⟨o, -, hf⟩ := List.mem_flatMap.mp h
    obtain ⟨f, -, rfl⟩ := List.mem_map.mp hf
    cases f.1 <;> decide
  | typeOptions lo hi =>
    simp only [innerWords, List.mem_cons, List.not_mem_nil, or_false] at h
    rcases h with rfl | rfl <;> decide
  | _ => cases h

end Words

/-! ## The entry of a key -/

/-- A list where `f` answers at one item and at no other: the first answer is that item's. -/
theorem findSome?_middle {α β : Type} {f : α → Option β} {pre post : List α} {e : α}
    (h : ∀ p ∈ pre ++ post, f p = none) : (pre ++ e :: post).findSome? f = f e := by
  rw [List.findSome?_append,
    List.findSome?_eq_none_iff.mpr fun p hp => h p (List.mem_append_left _ hp), Option.none_or,
    List.findSome?_cons]
  cases hfe : f e with
  | some b => rfl
  | none => exact List.findSome?_eq_none_iff.mpr fun p hp => h p (List.mem_append_right _ hp)

/-- Either no entry has the key, or one does and no other. -/
theorem entry_cases (l : PropertyLiteral) (w : String) :
    (∀ e ∈ l.entries, e.key ≠ w) ∨
      ∃ pre e post, l.entries = pre ++ e :: post ∧ e.key = w ∧ ∀ p ∈ pre ++ post, p.key ≠ w := by
  by_cases h : ∃ e ∈ l.entries, e.key = w
  · obtain ⟨e, he, rfl⟩ := h
    obtain ⟨pre, post, hsplit⟩ := List.append_of_mem he
    refine .inr ⟨pre, e, post, hsplit, rfl, fun p hp hkey => ?_⟩
    have hnd := l.keys_nodup
    rw [hsplit, List.map_append, List.map_cons] at hnd
    have hfirst := (List.nodup_cons.mp (List.perm_middle.nodup_iff.mp hnd)).1
    rw [← List.map_append] at hfirst
    exact hfirst (List.mem_map.mpr ⟨p, hp, hkey⟩)
  · exact .inl fun e he hkey => h ⟨e, he, hkey⟩

section Search

variable {l : PropertyLiteral} {w : String}

/-- A literal holds a key only where one of its entries does. -/
theorem not_keyLike_text (hw : w ∈ fieldWords)
    (h : ∀ e ∈ l.entries, ¬ KeyLike (Text.ofString w) e.text) :
    ¬ KeyLike (Text.ofString w) l.text := by
  intro hk
  obtain ⟨x, hx, hkx⟩ := keyLike_enclose (isWord_of_field hw) (by decide) (by decide) hk
  obtain ⟨e, he, rfl⟩ := List.mem_map.mp hx
  exact h e he hkx

/-- The words that are never keys inside a value. -/
def outerWords : List String :=
  ["displayName", "type", "default", "required", "placeholder", "options", "typeOptions"]

theorem mem_fieldWords_of_outer : ∀ w ∈ outerWords, w ∈ fieldWords := by
  decide

theorem not_inner_of_outer :
    ∀ w ∈ outerWords, w ∉ ["name", "value", "description", "action", "minValue", "maxValue"] := by
  decide

theorem Entry.not_keyLike_outer (hw : w ∈ outerWords) {e : Entry} (he : e.key ≠ w) :
    ¬ KeyLike (Text.ofString w) e.text := fun h =>
  (e.keyLike_text (mem_fieldWords_of_outer w hw) h).elim (fun h' => he h'.symm)
    fun h' => not_inner_of_outer w hw (Entry.innerWords_sub h')

/-- The entry of a key that is never inside a value is the only place of that key. -/
theorem soleAt_entry {pre post : List Entry} {e : Entry} (hsplit : l.entries = pre ++ e :: post)
    (hothers : ∀ p ∈ pre ++ post, p.key ≠ e.key) (hw : e.key ∈ outerWords) :
    SoleAt e.key e.value l.text := by
  have hquiet : ∀ p ∈ pre ++ post, ¬ KeyLike (Text.ofString e.key) p.text :=
    fun p hp => Entry.not_keyLike_outer hw (hothers p hp)
  have hv : ¬ KeyLike (Text.ofString e.key) e.value := fun h =>
    not_inner_of_outer e.key hw
      (Entry.innerWords_sub (Entry.keyLike_value (mem_fieldWords_of_outer e.key hw) h))
  rw [text, hsplit, List.map_append, List.map_cons]
  refine soleAt_enclose (isWord_of_field (mem_fieldWords_of_outer e.key hw)) (by decide) (by decide)
    ?_ ?_ hv
  · intro x hx
    obtain ⟨p, hp, rfl⟩ := List.mem_map.mp hx
    exact hquiet p (List.mem_append_left _ hp)
  · intro x hx
    obtain ⟨p, hp, rfl⟩ := List.mem_map.mp hx
    exact hquiet p (List.mem_append_right _ hp)

/-! ## Digits -/

theorem toNat_of_ascii {c : Char} (h : '0' ≤ c ∧ c ≤ '9') : 48 ≤ c.toNat ∧ c.toNat ≤ 57 :=
  ⟨UInt32.le_iff_toNat_le.mp h.1, UInt32.le_iff_toNat_le.mp h.2⟩

/-- An ASCII digit is no blank and no quote. -/
theorem digit_not_blank_quote {c : Char} (h : '0' ≤ c ∧ c ≤ '9') :
    (Point.char c).isBlank = false ∧ CharClass.quotes.test (.char c) = false := by
  have hc := toNat_of_ascii h
  have hq : '\''.toNat = 39 := rfl
  have hdq : '"'.toNat = 34 := rfl
  constructor
  · simp only [Point.isBlank, Text.isBlank, Text.blankRanges, List.any_cons, List.any_nil,
      Bool.or_false, Bool.or_eq_false_iff, Bool.and_eq_false_iff, decide_eq_false_iff_not,
      Nat.not_le]
    omega
  · simp only [CharClass.quotes, CharClass.ofList, CharClass.test, Point.code_char,
      Bool.or_eq_false_iff, beq_eq_false_iff_ne, ne_eq]
    omega

/-- No decimal digit of any script has the code of a blank. -/
theorem digitZeros_apart :
    ∀ z ∈ Text.digitZeros, ∀ r ∈ Text.blankRanges, z + 10 ≤ r.1 ∨ r.2 < z := by
  decide

theorem isDigit_of_isBlank {c : Char} (h : Text.isBlank c = true) : Text.isDigit c = false := by
  obtain ⟨r, hr, hc⟩ := List.any_eq_true.mp h
  simp only [Bool.and_eq_true, decide_eq_true_eq] at hc
  have hnone : Text.digitValue? c = none := by
    refine List.findSome?_eq_none_iff.mpr fun z hz => ?_
    rcases digitZeros_apart z hz r hr with h1 | h1 <;> rw [if_neg (by omega)]
  simp [Text.isDigit, hnone]

/-- The blanks lie outside the codes of the ASCII digits and the point. -/
theorem blankRanges_apart : ∀ r ∈ Text.blankRanges, 58 ≤ r.1 ∨ r.2 < 46 := by
  decide

/-- The class of the characters of a decimal literal: ASCII digits and the point. -/
def numberClass : CharClass :=
  .union (.range '0' '9') (.char '.')

theorem numberClass_test_blank (x : Point) (hx : x.isBlank = true) :
    numberClass.test x = false := by
  cases x with
  | char c =>
    obtain ⟨r, hr, hc⟩ := List.any_eq_true.mp hx
    simp only [Bool.and_eq_true, decide_eq_true_eq] at hc
    have h46 : '.'.toNat = 46 := rfl
    have h48 : '0'.toNat = 48 := rfl
    have h57 : '9'.toNat = 57 := rfl
    simp only [numberClass, CharClass.test, Point.code_char, Bool.or_eq_false_iff,
      Bool.and_eq_false_iff, beq_eq_false_iff_ne]
    rcases blankRanges_apart r hr with h | h
    · exact ⟨.inr (decide_eq_false (by omega)), by omega⟩
    · exact ⟨.inl (decide_eq_false (by omega)), by omega⟩
  | surrogate n => cases hx

theorem digit_test_blank (x : Point) (hx : x.isBlank = true) : CharClass.digit.test x = false := by
  cases x with
  | char c => exact isDigit_of_isBlank hx
  | surrogate n => rfl

theorem Digits.test_text (d : Digits) : ∀ y ∈ d.text, CharClass.digit.test y = true := by
  intro y hy
  obtain ⟨c, hc, rfl⟩ := List.mem_map.mp hy
  simp [CharClass.test, Point.isDigit, Text.isDigit, Text.digitValue?_ascii (d.ascii c hc)]

theorem Digits.numberClass_text (d : Digits) : ∀ y ∈ d.text, numberClass.test y = true := by
  intro y hy
  obtain ⟨c, hc, rfl⟩ := List.mem_map.mp hy
  have hb := toNat_of_ascii (d.ascii c hc)
  have h48 : '0'.toNat = 48 := rfl
  have h57 : '9'.toNat = 57 := rfl
  simp only [numberClass, CharClass.test, Point.code_char, Bool.or_eq_true, Bool.and_eq_true]
  exact .inl ⟨decide_eq_true (by omega), decide_eq_true (by omega)⟩

theorem Number.numberClass_text (x : Number) : ∀ y ∈ x.text, numberClass.test y = true := by
  intro y hy
  rcases List.mem_append.mp hy with hy | hy
  · exact x.whole.numberClass_text y hy
  · cases hf : x.fraction with
    | none => simp [hf] at hy
    | some f =>
      simp only [hf, Option.map_some, Option.getD_some, List.mem_cons] at hy
      rcases hy with rfl | hy
      · rfl
      · exact f.numberClass_text y hy

theorem Digits.text_head (d : Digits) : ∃ c r, d.text = .char c :: r ∧ '0' ≤ c ∧ c ≤ '9' := by
  obtain ⟨c, cs, hcs⟩ := List.exists_cons_of_ne_nil d.ne_nil
  exact ⟨c, cs.map .char, by simp [Digits.text, hcs], d.ascii c (hcs ▸ List.mem_cons_self)⟩

theorem Number.text_head (x : Number) : ∃ c r, x.text = .char c :: r ∧ '0' ≤ c ∧ c ≤ '9' := by
  obtain ⟨c, cs, hcs⟩ := List.exists_cons_of_ne_nil x.whole.ne_nil
  refine ⟨c, (cs.map .char) ++ (x.fraction.map fun f => .char '.' :: f.text).getD [], ?_,
    x.whole.ascii c (hcs ▸ List.mem_cons_self)⟩
  simp [Number.text, Digits.text, hcs]

theorem Digits.text_ne_nil (d : Digits) : d.text ≠ [] := by
  obtain ⟨c, r, hx, -⟩ := d.text_head
  rw [hx]
  exact List.cons_ne_nil _ _

theorem Number.text_ne_nil (x : Number) : x.text ≠ [] := by
  obtain ⟨c, r, hx, -⟩ := x.text_head
  rw [hx]
  exact List.cons_ne_nil _ _

/-! ## Option objects -/

namespace OptionObject

variable {o : OptionObject} {k : OptionKey} {s : Text}

theorem get?_eq_some (h : o.get? k = some s) :
    ∃ pre f post, o.fields = pre ++ f :: post ∧ f.1 = k ∧ f.2.text = s ∧ ∀ p ∈ pre, p.1 ≠ k := by
  obtain ⟨pre, f, post, hsplit, hf, hpre⟩ := List.findSome?_eq_some_iff.mp h
  by_cases hk : f.1 = k
  · rw [if_pos hk] at hf
    refine ⟨pre, f, post, hsplit, hk, Option.some.inj hf, fun p hp hpk => ?_⟩
    have hnone := hpre p hp
    rw [if_pos hpk] at hnone
    cases hnone
  · rw [if_neg hk] at hf
    cases hf

theorem get?_ne_none {f : OptionKey × Quoted} (hf : f ∈ o.fields) : o.get? f.1 ≠ none := by
  intro h
  have hnone := List.findSome?_eq_none_iff.mp h f hf
  rw [if_pos rfl] at hnone
  cases hnone

/-- The field of a key in an option object is where the key first appears. -/
theorem keyedAt_get (h : o.get? k = some s) : KeyedAt k.word (quote s) o.inside := by
  obtain ⟨pre, f, post, hsplit, rfl, rfl, hpre⟩ := get?_eq_some h
  rw [inside, hsplit, List.map_append, List.map_cons]
  refine keyedAt_spaced_field (isWord_of_field f.1.word_mem) fun x hx hk => ?_
  obtain ⟨p, hp, rfl⟩ := List.mem_map.mp hx
  exact hpre p hp (OptionKey.word_inj (keyLike_optionField f.1.word_mem hk)).symm

theorem quiet_get (h : o.get? k = none) : ¬ KeyLike (Text.ofString k.word) o.inside := by
  intro hk
  obtain ⟨f, hf, hword⟩ := o.keyLike_inside k.word_mem hk
  exact get?_ne_none hf (OptionKey.word_inj hword ▸ h)

/-- The search for a key in an option object finds the key's quoted text. -/
theorem search_get (o : OptionObject) (k : OptionKey) :
    ((Fields.quoted k.word).search o.inside).map (·.groupD 2) = o.get? k := by
  cases h : o.get? k with
  | none =>
    rw [quoted_eq, search_quiet (quiet_get h)]
    rfl
  | some s =>
    obtain ⟨-, f, -, -, rfl, rfl, -⟩ := get?_eq_some h
    exact search_quoted f.2.quote_not_mem (keyedAt_get h)

/-- Reading the inside of an option object gives the option it describes. -/
theorem ofBlock_inside (o : OptionObject) : Choice.ofBlock o.inside = o.choice := by
  have hname := search_get o .name
  have hvalue := search_get o .value
  have hdesc := search_get o .description
  have haction := search_get o .action
  simp only [OptionKey.word] at hname hvalue hdesc haction
  simp only [Choice.ofBlock, choice, hname, hvalue, hdesc, haction]

end OptionObject

/-! ## The entry of a key -/

namespace Entry

variable {e : Entry}

/-- An entry under a quoted key's word holds a quoted text, or, for `default`, a number. -/
theorem eq_of_key_quoted {k : QuotedKey} (h : e.key = k.word) :
    (∃ s, e = .quoted k s) ∨ (k = .default ∧ ∃ x, e = .number x) := by
  cases e with
  | quoted k' s =>
    obtain rfl : k' = k := QuotedKey.word_inj h
    exact .inl ⟨s, rfl⟩
  | number x => exact .inr ⟨QuotedKey.word_inj (h.symm : k.word = QuotedKey.default.word), x, rfl⟩
  -- the other keys are words of no quoted key
  | required b => cases k <;> simp [key, QuotedKey.word] at h
  | options os => cases k <;> simp [key, QuotedKey.word] at h
  | typeOptions lo hi => cases k <;> simp [key, QuotedKey.word] at h

theorem eq_of_key_required (h : e.key = "required") : ∃ b, e = .required b := by
  cases e with
  | required b => exact ⟨b, rfl⟩
  | quoted k s => cases k <;> simp [key, QuotedKey.word] at h
  | _ => simp [key] at h

theorem eq_of_key_options (h : e.key = "options") : ∃ os, e = .options os := by
  cases e with
  | options os => exact ⟨os, rfl⟩
  | quoted k s => cases k <;> simp [key, QuotedKey.word] at h
  | _ => simp [key] at h

theorem eq_of_key_typeOptions (h : e.key = "typeOptions") : ∃ lo hi, e = .typeOptions lo hi := by
  cases e with
  | typeOptions lo hi => exact ⟨lo, hi, rfl⟩
  | quoted k s => cases k <;> simp [key, QuotedKey.word] at h
  | _ => simp [key] at h

end Entry

/-! ## Quoted fields -/

theorem Entry.quoted?_eq_none {k : QuotedKey} {e : Entry} (h : e.key ≠ k.word) :
    e.quoted? k = none := by
  cases e with
  | quoted k' s =>
    have hk : k' ≠ k := fun hk => h (hk ▸ rfl)
    simp [quoted?, hk]
  | _ => rfl

/-- **Reading a quoted field** of a key never inside a value gives the text of the entry of that
key, when it is quoted, and nothing when no entry has the key or its value is a number. -/
theorem search_quotedKey (l : PropertyLiteral) {k : QuotedKey} (hk : k.word ∈ outerWords) :
    ((Fields.quoted k.word).search l.text).map (·.groupD 2) =
      l.entries.findSome? (Entry.quoted? k) := by
  rcases entry_cases l k.word with hnone | ⟨pre, e, post, hsplit, hkey, hothers⟩
  · rw [quoted_eq, search_quiet (not_keyLike_text (mem_fieldWords_of_outer _ hk)
        fun e he => Entry.not_keyLike_outer hk (hnone e he)),
      List.findSome?_eq_none_iff.mpr fun e he => Entry.quoted?_eq_none (hnone e he)]
    rfl
  · rw [hsplit, findSome?_middle fun p hp => Entry.quoted?_eq_none (hothers p hp)]
    have hsole : SoleAt e.key e.value l.text :=
      soleAt_entry hsplit (by rw [hkey]; exact hothers) (hkey ▸ hk)
    rcases Entry.eq_of_key_quoted hkey with ⟨s, rfl⟩ | ⟨-, x, rfl⟩
    · have hkeyed : KeyedAt k.word (quote s.text) l.text := hsole.keyedAt
      rw [search_quoted s.quote_not_mem hkeyed]
      simp [Entry.quoted?]
    · -- a number is no quoted text: the search fails at the only key
      obtain ⟨c, r, hx, hc⟩ := x.text_head
      have hdigit := digit_not_blank_quote hc
      have hsole' : SoleAt k.word x.text l.text := hkey ▸ hsole
      rw [quoted_eq, search_soleAt (isWord_of_field (mem_fieldWords_of_outer _ hk))
        refusesBlank_quotedValue (by rw [hx]; simpa using hdigit.1) (by simp [hx]) hsole'
        fun m S j p => by rw [hx, List.cons_append]; exact go_quotedValue_none hdigit.2 _ j p]
      rfl

/-! ## The name -/

theorem Entry.eq_of_key_name {e : Entry} (h : e.key = "name") : ∃ s, e = .quoted .name s :=
  (Entry.eq_of_key_quoted (k := .name) h).resolve_right fun ⟨hk, _⟩ => nomatch hk

/-- An entry without a name holds no key `name`. -/
theorem Entry.not_keyLike_name {e : Entry} (h : e.firstName? = none) :
    ¬ KeyLike (Text.ofString "name") e.text := by
  intro hk
  rcases e.keyLike_text (by decide) hk with hkey | hin
  · obtain ⟨s, rfl⟩ := Entry.eq_of_key_name hkey.symm
    cases h
  · cases e with
    | options os =>
      -- some option has a field `name`, so the options have a name
      obtain ⟨o, ho, hf⟩ := List.mem_flatMap.mp hin
      obtain ⟨f, hf, hword⟩ := List.mem_map.mp hf
      have hname : f.1 = .name := OptionKey.word_inj (hword : f.1.word = OptionKey.name.word)
      have hnone : o.get? .name = none := List.findSome?_eq_none_iff.mp h o ho
      exact OptionObject.get?_ne_none hf (by rw [hname]; exact hnone)
    | typeOptions lo hi => exact absurd hin (show "name" ∉ ["minValue", "maxValue"] by decide)
    | quoted k s => exact absurd hin List.not_mem_nil
    | number x => exact absurd hin List.not_mem_nil
    | required b => exact absurd hin List.not_mem_nil

/-- The first option with a name gives the name of an options entry. -/
theorem Entry.keyedAt_options_name {os : List OptionObject} {s : Text}
    (h : os.findSome? (·.get? .name) = some s) :
    .char '\'' ∉ s ∧ KeyedAt "name" (quote s) (Entry.options os).text := by
  obtain ⟨pre, o, post, hsplit, ho, hpre⟩ := List.findSome?_eq_some_iff.mp h
  obtain ⟨-, f, -, -, -, rfl, -⟩ := OptionObject.get?_eq_some ho
  refine ⟨f.2.quote_not_mem, ?_⟩
  have hobj : KeyedAt "name" (quote f.2.text) o.text :=
    keyedAt_enclose (by decide) (by decide) (OptionObject.keyedAt_get (k := .name) ho)
  have hquiet : ∀ x ∈ pre.map OptionObject.text, ¬ KeyLike (Text.ofString "name") x := by
    intro x hx hk
    obtain ⟨p, hp, rfl⟩ := List.mem_map.mp hx
    obtain ⟨f', hf', hword⟩ := p.keyLike_text (by decide) hk
    have hnone : p.get? .name = none := hpre p hp
    have hname : f'.1 = .name := OptionKey.word_inj (hword.symm : f'.1.word = OptionKey.name.word)
    exact OptionObject.get?_ne_none hf' (by rw [hname]; exact hnone)
  rw [Entry.text, Entry.key, Entry.value, hsplit, List.map_append, List.map_cons]
  exact keyedAt_field (by decide) (by decide) (by decide)
    (keyedAt_enclose (by decide) (by decide) (keyedAt_spaced (by decide) hquiet hobj))

theorem text_split {l : PropertyLiteral} {pre post : List Entry} {e : Entry}
    (hsplit : l.entries = pre ++ e :: post) :
    l.text = enclose '{' '}' (pre.map Entry.text ++ e.text :: post.map Entry.text) := by
  rw [text, hsplit, List.map_append, List.map_cons]

/-- **Reading the name**: the first name in the text of a literal, an option's name counting. -/
theorem search_name (l : PropertyLiteral) :
    ((Fields.quoted "name").search l.text).map (·.groupD 2) =
      l.entries.findSome? Entry.firstName? := by
  cases hfirst : l.entries.findSome? Entry.firstName? with
  | none =>
    rw [quoted_eq, search_quiet (not_keyLike_text (by decide) fun e he =>
      Entry.not_keyLike_name (List.findSome?_eq_none_iff.mp hfirst e he))]
    rfl
  | some s =>
    obtain ⟨pre, e, post, hsplit, he, hpre⟩ := List.findSome?_eq_some_iff.mp hfirst
    have hquiet : ∀ x ∈ pre.map Entry.text, ¬ KeyLike (Text.ofString "name") x := by
      intro x hx
      obtain ⟨p, hp, rfl⟩ := List.mem_map.mp hx
      exact Entry.not_keyLike_name (hpre p hp)
    rw [text_split hsplit]
    cases e with
    | quoted k q =>
      cases k with
      | name =>
        -- the property's own name field
        obtain rfl : q.text = s := Option.some.inj he
        exact search_quoted q.quote_not_mem
          (keyedAt_enclose (by decide) (by decide) (keyedAt_spaced_field (by decide) hquiet))
      | _ => cases he
    | options os =>
      obtain ⟨hs, hkeyed⟩ := Entry.keyedAt_options_name he
      exact search_quoted hs
        (keyedAt_enclose (by decide) (by decide) (keyedAt_spaced (by decide) hquiet hkeyed))
    | _ => cases he

/-! ## Numbers, flags, options and bounds -/

theorem numericDefault_eq :
    Property.numericDefault = .seq (key "default") (.group 1 (.many numberClass 1 true)) := rfl

/-- **Reading a number default**: the numeric search reads the number's text. -/
theorem search_numericDefault {l : PropertyLiteral} {pre post : List Entry} {x : Number}
    (hsplit : l.entries = pre ++ .number x :: post)
    (hothers : ∀ p ∈ pre ++ post, p.key ≠ "default") :
    (Property.numericDefault.search l.text).map (·.groupD 1) = some x.text := by
  have hkeyed : KeyedAt "default" x.text l.text :=
    (soleAt_entry (e := .number x) hsplit hothers (show "default" ∈ outerWords by decide)).keyedAt
  rw [numericDefault_eq]
  exact search_run numberClass_test_blank (by decide) (by decide) x.numberClass_text
    x.text_ne_nil hkeyed

/-- The value of `required`: group 1 is `true` or `false`. -/
def requiredValue : Pattern :=
  .group 1 (.alt (lit "true") (lit "false"))

theorem requiredPattern_eq : Property.requiredPattern = .seq (key "required") requiredValue := rfl

theorem refusesBlank_requiredValue : RefusesBlank requiredValue := by
  have htrue : Text.ofString "true" = .char 't' :: [.char 'r', .char 'u', .char 'e'] := rfl
  have hfalse : Text.ofString "false" = .char 'f' :: [.char 'a', .char 'l', .char 's', .char 'e'] :=
    rfl
  rw [requiredValue, lit, lit, htrue, hfalse]
  exact refusesBlank_group
    (refusesBlank_alt (refusesBlank_word (by decide) _) (refusesBlank_word (by decide) _)) 1

theorem go_requiredValue {n : Nat} (b : Bool) (S : Text) {G : Groups} (hG : 1 < G.size)
    (j : Nat) (p : Option Point) :
    ∃ c' g', go (n + 4) requiredValue ⟨j, p, Text.ofString (toString b) ++ S⟩ G
        (fun c g => some (c, g)) = some (c', g') ∧
      ∀ a a' : Cursor, ((⟨a, a', g'⟩ : Match).groupD 1 == Text.ofString "true") = b := by
  have htrue : Text.ofString "true" = [.char 't', .char 'r', .char 'u', .char 'e'] := rfl
  have hfalse : Text.ofString "false" = [.char 'f', .char 'a', .char 'l', .char 's', .char 'e'] :=
    rfl
  cases b with
  | true =>
    let stop : Cursor := ⟨j + (Text.ofString "true").length,
      (Text.ofString "true").getLast?.or p, S⟩
    refine ⟨stop, G.set! 1 (some (Span.between ⟨j, p, Text.ofString "true" ++ S⟩ stop)), ?_,
      fun a a' => ?_⟩
    · rw [requiredValue, go_group, go_alt, lit, go_word, show toString true = "true" from rfl,
        Cursor.eat_append, Option.bind_some, Option.some_or]
    · rw [groupD_set hG, chars_between_append]
      rfl
  | false =>
    let stop : Cursor := ⟨j + (Text.ofString "false").length,
      (Text.ofString "false").getLast?.or p, S⟩
    refine ⟨stop, G.set! 1 (some (Span.between ⟨j, p, Text.ofString "false" ++ S⟩ stop)), ?_,
      fun a a' => ?_⟩
    · have hnot : ¬ Text.ofString "true" <+: Text.ofString "false" ++ S := by
        rw [htrue, hfalse]
        intro h
        cases (List.cons_prefix_cons.mp h).1
      rw [requiredValue, go_group, go_alt, lit, go_word, show toString false = "false" from rfl,
        Cursor.eat_eq_none hnot, Option.bind_none, Option.none_or, lit, go_word,
        Cursor.eat_append, Option.bind_some]
    · rw [groupD_set hG, chars_between_append]
      rfl

/-- **Reading `required`**: the flag of its entry. -/
theorem search_required {l : PropertyLiteral} {pre post : List Entry} {b : Bool}
    (hsplit : l.entries = pre ++ .required b :: post)
    (hothers : ∀ p ∈ pre ++ post, p.key ≠ "required") :
    (Property.requiredPattern.search l.text).map (fun m => m.groupD 1 == Text.ofString "true") =
      some b := by
  have hkeyed : KeyedAt "required" (Text.ofString (toString b)) l.text :=
    (soleAt_entry (e := .required b) hsplit hothers
      (show "required" ∈ outerWords by decide)).keyedAt
  have hhead : ∀ y ∈ (Text.ofString (toString b)).head?, y.isBlank = false := by
    cases b <;> decide
  rw [requiredPattern_eq]
  obtain ⟨mt, hmt, hR⟩ := search_keyedAt
    (R := fun g => ∀ a a', ((⟨a, a', g⟩ : Match).groupD 1 == Text.ofString "true") = b)
    refusesBlank_requiredValue hhead (by cases b <;> decide) hkeyed
    fun m S _ j p =>
      go_requiredValue b S (by simp [requiredValue, groupCount, key_eq, blanks, lit]) j p
  rw [hmt, Option.map_some, hR]

theorem optionsPattern_eq :
    Property.optionsPattern = .seq (key "options") (enclosedValue '[' ']') := rfl

theorem bracedPattern_eq : Property.bracedPattern = enclosedValue '{' '}' := rfl

theorem typeOptionsPattern_eq :
    Property.typeOptionsPattern = .seq (key "typeOptions") (enclosedValue '{' '}') := rfl

theorem bound_eq (name : String) :
    TypeOptions.bound name = .seq (key name) (.group 1 (.many .digit 1 true)) := rfl

theorem refusesBlank_enclosedValue {o c : Char} (ho : (Point.char o).isBlank = false) :
    RefusesBlank (enclosedValue o c) :=
  refusesBlank_seq (refusesBlank_word ho []) _

theorem not_mem_quote {z : Point} (hz : z ≠ .char '\'') {s : Text} (hs : z ∉ s) : z ∉ quote s := by
  simp only [quote, List.mem_cons, List.mem_append, List.not_mem_nil, or_false, not_or]
  exact ⟨hz, hs, hz⟩

/-- A code point that is no letter, colon, space, comma or quote is in an option object only
inside its quoted texts. -/
theorem OptionObject.not_mem_inside (o : OptionObject) {z : Point} (hz : z.isLetter = false)
    (hcolon : z ≠ .char ':') (hsp : z ≠ .char ' ') (hcomma : z ≠ .char ',')
    (hq : z ≠ .char '\'') (hs : ∀ q : Quoted, z ∉ q.text) : z ∉ o.inside := by
  refine not_mem_spaced hsp hcomma fun x hx => ?_
  obtain ⟨f, -, rfl⟩ := List.mem_map.mp hx
  exact not_mem_field (Text.not_mem_of_isWord (isWord_of_field f.1.word_mem) hz) hcolon hsp
    (not_mem_quote hq (hs f.2))

theorem OptionObject.brace_not_mem_inside (o : OptionObject) : .char '}' ∉ o.inside :=
  o.not_mem_inside (by decide) (by decide) (by decide) (by decide) (by decide)
    Quoted.brace_not_mem

theorem OptionObject.bracket_not_mem_text (o : OptionObject) : .char ']' ∉ o.text := by
  simp only [text, List.mem_cons, List.mem_append, List.not_mem_nil, or_false, not_or]
  exact ⟨by decide, o.not_mem_inside (by decide) (by decide) (by decide) (by decide) (by decide)
    Quoted.bracket_not_mem, by decide⟩

/-- All braced blocks of an options list are its option objects, in order. -/
theorem findAll_braced (os : List OptionObject) :
    ((enclosedValue '{' '}').findAll (spaced (os.map OptionObject.text))).map (·.groupD 1) =
      os.map OptionObject.inside := by
  obtain ⟨m, hm⟩ : ∃ m, (enclosedValue '{' '}').fuelFor (spaced (os.map OptionObject.text)).length
      = m + 4 := ⟨_, fuelFor_eq_add _ _ (Nat.le_of_ble_eq_true rfl)⟩
  rw [findAll, hm]
  cases os with
  | nil =>
    rw [findFrom_of_searchFrom_none (searchFrom_enclosed_none (by decide) _ _)]
    rfl
  | cons o os =>
    have htext : spaced ((o :: os).map OptionObject.text) = [Point.char ' '] ++
        ((Point.char '{' :: (o.inside ++ [Point.char '}'])) ++
          (after ((os.map OptionObject.inside).map
              fun y => Point.char '{' :: (y ++ [Point.char '}'])) ++
            [Point.char ' '])) := by
      rw [List.map_map]
      simp [spaced, commaJoin_cons, OptionObject.text, Function.comp_def]
      rfl
    have hlen : (os.map OptionObject.inside).length + 2 ≤
        (spaced ((o :: os).map OptionObject.text)).length + 1 := by
      have hle : ((o :: os).map OptionObject.text).length ≤
          (commaJoin ((o :: os).map OptionObject.text)).length :=
        length_le_commaJoin fun x hx => by
          obtain ⟨o', -, rfl⟩ := List.mem_map.mp hx
          exact List.cons_ne_nil _ _
      simp only [spaced, List.length_cons, List.length_append, List.length_map] at hle ⊢
      omega
    have h := findFrom_enclosed (m := m) (o := '{') (c := '}') (by decide) (by decide)
      (os.map OptionObject.inside) o.inside [.char ' '] _ 0 none
      (fun y hy => by
        rcases List.mem_cons.mp hy with rfl | hy
        · exact o.brace_not_mem_inside
        · obtain ⟨o', -, rfl⟩ := List.mem_map.mp hy
          exact o'.brace_not_mem_inside)
      (by decide) hlen
    rw [← htext] at h
    exact h

/-- **Reading an options list**: its option objects in order, those with a field kept. -/
theorem choices_spaced (os : List OptionObject) :
    Property.choices (spaced (os.map OptionObject.text)) =
      (os.map OptionObject.choice).filter (!·.isEmpty) := by
  rw [Property.choices, bracedPattern_eq]
  congr 1
  calc ((enclosedValue '{' '}').findAll (spaced (os.map OptionObject.text))).map
        (fun m => Choice.ofBlock (m.groupD 1))
      = (((enclosedValue '{' '}').findAll (spaced (os.map OptionObject.text))).map
          (·.groupD 1)).map Choice.ofBlock := by rw [List.map_map]; rfl
    _ = (os.map OptionObject.inside).map Choice.ofBlock := by rw [findAll_braced]
    _ = os.map OptionObject.choice := by
      rw [List.map_map]
      exact List.map_congr_left fun o _ => o.ofBlock_inside

/-- **Reading `options`**: the options of its entry. -/
theorem search_options {l : PropertyLiteral} {pre post : List Entry} {os : List OptionObject}
    (hsplit : l.entries = pre ++ .options os :: post)
    (hothers : ∀ p ∈ pre ++ post, p.key ≠ "options") :
    ∃ m, Property.optionsPattern.search l.text = some m ∧
      Property.choices (m.groupD 1) = (os.map OptionObject.choice).filter (!·.isEmpty) := by
  have hkeyed : KeyedAt "options" (enclose '[' ']' (os.map OptionObject.text)) l.text :=
    (soleAt_entry (e := .options os) hsplit hothers (show "options" ∈ outerWords by decide)).keyedAt
  have hin : .char ']' ∉ spaced (os.map OptionObject.text) :=
    not_mem_spaced (by decide) (by decide) fun x hx => by
      obtain ⟨o, -, rfl⟩ := List.mem_map.mp hx
      exact o.bracket_not_mem_text
  rw [optionsPattern_eq]
  obtain ⟨mt, hmt, hR⟩ := search_keyedAt
    (R := fun g => ∀ a a', (⟨a, a', g⟩ : Match).groupD 1 = spaced (os.map OptionObject.text))
    (refusesBlank_enclosedValue (o := '[') (c := ']') (by decide))
    (fun y hy => by cases hy; decide) (by simp [enclose]) hkeyed fun m S _ j p => by
      obtain ⟨g', hgo, hR⟩ := go_enclosedValue (n := m) (o := '[') hin S
        (G := Array.replicate ((Pattern.seq (key "options") (enclosedValue '[' ']')).groupCount + 1)
          none) (by simp [enclosedValue, groupCount, key_eq, blanks]) j p
      have htext : enclose '[' ']' (os.map OptionObject.text) ++ S =
          .char '[' :: (spaced (os.map OptionObject.text) ++ .char ']' :: S) := by
        simp [enclose]
      rw [htext]
      exact ⟨_, g', hgo, hR⟩
  exact ⟨mt, hmt, by rw [hR]; exact choices_spaced os⟩

theorem readNat_digits (d : Digits) (h : d.chars.length ≤ Decimal.digitLimit) :
    Decimal.readNat d.chars = .ok d.value := by
  rw [Decimal.readNat, if_neg (by omega), Digits.value, Decimal.natOfDigits]
  congr 1
  refine List.foldl_ext _ _ 0 fun n c hc => ?_
  rw [Text.digitValue?_ascii (d.ascii c hc)]
  rfl

theorem Digits.filterMap_text (d : Digits) : d.text.filterMap Point.char? = d.chars := by
  simp [Digits.text, List.filterMap_map, Point.char?, Function.comp_def]

/-- A bound at its first key is read as its number. -/
theorem readBound_eq {name : String} {body : Text} {b : Bound}
    (hkeyed : KeyedAt name b.digits.text body) :
    TypeOptions.readBound name body = .ok (some b.digits.value) := by
  obtain ⟨mt, hmt, hgroup⟩ := Option.map_eq_some_iff.mp
    (search_run digit_test_blank (by decide) (by decide) b.digits.test_text b.digits.text_ne_nil
      hkeyed)
  rw [TypeOptions.readBound, bound_eq, hmt]
  simp only [hgroup, Digits.filterMap_text, readNat_digits b.digits b.short]

/-- The inside of the braces of `typeOptions`. -/
def boundsInside (lo hi : Bound) : Text :=
  spaced [field "minValue" lo.digits.text, field "maxValue" hi.digits.text]

/-- Reading the inside of `typeOptions` gives both bounds. -/
theorem ofBody_boundsInside (lo hi : Bound) :
    TypeOptions.ofBody (boundsInside lo hi) = .ok ⟨some lo.digits.value, some hi.digits.value⟩ := by
  have hlo : KeyedAt "minValue" lo.digits.text
      (spaced ([] ++ field "minValue" lo.digits.text :: [field "maxValue" hi.digits.text])) :=
    keyedAt_spaced_field (by decide) (by simp)
  have hhi : KeyedAt "maxValue" hi.digits.text
      (spaced ([field "minValue" lo.digits.text] ++ field "maxValue" hi.digits.text :: [])) := by
    refine keyedAt_spaced_field (by decide) fun x hx hk => ?_
    rw [List.mem_singleton] at hx
    subst hx
    rcases keyLike_field (by decide) (by decide) hk with h | h
    · exact absurd h (by decide)
    · exact not_keyLike_of_colon lo.digits.colon_not_mem h
  have hmin : TypeOptions.readBound "minValue" (boundsInside lo hi) = .ok (some lo.digits.value) :=
    readBound_eq hlo
  have hmax : TypeOptions.readBound "maxValue" (boundsInside lo hi) = .ok (some hi.digits.value) :=
    readBound_eq hhi
  rw [TypeOptions.ofBody, hmin, hmax]
  rfl

/-- **Reading `typeOptions`**: the bounds of its entry. -/
theorem search_typeOptions {l : PropertyLiteral} {pre post : List Entry} {lo hi : Bound}
    (hsplit : l.entries = pre ++ .typeOptions lo hi :: post)
    (hothers : ∀ p ∈ pre ++ post, p.key ≠ "typeOptions") :
    ∃ m, Property.typeOptionsPattern.search l.text = some m ∧
      TypeOptions.ofBody (m.groupD 1) = .ok ⟨some lo.digits.value, some hi.digits.value⟩ := by
  have hsole : SoleAt "typeOptions" (enclose '{' '}' [field "minValue" lo.digits.text,
      field "maxValue" hi.digits.text]) l.text :=
    soleAt_entry (e := .typeOptions lo hi) hsplit hothers
      (show "typeOptions" ∈ outerWords by decide)
  have hkeyed : KeyedAt "typeOptions"
      (Point.char '{' :: (boundsInside lo hi ++ [Point.char '}'])) l.text :=
    hsole.keyedAt
  have hin : .char '}' ∉ boundsInside lo hi := by
    refine not_mem_spaced (by decide) (by decide) fun x hx => ?_
    simp only [List.mem_cons, List.not_mem_nil, or_false] at hx
    rcases hx with rfl | rfl
    · exact not_mem_field (by decide) (by decide) (by decide) (lo.digits.not_mem_text (by decide))
    · exact not_mem_field (by decide) (by decide) (by decide) (hi.digits.not_mem_text (by decide))
  rw [typeOptionsPattern_eq]
  obtain ⟨mt, hmt, hR⟩ := search_keyedAt
    (R := fun g => ∀ a a', (⟨a, a', g⟩ : Match).groupD 1 = boundsInside lo hi)
    (refusesBlank_enclosedValue (o := '{') (c := '}') (by decide))
    (fun y hy => by cases hy; decide) (by simp) hkeyed fun m S _ j p => by
      obtain ⟨g', hgo, hR⟩ := go_enclosedValue (n := m) (o := '{') hin S
        (G := Array.replicate
          ((Pattern.seq (key "typeOptions") (enclosedValue '{' '}')).groupCount + 1) none)
        (by simp [enclosedValue, groupCount, key_eq, blanks]) j p
      rw [List.cons_append, List.append_assoc, List.singleton_append]
      exact ⟨_, g', hgo, hR⟩
  exact ⟨mt, hmt, by rw [hR]; exact ofBody_boundsInside lo hi⟩

/-! ## Every field -/

theorem Entry.default?_eq_none {e : Entry} (h : e.key ≠ "default") : e.default? = none := by
  cases e with
  | quoted k s => cases k <;> first | rfl | exact absurd rfl h
  | number x => exact absurd rfl h
  | _ => rfl

theorem Entry.required?_eq_none {e : Entry} (h : e.key ≠ "required") : e.required? = none := by
  cases e with
  | required b => exact absurd rfl h
  | _ => rfl

theorem Entry.choices?_eq_none {e : Entry} (h : e.key ≠ "options") : e.choices? = none := by
  cases e with
  | options os => exact absurd rfl h
  | _ => rfl

theorem Entry.bounds?_eq_none {e : Entry} (h : e.key ≠ "typeOptions") : e.bounds? = none := by
  cases e with
  | typeOptions lo hi => exact absurd rfl h
  | _ => rfl

/-- A literal none of whose entries has a key that is never inside a value holds no such key. -/
theorem not_keyLike_of_absent (hw : w ∈ outerWords) (h : ∀ e ∈ l.entries, e.key ≠ w) :
    ¬ KeyLike (Text.ofString w) l.text :=
  not_keyLike_text (mem_fieldWords_of_outer w hw) fun e he => Entry.not_keyLike_outer hw (h e he)

/-- **Reading `default`**: a quoted default, or else the text of a number. -/
theorem read_default (l : PropertyLiteral) :
    (((Fields.quoted "default").search l.text).map (·.groupD 2)).or
        ((Property.numericDefault.search l.text).map (·.groupD 1)) =
      l.entries.findSome? Entry.default? := by
  have hquoted : ((Fields.quoted "default").search l.text).map (·.groupD 2) =
      l.entries.findSome? (Entry.quoted? .default) := search_quotedKey l (k := .default) (by decide)
  rw [hquoted]
  rcases entry_cases l "default" with hnone | ⟨pre, e, post, hsplit, hkey, hothers⟩
  · rw [List.findSome?_eq_none_iff.mpr fun e he => Entry.quoted?_eq_none (hnone e he),
      numericDefault_eq, search_quiet (not_keyLike_of_absent (by decide) hnone),
      List.findSome?_eq_none_iff.mpr fun e he => Entry.default?_eq_none (hnone e he)]
    rfl
  · rw [hsplit, findSome?_middle fun p hp => Entry.quoted?_eq_none (hothers p hp),
      findSome?_middle fun p hp => Entry.default?_eq_none (hothers p hp)]
    rcases Entry.eq_of_key_quoted (k := .default) hkey with ⟨s, rfl⟩ | ⟨-, x, rfl⟩
    · rfl
    · rw [search_numericDefault hsplit hothers]
      rfl

/-- **Reading `required`**: the flag of its entry. -/
theorem read_required (l : PropertyLiteral) :
    (Property.requiredPattern.search l.text).map (fun m => m.groupD 1 == Text.ofString "true") =
      l.entries.findSome? Entry.required? := by
  rcases entry_cases l "required" with hnone | ⟨pre, e, post, hsplit, hkey, hothers⟩
  · rw [requiredPattern_eq, search_quiet (not_keyLike_of_absent (by decide) hnone),
      List.findSome?_eq_none_iff.mpr fun e he => Entry.required?_eq_none (hnone e he)]
    rfl
  · obtain ⟨b, rfl⟩ := Entry.eq_of_key_required hkey
    rw [hsplit, findSome?_middle fun p hp => Entry.required?_eq_none (hothers p hp)]
    exact search_required hsplit hothers

/-- **Reading `options`**: the options of its entry, none without one. -/
theorem read_options (l : PropertyLiteral) :
    (Property.optionsPattern.search l.text).elim [] (fun m => Property.choices (m.groupD 1)) =
      (l.entries.findSome? Entry.choices?).getD [] := by
  rcases entry_cases l "options" with hnone | ⟨pre, e, post, hsplit, hkey, hothers⟩
  · rw [optionsPattern_eq, search_quiet (not_keyLike_of_absent (by decide) hnone),
      List.findSome?_eq_none_iff.mpr fun e he => Entry.choices?_eq_none (hnone e he)]
    rfl
  · obtain ⟨os, rfl⟩ := Entry.eq_of_key_options hkey
    rw [hsplit, findSome?_middle fun p hp => Entry.choices?_eq_none (hothers p hp)]
    obtain ⟨m, hm, hchoices⟩ := search_options hsplit hothers
    rw [hm]
    exact hchoices

/-- **Reading `typeOptions`**: the bounds of its entry, none without one. -/
theorem read_typeOptions (l : PropertyLiteral) :
    (Property.typeOptionsPattern.search l.text).elim (.ok none)
        (fun m => (TypeOptions.ofBody (m.groupD 1)).map fun t =>
          if t.isEmpty then none else some t) =
      .ok (l.entries.findSome? Entry.bounds?) := by
  rcases entry_cases l "typeOptions" with hnone | ⟨pre, e, post, hsplit, hkey, hothers⟩
  · rw [typeOptionsPattern_eq, search_quiet (not_keyLike_of_absent (by decide) hnone),
      List.findSome?_eq_none_iff.mpr fun e he => Entry.bounds?_eq_none (hnone e he)]
    rfl
  · obtain ⟨lo, hi, rfl⟩ := Entry.eq_of_key_typeOptions hkey
    rw [hsplit, findSome?_middle fun p hp => Entry.bounds?_eq_none (hothers p hp)]
    obtain ⟨m, hm, hbody⟩ := search_typeOptions hsplit hothers
    rw [hm]
    simp only [Option.elim, hbody]
    rfl

end Search

end PropertyLiteral

/-! ## Reading a block -/

namespace Property

/-- The bounds of a block: those of its `typeOptions`, none when there are none. -/
def boundsOf (block : Text) : Except Fault (Option TypeOptions) :=
  (typeOptionsPattern.search block).elim (.ok none) fun m =>
    (TypeOptions.ofBody (m.groupD 1)).map fun t => if t.isEmpty then none else some t

/-- The fields of a block, its bounds given. -/
def fieldsOf (block : Text) (typeOptions : Option TypeOptions) : Property where
  name := ((Fields.quoted "name").search block).map (·.groupD 2)
  displayName := ((Fields.quoted "displayName").search block).map (·.groupD 2)
  type := ((Fields.quoted "type").search block).map (·.groupD 2)
  default := (((Fields.quoted "default").search block).map (·.groupD 2)).or
    ((numericDefault.search block).map (·.groupD 1))
  required := (requiredPattern.search block).map fun m => m.groupD 1 == Text.ofString "true"
  description := (descriptionPattern.search block).map (·.groupD 2)
  placeholder := ((Fields.quoted "placeholder").search block).map (·.groupD 2)
  options := (optionsPattern.search block).elim [] fun m => choices (m.groupD 1)
  typeOptions := typeOptions

/-- Reading a block: its bounds first, then its other fields; nothing when no field is found. -/
theorem ofBlock_eq (block : Text) :
    ofBlock block = (boundsOf block).map fun t =>
      if (fieldsOf block t).isEmpty then none else some (fieldsOf block t) := by
  simp only [ofBlock, boundsOf, fieldsOf]
  -- the bounds, the quoted default and the options list are each found or not
  repeat' split
  all_goals simp_all only [Option.elim, Option.some_or, Option.none_or]
  all_goals first
    | rfl
    | cases TypeOptions.ofBody _ <;> rfl

/-- Leaving out the description, an empty property is no different from none. -/
theorem getD_isEmpty (p : Property) :
    { (if p.isEmpty then none else some p).getD {} with description := none } =
      { p with description := none } := by
  by_cases h : p.isEmpty = true
  · rw [if_pos h]
    obtain ⟨name, displayName, type, default, required, description, placeholder, options,
      typeOptions⟩ := p
    simp only [isEmpty, Bool.and_eq_true, Option.isNone_iff_eq_none, List.isEmpty_iff] at h
    obtain ⟨⟨⟨⟨⟨⟨⟨⟨rfl, rfl⟩, rfl⟩, rfl⟩, rfl⟩, -⟩, rfl⟩, rfl⟩, rfl⟩ := h
    rfl
  · rw [if_neg h]
    rfl

end Property

namespace PropertyLiteral

/-- **Reading a property literal** gives the property it describes, `description` apart: the
name first in the text, an option's name counting, and the value of every other key. -/
theorem ofBlock_text (l : PropertyLiteral) :
    ∃ o, Property.ofBlock l.text = .ok o ∧ { o.getD {} with description := none } = l.spec := by
  have hbounds : Property.boundsOf l.text = .ok l.spec.typeOptions := read_typeOptions l
  have hdisplay : ((Fields.quoted "displayName").search l.text).map (·.groupD 2) =
      l.entries.findSome? (Entry.quoted? .displayName) :=
    search_quotedKey l (k := .displayName) (by decide)
  have htype : ((Fields.quoted "type").search l.text).map (·.groupD 2) =
      l.entries.findSome? (Entry.quoted? .type) :=
    search_quotedKey l (k := .type) (by decide)
  have hplaceholder : ((Fields.quoted "placeholder").search l.text).map (·.groupD 2) =
      l.entries.findSome? (Entry.quoted? .placeholder) :=
    search_quotedKey l (k := .placeholder) (by decide)
  have hfields :
      { Property.fieldsOf l.text l.spec.typeOptions with description := none } = l.spec := by
    rw [Property.fieldsOf, search_name, hdisplay, htype, hplaceholder, read_default, read_required,
      read_options]
    rfl
  refine ⟨_, by rw [Property.ofBlock_eq, hbounds]; rfl, ?_⟩
  rw [Property.getD_isEmpty]
  exact hfields

/-- A literal with an option and both bounds, `{ name: 'mode', options: [ { name: 'Fast',
value: 'fast' } ], typeOptions: { minValue: 1, maxValue: 10 } }`, is read without a fault as the
property of that name with the one option and the two bounds. -/
theorem ofBlock_of_option_and_bounds :
    let mode : Quoted := ⟨Text.ofString "mode", by decide, by decide, by decide,
      fun _ _ => not_keyLike_of_colon (by decide)⟩
    let label : Quoted := ⟨Text.ofString "Fast", by decide, by decide, by decide,
      fun _ _ => not_keyLike_of_colon (by decide)⟩
    let fast : Quoted := ⟨Text.ofString "fast", by decide, by decide, by decide,
      fun _ _ => not_keyLike_of_colon (by decide)⟩
    let one : Bound := ⟨⟨['1'], by simp,
      by simp only [List.mem_cons, List.not_mem_nil, or_false, forall_eq]; decide⟩,
      by decide +kernel⟩
    let ten : Bound := ⟨⟨['1', '0'], by simp,
      by simp only [List.mem_cons, List.not_mem_nil, or_false, forall_eq_or_imp, forall_eq]; decide⟩,
      by decide +kernel⟩
    let l : PropertyLiteral := ⟨[.quoted .name mode,
      .options [⟨[(.name, label), (.value, fast)], by decide⟩], .typeOptions one ten],
      by decide⟩
    l.text = Text.ofString ("\x7b name: 'mode', options: [ \x7b name: 'Fast', " ++
      "value: 'fast' \x7d ], typeOptions: \x7b minValue: 1, maxValue: 10 \x7d \x7d") ∧
    ∃ o, Property.ofBlock l.text = .ok o ∧
      { o.getD {} with description := none } =
        { name := some (Text.ofString "mode"),
          options := [⟨some (Text.ofString "Fast"), some (Text.ofString "fast"), none, none⟩],
          typeOptions := some ⟨some 1, some 10⟩ } := by
  intro mode label fast one ten l
  refine ⟨by decide +kernel, ?_⟩
  obtain ⟨o, ho, hspec⟩ := ofBlock_text l
  exact ⟨o, ho, hspec.trans rfl⟩

/-- An option's name before the property's own is the name read: the literal
`{ options: [ { name: 'a' } ], name: 'b' }` is read with the name `a`. -/
theorem name_of_earlier_option :
    ((Property.ofBlock (Text.ofString "\x7b options: [ \x7b name: 'a' \x7d ], name: 'b' \x7d")).toOption.bind
      fun o => o.bind (·.name)) = some (Text.ofString "a") := by
  decide +kernel

end PropertyLiteral

end NodeCatalog
