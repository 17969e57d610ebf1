/-!
# Decimal digits

The characters that count as decimal digits when a number is read and when the digit class of a
pattern is matched: the characters of Unicode (14.0) general category `Nd`. Unicode lays these out
in runs of ten consecutive code points holding the values zero to nine, so a run is known by its
first code point and a digit's value is its distance from that start. They are what `\d` matches in
`src/tools/extract_schemas.py` and the digits `float()` and `int()` accept there.

- `Text.digitZeros`: the first code point of every run.
- `Text.digitValue?`: the value of a digit, or none for any other character.
- `Text.digitValue?_ascii`: the ASCII digits keep their usual values.
-/

namespace NodeCatalog

namespace Text

/-- The first code point (the digit zero) of every run of ten decimal digits, in increasing
order. The five runs from `0x1D7CE` are the mathematical digit styles, which follow each other
without a gap. -/
def digitZeros : List Nat :=
  [0x30, 0x660, 0x6F0, 0x7C0, 0x966, 0x9E6, 0xA66, 0xAE6, 0xB66, 0xBE6, 0xC66, 0xCE6, 0xD66,
   0xDE6, 0xE50, 0xED0, 0xF20, 0x1040, 0x1090, 0x17E0, 0x1810, 0x1946, 0x19D0, 0x1A80, 0x1A90,
   0x1B50, 0x1BB0, 0x1C40, 0x1C50, 0xA620, 0xA8D0, 0xA900, 0xA9D0, 0xA9F0, 0xAA50, 0xABF0,
   0xFF10, 0x104A0, 0x10D30, 0x11066, 0x110F0, 0x11136, 0x111D0, 0x112F0, 0x11450, 0x114D0,
   0x11650, 0x116C0, 0x11730, 0x118E0, 0x11950, 0x11C50, 0x11D50, 0x11DA0, 0x16A60,
   0x16AC0, 0x16B50, 0x1D7CE, 0x1D7D8, 0x1D7E2, 0x1D7EC, 0x1D7F6, 0x1E140, 0x1E2F0,
   0x1E950, 0x1FBF0]

/-- The value of a decimal digit: its distance from the zero of its run; none for a character
that is no digit. -/
def digitValue? (c : Char) : Option Nat :=
  digitZeros.findSome? fun z =>
    if z ≤ c.toNat ∧ c.toNat < z + 10 then some (c.toNat - z) else none

/-- A character is a decimal digit when it has a value. -/
def isDigit (c : Char) : Bool :=
  (digitValue? c).isSome

/-- The ASCII digit of the same value as a decimal digit; other characters are kept. -/
def asciiDigit (c : Char) : Char :=
  match digitValue? c with
  | some v => Char.ofNat (0x30 + v)
  | none => c

theorem digitValue?_ascii {c : Char} (h : '0' ≤ c ∧ c ≤ '9') :
    digitValue? c = some (c.toNat - 0x30) := by
  have h1 : 0x30 ≤ c.toNat := h.1
  have h2 : c.toNat ≤ 0x39 := h.2
  have hz : (0x30 ≤ c.toNat ∧ c.toNat < 0x30 + 10) := ⟨h1, by omega⟩
  rw [digitValue?, digitZeros, List.findSome?_cons, if_pos hz]

end Text

end NodeCatalog
