import NodeCatalog.Decimal.Binary
import NodeCatalog.Text.Point
/-!
# Reading numbers from text

Number text as people write it: an optional sign, digits with an optional fraction and an optional
exponent, or the words for infinity and not-a-number in any case. Digits of every decimal script
count, blanks around the number are ignored, and a single underscore may stand between two digits to
group them. The value is the double nearest to the decimal. A text with a surrogate in it stands for
no number. This is `float()` as `safe_float` calls it (`src/tools/extract_schemas.py`, lines 15–19),
and `int()` on the digits of a bound (lines 194 and 196), which refuses more than 4300 digits.

- `Decimal.readParts?`: the fields of the double a text stands for, or none;
  `Decimal.readFloat?`: that double.
- `Decimal.readNat`: the natural number of a string of decimal digits, refused past
  `Decimal.digitLimit` digits.
-/

namespace NodeCatalog

namespace Decimal

open Text

/-- The ASCII form of a character: itself in ASCII, a space for a blank outside it, the ASCII
digit of the same value for a decimal digit outside it, and none for anything else. -/
def asciiChar? (c : Char) : Option Char :=
  if c.toNat < 127 then some c
  else if isBlank c then some ' '
  else (digitValue? c).map fun v => Char.ofNat (0x30 + v)

/-- Replace every decimal digit by the ASCII digit of its value and every blank outside ASCII by
a space; any other character outside ASCII makes the text unreadable. -/
def asciiForm (s : List Char) : Option (List Char) :=
  s.mapM asciiChar?

/-- Whether a character is one of `0`–`9`. -/
def isAsciiDigit (c : Char) : Bool :=
  '0' ≤ c && c ≤ '9'

/-- Remove grouping underscores; none when an underscore does not stand between two digits. -/
def dropUnderscores : Char → List Char → Option (List Char)
  | _, [] => some []
  | prev, '_' :: rest =>
    match rest with
    | c :: _ =>
      if isAsciiDigit prev && isAsciiDigit c then dropUnderscores '_' rest else none
    | [] => none
  | prev, c :: rest =>
    if prev = '_' && !isAsciiDigit c then none
    else (dropUnderscores c rest).map (c :: ·)

/-- Split off the longest run of ASCII digits. -/
def digitRun (s : List Char) : List Char × List Char :=
  (s.takeWhile isAsciiDigit, s.dropWhile isAsciiDigit)

/-- The number of a run of ASCII digits. -/
def natOfDigits (ds : List Char) : Nat :=
  ds.foldl (fun n c => 10 * n + (c.toNat - 0x30)) 0

/-- Whether `s` begins with `w`, ignoring the case of ASCII letters. -/
def startsWithWord (w : List Char) (s : List Char) : Bool :=
  w.length ≤ s.length && (s.take w.length).map Char.toLower == w

/-- The value of a decimal without sign: digits, an optional point with more digits, at least one
digit in all, and an optional exponent `e` or `E` with a sign and at least one digit. The whole
text must be used. -/
def readUnsigned (negative : Bool) (s : List Char) : Option Binary.Parts :=
  let (intDigits, rest) := digitRun s
  let (fracDigits, rest) :=
    match rest with
    | '.' :: r => digitRun r
    | _ => ([], rest)
  if intDigits.isEmpty && fracDigits.isEmpty then none
  else
    let expPart : Option Int :=
      match rest with
      | [] => some 0
      | e :: r =>
        if e = 'e' || e = 'E' then
          let (neg, r) := match r with
            | '-' :: r' => (true, r')
            | '+' :: r' => (false, r')
            | _ => (false, r)
          let (ed, r) := digitRun r
          if ed.isEmpty || !r.isEmpty then none
          else
            let n : Int := natOfDigits ed
            some (if neg then -n else n)
        else none
    match expPart with
    | none => none
    | some e =>
      let m := natOfDigits (intDigits ++ fracDigits)
      some (Binary.decimalParts negative m (e - fracDigits.length))

/-- The infinity or not-a-number a text names: `inf`, `infinity` or `nan`, in any case. The
not-a-number is the quiet one, with the sign written. -/
def readSpecial (negative : Bool) (s : List Char) : Option Binary.Parts :=
  if s.length = 8 && startsWithWord "infinity".toList s then some ⟨negative, 2047, 0⟩
  else if s.length = 3 && startsWithWord "inf".toList s then some ⟨negative, 2047, 0⟩
  else if s.length = 3 && startsWithWord "nan".toList s then
    some ⟨negative, 2047, Nat.pow 2 51⟩
  else none

/-- Split off an optional sign: whether it is a minus, and the text after it. -/
def splitSign : List Char → Bool × List Char
  | '-' :: r => (true, r)
  | '+' :: r => (false, r)
  | s => (false, s)

/-- The fields of the double a text stands for: blanks at both ends are dropped, grouping
underscores removed, then an optional sign is followed by a decimal or by a word for infinity or
not-a-number. -/
def readParts? (text : Text) : Option Binary.Parts := do
  let s ← text.chars? >>= asciiForm
  let s := (s.dropWhile isAsciiBlank).reverse.dropWhile isAsciiBlank |>.reverse
  let s ← if s.contains '_' then dropUnderscores ' ' s else some s
  if s.isEmpty then none
  let (negative, body) := splitSign s
  (readUnsigned negative body).or (readSpecial negative body)

/-- The double a text stands for. -/
def readFloat? (text : Text) : Option Float :=
  (readParts? text).map Binary.Parts.toFloat

/-- The most digits a decimal integer may have when it is read or written. -/
def digitLimit : Nat := 4300

/-- The number a string of decimal digits (of any script) stands for; `Except.error n` when it
has `n` digits, more than `digitLimit`. -/
def readNat (ds : List Char) : Except Nat Nat :=
  if digitLimit < ds.length then .error ds.length
  else .ok (ds.foldl (fun n c => 10 * n + (digitValue? c).getD 0) 0)

end Decimal

end NodeCatalog
