import NodeCatalog.Text.Blank
import NodeCatalog.Text.DecimalDigit
/-!
# Code points and texts

The texts this library reads and writes are sequences of Unicode code points, and a code point may
be a surrogate (`0xD800`–`0xDFFF`) standing alone: a JSON escape such as `\ud800`, or an escape in a
literal, makes one. A Lean `Char` is a Unicode scalar value and is never a surrogate, so a code
point is either a character or a surrogate, and a text is a list of code points. They are the Python
`str` values the functions of `src/tools` handle.

Surrogates belong to no class of characters (they are neither blanks nor digits), texts are
ordered by their code points, and a text without surrogates is a `String` and back without
loss.

- `Point`: a code point, with `Point.code`, `Point.ofCode`, `Point.isBlank`, `Point.isDigit`.
- `Text`: a text; `Text.ofString`, `Text.chars?`, `Text.display`, `Text.codeLE` (the order of
  texts).
-/

namespace NodeCatalog

/-- A code point: a character, or a surrogate code point that no character is. -/
inductive Point where
  /-- A Unicode scalar value. -/
  | char (c : Char)
  /-- A surrogate code point, `0xD800`–`0xDFFF`, standing alone. -/
  | surrogate (code : Nat)
  deriving DecidableEq, Inhabited, Repr

namespace Point

/-- The number of a code point. -/
def code : Point → Nat
  | .char c => c.toNat
  | .surrogate n => n

/-- Whether a number is a surrogate code point. -/
def isSurrogateCode (n : Nat) : Bool :=
  0xD800 ≤ n && n < 0xE000

/-- The code point of a number below `0x110000`: a surrogate, or the character of that code. -/
def ofCode (n : Nat) : Point :=
  if isSurrogateCode n then .surrogate n else .char (Char.ofNat n)

/-- Whether a code point is a surrogate. -/
def isSurrogate : Point → Bool
  | .char _ => false
  | .surrogate _ => true

/-- Whether a code point is a blank character (`Text.isBlank`). -/
def isBlank : Point → Bool
  | .char c => Text.isBlank c
  | .surrogate _ => false

/-- Whether a code point is a decimal digit (`Text.isDigit`). -/
def isDigit : Point → Bool
  | .char c => Text.isDigit c
  | .surrogate _ => false

/-- The character of a code point, none for a surrogate. -/
def char? : Point → Option Char
  | .char c => some c
  | .surrogate _ => none

@[simp] theorem code_char (c : Char) : (Point.char c).code = c.toNat := rfl

end Point

/-- A text: a list of code points. -/
abbrev Text := List Point

namespace Text

/-- The text of a string. -/
def ofString (s : String) : Text :=
  s.toList.map .char

/-- String literals in the library's code stand for the texts they spell. -/
instance : Coe String Text := ⟨ofString⟩

/-- The characters of a text, none when it holds a surrogate. -/
def chars? (t : Text) : Option (List Char) :=
  t.mapM Point.char?

/-- The string of a text for display, each surrogate shown as the replacement character. -/
def display (t : Text) : String :=
  String.ofList (t.map fun p => p.char?.getD '\uFFFD')

/-- Whether a text holds no surrogate. -/
def isChars (t : Text) : Bool :=
  t.all fun p => !p.isSurrogate

/-- Texts in the order of their code points, position by position, a prefix first. -/
def codeLE : Text → Text → Bool
  | [], _ => true
  | _ :: _, [] => false
  | a :: as, b :: bs => a.code < b.code || (a.code == b.code && codeLE as bs)

@[simp] theorem chars?_ofString (s : String) : chars? (ofString s) = some s.toList := by
  simp only [chars?, ofString]
  induction s.toList with
  | nil => rfl
  | cons c cs ih => simp [List.mapM_cons, Point.char?, ih]

end Text

end NodeCatalog
