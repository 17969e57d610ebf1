import NodeCatalog.Text.Printable
import NodeCatalog.Text.Point
/-!
# Quoted text

Text shown inside a message is put between quotes and escaped so that it can be read back: single
quotes, unless the text holds a single quote and no double quote; a backslash and the chosen quote
get a backslash; tab, line feed and carriage return are written `\t`, `\n`, `\r`; other characters
that do not print (`Text.isPrintable`) are written by their code in hex, and so are surrogates. This
is `repr` of a `str`, as the error lines of `run_schema_extraction` (`src/tools/extract_schemas.py`,
line 223) show it.

- `Text.quote`: the quoted form of a text.
-/

namespace NodeCatalog

namespace Text

/-- The lower-case hex digits of `n`, padded with zeros to `width`. -/
def hexDigits (width n : Nat) : List Char :=
  let ds := Nat.toDigits 16 n
  List.replicate (width - ds.length) '0' ++ ds

/-- The escaped form of one character inside quotes `q`. -/
def escapeChar (q : Char) (c : Char) : List Char :=
  if c = q || c = '\\' then ['\\', c]
  else if c = '\t' then ['\\', 't']
  else if c = '\n' then ['\\', 'n']
  else if c = '\r' then ['\\', 'r']
  else if isPrintable c then [c]
  else if c.toNat ≤ 0xFF then ['\\', 'x'] ++ hexDigits 2 c.toNat
  else if c.toNat ≤ 0xFFFF then ['\\', 'u'] ++ hexDigits 4 c.toNat
  else ['\\', 'U'] ++ hexDigits 8 c.toNat

/-- The escaped form of one code point inside quotes `q`. -/
def escapePoint (q : Char) : Point → List Char
  | .char c => escapeChar q c
  | .surrogate n => ['\\', 'u'] ++ hexDigits 4 n

/-- The quoted form of a text. -/
def quote (s : Text) : String :=
  let q := if s.contains (.char '\'') && !s.contains (.char '"') then '"' else '\''
  String.ofList (q :: s.flatMap (escapePoint q) ++ [q])

end Text

end NodeCatalog
