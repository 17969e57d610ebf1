/-!
# Blank characters

The characters that count as blank when text is trimmed, when runs of blanks are collapsed, and when
the blank class of a pattern is matched: the characters of Unicode general category `Zs` and those
of bidirectional class `WS`, `B` or `S`. One predicate serves trimming and patterns alike, so a text
trimmed here has no blank at either end in the sense of the patterns too. They are the characters
`str.strip()` and `\s` take in `src/tools/extract_schemas.py` and `src/tools/extract_docs.py`.

- `Text.isBlank`: the predicate, read off `blankRanges`.
- `Text.isAsciiBlank`: the six blanks of the ASCII range that number reading strips.
-/

namespace NodeCatalog

namespace Text

/-- Code point ranges, both ends included, of the blank characters: the controls tab to carriage
return and the four separators `0x1C`–`0x1F` with the space, next line, no-break space, the
Ogham space, the spaces `0x2000`–`0x200A`, the line and paragraph separators, the narrow no-break
space, the medium mathematical space and the ideographic space. -/
def blankRanges : List (Nat × Nat) :=
  [(0x09, 0x0D), (0x1C, 0x20), (0x85, 0x85), (0xA0, 0xA0), (0x1680, 0x1680),
   (0x2000, 0x200A), (0x2028, 0x2029), (0x202F, 0x202F), (0x205F, 0x205F), (0x3000, 0x3000)]

/-- A character is blank when its code point lies in one of `blankRanges`. -/
def isBlank (c : Char) : Bool :=
  blankRanges.any fun r => r.1 ≤ c.toNat && c.toNat ≤ r.2

/-- The blanks of the ASCII range that number reading strips: tab, line feed, vertical tab,
form feed, carriage return and space (the separators `0x1C`–`0x1F` are not among them). -/
def isAsciiBlank (c : Char) : Bool :=
  c = ' ' || (0x09 ≤ c.toNat && c.toNat ≤ 0x0D)

end Text

end NodeCatalog
