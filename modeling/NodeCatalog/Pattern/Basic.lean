import NodeCatalog.Text.Point
/-!
# Text patterns

Patterns describe the shapes the extractors look for in source text: literal words, classes of
characters, repetitions that take as much (greedy) or as little (lazy) as lets the rest match,
alternatives tried left first, numbered groups that remember what they matched, references back to a
group, look-ahead, and the starts and ends of lines. They stand for the `re` patterns of
`src/tools/extract_schemas.py` and `src/tools/extract_docs.py`.

- `CharClass`: a set of characters, with `CharClass.test` on code points: a range holds the
  surrogates between its ends, and blanks and digits hold none.
- `Pattern`: the shapes, with `Pattern.size`.
- Builders (`Pattern.word`, `Pattern.blanks`, `Pattern.seqs`, ...) that the extractors use to
  write their patterns.
-/

namespace NodeCatalog

/-- A set of characters. -/
inductive CharClass where
  /-- One character. -/
  | char (c : Char)
  /-- The characters from `lo` to `hi`, both included. -/
  | range (lo hi : Char)
  /-- The blank characters (`Text.isBlank`). -/
  | blank
  /-- The decimal digits of every script (`Text.isDigit`). -/
  | digit
  /-- Every character. -/
  | any
  /-- The characters of either class. -/
  | union (a b : CharClass)
  /-- The characters not in a class. -/
  | complement (k : CharClass)
  deriving Repr, Inhabited

namespace CharClass

/-- Whether a code point belongs to a class, by its number. -/
def test : CharClass → Point → Bool
  | .char d, p => p.code == d.toNat
  | .range lo hi, p => lo.toNat ≤ p.code && p.code ≤ hi.toNat
  | .blank, p => p.isBlank
  | .digit, p => p.isDigit
  | .any, _ => true
  | .union a b, p => a.test p || b.test p
  | .complement k, p => !k.test p

/-- The class of the characters of a list. -/
def ofList : List Char → CharClass
  | [] => .complement .any
  | [c] => .char c
  | c :: cs => .union (.char c) (ofList cs)

/-- Every character but the line feed. -/
def notNewline : CharClass :=
  .complement (.char '\n')

/-- The two quote characters `'` and `"`. -/
def quotes : CharClass :=
  ofList ['\'', '"']

end CharClass

/-- A pattern. Repetition of a class (`many`) takes the characters one at a time; the general
repetition `star` takes its body again and again, and requires it to consume text each time. -/
inductive Pattern where
  /-- Matches the empty text. -/
  | empty
  /-- These code points, in order. -/
  | word (s : Text)
  /-- One character of a class. -/
  | one (k : CharClass)
  /-- At least `least` characters of a class, as many as possible when `greedy`, else as few. -/
  | many (k : CharClass) (least : Nat) (greedy : Bool)
  /-- The pattern or nothing, the pattern tried first. -/
  | opt (p : Pattern)
  /-- The pattern any number of times, as often as possible when `greedy`, else as seldom. -/
  | star (p : Pattern) (greedy : Bool)
  /-- One pattern, then the other. -/
  | seq (p q : Pattern)
  /-- One pattern, or else the other. -/
  | alt (p q : Pattern)
  /-- The pattern, remembering what it matched as group `index`. -/
  | group (index : Nat) (p : Pattern)
  /-- The text group `index` matched, again. -/
  | backref (index : Nat)
  /-- The pattern matches here, without consuming anything. -/
  | ahead (p : Pattern)
  /-- The start of the text or of a line. -/
  | lineStart
  /-- The end of the text or of a line. -/
  | lineEnd
  deriving Repr, Inhabited

namespace Pattern

/-- The number of constructors in a pattern. -/
def size : Pattern → Nat
  | .opt p => p.size + 1
  | .star p _ => p.size + 1
  | .seq p q => p.size + q.size + 1
  | .alt p q => p.size + q.size + 1
  | .group _ p => p.size + 1
  | .ahead p => p.size + 1
  | _ => 1

/-- The highest group index in a pattern, zero when there is none. -/
def groupCount : Pattern → Nat
  | .opt p => p.groupCount
  | .star p _ => p.groupCount
  | .seq p q => max p.groupCount q.groupCount
  | .alt p q => max p.groupCount q.groupCount
  | .group i p => max i p.groupCount
  | .ahead p => p.groupCount
  | _ => 0

/-- The patterns of a list, one after the other. -/
def seqs : List Pattern → Pattern
  | [] => .empty
  | [p] => p
  | p :: ps => .seq p (seqs ps)

/-- A literal word. -/
def lit (s : String) : Pattern :=
  .word (Text.ofString s)

/-- Any run of blanks, possibly empty (`\s*`). -/
def blanks : Pattern :=
  .many .blank 0 true

/-- A run of at least one blank (`\s+`). -/
def someBlanks : Pattern :=
  .many .blank 1 true

/-- A name followed by a colon, with blanks allowed around the colon (`name\s*:\s*`). -/
def key (name : String) : Pattern :=
  seqs [lit name, blanks, lit ":", blanks]

/-- A quote character remembered as group `i` (`(['"])`). -/
def openQuote (i : Nat) : Pattern :=
  .group i (.one CharClass.quotes)

end Pattern

end NodeCatalog
