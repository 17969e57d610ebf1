import NodeCatalog.Value.Basic
import NodeCatalog.Decimal.Binary
import NodeCatalog.Decimal.Read
import NodeCatalog.Text.CharName
import NodeCatalog.Value.Grammar
/-!
# Literal values in source text

Reading a value written as a literal of the scripting language the docs tools speak: numbers
(decimal, hex, octal and binary integers with `_` between digits, decimals with fraction and
exponent, imaginary numbers ending in `j`), quoted texts and bytes (with prefixes `r`, `u`, `b`,
escapes, and neighbouring quotes joined), `True`, `False` and `None` as spelled (a word that only
normalizes to one of them is a name), `...`, and tuples, lists, sets and mappings of literals,
`set()` for the empty set (the name may stand in parentheses, and may be spelled with compatibility
forms of its letters, such as fullwidth ones). A sign may stand before a number, and a real number
may be added to an imaginary one. Anything else is not a literal. Outside quoted texts a literal is
one line: a line break, a backslash joining lines and a comment are refused, and so is a literal
that starts indented after a form feed. Inside a quoted text that is not raw, a backslash before a
line break joins the lines and stands for nothing. This is `ast.literal_eval` as `extract_metadata`
calls it (`src/tools/extract_docs.py`, line 61; `src/tools/fetch_all_nodes.py`, line 49).

A literal is refused when brackets nest more than 200 deep, when its parse nests the grammar's
rule calls more than `Grammar.stackLimit` deep (about thirty calls a bracket, so this refuses
literals of fewer than 200 brackets too), when a decimal integer has more than
`Decimal.digitLimit` digits, and when a set member or mapping key is a list, set or mapping. An
escape of a surrogate code point gives that surrogate, and an escape by name (`\N` and the name
in braces) the character of that name (`CharName.lookup?`); a name no character has is
refused.

- `Literal.Token`, `Literal.tokens`: the words of a literal text.
- `Literal.ofTokens?`, `Literal.read?`: the value of the words of a literal, and of a literal
  text.
- `Literal.terminals`: the words as the grammar's tokens, for `Grammar.overflows`.
-/

namespace NodeCatalog

namespace Literal

/-- The words of a literal. -/
inductive Token where
  | number (v : Value)
  | text (s : Text)
  | bytes (b : List UInt8)
  | name (s : String)
  | constant (v : Value)
  | ellipsis
  | punct (c : Char)
  deriving Inhabited

/-- The deepest nesting of brackets a literal may have. -/
def maxDepth : Nat := 200

/-- The characters a name is made of: ASCII letters, digits and `_`, and every character
outside ASCII. They may not follow a number. -/
def isNameChar (c : Char) : Bool :=
  ('a' ≤ c && c ≤ 'z') || ('A' ≤ c && c ≤ 'Z') || ('0' ≤ c && c ≤ '9') || c = '_' ||
    128 ≤ c.toNat

/-- Characters that may start a name. -/
def isNameStart (c : Char) : Bool :=
  ('a' ≤ c && c ≤ 'z') || ('A' ≤ c && c ≤ 'Z') || c = '_' || 128 ≤ c.toNat

/-- The characters other than ASCII whose compatibility normal form is the letter `s`, `e` or
`t`, with that letter: long `s`, modifier and subscript letters, script, double-struck,
fullwidth and mathematical letters. -/
def compatLetters : List (Char × List Nat) :=
  [('s', [0x17F, 0x2E2, 0x209B, 0xFF53, 0x1D42C, 0x1D460, 0x1D494, 0x1D4C8, 0x1D4FC, 0x1D530,
      0x1D564, 0x1D598, 0x1D5CC, 0x1D600, 0x1D634, 0x1D668, 0x1D69C]),
    ('e', [0x1D49, 0x2091, 0x212F, 0x2147, 0xFF45, 0x1D41E, 0x1D452, 0x1D486, 0x1D4EE, 0x1D522,
      0x1D556, 0x1D58A, 0x1D5BE, 0x1D5F2, 0x1D626, 0x1D65A, 0x1D68E]),
    ('t', [0x1D57, 0x209C, 0xFF54, 0x1D42D, 0x1D461, 0x1D495, 0x1D4C9, 0x1D4FD, 0x1D531, 0x1D565,
      0x1D599, 0x1D5CD, 0x1D601, 0x1D635, 0x1D669, 0x1D69D])]

/-- A character of a name as the name is compared: one of `compatLetters` is its letter, and
every other character stands for itself. -/
def compatLetter (c : Char) : Char :=
  match compatLetters.find? (fun (_, codes) => codes.contains c.toNat) with
  | some (letter, _) => letter
  | none => c

/-- The name a word spells. Names are compared in their compatibility normal form; the only name
a literal uses outside ASCII is `set`, so only the forms of its letters are brought to ASCII, and
a word with any other character outside ASCII names nothing a literal knows. -/
def nameOf (word : List Char) : String :=
  String.ofList (word.map compatLetter)

/-- The token of a word. Keywords are recognised as spelled, before names are normalized:
`True`, `False` and `None` written exactly are constants, and a word whose normal form only
becomes one of them is a name, which no literal accepts. -/
def wordToken (word : List Char) : Token :=
  match String.ofList word with
  | "True" => .constant (.bool true)
  | "False" => .constant (.bool false)
  | "None" => .constant .nothing
  | _ => .name (nameOf word)

/-- The value of a digit in base `base`, if it is one. -/
def digitIn (base : Nat) (c : Char) : Option Nat :=
  let v := if '0' ≤ c && c ≤ '9' then some (c.toNat - 0x30)
    else if 'a' ≤ c && c ≤ 'z' then some (c.toNat - 0x61 + 10)
    else if 'A' ≤ c && c ≤ 'Z' then some (c.toNat - 0x41 + 10)
    else none
  match v with
  | some d => if d < base then some d else none
  | none => none

/-- Read digits of a base where single underscores may stand between digits (and, when
`leading`, before the first one): the digits, and the rest. None when an underscore is not
followed by a digit, or no digit comes. -/
def groupedDigits (base : Nat) (leading : Bool) : List Char → Option (List Char × List Char)
  | s =>
    let rec go (acc : List Char) (first : Bool) : List Char → Option (List Char × List Char)
      | '_' :: c :: rest =>
        if (!first || leading) && (digitIn base c).isSome then go (c :: acc) false rest
        else none
      | ['_'] => none
      | c :: rest =>
        if (digitIn base c).isSome then go (c :: acc) false rest
        else if first then none else some (acc.reverse, c :: rest)
      | [] => if first then none else some (acc.reverse, [])
    go [] true s

/-- The number of a list of digits in a base. -/
def valueIn (base : Nat) (ds : List Char) : Nat :=
  ds.foldl (fun n c => base * n + (digitIn base c).getD 0) 0

/-- A number may not be followed directly by a letter, digit or `_`. -/
def ended : List Char → Bool
  | c :: _ => !isNameChar c
  | [] => true

/-- The value of a decimal number given by its integer digits, fraction digits and exponent, as
a double. -/
def decimalFloat (intDigits fracDigits : List Char) (e : Int) : Float :=
  Binary.ofDecimal false (valueIn 10 (intDigits ++ fracDigits)) (e - fracDigits.length)

/-- After the integer digits of a decimal: an optional fraction, an optional exponent and an
optional `j`. A plain integer comes back as `none` for the caller to finish. -/
def decimalTail (intDigits : List Char) (s : List Char) : Option (Option Value × List Char) := do
  let (frac, hadPoint, s) ← match s with
    | '.' :: r =>
      match r with
      | c :: _ =>
        if '0' ≤ c && c ≤ '9' then do
          let (f, r') ← groupedDigits 10 false r
          pure (f, true, r')
        else pure ([], true, r)
      | [] => pure ([], true, r)
    | _ => pure ([], false, s)
  let (e, hadExp, s) ← match s with
    | x :: r =>
      if x = 'e' || x = 'E' then
        let (neg, r) := match r with
          | '-' :: q => (true, q)
          | '+' :: q => (false, q)
          | _ => (false, r)
        match groupedDigits 10 false r with
        | some (ds, r') =>
          let n : Int := valueIn 10 ds
          pure ((if neg then -n else n), true, r')
        | none => none
      else pure ((0 : Int), false, s)
    | [] => pure (0, false, s)
  match s with
  | x :: r =>
    if x = 'j' || x = 'J' then
      if ended r then some (some (.complex 0.0 (decimalFloat intDigits frac e)), r) else none
    else if !ended s then none
    else if hadPoint || hadExp then some (some (.float (decimalFloat intDigits frac e)), s)
    else some (none, s)
  | [] =>
    if hadPoint || hadExp then some (some (.float (decimalFloat intDigits frac e)), s)
    else some (none, s)

/-- A number at the start of a text: its value and the rest. -/
def number (s : List Char) : Option (Value × List Char) :=
  match s with
  | '0' :: x :: r =>
    if x = 'x' || x = 'X' || x = 'o' || x = 'O' || x = 'b' || x = 'B' then do
      let base := if x = 'x' || x = 'X' then 16 else if x = 'o' || x = 'O' then 8 else 2
      let (ds, r') ← groupedDigits base true r
      if !ended r' then none
      pure (.int (valueIn base ds), r')
    else do
      -- zeros, then possibly more digits, which make a decimal only with a fraction, exponent
      -- or `j`
      let (ds, r') ← groupedDigits 10 false s
      let (v, r'') ← decimalTail ds r'
      match v with
      | some v => pure (v, r'')
      | none =>
        if ds.all (· = '0') then pure (.int 0, r'') else none
  | c :: _ =>
    if c = '.' then do
      let (v, r) ← decimalTail [] s
      v.map fun v => (v, r)
    else do
      let (ds, r) ← groupedDigits 10 false s
      let (v, r') ← decimalTail ds r
      match v with
      | some v => pure (v, r')
      | none =>
        if Decimal.digitLimit < ds.length then none
        else pure (.int (valueIn 10 ds), r')
  | [] => none

/-- The simple escapes: the character after the backslash, and what it stands for. -/
def simpleEscape : Char → Option Char
  | '\\' => some '\\'
  | '\'' => some '\''
  | '"' => some '"'
  | 'a' => some '\x07'
  | 'b' => some '\x08'
  | 'f' => some '\x0c'
  | 'n' => some '\n'
  | 'r' => some '\r'
  | 't' => some '\t'
  | 'v' => some '\x0b'
  | _ => none

/-- Read exactly `n` hex digits. -/
def hexExactly (n : Nat) (s : List Char) : Option (Nat × List Char) :=
  let ds := s.take n
  if ds.length = n && ds.all (fun c => (digitIn 16 c).isSome) then some (valueIn 16 ds, s.drop n)
  else none

/-- One to three octal digits after a backslash. -/
def octalEscape (s : List Char) : Nat × List Char :=
  let ds := (s.take 3).takeWhile fun c => '0' ≤ c && c ≤ '7'
  (valueIn 8 ds, s.drop ds.length)

/-- Resolve the escapes of a text body: the code points it stands for. `bytes` limits the
escapes to those of bytes (no `\u`, `\U` or `\N`). A name that names nothing is refused.
Each step consumes at least one character, so `fuel` at the text's length suffices. -/
def unescape (bytes : Bool) : Nat → List Char → Option (List Nat)
  | 0, _ => none
  | _ + 1, [] => some []
  | fuel + 1, '\\' :: '\n' :: rest => unescape bytes fuel rest
  | fuel + 1, '\\' :: c :: rest =>
    match simpleEscape c with
    | some e => (unescape bytes fuel rest).map (e.toNat :: ·)
    | none =>
      if '0' ≤ c && c ≤ '7' then
        let (v, r) := octalEscape (c :: rest)
        (unescape bytes fuel r).map ((if bytes then v % 256 else v) :: ·)
      else if c = 'x' then do
        let (v, r) ← hexExactly 2 rest
        (unescape bytes fuel r).map (v :: ·)
      else if !bytes && (c = 'u' || c = 'U') then do
        let (v, r) ← hexExactly (if c = 'u' then 4 else 8) rest
        if v > 0x10FFFF then none
        (unescape bytes fuel r).map (v :: ·)
      else if !bytes && c = 'N' then
        match rest with
        | '\x7b' :: r =>
          match r.dropWhile (· ≠ '\x7d') with
          | _ :: r' =>
            let name := r.takeWhile (· ≠ '\x7d')
            if name.isEmpty then none
            else do
              let v ← CharName.lookup? name
              (unescape bytes fuel r').map (v :: ·)
          | [] => none
        | _ => none
      else (unescape bytes fuel rest).map (fun r => '\\'.toNat :: c.toNat :: r)
  | fuel + 1, c :: rest => (unescape bytes fuel rest).map (c.toNat :: ·)

/-- The body of a quoted text after its opening quote: the characters up to the closing quote
(three quotes for a triple-quoted text), a backslash carrying the next character along, and the
rest after the closing quote. No line break may stand in a single-quoted text. -/
def body (q : Char) (triple : Bool) : List Char → List Char → Option (List Char × List Char)
  | _, [] => none
  | acc, '\\' :: c :: rest => body q triple (c :: '\\' :: acc) rest
  | acc, c :: rest =>
    if c = q then
      if !triple then some (acc.reverse, rest)
      else match rest with
        | a :: b :: rest2 =>
          if a = q && b = q then some (acc.reverse, rest2) else body q triple (c :: acc) rest
        | _ => body q triple (c :: acc) rest
    else if c = '\n' && !triple then none
    else body q triple (c :: acc) rest

/-- A quoted text or bytes after the opening quote `q`, with the given prefix letters. -/
def quoted (raw isBytes : Bool) (q : Char) (s : List Char) : Option (Token × List Char) := do
  let (triple, s) := match s with
    | a :: b :: r => if a = q && b = q then (true, r) else (false, s)
    | _ => (false, s)
  let (cs, rest) ← body q triple [] s
  let points ← if raw then some (cs.map Char.toNat) else unescape isBytes (cs.length + 1) cs
  if isBytes then
    if cs.any (fun c => 128 ≤ c.toNat) then none
    pure (.bytes (points.map UInt8.ofNat), rest)
  else pure (.text (points.map Point.ofCode), rest)

/-- The prefixes a quoted text may have, in lower case: raw, text, bytes, raw bytes and
formatted ones. -/
def prefixes : List String := ["r", "u", "b", "br", "rb", "f", "fr", "rf"]

/-- Split a literal text into words. Blanks between words are spaces, tabs and form feeds; a
bracket opened deeper than `maxDepth` is refused, and so is every character that is not part of
a literal (operators, comments, names' neighbours). Formatted texts are refused. -/
def lex : Nat → Nat → List Char → List Token → Option (List Token)
  | 0, _, _, _ => none
  | _ + 1, _, [], acc => some acc.reverse
  | fuel + 1, depth, c :: rest, acc =>
    if c = ' ' || c = '\t' || c = '\x0c' then lex fuel depth rest acc
    else if c = '(' || c = '[' || c = '\x7b' then
      if maxDepth ≤ depth then none else lex fuel (depth + 1) rest (.punct c :: acc)
    else if c = ')' || c = ']' || c = '\x7d' then lex fuel (depth - 1) rest (.punct c :: acc)
    else if c = ',' || c = ':' || c = '+' || c = '-' then lex fuel depth rest (.punct c :: acc)
    else if c = '\'' || c = '"' then
      match quoted false false c rest with
      | some (t, r) => lex fuel depth r (t :: acc)
      | none => none
    else if c = '.' then
      match rest with
      | '.' :: '.' :: r => lex fuel depth r (.ellipsis :: acc)
      | d :: _ =>
        if '0' ≤ d && d ≤ '9' then
          match number (c :: rest) with
          | some (v, r) => lex fuel depth r (.number v :: acc)
          | none => none
        else none
      | [] => none
    else if '0' ≤ c && c ≤ '9' then
      match number (c :: rest) with
      | some (v, r) => lex fuel depth r (.number v :: acc)
      | none => none
    else if isNameStart c then
      let word := (c :: rest).takeWhile isNameChar
      let after := (c :: rest).dropWhile isNameChar
      let lower := String.ofList (word.map Char.toLower)
      match after with
      | q :: r =>
        if (q = '\'' || q = '"') && prefixes.contains lower then
          if lower.contains 'f' then none
          else match quoted (lower.contains 'r') (lower.contains 'b') q r with
            | some (t, r2) => lex fuel depth r2 (t :: acc)
            | none => none
        else lex fuel depth after (wordToken word :: acc)
      | [] => lex fuel depth after (wordToken word :: acc)
    else none

/-- How a parsed expression was written, which decides what it may be combined with: a plain
constant, a sign before a number constant, a real number plus or minus an imaginary one, the
name `set` (possibly in parentheses), which is a literal only when called with no arguments, or
anything else. -/
inductive Form where
  | constant
  | signed
  | sum
  | setName
  | other
  deriving DecidableEq

/-- Whether a value is a number that a sign may stand before: an integer, a double or a complex
number, not a truth value. -/
def isNumber : Value → Bool
  | .int _ | .float _ | .complex _ _ => true
  | _ => false

/-- The value with its sign flipped. -/
def negate : Value → Value
  | .int i => .int (-i)
  | .float x => .float (-x)
  | .complex re im => .complex (-re) (-im)
  | v => v

/-- A real number as a double; an integer too large for a double has none. -/
def realAsFloat : Value → Option Float
  | .int i =>
    let x := Binary.ofInt i
    if x.isInf then none else some x
  | .float x => some x
  | _ => none

/-- A real number plus (or minus) an imaginary one. -/
def addComplex (plus : Bool) (left right : Value) : Option Value := do
  let x ← realAsFloat left
  match right with
  | .complex re im =>
    if plus then some (.complex (x + re) (0.0 + im)) else some (.complex (x - re) (0.0 - im))
  | _ => none

/-- The members of a set from the values given, in order, equal ones once; none when one may
not be a member. -/
def setOf (vs : List Value) : Option Value :=
  if vs.all Value.isHashable then some (.set (vs.foldl Value.addMember [])) else none

/-- The mapping from the key–value pairs given, in order; none when a key may not be a key. -/
def dictOf (kvs : List (Value × Value)) : Option Value :=
  if kvs.all (fun kv => kv.1.isHashable) then
    some (.dict (kvs.foldl (fun acc kv => Value.putEntry acc kv.1 kv.2) []))
  else none

/-- Neighbouring quoted texts joined into one. -/
def textRun (acc : Text) : List Token → Option (Value × List Token)
  | .text t :: r => textRun (acc ++ t) r
  | .bytes _ :: _ => none
  | r => some (.str acc, r)

/-- Neighbouring quoted bytes joined into one. -/
def bytesRun (acc : List UInt8) : List Token → Option (Value × List Token)
  | .bytes c :: r => bytesRun (acc ++ c) r
  | .text _ :: _ => none
  | r => some (.bytes acc, r)

/-- Join neighbouring quoted texts, or neighbouring quoted bytes; mixing them is refused. -/
def joinQuoted : List Token → Option (Value × List Token)
  | .text s :: rest => textRun s rest
  | .bytes b :: rest => bytesRun b rest
  | _ => none

/-- Whether a token is the punctuation `c`. -/
def isPunct (c : Char) : Token → Bool
  | .punct d => c == d
  | _ => false

/-- The name `set` followed by `()` makes the empty set; anything else is left as it is. -/
def callSet : (Value × Form) × List Token → (Value × Form) × List Token
  | ((v, .setName), a :: b :: rest) =>
    if isPunct '(' a && isPunct ')' b then ((.set [], .other), rest)
    else ((v, .setName), a :: b :: rest)
  | r => r

/-- An expression taken as a value: the bare name `set` is none. -/
def asValue (r : (Value × Form) × List Token) : Option ((Value × Form) × List Token) :=
  if r.1.2 = .setName then none else some r

mutual
/-- An expression: a signed term, possibly plus or minus an imaginary number. -/
def expr : Nat → List Token → Option ((Value × Form) × List Token)
  | 0, _ => none
  | fuel + 1, ts => do
    let ((v, f), rest) ← signed fuel ts
    match rest with
    | t :: rest1 =>
      if isPunct '+' t || isPunct '-' t then
        if f = .other || f = .sum || f = .setName then none
        let ((w, g), rest2) ← signed fuel rest1
        if g ≠ .constant then none
        let s ← addComplex (isPunct '+' t) v w
        match rest2 with
        | t2 :: _ => if isPunct '+' t2 || isPunct '-' t2 then none else pure ((s, .sum), rest2)
        | [] => pure ((s, .sum), rest2)
      else pure ((v, f), rest)
    | [] => pure ((v, f), rest)

/-- A term with an optional sign; a sign stands only before a number constant. -/
def signed : Nat → List Token → Option ((Value × Form) × List Token)
  | 0, _ => none
  | fuel + 1, t :: rest =>
    if isPunct '+' t || isPunct '-' t then do
      let ((v, f), rest1) ← signed fuel rest
      if f ≠ .constant || !isNumber v then none
      pure (((if isPunct '-' t then negate v else v), .signed), rest1)
    else callSet <$> atom fuel (t :: rest)
  | fuel + 1, [] => callSet <$> atom fuel []

/-- A constant, a bracketed expression, tuple, list, set or mapping, or the name `set`. -/
def atom : Nat → List Token → Option ((Value × Form) × List Token)
  | 0, _ => none
  | _ + 1, .number v :: rest => some ((v, .constant), rest)
  | _ + 1, .ellipsis :: rest => some ((.ellipsis, .constant), rest)
  | _ + 1, .constant v :: rest => some ((v, .constant), rest)
  | _ + 1, .name n :: rest =>
    if n = "set" then some ((.nothing, .setName), rest)
    else none
  | fuel + 1, .punct c :: rest =>
    if c = '(' then
      match rest with
      | t :: rest1 =>
        if isPunct ')' t then some ((.tuple [], .other), rest1)
        else do
          let ((v, f), rest2) ← expr fuel rest
          match rest2 with
          | u :: r =>
            if isPunct ')' u then pure ((v, f), r)
            else if isPunct ',' u then do
              if f = .setName then none
              let (vs, r2) ← items fuel ')' r
              pure ((.tuple (v :: vs), .other), r2)
            else none
          | [] => none
      | [] => none
    else if c = '[' then do
      let (vs, r) ← items fuel ']' rest
      pure ((.list vs, .other), r)
    else if c = '\x7b' then
      match rest with
      | t :: rest1 =>
        if isPunct '\x7d' t then some ((.dict [], .other), rest1)
        else do
          let ((k, _), rest2) ← asValue (← expr fuel rest)
          match rest2 with
          | u :: r =>
            if isPunct ':' u then do
              let ((v, _), r2) ← asValue (← expr fuel r)
              let (kvs, r3) ← entries fuel r2
              let d ← dictOf ((k, v) :: kvs)
              pure ((d, .other), r3)
            else if isPunct ',' u then do
              let (vs, r2) ← items fuel '\x7d' r
              let st ← setOf (k :: vs)
              pure ((st, .other), r2)
            else if isPunct '\x7d' u then do
              let st ← setOf [k]
              pure ((st, .other), r)
            else none
          | [] => none
      | [] => none
    else none
  | _ + 1, ts => do
    let (v, rest) ← joinQuoted ts
    pure ((v, .constant), rest)

/-- Items separated by commas up to the closing bracket `close`, a comma allowed before it. -/
def items : Nat → Char → List Token → Option (List Value × List Token)
  | 0, _, _ => none
  | fuel + 1, close, ts =>
    match ts with
    | t :: rest =>
      if isPunct close t then some ([], rest)
      else do
        let ((v, _), rest1) ← asValue (← expr fuel ts)
        match rest1 with
        | u :: r =>
          if isPunct close u then pure ([v], r)
          else if isPunct ',' u then do
            let (vs, r2) ← items fuel close r
            pure (v :: vs, r2)
          else none
        | [] => none
    | [] => none

/-- Mapping entries after the first, each after a comma, up to the closing brace. -/
def entries : Nat → List Token → Option (List (Value × Value) × List Token)
  | 0, _ => none
  | fuel + 1, t :: rest =>
    if isPunct '\x7d' t then some ([], rest)
    else if isPunct ',' t then
      match rest with
      | u :: rest1 =>
        if isPunct '\x7d' u then some ([], rest1)
        else do
          let ((k, _), r) ← asValue (← expr fuel rest)
          match r with
          | w :: r1 =>
            if isPunct ':' w then do
              let ((v, _), r2) ← asValue (← expr fuel r1)
              let (kvs, r3) ← entries fuel r2
              pure ((k, v) :: kvs, r3)
            else none
          | [] => none
      | [] => none
    else none
  | _ + 1, [] => none
end

/-- The grammar's token for a word of a literal. -/
def Token.terminal : Token → Grammar.Terminal
  | .number _ => .number
  | .text _ | .bytes _ => .string
  | .name _ => .name
  | .constant (.bool true) => .word "True"
  | .constant (.bool false) => .word "False"
  | .constant _ => .word "None"
  | .ellipsis => .word "..."
  | .punct c => .word (String.singleton c)

/-- The grammar's tokens for the words of a literal, with the line end and the end marker. -/
def terminals (ts : List Token) : Array Grammar.Terminal :=
  (ts.map Token.terminal).toArray ++ #[.newline, .endMarker]

/-- Whether a literal text starts indented. Spaces and tabs before it are dropped; a form feed
sets the column back to the start of the line, so the text is indented when its leading blanks
hold a space or a tab after their last form feed. -/
def indented (cs : List Char) : Bool :=
  let isBlank (c : Char) : Bool := c = ' ' || c = '\t'
  let lead := (cs.dropWhile isBlank).takeWhile fun c => isBlank c || c = '\x0c'
  (lead.reverse.takeWhile (· ≠ '\x0c')).any isBlank

/-- The value of the words of a literal. Literals separated by commas at the top level, without
brackets, form a tuple, as if in parentheses. Every parsing step spends one unit of fuel, and a
few steps at most pass before a word is consumed. -/
def ofTokens? (ts : List Token) : Option Value := do
  let fuel := 8 * (ts.length + 2)
  let ((v, _), rest) ← asValue (← expr fuel ts)
  match rest with
  | [] => some v
  | t :: r =>
    if isPunct ',' t then do
      let (vs, r2) ← items fuel ')' (r ++ [.punct ')'])
      if r2.isEmpty then some (.tuple (v :: vs)) else none
    else none

/-- The value of a literal text, or none when it is not a literal. A text with a surrogate in
it is not a literal, and neither is one whose parse nests the grammar's rule calls deeper than
the parser allows (`Grammar.overflows`). -/
def read? (text : Text) : Option Value := do
  let cs ← text.chars?
  if cs.contains '\x00' || indented cs then none
  let ts ← lex (cs.length + 1) 0 cs []
  let v ← ofTokens? ts
  if Grammar.overflows (terminals ts) then none
  some v

end Literal

end NodeCatalog
