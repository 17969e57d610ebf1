import NodeCatalog.Value.Basic
import NodeCatalog.Decimal.Shortest
import NodeCatalog.Decimal.Read
import NodeCatalog.Fault
/-!
# Writing JSON documents

Values written as JSON text. Text is quoted with `"`, a backslash before `"` and `\`, short escapes
for the usual controls and `\u00XX` for the others; everything else, non-ASCII included, stands as
it is. Doubles take their shortest text, and the non-finite ones the words `NaN`, `Infinity` and
`-Infinity`. This is `json.dump(..., indent=2, ensure_ascii=False)` as `run_schema_extraction`
(`src/tools/extract_schemas.py`, line 226) and `run_doc_extraction` (`src/tools/extract_docs.py`,
lines 116 and 122) call it.

Text may hold surrogates: they stand as they are, and it is the file that refuses them when the
text is stored as UTF-8.

An indented document is written piece by piece, two spaces for each level: arrays and objects
open on their own line, each item on a line of its own, the closing bracket on a line at the
outer level, and `[]` and `{}` when empty. A value JSON cannot hold (a set, a complex number,
bytes, the ellipsis), a key that is neither text nor a number nor a truth value nor nothing, or
an integer of more than `Decimal.digitLimit` digits stops the writing with a fault, and what was
written before it stays written: a document can end half way.

- `Json.quote`: the quoted form of a text.
- `Json.renderFloat`: the text of a double.
- `Json.render`: compact text of a value (for values JSON can hold).
- `Json.writeIndented`: the pieces of the indented text, and the fault that cut it short, if
  any.
-/

namespace NodeCatalog

namespace Json

/-- The escaped form of one character inside a quoted text. -/
def escapeChar (c : Char) : List Char :=
  if c = '"' then ['\\', '"']
  else if c = '\\' then ['\\', '\\']
  else if c = '\n' then ['\\', 'n']
  else if c = '\r' then ['\\', 'r']
  else if c = '\t' then ['\\', 't']
  else if c = '\x08' then ['\\', 'b']
  else if c = '\x0c' then ['\\', 'f']
  else if c.toNat < 0x20 then ['\\', 'u'] ++ Text.hexDigits 4 c.toNat
  else [c]

/-- The escaped form of one code point: a surrogate stands as it is. -/
def escapePoint : Point → Text
  | .char c => (escapeChar c).map .char
  | .surrogate n => [.surrogate n]

/-- The quoted form of a text. -/
def quote (s : Text) : Text :=
  .char '"' :: s.flatMap escapePoint ++ [.char '"']

/-- The text of a double: shortest digits when finite, else `NaN`, `Infinity` or `-Infinity`. -/
def renderFloat (x : Float) : String :=
  if x.isNaN then "NaN"
  else if x.isInf then (if x > 0 then "Infinity" else "-Infinity")
  else Shortest.renderFinite x

/-- The decimal text of an integer, refused beyond `Decimal.digitLimit` digits. -/
def renderInt (i : Int) : Except Fault String :=
  let ds := Nat.toDigits 10 i.natAbs
  if Decimal.digitLimit < ds.length then .error .tooLongToWrite
  else .ok ((if i < 0 then "-" else "") ++ String.ofList ds)

/-- The text of a value that is written on its own: text, nothing, a truth value or a number.
None for containers and for values JSON cannot hold. -/
def scalar? : Value → Option (Except Fault Text)
  | .str s => some (.ok (quote s))
  | .nothing => some (.ok "null")
  | .bool true => some (.ok "true")
  | .bool false => some (.ok "false")
  | .int i => some (Text.ofString <$> renderInt i)
  | .float x => some (.ok (renderFloat x))
  | _ => none

/-- The text of a mapping key: text as it is, a double by its text, a truth value or nothing by
its word, an integer by its digits; any other key is refused. -/
def keyText : Value → Except Fault Text
  | .str s => .ok s
  | .float x => .ok (renderFloat x)
  | .bool true => .ok "true"
  | .bool false => .ok "false"
  | .nothing => .ok "null"
  | .int i => Text.ofString <$> renderInt i
  | v => .error (.keyNotWritable v.kind)

mutual
/-- Compact text of a value JSON can hold; keys that are not text are written by `keyText`, and
values JSON cannot hold as `null`. -/
def render : Value → Text
  | .list items => Text.ofString "[" ++ renderItems items ++ Text.ofString "]"
  | .tuple items => Text.ofString "[" ++ renderItems items ++ Text.ofString "]"
  | .dict entries => Text.ofString "\x7b" ++ renderEntries entries ++ Text.ofString "\x7d"
  | v =>
    match scalar? v with
    | some (.ok t) => t
    | _ => "null"

/-- Compact text of the items of an array, separated by commas. -/
def renderItems : List Value → Text
  | [] => []
  | [v] => render v
  | v :: vs => render v ++ Text.ofString "," ++ renderItems vs

/-- Compact text of the entries of an object, separated by commas. -/
def renderEntries : List (Value × Value) → Text
  | [] => []
  | [(k, v)] => quote ((keyText k).toOption.getD []) ++ Text.ofString ":" ++ render v
  | (k, v) :: es => quote ((keyText k).toOption.getD []) ++ Text.ofString ":" ++ render v ++
      Text.ofString "," ++ renderEntries es
end

/-- Writing piece by piece: the pieces written so far, the latest first, are kept when a fault
stops the writing. -/
abbrev Emit := ExceptT Fault (StateM (List Text))

/-- Write a piece of text. -/
def put (t : Text) : Emit Unit :=
  modify (t :: ·)

/-- A line break and the indent of a level. -/
def newline (level : Nat) : Text :=
  .char '\n' :: List.replicate (2 * level) (.char ' ')

/-- Stop with a fault. -/
def fail (f : Fault) : Emit Unit :=
  throw f

/-- Close an array or object opened at `level`: a line break back to that level, then the
bracket. -/
def close (level : Nat) (bracket : String) : Emit Unit := do
  put (newline level)
  put bracket

mutual
/-- Write a value at an indent level. An empty array or object is `[]` or `{}`; otherwise its
items or entries stand one per line, one level deeper. -/
def writeValue (level : Nat) : Value → Emit Unit
  | .list [] => put "[]"
  | .tuple [] => put "[]"
  | .dict [] => put "\x7b\x7d"
  | .list items => do
    writeItems (level + 1) (Text.ofString "[" ++ newline (level + 1)) items
    close level "]"
  | .tuple items => do
    writeItems (level + 1) (Text.ofString "[" ++ newline (level + 1)) items
    close level "]"
  | .dict entries => do
    put "\x7b"
    put (newline (level + 1))
    writeEntries (level + 1) true entries
    close level "\x7d"
  | v =>
    match scalar? v with
    | some (.ok t) => put t
    | some (.error f) => fail f
    | none => fail (.notWritable v.kind)

/-- Write the items of an array, each preceded by `lead`: the opening bracket and line break
for the first, a comma and line break for the others. Text, numbers, truth values and nothing
are written together with their lead, so a number too long to write takes its lead with it;
anything else is written after its lead. -/
def writeItems (level : Nat) (lead : Text) : List Value → Emit Unit
  | [] => pure ()
  | v :: vs => do
    match scalar? v with
    | some (.ok t) => put (lead ++ t)
    | some (.error f) => fail f
    | none =>
      put lead
      writeValue level v
    writeItems level (Text.ofString "," ++ newline level) vs

/-- Write the entries of an object: the key is checked before the separator is written, then
the quoted key, `: ` and the value. -/
def writeEntries (level : Nat) (first : Bool) : List (Value × Value) → Emit Unit
  | [] => pure ()
  | (k, v) :: es => do
    match keyText k with
    | .error f => fail f
    | .ok key =>
      if !first then put (Text.ofString "," ++ newline level)
      put (quote key)
      put ": "
      writeValue level v
      writeEntries level false es
end

/-- The pieces of the indented text of a value, in order, and the fault that stopped the
writing, if one did. -/
def writeIndented (v : Value) : List Text × Option Fault :=
  let (r, pieces) := (writeValue 0 v).run.run []
  match r with
  | .ok () => (pieces.reverse, none)
  | .error f => (pieces.reverse, some f)

end Json

end NodeCatalog
