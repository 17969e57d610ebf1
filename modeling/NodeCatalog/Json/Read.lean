import NodeCatalog.Value.Basic
import NodeCatalog.Decimal.Binary
/-!
# Reading JSON documents

A JSON document read into a `Value`: objects become mappings with text keys (a repeated key keeps
its first place and takes the last value), arrays become lists, numbers with a fraction or an
exponent become doubles and the others integers. A `\u` escape of a surrogate that is not part of a
pair stands for that surrogate. The words `NaN`, `Infinity` and `-Infinity` are read as the doubles
they name, since documents written by `Json.Write` may hold them. It reads the command line's input;
no function of `src/tools` reads JSON.

- `Json.read?`: the value of a whole document, or none when the text is not one.
-/

namespace NodeCatalog

namespace Json

/-- The blanks allowed between the parts of a document. -/
def isSpace (c : Char) : Bool :=
  c = ' ' || c = '\t' || c = '\n' || c = '\r'

/-- Skip blanks. -/
def skip (s : List Char) : List Char :=
  s.dropWhile isSpace

/-- The value of one hex digit. -/
def hexValue? (c : Char) : Option Nat :=
  if '0' ≤ c && c ≤ '9' then some (c.toNat - 0x30)
  else if 'a' ≤ c && c ≤ 'f' then some (c.toNat - 0x61 + 10)
  else if 'A' ≤ c && c ≤ 'F' then some (c.toNat - 0x41 + 10)
  else none

/-- The number of four hex digits. -/
def hex4? (a b c d : Char) : Option Nat := do
  let a ← hexValue? a
  let b ← hexValue? b
  let c ← hexValue? c
  let d ← hexValue? d
  some (((a * 16 + b) * 16 + c) * 16 + d)

/-- The code point of a `\u` escape that is not part of a surrogate pair. -/
def unitPoint (u : Nat) : Point :=
  Point.ofCode u

/-- The code points of a string body up to its closing quote, escapes resolved; a high surrogate
escape followed by a low surrogate escape makes one character. Control characters may not stand
unescaped. -/
def readChars : Text → List Char → Option (Text × List Char)
  | _, [] => none
  | acc, '"' :: rest => some (acc.reverse, rest)
  | acc, '\\' :: '"' :: r => readChars (.char '"' :: acc) r
  | acc, '\\' :: '\\' :: r => readChars (.char '\\' :: acc) r
  | acc, '\\' :: '/' :: r => readChars (.char '/' :: acc) r
  | acc, '\\' :: 'b' :: r => readChars (.char '\x08' :: acc) r
  | acc, '\\' :: 'f' :: r => readChars (.char '\x0c' :: acc) r
  | acc, '\\' :: 'n' :: r => readChars (.char '\n' :: acc) r
  | acc, '\\' :: 'r' :: r => readChars (.char '\r' :: acc) r
  | acc, '\\' :: 't' :: r => readChars (.char '\t' :: acc) r
  | acc, '\\' :: 'u' :: a :: b :: c :: d :: '\\' :: 'u' :: e :: f :: g :: h :: r =>
    match hex4? a b c d, hex4? e f g h with
    | some hi, some lo =>
      if 0xD800 ≤ hi ∧ hi < 0xDC00 ∧ 0xDC00 ≤ lo ∧ lo < 0xE000 then
        readChars (.char (Char.ofNat (0x10000 + (hi - 0xD800) * 0x400 + (lo - 0xDC00))) :: acc) r
      else readChars (unitPoint hi :: acc) ('\\' :: 'u' :: e :: f :: g :: h :: r)
    | _, _ => none
  | acc, '\\' :: 'u' :: a :: b :: c :: d :: r =>
    match hex4? a b c d with
    | some u => readChars (unitPoint u :: acc) r
    | none => none
  | _, '\\' :: _ => none
  | acc, c :: rest => if c.toNat < 0x20 then none else readChars (.char c :: acc) rest
termination_by _ s => s.length

/-- Split off the longest run of ASCII digits. -/
def digits (s : List Char) : List Char × List Char :=
  (s.takeWhile (fun c => '0' ≤ c && c ≤ '9'), s.dropWhile (fun c => '0' ≤ c && c ≤ '9'))

/-- The number of a run of ASCII digits. -/
def natOf (ds : List Char) : Nat :=
  ds.foldl (fun n c => 10 * n + (c.toNat - 0x30)) 0

/-- A number: `-`, then `0` or digits not starting with `0`, an optional fraction and an
optional exponent. With neither it is an integer, otherwise a double. -/
def readNumber (s : List Char) : Option (Value × List Char) :=
  let (neg, s) := match s with
    | '-' :: r => (true, r)
    | _ => (false, s)
  let (intPart, s) := match s with
    | '0' :: r => (['0'], r)
    | _ => digits s
  if intPart.isEmpty then none
  else
    let (frac, s, hasFrac) := match s with
      | '.' :: r =>
        let (f, r') := digits r
        if f.isEmpty then ([], s, false) else (f, r', true)
      | _ => ([], s, false)
    let (ex, s, hasExp) := match s with
      | e :: r =>
        if e = 'e' || e = 'E' then
          let (eneg, r') := match r with
            | '-' :: q => (true, q)
            | '+' :: q => (false, q)
            | _ => (false, r)
          let (ed, r'') := digits r'
          if ed.isEmpty then ((0 : Int), s, false)
          else ((if eneg then -(natOf ed : Int) else natOf ed), r'', true)
        else (0, s, false)
      | [] => (0, s, false)
    if hasFrac || hasExp then
      some (.float (Binary.ofDecimal neg (natOf (intPart ++ frac)) (ex - frac.length)), s)
    else
      let n : Int := natOf intPart
      some (.int (if neg then -n else n), s)

/-- Whether `w` begins `s`, and what follows it. -/
def word? (w : List Char) (s : List Char) : Option (List Char) :=
  if w.isPrefixOf s then some (s.drop w.length) else none

mutual
/-- One value at the start of a text (blanks before it skipped), and the text after it. Each
nested call spends one unit of `fuel`, which the caller sets to the length of the text. -/
def readValue : Nat → List Char → Option (Value × List Char)
  | 0, _ => none
  | fuel + 1, s =>
    match skip s with
    | '{' :: r =>
      match skip r with
      | '}' :: r' => some (.dict [], r')
      | _ => readEntries fuel r []
    | '[' :: r =>
      match skip r with
      | ']' :: r' => some (.list [], r')
      | _ => readItems fuel r []
    | '"' :: r => (readChars [] r).map fun (cs, r') => (.str cs, r')
    | s' =>
      match word? "null".toList s' with
      | some r => some (.nothing, r)
      | none =>
      match word? "true".toList s' with
      | some r => some (.bool true, r)
      | none =>
      match word? "false".toList s' with
      | some r => some (.bool false, r)
      | none =>
      match word? "NaN".toList s' with
      | some r => some (.float (0.0 / 0.0), r)
      | none =>
      match word? "Infinity".toList s' with
      | some r => some (.float (1.0 / 0.0), r)
      | none =>
      match word? "-Infinity".toList s' with
      | some r => some (.float (-(1.0 / 0.0)), r)
      | none => readNumber s'

/-- The items of an array after its opening bracket, up to and including the closing one. -/
def readItems : Nat → List Char → List Value → Option (Value × List Char)
  | 0, _, _ => none
  | fuel + 1, s, acc =>
    match readValue fuel s with
    | some (v, r) =>
      match skip r with
      | ',' :: r' => readItems fuel r' (v :: acc)
      | ']' :: r' => some (.list (v :: acc).reverse, r')
      | _ => none
    | none => none

/-- The entries of an object after its opening brace, up to and including the closing one. -/
def readEntries : Nat → List Char → List (Value × Value) → Option (Value × List Char)
  | 0, _, _ => none
  | fuel + 1, s, acc =>
    match skip s with
    | '"' :: r =>
      match readChars [] r with
      | some (k, r) =>
        match skip r with
        | ':' :: r =>
          match readValue fuel r with
          | some (v, r) =>
            let acc := Value.putEntry acc (.str k) v
            match skip r with
            | ',' :: r' => readEntries fuel r' acc
            | '}' :: r' => some (.dict acc, r')
            | _ => none
          | none => none
        | _ => none
      | none => none
    | _ => none
end

/-- The value of a whole document: one value with nothing but blanks after it. -/
def read? (text : String) : Option Value :=
  let s := text.toList
  match readValue (s.length + 1) s with
  | some (v, rest) => if (skip rest).isEmpty then some v else none
  | none => none

end Json

end NodeCatalog
