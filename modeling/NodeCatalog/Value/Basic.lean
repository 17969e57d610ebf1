import NodeCatalog.Decimal.Binary
import NodeCatalog.Text.Point
/-!
# Values

The data an extraction reads and writes: the values a literal in source text can denote, which are
also the values a JSON document holds and the arguments a caller may pass. Sets and mappings keep
their members in the order they were first given, with equal members merged, and numbers of
different kinds are equal when they stand for the same number. They are the Python values
`ast.literal_eval` gives in `extract_metadata` (`src/tools/extract_docs.py`, line 61) and
`json.dump` writes.

- `Value`: the kinds of value.
- `Value.kind`: the name of a value's kind, as messages show it.
- `Value.isHashable`, `Value.sameKey`: which values may be members of a set or keys of a
  mapping, and when two of them count as one.
- `Value.addMember`, `Value.putEntry`: add to a set, and set a key of a mapping.
-/

namespace NodeCatalog

/-- A value: nothing, a truth value, a number (integer, double or complex), text, bytes, the
ellipsis, or a container (tuple, list, set or mapping). -/
inductive Value where
  | nothing
  | bool (b : Bool)
  | int (i : Int)
  | float (x : Float)
  | complex (re im : Float)
  | str (s : Text)
  | bytes (b : List UInt8)
  | ellipsis
  | tuple (items : List Value)
  | list (items : List Value)
  | set (items : List Value)
  | dict (entries : List (Value × Value))
  deriving Inhabited

namespace Value

/-- The name of a value's kind. -/
def kind : Value → String
  | .nothing => "NoneType"
  | .bool _ => "bool"
  | .int _ => "int"
  | .float _ => "float"
  | .complex _ _ => "complex"
  | .str _ => "str"
  | .bytes _ => "bytes"
  | .ellipsis => "ellipsis"
  | .tuple _ => "tuple"
  | .list _ => "list"
  | .set _ => "set"
  | .dict _ => "dict"

/-- A number of any kind, for comparing numbers across kinds. -/
inductive Number where
  | int (i : Int)
  | float (x : Float)
  | complex (re im : Float)

/-- The number a value stands for: truth values are `0` and `1`. -/
def number? : Value → Option Number
  | .bool b => some (.int (if b then 1 else 0))
  | .int i => some (.int i)
  | .float x => some (.float x)
  | .complex re im => some (.complex re im)
  | _ => none

/-- Whether two real numbers are equal: integers exactly, doubles as doubles, and an integer and
a double when the double is that integer. -/
def realEq : Number → Number → Bool
  | .int i, .int j => i == j
  | .int i, .float x => Binary.equalsInt x i
  | .float x, .int i => Binary.equalsInt x i
  | .float x, .float y => x == y
  | _, _ => false

/-- Whether two numbers are equal; a complex number equals a real one when its imaginary part is
zero and its real part equals it. -/
def Number.eq : Number → Number → Bool
  | .complex a b, .complex c d => a == c && b == d
  | .complex a b, n => b == 0 && realEq (.float a) n
  | n, .complex a b => b == 0 && realEq n (.float a)
  | m, n => realEq m n

mutual
/-- Whether a value may be a member of a set or a key of a mapping: lists, sets and mappings
may not, nor a tuple that holds one. -/
def isHashable : Value → Bool
  | .tuple items => allHashable items
  | .list _ => false
  | .set _ => false
  | .dict _ => false
  | _ => true

/-- Whether every value of a list is hashable. -/
def allHashable : List Value → Bool
  | [] => true
  | v :: vs => isHashable v && allHashable vs
end

mutual
/-- Whether two hashable values count as one member of a set: equal numbers of any kind, equal
texts, equal bytes, nothing and nothing, the ellipsis and itself, and tuples of such values. -/
def sameKey : Value → Value → Bool
  | .nothing, .nothing => true
  | .ellipsis, .ellipsis => true
  | .str s, .str t => s == t
  | .bytes x, .bytes y => x == y
  | .tuple xs, .tuple ys => sameKeys xs ys
  | a, b =>
    match a.number?, b.number? with
    | some m, some n => m.eq n
    | _, _ => false

/-- Whether two lists of values agree member by member. -/
def sameKeys : List Value → List Value → Bool
  | [], [] => true
  | x :: xs, y :: ys => sameKey x y && sameKeys xs ys
  | _, _ => false
end

/-- Add a member to a set kept in first-seen order: a member equal to one already there is not
added again. -/
def addMember (members : List Value) (v : Value) : List Value :=
  if members.any (sameKey · v) then members else members ++ [v]

/-- Set a key of a mapping kept in first-seen order: an equal key keeps its place and its first
spelling and takes the new value. -/
def putEntry (entries : List (Value × Value)) (k v : Value) : List (Value × Value) :=
  if entries.any (fun e => sameKey e.1 k) then
    entries.map fun e => if sameKey e.1 k then (e.1, v) else e
  else entries ++ [(k, v)]

end Value

end NodeCatalog
