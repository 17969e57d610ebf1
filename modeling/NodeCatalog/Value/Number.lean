import NodeCatalog.Value.Basic
import NodeCatalog.Decimal.Read
/-!
# Values read as doubles

The double a value stands for, where there is one: text is read as number text, a truth value is one
or zero, an integer is rounded to the nearest double (none beyond the largest double), and a double
is itself. Other kinds stand for no double. This is `float()` on any value, as `safe_float` calls it
(`src/tools/extract_schemas.py`, lines 15–19).

- `Value.toFloat?`: the double of a value; `Value.ofFloat?` the value of a double or nothing.
-/

namespace NodeCatalog

namespace Value

/-- The double a value stands for, or none. -/
def toFloat? : Value → Option Float
  | .str s => Decimal.readFloat? s
  | .bool b => some (if b then 1.0 else 0.0)
  | .int i =>
    let x := Binary.ofInt i
    if x.isInf then none else some x
  | .float x => some x
  | _ => none

/-- A double, or nothing. -/
def ofFloat? : Option Float → Value
  | some x => .float x
  | none => .nothing

end Value

end NodeCatalog
