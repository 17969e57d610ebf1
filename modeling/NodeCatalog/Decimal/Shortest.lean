import NodeCatalog.Decimal.Binary
/-!
# Shortest decimal text of a double

A double is written with the fewest significant digits that read back to it; of two such decimals
the nearer is taken, and of two equally near the one with the even last digit. The digits are then
laid out positionally when the decimal point falls within sixteen places of the first digit, and in
scientific form otherwise. This is the float text `json.dump` writes for a version number
(`src/tools/extract_schemas.py`, line 226).

- `Shortest.digits`: the shortest digits `d` and exponent `t` with `d * 10 ^ t` reading back.
- `Shortest.render`: the text of a finite double (`1.0`, `0.0001`, `1e-05`, `1e+16`, `-0.0`).

The search follows the interval of reals that round to the double: `4m ± 2` in units of
`2 ^ (scale - 2)`, with a lower gap half as wide at a power of two, ends included when the
significand is even. For each digit count the two neighbours of the double on the decimal grid
are the only candidates.
-/

namespace NodeCatalog

namespace Shortest

open Binary

/-- Compare `a * 10 ^ ta` with `b * 2 ^ sb`, exactly. -/
def compareScaled (a : Nat) (ta : Int) (b : Nat) (sb : Int) : Ordering :=
  let lhs := a * Nat.pow 10 (max ta 0).toNat * Nat.pow 2 (max (-sb) 0).toNat
  let rhs := b * Nat.pow 2 (max sb 0).toNat * Nat.pow 10 (max (-ta) 0).toNat
  compare lhs rhs

/-- `⌊log₁₀ (num / den)⌋` for `num` and `den` positive: digit counts give it up to one. -/
def floorLog10 (num den : Nat) : Int :=
  let t : Int := ((Nat.toDigits 10 num).length : Int) - (Nat.toDigits 10 den).length
  let ok := if 0 ≤ t then den * Nat.pow 10 t.toNat ≤ num else den ≤ num * Nat.pow 10 (-t).toNat
  if ok then t else t - 1

/-- Remove trailing zeros of `d`, raising the exponent `t` to match. -/
def stripZeros (d : Nat) (t : Int) (fuel : Nat) : Nat × Int :=
  match fuel with
  | 0 => (d, t)
  | fuel + 1 => if d ≠ 0 ∧ d % 10 = 0 then stripZeros (d / 10) (t + 1) fuel else (d, t)

/-- The shortest digits of a positive finite double with significand `m` and scale `s`:
a pair `(d, t)` such that `d * 10 ^ t` rounds to the double, with as few digits in `d` as
possible, nearest to the double among those, the even last digit on a tie. -/
def digitsOf (m : Nat) (s : Int) (halfBelow : Bool) : Nat × Int :=
  let v := 4 * m
  let hi := 4 * m + 2
  let lo := if halfBelow then 4 * m - 1 else 4 * m - 2
  let sc := s - 2
  let inclusive := m % 2 = 0
  let inside (d : Nat) (t : Int) : Bool :=
    let cl := compareScaled d t lo sc
    let ch := compareScaled d t hi sc
    (cl = .gt || (inclusive && cl = .eq)) && (ch = .lt || (inclusive && ch = .eq))
  -- `num / den` is the double itself
  let num := v * Nat.pow 2 (max sc 0).toNat
  let den := Nat.pow 2 (max (-sc) 0).toNat
  let k := floorLog10 num den + 1
  let pick (n : Nat) : Option (Nat × Int) :=
    let t : Int := k - n
    let d1 := num * Nat.pow 10 (max (-t) 0).toNat / (den * Nat.pow 10 (max t 0).toNat)
    let d2 := d1 + 1
    let in1 := inside d1 t
    let in2 := inside d2 t
    if in1 && in2 then
      -- the double lies nearer to `d1` when it is below their midpoint `(2 d1 + 1) / 2`
      match compareScaled (2 * d1 + 1) t (2 * v) sc with
      | .gt => some (d1, t)
      | .lt => some (d2, t)
      | .eq => some (if d1 % 2 = 0 then d1 else d2, t)
    else if in1 then some (d1, t)
    else if in2 then some (d2, t)
    else none
  let found := (List.range' 1 17).findSome? pick
  match found with
  | some (d, t) => stripZeros d t 20
  | none => stripZeros m s 0

/-- The shortest digits of a positive finite double, with trailing zeros removed. -/
def digits (p : Parts) : Nat × Int :=
  digitsOf p.significand p.scale (p.fraction = 0 && 1 < p.exponent)

/-- Scientific notation for a digit string and the position of the decimal point: the first
digit, the rest after a point if there is any, and an exponent with its sign and at least two
digits. -/
def scientific (ds : List Char) (point : Int) : String :=
  let e := point - 1
  let mant := match ds with
    | [] => "0"
    | [c] => String.ofList [c]
    | c :: rest => String.ofList (c :: '.' :: rest)
  let ed := Nat.toDigits 10 e.natAbs
  let ed := if ed.length < 2 then '0' :: ed else ed
  mant ++ "e" ++ (if e < 0 then "-" else "+") ++ String.ofList ed

/-- Positional notation for a digit string and the position of the decimal point, always with
a point and at least one digit after it. -/
def positional (ds : List Char) (point : Int) : String :=
  if point ≤ 0 then
    "0." ++ String.ofList (List.replicate (-point).toNat '0') ++ String.ofList ds
  else if ds.length ≤ point.toNat then
    String.ofList ds ++ String.ofList (List.replicate (point.toNat - ds.length) '0') ++ ".0"
  else
    String.ofList (ds.take point.toNat) ++ "." ++ String.ofList (ds.drop point.toNat)

/-- The text of a finite double: shortest digits, positional while the decimal point lies
after the fourth place behind the point and at most sixteen places ahead of it, scientific
otherwise. Zero is `0.0` with its sign. -/
def renderFinite (x : Float) : String :=
  let p := Parts.ofFloat x
  let sign := if p.negative then "-" else ""
  if p.exponent = 0 ∧ p.fraction = 0 then sign ++ "0.0"
  else
    let (d, t) := digits p
    let ds := Nat.toDigits 10 d
    let point : Int := t + ds.length
    if point ≤ -4 ∨ 16 < point then sign ++ scientific ds point
    else sign ++ positional ds point

end Shortest

end NodeCatalog
