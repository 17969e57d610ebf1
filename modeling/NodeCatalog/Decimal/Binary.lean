/-!
# Doubles as exact numbers

A double is a sign, an 11-bit exponent field and a 52-bit fraction field. This module reads a double
as the exact number it stands for, and finds, for a positive rational number, the double nearest to
it, a tie going to the even significand. Every other module that reads or compares numbers goes
through these two directions, so reading is correctly rounded everywhere. Powers of naturals are
written `Nat.pow`, which denotes one function whichever algebraic instances are in scope. It serves
`float()` in `safe_float` (`src/tools/extract_schemas.py`, lines 15–19) and the float texts
`json.dump` writes.

- `Binary.Parts`: the three fields of a double.
- `Binary.Parts.significand`, `Binary.Parts.scale`: a finite positive double is exactly
  `significand * 2 ^ scale`.
- `Binary.nearest`: the double nearest to `num / den`.
- `Binary.ofInt`: the double nearest to an integer; `Binary.decimalParts`, `Binary.ofDecimal`:
  the double nearest to a decimal.
- `Binary.Parts.le`, `Binary.Parts.lt`, `Binary.Parts.beq`: comparing doubles, read off their
  fields: a double that is not a number compares false with everything, and the two zeros are
  equal.
-/

namespace NodeCatalog

namespace Binary

/-- The three fields of a double. -/
structure Parts where
  negative : Bool
  /-- The biased exponent field, below `2048`. -/
  exponent : Nat
  /-- The fraction field, below `2 ^ 52`. -/
  fraction : Nat
  deriving Repr, DecidableEq

/-- The fields of a double. -/
def Parts.ofFloat (x : Float) : Parts :=
  let b := x.toBits.toNat
  ⟨b / Nat.pow 2 63 % 2 = 1, b / Nat.pow 2 52 % 2048, b % Nat.pow 2 52⟩

/-- The double with the given fields. -/
def Parts.toFloat (p : Parts) : Float :=
  Float.ofBits (UInt64.ofNat ((if p.negative then Nat.pow 2 63 else 0) +
    p.exponent % 2048 * Nat.pow 2 52 + p.fraction % Nat.pow 2 52))

/-- Infinity or not a number: the exponent field is all ones. -/
def Parts.isSpecial (p : Parts) : Bool :=
  p.exponent = 2047

/-- Infinity: all ones in the exponent field and a zero fraction. -/
def Parts.isInfinite (p : Parts) : Bool :=
  p.exponent = 2047 && p.fraction = 0

/-- Not a number: all ones in the exponent field and a fraction that is not zero. -/
def Parts.isNaN (p : Parts) : Bool :=
  p.exponent = 2047 && p.fraction ≠ 0

/-- The integer significand of a finite double: the fraction with the hidden bit, except for the
subnormal numbers (exponent field zero), which have none. -/
def Parts.significand (p : Parts) : Nat :=
  if p.exponent = 0 then p.fraction else p.fraction + Nat.pow 2 52

/-- The power of two that scales the significand: a finite double is exactly
`significand * 2 ^ scale`, with sign aside. -/
def Parts.scale (p : Parts) : Int :=
  if p.exponent = 0 then -1074 else (p.exponent : Int) - 1075

/-- Whether `num / den ≥ 2 ^ t`. -/
def atLeastPow2 (num den : Nat) (t : Int) : Bool :=
  if 0 ≤ t then den * Nat.pow 2 t.toNat ≤ num else den ≤ num * Nat.pow 2 (-t).toNat

/-- `⌊log₂ (num / den)⌋` for `num` and `den` positive. The bit lengths of the two numbers give it
up to one, and one comparison settles which. -/
def floorLog2 (num den : Nat) : Int :=
  let t : Int := (num.log2 : Int) - (den.log2 : Int)
  if atLeastPow2 num den t then t else t - 1

/-- The integer nearest to `num / (den * 2 ^ e)`, a tie going to the even one. -/
def roundScaled (num den : Nat) (e : Int) : Nat :=
  let n := if 0 ≤ e then num else num * Nat.pow 2 (-e).toNat
  let d := if 0 ≤ e then den * Nat.pow 2 e.toNat else den
  let q := n / d
  let r := n % d
  if d < 2 * r ∨ (2 * r = d ∧ q % 2 = 1) then q + 1 else q

/-- The fields of the double nearest to the significand `q` times `2 ^ e`, where `q` came from
`roundScaled` and is below `2 ^ 53` or equal to it. -/
def assemble (q : Nat) (e : Int) : Parts :=
  let (q, e) := if q = Nat.pow 2 53 then (Nat.pow 2 52, e + 1) else (q, e)
  if q < Nat.pow 2 52 then ⟨false, 0, q⟩
  else if 2047 ≤ e + 1075 then ⟨false, 2047, 0⟩
  else ⟨false, (e + 1075).toNat, q - Nat.pow 2 52⟩

/-- The double nearest to the positive rational `num / den`, a tie going to the even
significand; infinity when it lies beyond the largest double by half a unit or more, and zero
for `num = 0`. The significand is scaled to 53 bits, or fewer where the subnormal range starts. -/
def nearest (num den : Nat) : Parts :=
  if num = 0 ∨ den = 0 then ⟨false, 0, 0⟩
  else
    let e := max (floorLog2 num den - 52) (-1074)
    assemble (roundScaled num den e) e

/-- The double nearest to an integer. -/
def ofInt (i : Int) : Float :=
  let p := nearest i.natAbs 1
  { p with negative := decide (i < 0) }.toFloat

/-- `10 ^ t` with `t` an integer, as a pair of numerator and denominator. -/
def pow10 (t : Int) : Nat × Nat :=
  if 0 ≤ t then (Nat.pow 10 t.toNat, 1) else (1, Nat.pow 10 (-t).toNat)

/-- The fields of the double nearest to `m * 10 ^ t`, with the given sign. Far outside the range
of doubles the answer is known without exact arithmetic: at or above `10 ^ 310` it is infinity,
and below `10 ^ -330` it is zero. -/
def decimalParts (negative : Bool) (m : Nat) (t : Int) : Parts :=
  let digits : Int := (Nat.toDigits 10 m).length
  let p : Parts :=
    if m = 0 then ⟨false, 0, 0⟩
    else if 310 < digits + t then ⟨false, 2047, 0⟩
    else if digits + t < -330 then ⟨false, 0, 0⟩
    else
      let (a, b) := pow10 t
      nearest (m * a) b
  { p with negative := negative }

/-- The double nearest to `m * 10 ^ t`. -/
def ofDecimal (negative : Bool) (m : Nat) (t : Int) : Float :=
  (decimalParts negative m t).toFloat

/-- The exponent and fraction fields read as one number. For doubles that are numbers, with
their fields within their widths, a larger one is a larger magnitude: the exponent counts
binades, and the fraction counts steps within one. -/
def Parts.magnitude (p : Parts) : Nat :=
  p.exponent * Nat.pow 2 52 + p.fraction

/-- The place of a double that is a number on the line of doubles: its magnitude, negated when
the sign is negative, so that both zeros stand at zero. -/
def Parts.place (p : Parts) : Int :=
  if p.negative then -(p.magnitude : Int) else p.magnitude

/-- `x ≤ y` between doubles: false when either is not a number. -/
def Parts.le (x y : Parts) : Bool :=
  !x.isNaN && !y.isNaN && decide (x.place ≤ y.place)

/-- `x < y` between doubles: false when either is not a number. -/
def Parts.lt (x y : Parts) : Bool :=
  !x.isNaN && !y.isNaN && decide (x.place < y.place)

/-- `x == y` between doubles: false when either is not a number, so a not-a-number equals
nothing, itself included; the two zeros are equal. -/
def Parts.beq (x y : Parts) : Bool :=
  !x.isNaN && !y.isNaN && decide (x.place = y.place)

/-- Whether a double equals an integer exactly. -/
def equalsInt (x : Float) (i : Int) : Bool :=
  let p := Parts.ofFloat x
  if p.isSpecial then false
  else
    let m := p.significand
    let s := p.scale
    let v : Int := if 0 ≤ s then (m * Nat.pow 2 s.toNat : Nat) else 0
    if m = 0 then i = 0
    else if 0 ≤ s then (if p.negative then -v else v) = i
    else
      let d := Nat.pow 2 (-s).toNat
      m % d = 0 && (if p.negative then -((m / d : Nat) : Int) else ((m / d : Nat) : Int)) = i

end Binary

end NodeCatalog
