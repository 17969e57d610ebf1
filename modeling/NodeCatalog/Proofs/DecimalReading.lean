import NodeCatalog.Proofs.PropertyLiterals
import Mathlib
/-!
# Reading a decimal gives a double

Rounding a positive rational `num / den` to the nearest double first finds `⌊log₂ (num / den)⌋` from
the bit lengths of the two numbers, then scales the value so that its integer part has 53 bits, or
fewer in the subnormal range, and rounds it to an integer. The value lies below twice the power of
two found, so the rounded significand is at most `2 ^ 53`, and the fields assembled from it fit
their widths (`Binary.nearest_valid`). The rounding never gives a not-a-number: too large a value
gives infinity, whose fraction is zero. This is how `float()` reads the numbers `safe_float` is
given (`src/tools/extract_schemas.py`, lines 15–19).

A text of decimal digits of any script, with a point between two runs of them or without, reads
as the decimal it writes: its characters are turned into ASCII digits of the same values, nothing
is stripped or removed, and the rest is one run of digits, a point and another run
(`Decimal.readParts?_digits`, `Decimal.readParts?_pointed`). So such a text always stands for a
double, and that double is a valid, positive one that is a number.

- `Binary.Parts.Valid`: fields within their widths.
- `Binary.lt_two_zpow_floorLog2`, `Binary.roundScaled_le`: the two bounds of the rounding.
- `Binary.decimalParts_valid`, `Binary.decimalParts_isNaN`: **the nearest double to a decimal
  has valid fields and is a number.**
- `Binary.Parts.eq_of_beq`: doubles of one sign with valid fields that compare equal are equal.
- `Decimal.readParts?_digits`, `Decimal.readParts?_pointed`: **digit texts read as decimals.**
-/

namespace NodeCatalog

namespace Binary

/-- Fields within their widths: an exponent field of 11 bits and a fraction field of 52. Such
fields are those of exactly one double. -/
def Parts.Valid (p : Parts) : Prop :=
  p.exponent < 2048 ∧ p.fraction < Nat.pow 2 52

/-! ## The bounds of the rounding -/

/-- A power of two with an integer exponent, as a quotient of two natural powers. -/
theorem two_zpow_eq (s : Int) : (2 : ℚ) ^ s = 2 ^ s.toNat / 2 ^ (-s).toNat := by
  conv_lhs => rw [← Int.toNat_sub_toNat_neg s]
  rw [zpow_sub₀ two_ne_zero, zpow_natCast, zpow_natCast]

/-- The comparison with a power of two, read in the rationals. -/
theorem atLeastPow2_iff {num den : Nat} (hden : 0 < den) (s : Int) :
    atLeastPow2 num den s = true ↔ (2 : ℚ) ^ s ≤ num / den := by
  have hcast : (2 : ℚ) ^ s ≤ num / den ↔
      den * Nat.pow 2 s.toNat ≤ num * Nat.pow 2 (-s).toNat := by
    rw [two_zpow_eq, div_le_div_iff₀ (by positivity) (by exact_mod_cast hden), mul_comm]
    exact_mod_cast Iff.rfl
  rw [hcast, atLeastPow2]
  split_ifs with hs
  · have hneg : (-s).toNat = 0 := by omega
    simp [hneg]
  · have hpos : s.toNat = 0 := by omega
    simp [hpos]

/-- The power of two found lies within a factor two below the value. -/
theorem lt_two_zpow_floorLog2 {num den : Nat} (hden : 0 < den) :
    (num : ℚ) / den < 2 ^ (floorLog2 num den + 1) := by
  simp only [floorLog2]
  split_ifs with h
  · -- `num` lies below `2 ^ (log2 num + 1)` and `den` at or above `2 ^ log2 den`
    have hnum : (num : ℚ) < 2 ^ (num.log2 + 1) := by exact_mod_cast Nat.lt_log2_self
    have hden' : (2 : ℚ) ^ den.log2 ≤ den := by exact_mod_cast Nat.log2_self_le hden.ne'
    calc (num : ℚ) / den < 2 ^ (num.log2 + 1) / 2 ^ den.log2 :=
          div_lt_div₀ hnum hden' (by positivity) (by positivity)
      _ = 2 ^ ((num.log2 : Int) - den.log2 + 1) := by
          rw [show (num.log2 : Int) - den.log2 + 1 = ((num.log2 + 1 : Nat) : Int) - (den.log2 : Nat)
            by push_cast; ring, zpow_sub₀ two_ne_zero, zpow_natCast, zpow_natCast]
  · -- the first guess was one too high, and the value lies below it
    rw [sub_add_cancel]
    exact lt_of_not_ge fun hle => h ((atLeastPow2_iff hden _).mpr hle)

/-- Rounding a quotient to a neighbour stays at or below any bound above the quotient. -/
theorem roundQuotient_le {n d B : Nat} (h : n < d * B) :
    (if d < 2 * (n % d) ∨ (2 * (n % d) = d ∧ n / d % 2 = 1) then n / d + 1 else n / d) ≤ B := by
  have hd : 0 < d := Nat.pos_of_ne_zero fun hd => by simp [hd] at h
  have hq : n / d < B := (Nat.div_lt_iff_lt_mul hd).mpr (by rwa [Nat.mul_comm])
  split_ifs <;> omega

/-- A value below `2 ^ e * B` rounds, at the scale `2 ^ e`, to at most `B`. -/
theorem roundScaled_le {num den : Nat} (hden : 0 < den) {e : Int} {B : Nat}
    (h : (num : ℚ) / den < 2 ^ e * B) : roundScaled num den e ≤ B := by
  have hscaled : num * Nat.pow 2 (-e).toNat < den * Nat.pow 2 e.toNat * B := by
    rw [two_zpow_eq, div_mul_eq_mul_div,
      div_lt_div_iff₀ (by exact_mod_cast hden) (by positivity)] at h
    have hq : (num : ℚ) * 2 ^ (-e).toNat < den * 2 ^ e.toNat * B := by linarith
    exact_mod_cast hq
  simp only [roundScaled]
  by_cases he : 0 ≤ e
  · have hneg : (-e).toNat = 0 := by omega
    simp only [he, if_true]
    exact roundQuotient_le (by simpa [hneg] using hscaled)
  · have hpos : e.toNat = 0 := by omega
    simp only [he, if_false]
    exact roundQuotient_le (by simpa [hpos] using hscaled)

/-! ## Valid fields -/

/-- A significand of at most 53 bits assembles into valid fields. -/
theorem assemble_valid {q : Nat} (hq : q ≤ Nat.pow 2 53) (e : Int) : (assemble q e).Valid := by
  have h52 : Nat.pow 2 52 = 4503599627370496 := rfl
  have h53 : Nat.pow 2 53 = 9007199254740992 := rfl
  simp only [assemble, Parts.Valid]
  split_ifs <;> simp only [h52, h53] at * <;> omega

/-- Assembling never gives a not-a-number: the exponent field is all ones only for infinity. -/
theorem assemble_isNaN (q : Nat) (e : Int) : (assemble q e).isNaN = false := by
  simp only [assemble, Parts.isNaN]
  split_ifs <;> simp
  -- below infinity the exponent field is not all ones
  omega

theorem nearest_valid (num den : Nat) : (nearest num den).Valid := by
  simp only [nearest]
  split_ifs with h0
  · exact ⟨by decide, by decide⟩
  · have hden : 0 < den := Nat.pos_of_ne_zero fun h => h0 (.inr h)
    apply assemble_valid
    apply roundScaled_le hden
    -- the scale leaves 53 bits above the power of two that bounds the value
    calc (num : ℚ) / den < 2 ^ (floorLog2 num den + 1) := lt_two_zpow_floorLog2 hden
      _ ≤ 2 ^ (max (floorLog2 num den - 52) (-1074) + 53) :=
          zpow_le_zpow_right₀ one_le_two (by omega)
      _ = 2 ^ max (floorLog2 num den - 52) (-1074) * (Nat.pow 2 53 : Nat) := by
          rw [zpow_add₀ two_ne_zero]
          norm_num

theorem nearest_isNaN (num den : Nat) : (nearest num den).isNaN = false := by
  simp only [nearest]
  split_ifs
  · rfl
  · exact assemble_isNaN _ _

/-- **The nearest double to a decimal has valid fields.** -/
theorem decimalParts_valid (negative : Bool) (m : Nat) (t : Int) :
    (decimalParts negative m t).Valid := by
  simp only [decimalParts, Parts.Valid]
  split_ifs
  · decide
  · decide
  · decide
  · exact nearest_valid _ _

/-- **The nearest double to a decimal is a number.** -/
theorem decimalParts_isNaN (negative : Bool) (m : Nat) (t : Int) :
    (decimalParts negative m t).isNaN = false := by
  simp only [decimalParts, Parts.isNaN]
  split_ifs
  · rfl
  · rfl
  · rfl
  · exact nearest_isNaN _ _

@[simp] theorem decimalParts_negative (negative : Bool) (m : Nat) (t : Int) :
    (decimalParts negative m t).negative = negative := rfl

/-! ## Comparing valid fields -/

/-- Valid fields are told apart by their magnitude. -/
theorem Parts.magnitude_inj {x y : Parts} (hx : x.Valid) (hy : y.Valid)
    (h : x.magnitude = y.magnitude) : x.exponent = y.exponent ∧ x.fraction = y.fraction := by
  have h52 : Nat.pow 2 52 = 4503599627370496 := rfl
  simp only [Parts.Valid, Parts.magnitude, h52] at hx hy h
  omega

/-- Two doubles of one sign with valid fields that compare equal are the same double. -/
theorem Parts.eq_of_beq {x y : Parts} (hx : x.Valid) (hy : y.Valid)
    (hsign : x.negative = y.negative) (h : x.beq y = true) : x = y := by
  simp only [Parts.beq, Bool.and_eq_true, Bool.not_eq_true', decide_eq_true_eq] at h
  have hmag : x.magnitude = y.magnitude := by
    have hplace := h.2
    simp only [Parts.place, hsign] at hplace
    split_ifs at hplace <;> omega
  obtain ⟨he, hf⟩ := Parts.magnitude_inj hx hy hmag
  obtain ⟨xn, xe, xf⟩ := x
  obtain ⟨yn, ye, yf⟩ := y
  simp_all

theorem Parts.beq_comm (x y : Parts) : x.beq y = y.beq x := by
  simp only [Parts.beq]
  cases x.isNaN <;> cases y.isNaN <;> simp [eq_comm]

/-- Between doubles that are numbers, one at or below another and not equal to it is below it. -/
theorem Parts.lt_of_place_le {x y : Parts} (hx : x.isNaN = false) (hy : y.isNaN = false)
    (hle : x.place ≤ y.place) (hne : x.beq y = false) : x.lt y = true := by
  simp only [Parts.beq, Parts.lt, hx, hy, Bool.not_false, Bool.true_and, decide_eq_false_iff_not,
    decide_eq_true_eq] at hne ⊢
  omega

end Binary

namespace Decimal

open Text

/-! ## Digit texts -/

theorem digitValue?_eq_some {c : Char} {v : Nat} (h : digitValue? c = some v) :
    ∃ z ∈ digitZeros, z ≤ c.toNat ∧ c.toNat < z + 10 ∧ v = c.toNat - z := by
  obtain ⟨z, hz, hv⟩ := List.exists_of_findSome?_eq_some h
  split at hv
  · rename_i hrun
    exact ⟨z, hz, hrun.1, hrun.2, (Option.some.inj hv).symm⟩
  · cases hv

/-- The only run of digits that starts in ASCII is the ASCII one. -/
theorem digitZeros_ascii : ∀ z ∈ digitZeros, z < 127 → z = 0x30 := by
  decide

theorem isAsciiDigit_ofNat : ∀ v < 10, isAsciiDigit (Char.ofNat (0x30 + v)) = true := by
  decide

/-- The ASCII digit of a digit of any script is an ASCII digit. -/
theorem isAsciiDigit_asciiDigit {c : Char} (h : isDigit c = true) :
    isAsciiDigit (asciiDigit c) = true := by
  obtain ⟨v, hv⟩ := Option.isSome_iff_exists.mp h
  obtain ⟨z, -, -, hlt, rfl⟩ := digitValue?_eq_some hv
  simp only [asciiDigit, hv]
  exact isAsciiDigit_ofNat _ (by omega)

/-- An ASCII digit is its own ASCII digit. -/
theorem asciiDigit_of_lt {c : Char} (h : isDigit c = true) (hlow : c.toNat < 127) :
    asciiDigit c = c := by
  obtain ⟨v, hv⟩ := Option.isSome_iff_exists.mp h
  obtain ⟨z, hz, hle, -, rfl⟩ := digitValue?_eq_some hv
  obtain rfl := digitZeros_ascii z hz (by omega)
  simp only [asciiDigit, hv]
  rw [Nat.add_sub_cancel' hle, Char.ofNat_toNat]

/-- The reader's ASCII form of a digit is its ASCII digit: a digit is never a blank. -/
theorem asciiChar?_digit {c : Char} (h : isDigit c = true) : asciiChar? c = some (asciiDigit c) := by
  by_cases hlow : c.toNat < 127
  · rw [asciiChar?, if_pos hlow, asciiDigit_of_lt h hlow]
  · obtain ⟨v, hv⟩ := Option.isSome_iff_exists.mp h
    have hb : isBlank c = false := Bool.eq_false_iff.mpr fun hb => by
      simpa [h] using PropertyLiteral.isDigit_of_isBlank hb
    simp [asciiChar?, hlow, hb, hv, asciiDigit]

theorem asciiDigit_point : asciiDigit '.' = '.' := by
  decide

/-- The reader's ASCII form of digits and points: each digit becomes its ASCII digit. -/
theorem asciiForm_eq_map {cs : List Char} (h : ∀ c ∈ cs, isDigit c = true ∨ c = '.') :
    asciiForm cs = some (cs.map asciiDigit) := by
  induction cs with
  | nil => rfl
  | cons c r ih =>
    have hr := ih fun x hx => h x (List.mem_cons_of_mem c hx)
    have hc : asciiChar? c = some (asciiDigit c) := by
      rcases h c List.mem_cons_self with hc | rfl
      · exact asciiChar?_digit hc
      · rw [asciiDigit_point]
        rfl
    simp only [asciiForm] at hr ⊢
    simp [List.mapM_cons, hc, hr]

theorem chars?_map_char (cs : List Char) : Text.chars? (cs.map Point.char) = some cs := by
  induction cs with
  | nil => rfl
  | cons c r ih =>
    simp only [Text.chars?] at ih ⊢
    simp [List.mapM_cons, Point.char?, ih]

theorem dropWhile_of_head {p : Char → Bool} {s : List Char} (h : ∀ c ∈ s.head?, p c = false) :
    s.dropWhile p = s := by
  cases s with
  | nil => rfl
  | cons c r => simp [h c rfl]

theorem isAsciiBlank_of_isAsciiDigit {c : Char} (h : isAsciiDigit c = true) :
    isAsciiBlank c = false := by
  have hc := PropertyLiteral.toNat_of_ascii (by simpa [isAsciiDigit] using h)
  have hne : c ≠ ' ' := fun e => absurd (e ▸ hc.1) (by decide)
  simp [isAsciiBlank, hne]
  omega

theorem splitSign_of_isAsciiDigit {d : Char} (h : isAsciiDigit d = true) (r : List Char) :
    splitSign (d :: r) = (false, d :: r) := by
  unfold splitSign
  split
  · rename_i heq
    obtain ⟨rfl, -⟩ := List.cons.inj heq
    exact absurd h (by decide)
  · rename_i heq
    obtain ⟨rfl, -⟩ := List.cons.inj heq
    exact absurd h (by decide)
  · rfl

/-- Reading a text whose ASCII form is digits and points, starting and ending with a digit: nothing
is stripped, there is no underscore and no sign, so the form itself is read as a decimal. -/
theorem readParts?_of_asciiForm {text : Text} {cs s : List Char} (hcs : text.chars? = some cs)
    (hs : asciiForm cs = some s) (hd : ∀ c ∈ s, isAsciiDigit c = true ∨ c = '.')
    (hne : s ≠ []) (hhead : ∀ c ∈ s.head?, isAsciiDigit c = true)
    (hlast : ∀ c ∈ s.getLast?, isAsciiDigit c = true) :
    readParts? text = (readUnsigned false s).or (readSpecial false s) := by
  have hstrip : ((s.dropWhile isAsciiBlank).reverse.dropWhile isAsciiBlank).reverse = s := by
    rw [dropWhile_of_head fun c hc => isAsciiBlank_of_isAsciiDigit (hhead c hc),
      dropWhile_of_head fun c hc => isAsciiBlank_of_isAsciiDigit (hlast c (by simpa using hc)),
      List.reverse_reverse]
  have hunder : s.contains '_' = false := by
    simp only [List.contains_eq_any_beq, List.any_eq_false, beq_iff_eq]
    intro c hc
    rcases hd c hc with h | rfl
    · exact fun e => absurd (e ▸ h) (by decide)
    · decide
  simp only [readParts?, hcs, Option.bind_eq_bind, Option.bind_some, hs, hstrip, hunder,
    Bool.false_eq_true, if_false]
  obtain ⟨d, r, rfl⟩ := List.exists_cons_of_ne_nil hne
  simp [splitSign_of_isAsciiDigit (hhead d rfl)]

/-! ## Runs of ASCII digits -/

/-- A run of digits up to a character that is none. -/
theorem digitRun_append (ds rest : List Char) (hds : ∀ c ∈ ds, isAsciiDigit c = true)
    (hrest : ∀ c ∈ rest.head?, isAsciiDigit c = false) : digitRun (ds ++ rest) = (ds, rest) := by
  have htake : rest.takeWhile isAsciiDigit = [] := by
    cases rest with
    | nil => rfl
    | cons c r => simp [hrest c rfl]
  simp only [digitRun, List.takeWhile_append_of_pos hds, List.dropWhile_append_of_pos hds, htake,
    List.append_nil, dropWhile_of_head hrest]

theorem digitRun_of_digits {ds : List Char} (hds : ∀ c ∈ ds, isAsciiDigit c = true) :
    digitRun ds = (ds, []) := by
  simpa using digitRun_append ds [] hds (by simp)

/-- A run of digits is read as the whole number it writes. -/
theorem readUnsigned_digits {ds : List Char} (hds : ∀ c ∈ ds, isAsciiDigit c = true)
    (hne : ds ≠ []) (negative : Bool) :
    readUnsigned negative ds = some (Binary.decimalParts negative (natOfDigits ds) 0) := by
  simp [readUnsigned, digitRun_of_digits hds, hne]

/-- Two runs of digits around a point are read as the decimal they write. -/
theorem readUnsigned_pointed {ds fs : List Char} (hds : ∀ c ∈ ds, isAsciiDigit c = true)
    (hne : ds ≠ []) (hfs : ∀ c ∈ fs, isAsciiDigit c = true) (negative : Bool) :
    readUnsigned negative (ds ++ '.' :: fs) =
      some (Binary.decimalParts negative (natOfDigits (ds ++ fs)) (-(fs.length : Int))) := by
  have hpoint : isAsciiDigit '.' = false := by decide
  simp [readUnsigned, digitRun_append ds ('.' :: fs) hds (by simpa using hpoint),
    digitRun_of_digits hfs, hne]

/-! ## Digit texts -/

/-- The ASCII digits of digits of any script are ASCII digits. -/
theorem isAsciiDigit_of_mem_map {cs : List Char} (h : ∀ c ∈ cs, isDigit c = true) :
    ∀ c ∈ cs.map asciiDigit, isAsciiDigit c = true := by
  simp only [List.mem_map]
  rintro _ ⟨c, hc, rfl⟩
  exact isAsciiDigit_asciiDigit (h c hc)

/-- **A text of decimal digits of any script reads as the whole number it writes.** -/
theorem readParts?_digits {ws : List Char} (hws : ∀ c ∈ ws, isDigit c = true) (hne : ws ≠ []) :
    readParts? (ws.map Point.char) =
      some (Binary.decimalParts false (natOfDigits (ws.map asciiDigit)) 0) := by
  have hascii := isAsciiDigit_of_mem_map hws
  have hne' : ws.map asciiDigit ≠ [] := by simpa using hne
  rw [readParts?_of_asciiForm (chars?_map_char ws) (asciiForm_eq_map fun c hc => .inl (hws c hc))
    (fun c hc => .inl (hascii c hc)) hne' (fun c hc => hascii c (List.mem_of_mem_head? hc))
    (fun c hc => hascii c (List.mem_of_mem_getLast? hc)), readUnsigned_digits hascii hne']
  rfl

/-- **Two texts of decimal digits of any script around a point read as the decimal they
write.** -/
theorem readParts?_pointed {ws fs : List Char} (hws : ∀ c ∈ ws, isDigit c = true) (hne : ws ≠ [])
    (hfs : ∀ c ∈ fs, isDigit c = true) (hfne : fs ≠ []) :
    readParts? ((ws ++ '.' :: fs).map Point.char) =
      some (Binary.decimalParts false (natOfDigits (ws.map asciiDigit ++ fs.map asciiDigit))
        (-(fs.length : Int))) := by
  have hw := isAsciiDigit_of_mem_map hws
  have hf := isAsciiDigit_of_mem_map hfs
  -- the ASCII form: the two runs of ASCII digits around the point
  have hform : asciiForm (ws ++ '.' :: fs) =
      some (ws.map asciiDigit ++ '.' :: fs.map asciiDigit) := by
    rw [asciiForm_eq_map]
    · simp [asciiDigit_point]
    · simp only [List.mem_append, List.mem_cons]
      rintro c (hc | rfl | hc)
      exacts [.inl (hws c hc), .inr rfl, .inl (hfs c hc)]
  have hd : ∀ c ∈ ws.map asciiDigit ++ '.' :: fs.map asciiDigit, isAsciiDigit c = true ∨ c = '.' := by
    simp only [List.mem_append, List.mem_cons]
    rintro c (hc | rfl | hc)
    exacts [.inl (hw c hc), .inr rfl, .inl (hf c hc)]
  have hhead : ∀ c ∈ (ws.map asciiDigit ++ '.' :: fs.map asciiDigit).head?,
      isAsciiDigit c = true := by
    obtain ⟨w, ws', rfl⟩ := List.exists_cons_of_ne_nil hne
    simpa using hw _ List.mem_cons_self
  have hlast : ∀ c ∈ (ws.map asciiDigit ++ '.' :: fs.map asciiDigit).getLast?,
      isAsciiDigit c = true := by
    -- the last character is the last of the fraction
    have hfne' : fs.map asciiDigit ≠ [] := by simpa using hfne
    intro c hc
    rw [List.getLast?_append_of_ne_nil _ (List.cons_ne_nil _ _), List.getLast?_cons,
      List.getLast?_eq_some_getLast hfne'] at hc
    exact hf c (Option.mem_some_iff.mp hc ▸ List.getLast_mem hfne')
  rw [readParts?_of_asciiForm (chars?_map_char _) hform hd (by simp) hhead hlast,
    readUnsigned_pointed hw (by simpa using hne) hf]
  simp

end Decimal

end NodeCatalog
