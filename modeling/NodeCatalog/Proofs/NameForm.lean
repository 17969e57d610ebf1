import NodeCatalog.Files.Utf8
import Mathlib.Tactic.SplitIfs
/-!
# The bytes of a name, and back

A file name is its bytes, and the library keeps it as the text of those bytes (`Utf8.nameForm`): the
bytes are read back as UTF-8 where they are well formed, and every other byte becomes the surrogate
that stands for it. Reading the bytes back and writing them again gives the same bytes, so the form
of a name is its own form: the tree stores, and finds again, a name in one spelling. These are the
names `os.walk` and `Path.rglob` give (`src/tools/extract_docs.py`, line 95;
`src/tools/extract_schemas.py`, line 214), decoded with `surrogateescape`.

The proof follows `Utf8.decodeEscaped` character by character: a well-formed lead byte and its
continuation bytes are exactly the UTF-8 bytes of the character they decode to (one lemma for
each length), and a byte that starts no character is at least `0x80`, so a surrogate stands for
it.

- `Utf8.leadChar?_eq_some`: the bytes a character is read from are its UTF-8 bytes.
- `Utf8.encodeEscaped?_decodeEscaped`: the bytes of the text of some bytes are those bytes.
- `Utf8.nameForm_nameForm`: **the form of a name is its own form.**
-/

namespace NodeCatalog

namespace Utf8

/-! ## The bytes of one character -/

/-- A valid code point is the number of its character. -/
theorem toNat_charOfNat {n : Nat} (h : n.isValidChar) : (Char.ofNat n).toNat = n := by
  unfold Char.ofNat
  rw [dif_pos h]
  rfl

/-- A byte below `0x80` is the one byte of its character. -/
theorem encodeChar_ofNat_one {b : UInt8} (hb : b.toNat < 0x80) :
    encodeChar (Char.ofNat b.toNat) = [b] := by
  have hv : (Char.ofNat b.toNat).toNat = b.toNat := by
    apply toNat_charOfNat
    simp only [Nat.isValidChar]
    omega
  unfold encodeChar
  rw [hv, if_pos hb]
  simp only [Nat.toUInt8_eq, UInt8.ofNat_toNat]

/-- A lead byte `C2`–`DF` and a continuation byte are the two bytes of the character they
read as. -/
theorem encodeChar_ofNat_two {b c : UInt8} (hb1 : 0xC2 ≤ b.toNat) (hb2 : b.toNat < 0xE0)
    (hc1 : 0x80 ≤ c.toNat) (hc2 : c.toNat ≤ 0xBF) :
    encodeChar (Char.ofNat ((b.toNat % 32) * 64 + low6 c)) = [b, c] := by
  have hv : (Char.ofNat ((b.toNat % 32) * 64 + low6 c)).toNat =
      (b.toNat % 32) * 64 + low6 c := by
    apply toNat_charOfNat
    simp only [Nat.isValidChar, low6]
    omega
  unfold encodeChar
  rw [hv]
  simp only [low6, Nat.toUInt8_eq] at hv ⊢
  rw [if_neg (by omega), if_pos (by omega)]
  simp only [List.cons.injEq, and_true]
  constructor
  · apply UInt8.toNat_inj.mp
    simp only [UInt8.toNat_ofNat']
    omega
  · apply UInt8.toNat_inj.mp
    simp only [UInt8.toNat_ofNat']
    omega

/-- A lead byte `E0`–`EF` and two continuation bytes, neither overlong nor a surrogate, are the
three bytes of the character they read as. -/
theorem encodeChar_ofNat_three {b c d : UInt8} (hb1 : 0xE0 ≤ b.toNat) (hb2 : b.toNat < 0xF0)
    (hc1 : 0x80 ≤ c.toNat) (hc2 : c.toNat ≤ 0xBF)
    (hd1 : 0x80 ≤ d.toNat) (hd2 : d.toNat ≤ 0xBF)
    (hlow : b.toNat = 0xE0 → 0xA0 ≤ c.toNat) (hsur : b.toNat = 0xED → c.toNat < 0xA0) :
    encodeChar (Char.ofNat ((b.toNat % 16) * 4096 + low6 c * 64 + low6 d)) = [b, c, d] := by
  have hv : (Char.ofNat ((b.toNat % 16) * 4096 + low6 c * 64 + low6 d)).toNat =
      (b.toNat % 16) * 4096 + low6 c * 64 + low6 d := by
    apply toNat_charOfNat
    simp only [Nat.isValidChar, low6]
    omega
  unfold encodeChar
  rw [hv]
  simp only [low6, Nat.toUInt8_eq] at hv ⊢
  rw [if_neg (by omega), if_neg (by omega), if_pos (by omega)]
  simp only [List.cons.injEq, and_true]
  refine ⟨?_, ?_, ?_⟩ <;>
  · apply UInt8.toNat_inj.mp
    simp only [UInt8.toNat_ofNat']
    omega

/-- A lead byte `F0`–`F4` and three continuation bytes, neither overlong nor beyond
`0x10FFFF`, are the four bytes of the character they read as. -/
theorem encodeChar_ofNat_four {b c d e : UInt8} (hb1 : 0xF0 ≤ b.toNat) (hb2 : b.toNat < 0xF5)
    (hc1 : 0x80 ≤ c.toNat) (hc2 : c.toNat ≤ 0xBF)
    (hd1 : 0x80 ≤ d.toNat) (hd2 : d.toNat ≤ 0xBF)
    (he1 : 0x80 ≤ e.toNat) (he2 : e.toNat ≤ 0xBF)
    (hlow : b.toNat = 0xF0 → 0x90 ≤ c.toNat) (hhigh : b.toNat = 0xF4 → c.toNat < 0x90) :
    encodeChar (Char.ofNat ((b.toNat % 8) * 262144 + low6 c * 4096 + low6 d * 64 + low6 e)) =
      [b, c, d, e] := by
  have hv :
      (Char.ofNat ((b.toNat % 8) * 262144 + low6 c * 4096 + low6 d * 64 + low6 e)).toNat =
      (b.toNat % 8) * 262144 + low6 c * 4096 + low6 d * 64 + low6 e := by
    apply toNat_charOfNat
    simp only [Nat.isValidChar, low6]
    omega
  unfold encodeChar
  rw [hv]
  unfold low6 at hv ⊢
  rw [if_neg (by omega), if_neg (by omega), if_neg (by omega)]
  simp only [List.cons.injEq, and_true]
  refine ⟨?_, ?_, ?_, ?_⟩ <;>
  · apply UInt8.toNat_inj.mp
    simp only [Nat.toUInt8_eq, UInt8.toNat_ofNat']
    omega

/-! ## Reading the bytes of a name -/

theorem isTail_iff {c : UInt8} : isTail c = true ↔ 0x80 ≤ c.toNat ∧ c.toNat ≤ 0xBF := by
  simp [isTail, UInt8.le_iff_toNat_le]

/-- The bytes a character is read from are its UTF-8 bytes. The cases are the lengths of the
character, each checked by its lemma above. -/
theorem leadChar?_eq_some (b : UInt8) (rest : List UInt8) :
    ∀ p, leadChar? (b :: rest) = some p → b :: rest = encodeChar p.1 ++ p.2.val := by
  intro p h
  simp only [leadChar?] at h
  have hb := b.toNat_lt
  simp only [UInt8.lt_iff_toNat_lt, UInt8.toNat_ofNat] at h
  split_ifs at h with h1 h2 h3 h5 h7
  · cases h
    rw [encodeChar_ofNat_one h1]
    rfl
  · split at h
    · rename_i c r
      split at h
      · rename_i hc
        cases h
        rw [isTail_iff] at hc
        rw [encodeChar_ofNat_two (by omega) h3 hc.1 hc.2]
        rfl
      · cases h
    · cases h
  · split at h
    · rename_i c d r
      split at h
      · rename_i hc
        cases h
        simp only [Bool.and_eq_true, Bool.not_eq_true', Bool.and_eq_false_iff,
          decide_eq_false_iff_not, isTail_iff, UInt8.le_iff_toNat_le, ← UInt8.toNat_inj,
          UInt8.toNat_ofNat] at hc
        obtain ⟨⟨⟨hc1, hlow⟩, hsur⟩, hd⟩ := hc
        rw [encodeChar_ofNat_three (by omega) h5 hc1.1 hc1.2 hd.1 hd.2 (by omega) (by omega)]
        rfl
      · cases h
    · cases h
  · split at h
    · rename_i c d e r
      split at h
      · rename_i hc
        cases h
        simp only [Bool.and_eq_true, Bool.not_eq_true', Bool.and_eq_false_iff,
          decide_eq_false_iff_not, isTail_iff, UInt8.le_iff_toNat_le, ← UInt8.toNat_inj,
          UInt8.toNat_ofNat] at hc
        obtain ⟨⟨⟨⟨hc1, hlow⟩, hhigh⟩, hd⟩, he⟩ := hc
        rw [encodeChar_ofNat_four (by omega) h7 hc1.1 hc1.2 hd.1 hd.2 he.1 he.2 (by omega)
          (by omega)]
        rfl
      · cases h
    · cases h

/-- A byte that starts no character is not ASCII, so a surrogate can stand for it. -/
theorem leadChar?_none_high {b : UInt8} {rest : List UInt8} (h : leadChar? (b :: rest) = none) :
    0x80 ≤ b.toNat := by
  simp only [leadChar?] at h
  rcases Nat.lt_or_ge b.toNat 0x80 with hlow | hhigh
  · rw [if_pos (UInt8.lt_iff_toNat_lt.mpr (by simpa using hlow))] at h
    cases h
  · exact hhigh

/-- Whether a code point has bytes in a path: a character, or a surrogate standing for a byte. -/
def hasBytes : Point → Bool
  | .char _ => true
  | .surrogate n => isEscapedByte n

/-- A text whose code points all have bytes is written as those bytes. -/
theorem escapedFrom_ok (pos : Nat) (acc : List UInt8) (t : Text) (h : ∀ p ∈ t, hasBytes p) :
    escapedFrom pos acc t = .ok (acc.reverse ++ t.flatMap pointBytes) := by
  induction t generalizing pos acc with
  | nil => simp [escapedFrom]
  | cons p t ih =>
    have hrest := fun q hq => h q (List.mem_cons_of_mem p hq)
    cases p with
    | char c => simp [escapedFrom, ih _ _ hrest, pointBytes]
    | surrogate n =>
      have hn : isEscapedByte n = true := h _ (List.mem_cons_self ..)
      simp [escapedFrom, hn, ih _ _ hrest]

/-- The text of some bytes has bytes at every code point, and they are the bytes read. -/
theorem decodeEscaped_bytes (bs : List UInt8) :
    (decodeEscaped bs).flatMap pointBytes = bs ∧ ∀ p ∈ decodeEscaped bs, hasBytes p := by
  fun_induction decodeEscaped bs with
  | case1 bs c r hr hlead ih =>
    have hbs : bs = encodeChar c ++ r := by
      cases bs with
      | nil => simp [leadChar?] at hlead
      | cons b rest => exact leadChar?_eq_some b rest _ hlead
    refine ⟨by simp [pointBytes, ih.1, hbs], ?_⟩
    intro p hp
    rcases List.mem_cons.mp hp with rfl | hp
    · rfl
    · exact ih.2 p hp
  | case2 => simp
  | case3 b r hlead ih =>
    have hb := leadChar?_none_high hlead
    have hb' := b.toNat_lt
    refine ⟨?_, ?_⟩
    · simp only [List.flatMap_cons, pointBytes, ih.1, List.singleton_append, List.cons.injEq,
        and_true]
      apply UInt8.toNat_inj.mp
      simp only [Nat.toUInt8_eq, UInt8.toNat_ofNat']
      omega
    · intro p hp
      rcases List.mem_cons.mp hp with rfl | hp
      · simp only [hasBytes, isEscapedByte, Bool.and_eq_true, decide_eq_true_eq]
        omega
      · exact ih.2 p hp

/-- The bytes of the text of some bytes are those bytes. -/
theorem encodeEscaped?_decodeEscaped (bs : List UInt8) :
    encodeEscaped? (decodeEscaped bs) = .ok bs := by
  obtain ⟨hbytes, hall⟩ := decodeEscaped_bytes bs
  rw [encodeEscaped?, escapedFrom_ok 0 [] _ hall, hbytes]
  rfl

/-- **The form of a name is its own form**: a name kept in the tree is found again under the
spelling it is kept in. -/
theorem nameForm_nameForm (t : Text) : nameForm (nameForm t) = nameForm t := by
  unfold nameForm
  cases h : encodeEscaped? t with
  | ok bs => simp only [encodeEscaped?_decodeEscaped]
  | error f => simp only [h]

end Utf8

end NodeCatalog
