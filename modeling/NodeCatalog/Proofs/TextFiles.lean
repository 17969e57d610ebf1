import NodeCatalog.Proofs.FileWrites
/-!
# Reading back a file of text

A file written from a string holds the string's UTF-8 bytes. Reading it gives the string back, with
its line ends made uniform. Strict decoding takes the bytes of each character back to the character:
its first byte says how many follow, and the limits on the second byte (no overlong form, no
surrogate, nothing beyond `0x10FFFF`) hold of every character's own bytes. Each line break written
`\r\n` or `\r` then reads as `\n`, piece by piece as long as no piece ends inside a break. The
readers are `read_file` (`src/tools/extract_schemas.py`, lines 8–13) and `retrieve_file_content`
(`src/tools/extract_docs.py`, lines 20–29).

- `Utf8.decodeFrom_encodeChar`: the bytes of one character decode to it, whatever follows.
- `Utf8.decode_encode`: **the bytes of a string decode to the string.**
- `Utf8.uniformLines_append_of_not_cr`, `Utf8.uniformLines_cr`: line ends, piece by piece.
- `FileTree.readText_of_fileAt`: **the text of a file is the text of its bytes.**
-/

namespace NodeCatalog

namespace Utf8

theorem toNat_toUInt8 {n : Nat} (h : n < 256) : n.toUInt8.toNat = n := by
  simp only [Nat.toUInt8_eq, UInt8.toNat_ofNat']
  omega

/-- Decoding takes the bytes of a character back to it and goes on after them. The cases are the
lengths of the encoding; in each, the lead byte falls in the range that announces that length and
every continuation byte passes its check. -/
theorem decodeFrom_encodeChar (total pos : Nat) (c : Char) (rest : List UInt8)
    (acc : List Char) :
    decodeFrom total pos (encodeChar c ++ rest) acc =
      decodeFrom total (pos + (encodeChar c).length) rest (c :: acc) := by
  have hc := c.valid
  have hval : c.toNat = c.val.toNat := rfl
  simp only [UInt32.isValidChar, Nat.isValidChar] at hc
  rw [← hval] at hc
  have hchar : ∀ n, n = c.toNat → Char.ofNat n = c := by
    rintro n rfl
    exact Char.ofNat_toNat c
  unfold encodeChar
  dsimp only
  generalize c.toNat = n at hc hchar
  split_ifs with h1 h2 h3
  · -- one byte
    rw [List.singleton_append, decodeFrom.eq_def]
    dsimp only
    have hb := toNat_toUInt8 (n := n) (by omega)
    rw [if_pos (by simp only [UInt8.lt_iff_toNat_lt, hb]; simp; omega), hb, hchar n rfl]
    rfl
  · -- two bytes
    rw [List.cons_append, List.singleton_append, decodeFrom.eq_def]
    dsimp only
    have hb := toNat_toUInt8 (n := 192 + n / 64) (by omega)
    have hb2 := toNat_toUInt8 (n := 128 + n % 64) (by omega)
    simp only [UInt8.lt_iff_toNat_lt, hb, UInt8.toNat_ofNat]
    rw [if_neg (by omega), if_neg (by omega), if_pos (by omega)]
    rw [if_neg (by simp [isTail, UInt8.le_iff_toNat_le]; omega),
      hchar _ (by simp only [low6, hb2]; omega)]
    rfl
  · -- three bytes: after `E0` the second byte is at least `A0`, and after `ED` below it, since
    -- the character is neither overlong nor a surrogate
    rw [List.cons_append, List.cons_append, List.singleton_append, decodeFrom.eq_def]
    dsimp only
    have hb := toNat_toUInt8 (n := 224 + n / 4096) (by omega)
    have hb2 := toNat_toUInt8 (n := 128 + n / 64 % 64) (by omega)
    have hb3 := toNat_toUInt8 (n := 128 + n % 64) (by omega)
    simp only [UInt8.lt_iff_toNat_lt, hb, UInt8.toNat_ofNat]
    rw [if_neg (by omega), if_neg (by omega), if_neg (by omega), if_pos (by omega)]
    rw [if_neg (by simp [isTail, UInt8.le_iff_toNat_le, ← UInt8.toNat_inj]; omega),
      if_neg (by simp [isTail, UInt8.le_iff_toNat_le]; omega),
      hchar _ (by simp only [low6, hb2, hb3]; omega)]
    rfl
  · -- four bytes: after `F0` the second byte is at least `90`, and after `F4` below it
    rw [List.cons_append, List.cons_append, List.cons_append, List.singleton_append,
      decodeFrom.eq_def]
    dsimp only
    have hb := toNat_toUInt8 (n := 240 + n / 262144) (by omega)
    have hb2 := toNat_toUInt8 (n := 128 + n / 4096 % 64) (by omega)
    have hb3 := toNat_toUInt8 (n := 128 + n / 64 % 64) (by omega)
    have hb4 := toNat_toUInt8 (n := 128 + n % 64) (by omega)
    simp only [UInt8.lt_iff_toNat_lt, hb, UInt8.toNat_ofNat]
    rw [if_neg (by omega), if_neg (by omega), if_neg (by omega), if_neg (by omega),
      if_pos (by omega)]
    rw [if_neg (by simp [isTail, UInt8.le_iff_toNat_le, ← UInt8.toNat_inj]; omega),
      if_neg (by simp [isTail, UInt8.le_iff_toNat_le]; omega),
      if_neg (by simp [isTail, UInt8.le_iff_toNat_le]; omega),
      hchar _ (by simp only [low6, hb2, hb3, hb4]; omega)]
    rfl

/-- Decoding the bytes of characters gives the characters, after those decoded so far. -/
theorem decodeFrom_flatMap (total : Nat) :
    ∀ (cs : List Char) (pos : Nat) (acc : List Char),
      decodeFrom total pos (cs.flatMap encodeChar) acc = .ok (acc.reverse ++ cs)
  | [], pos, acc => by
    rw [List.flatMap_nil, decodeFrom.eq_def]
    simp
  | c :: cs, pos, acc => by
    rw [List.flatMap_cons, decodeFrom_encodeChar, decodeFrom_flatMap total cs]
    simp

/-- **The bytes of a string decode to the string.** -/
theorem decode_encode (s : String) : decode (encode s) = .ok s.toList := by
  simp only [decode, encode]
  rw [decodeFrom_flatMap]
  rfl

/-- The text of the bytes of a string: the string with uniform line ends. -/
theorem readText_encode (s : String) :
    readText (encode s) = .ok ((uniformLines s.toList).map .char) := by
  rw [readText, decode_encode]
  rfl

/-! ## Line ends -/

theorem uniformLines_cons_of_ne {c : Char} (hc : c ≠ '\r') (rest : List Char) :
    uniformLines (c :: rest) = c :: uniformLines rest :=
  uniformLines.eq_4 c rest (fun _ e => absurd e hc) hc

/-- Characters without a carriage return keep their line ends, whatever follows them. -/
theorem uniformLines_append_of_not_cr {xs : List Char} (h : '\r' ∉ xs) (ys : List Char) :
    uniformLines (xs ++ ys) = xs ++ uniformLines ys := by
  induction xs with
  | nil => rfl
  | cons x xs ih =>
    have hx : x ≠ '\r' := fun e => h (e ▸ List.mem_cons_self ..)
    rw [List.cons_append, uniformLines_cons_of_ne hx,
      ih fun hm => h (List.mem_cons_of_mem _ hm)]
    rfl

/-- A carriage return that no line feed follows reads as a line feed. -/
theorem uniformLines_cr {ys : List Char} (h : ys.head? ≠ some '\n') :
    uniformLines ('\r' :: ys) = '\n' :: uniformLines ys :=
  uniformLines.eq_3 ys fun _ e => h (by rw [e]; rfl)

end Utf8

namespace FileTree

/-- The text of a file is the text of the bytes it holds. -/
theorem readText_of_fileAt {t : FileTree} {s : Text} {bs : List UInt8}
    (h : t.fileAt s = some bs) : t.readText s = Utf8.readText bs := by
  unfold fileAt at h
  split at h
  · rename_i b loc hb hr
    simp only [readText, hb, hr, h, bind, Except.bind]
  · cases h

end FileTree

end NodeCatalog
