import NodeCatalog.Fault
/-!
# Reading UTF-8 text

File contents are bytes; the extractors read them as UTF-8 text with line ends made uniform.
Decoding is strict: a byte that cannot start a character, a byte that cannot continue the one begun
(surrogate code points and values beyond `0x10FFFF` included), or bytes ending inside a character
stop it, and the fault says where. A bad continuation is reported from the start of its character up
to the byte before the bad one; an early end from the start of the character to the end of the
bytes. This is `open(..., encoding='utf-8')` as `read_file` (`src/tools/extract_schemas.py`, lines
8–13), `retrieve_file_content` (`src/tools/extract_docs.py`, lines 20–29) and `extract_metadata`
(`src/tools/fetch_all_nodes.py`, line 25) read files.

- `Utf8.decode`: the text of some bytes, or the fault.
- `Utf8.uniformLines`: `\r\n` and a lone `\r` become `\n`.
- `Utf8.readText`: both.
- `Utf8.encode?`: the bytes of a text, refused at its first run of surrogates.
- `Utf8.encodeEscaped?`: the bytes of a path text, where the surrogates `U+DC80`–`U+DCFF` stand
  for the single bytes `0x80`–`0xFF` that are not UTF-8; other surrogates are refused.
- `Utf8.decodeEscaped`: the text of a name's bytes, back again; `Utf8.nameForm`: the two in turn,
  the one form of all texts naming the same file.
-/

namespace NodeCatalog

namespace Utf8

/-- Whether a byte continues a character (`10xxxxxx`). -/
def isTail (b : UInt8) : Bool :=
  0x80 ≤ b && b ≤ 0xBF

/-- The low six bits of a continuation byte. -/
def low6 (b : UInt8) : Nat :=
  b.toNat % 64

/-- The fault for a bad run of bytes starting at `pos` with first byte `b`. -/
def bad (b : UInt8) (start stop : Nat) (r : DecodeReason) : Fault :=
  .undecodable b.toNat start stop r

/-- Decode bytes from position `pos`, the characters so far in `acc` (last first). -/
def decodeFrom (total : Nat) : Nat → List UInt8 → List Char → Except Fault (List Char)
  | _, [], acc => .ok acc.reverse
  | pos, b :: rest, acc =>
    if b < 0x80 then decodeFrom total (pos + 1) rest (Char.ofNat b.toNat :: acc)
    else if b < 0xC2 then .error (bad b pos (pos + 1) .invalidStart)
    else if b < 0xE0 then
      match rest with
      | [] => .error (bad b pos total .unexpectedEnd)
      | c :: rest' =>
        if !isTail c then .error (bad b pos (pos + 1) .invalidContinuation)
        else decodeFrom total (pos + 2) rest'
          (Char.ofNat ((b.toNat % 32) * 64 + low6 c) :: acc)
    else if b < 0xF0 then
      -- the second byte is limited after `E0` (no overlong forms) and `ED` (no surrogates)
      let secondOk (c : UInt8) : Bool :=
        isTail c && !(b = 0xE0 && c < 0xA0) && !(b = 0xED && 0xA0 ≤ c)
      match rest with
      | [] => .error (bad b pos total .unexpectedEnd)
      | [c] =>
        if !secondOk c then .error (bad b pos (pos + 1) .invalidContinuation)
        else .error (bad b pos total .unexpectedEnd)
      | c :: d :: rest' =>
        if !secondOk c then .error (bad b pos (pos + 1) .invalidContinuation)
        else if !isTail d then .error (bad b pos (pos + 2) .invalidContinuation)
        else decodeFrom total (pos + 3) rest'
          (Char.ofNat ((b.toNat % 16) * 4096 + low6 c * 64 + low6 d) :: acc)
    else if b < 0xF5 then
      -- the second byte is limited after `F0` (no overlong forms) and `F4` (at most `0x10FFFF`)
      let secondOk (c : UInt8) : Bool :=
        isTail c && !(b = 0xF0 && c < 0x90) && !(b = 0xF4 && 0x90 ≤ c)
      match rest with
      | [] => .error (bad b pos total .unexpectedEnd)
      | [c] =>
        if !secondOk c then .error (bad b pos (pos + 1) .invalidContinuation)
        else .error (bad b pos total .unexpectedEnd)
      | [c, d] =>
        if !secondOk c then .error (bad b pos (pos + 1) .invalidContinuation)
        else if !isTail d then .error (bad b pos (pos + 2) .invalidContinuation)
        else .error (bad b pos total .unexpectedEnd)
      | c :: d :: e :: rest' =>
        if !secondOk c then .error (bad b pos (pos + 1) .invalidContinuation)
        else if !isTail d then .error (bad b pos (pos + 2) .invalidContinuation)
        else if !isTail e then .error (bad b pos (pos + 3) .invalidContinuation)
        else decodeFrom total (pos + 4) rest'
          (Char.ofNat ((b.toNat % 8) * 262144 + low6 c * 4096 + low6 d * 64 + low6 e) :: acc)
    else .error (bad b pos (pos + 1) .invalidStart)

/-- The characters of UTF-8 bytes, or the fault at the first bad byte. -/
def decode (bs : List UInt8) : Except Fault (List Char) :=
  decodeFrom bs.length 0 bs []

/-- Make line ends uniform: `\r\n` and a lone `\r` become `\n`. -/
def uniformLines : List Char → List Char
  | [] => []
  | '\r' :: '\n' :: rest => '\n' :: uniformLines rest
  | '\r' :: rest => '\n' :: uniformLines rest
  | c :: rest => c :: uniformLines rest

/-- The text of a file's bytes: decoded, with uniform line ends. -/
def readText (bs : List UInt8) : Except Fault Text :=
  (fun cs => (uniformLines cs).map .char) <$> decode bs

/-- The UTF-8 bytes of a character: one byte below `0x80`, then two, three or four, the first
marking the length and the others carrying six bits each. -/
def encodeChar (c : Char) : List UInt8 :=
  let n := c.toNat
  if n < 0x80 then [n.toUInt8]
  else if n < 0x800 then [(0xC0 + n / 64).toUInt8, (0x80 + n % 64).toUInt8]
  else if n < 0x10000 then
    [(0xE0 + n / 4096).toUInt8, (0x80 + n / 64 % 64).toUInt8, (0x80 + n % 64).toUInt8]
  else
    [(0xF0 + n / 262144).toUInt8, (0x80 + n / 4096 % 64).toUInt8, (0x80 + n / 64 % 64).toUInt8,
      (0x80 + n % 64).toUInt8]

/-- The UTF-8 bytes of a string. -/
def encode (s : String) : List UInt8 :=
  s.toList.flatMap encodeChar

/-- The number of surrogates at the start of a text. -/
def surrogateRun (t : Text) : Nat :=
  (t.takeWhile Point.isSurrogate).length

/-- The UTF-8 bytes of a text from position `pos`, the bytes so far in `acc` (last first). A
surrogate stops the encoding: the fault names it and the run of surrogates it starts. -/
def encodeFrom (pos : Nat) (acc : List UInt8) : Text → Except Fault (List UInt8)
  | [] => .ok acc.reverse
  | .char c :: rest => encodeFrom (pos + 1) ((encodeChar c).reverse ++ acc) rest
  | .surrogate n :: rest => .error (.unencodable n pos (pos + 1 + surrogateRun rest))

/-- The UTF-8 bytes of a text, or the fault at its first surrogate. -/
def encode? (t : Text) : Except Fault (List UInt8) :=
  encodeFrom 0 [] t

/-- Whether a surrogate stands for a byte that is not UTF-8. -/
def isEscapedByte (n : Nat) : Bool :=
  0xDC80 ≤ n && n ≤ 0xDCFF

/-- The bytes of one code point of a path text: a surrogate that stands for a byte is that
byte. -/
def pointBytes : Point → List UInt8
  | .char c => encodeChar c
  | .surrogate n => [(n - 0xDC00).toUInt8]

/-- The bytes of a path text from position `pos`. A run of surrogates is refused from its first
surrogate that stands for no byte to the end of the run. -/
def escapedFrom (pos : Nat) (acc : List UInt8) : Text → Except Fault (List UInt8)
  | [] => .ok acc.reverse
  | .char c :: rest => escapedFrom (pos + 1) ((encodeChar c).reverse ++ acc) rest
  | .surrogate n :: rest =>
    if isEscapedByte n then escapedFrom (pos + 1) ((pointBytes (.surrogate n)).reverse ++ acc) rest
    else .error (.unencodable n pos (pos + 1 + surrogateRun rest))

/-- The bytes of a path text, or the fault for a surrogate that stands for no byte. -/
def encodeEscaped? (t : Text) : Except Fault (List UInt8) :=
  escapedFrom 0 [] t

/-- The number of bytes of a path text whose surrogates all stand for bytes. -/
def escapedLength (t : Text) : Nat :=
  (t.flatMap pointBytes).length

/-- The character that well-formed UTF-8 bytes start with, and the bytes after it; none when
the bytes do not start with a whole character (no overlong forms, surrogates or values beyond
`0x10FFFF`). -/
def leadChar? : (bs : List UInt8) → Option (Char × { r : List UInt8 // r.length < bs.length })
  | [] => none
  | b :: rest =>
    if b < 0x80 then some (Char.ofNat b.toNat, ⟨rest, by simp⟩)
    else if b < 0xC2 then none
    else if b < 0xE0 then
      match rest with
      | c :: r =>
        if isTail c then
          some (Char.ofNat ((b.toNat % 32) * 64 + low6 c),
            ⟨r, by simp only [List.length_cons]; omega⟩)
        else none
      | [] => none
    else if b < 0xF0 then
      match rest with
      | c :: d :: r =>
        if isTail c && !(b = 0xE0 && c < 0xA0) && !(b = 0xED && 0xA0 ≤ c) && isTail d then
          some (Char.ofNat ((b.toNat % 16) * 4096 + low6 c * 64 + low6 d),
            ⟨r, by simp only [List.length_cons]; omega⟩)
        else none
      | _ => none
    else if b < 0xF5 then
      match rest with
      | c :: d :: e :: r =>
        if isTail c && !(b = 0xF0 && c < 0x90) && !(b = 0xF4 && 0x90 ≤ c) && isTail d &&
            isTail e then
          some (Char.ofNat ((b.toNat % 8) * 262144 + low6 c * 4096 + low6 d * 64 + low6 e),
            ⟨r, by simp only [List.length_cons]; omega⟩)
        else none
      | _ => none
    else none

/-- The text of the bytes of a name: UTF-8 characters where the bytes are well formed, and
every other byte (always one of `0x80`–`0xFF`) the surrogate that stands for it. It undoes
`encodeEscaped?`, and different bytes give different texts. -/
def decodeEscaped (bs : List UInt8) : Text :=
  match leadChar? bs with
  | some (c, ⟨r, _⟩) => .char c :: decodeEscaped r
  | none =>
    match bs with
    | [] => []
    | b :: r => .surrogate (0xDC00 + b.toNat) :: decodeEscaped r
termination_by bs.length

/-- The form a file name is kept in: the text of its bytes. Two texts with the same bytes (a
character, or the surrogates standing for its bytes) name the same file; a text that has no
bytes is kept as it is. -/
def nameForm (t : Text) : Text :=
  match encodeEscaped? t with
  | .ok bs => decodeEscaped bs
  | .error _ => t

end Utf8

end NodeCatalog
