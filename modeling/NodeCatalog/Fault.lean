import NodeCatalog.Text.Quote
/-!
# Faults

The causes for which an extraction stops, each with the message it reports. A fault is raised by one
step and ends the whole operation, except where a caller catches it: reading a file reports a
failure and goes on, and a schema run reports a node's fault and goes on with the next node. They
are the exceptions that can escape the functions of `src/tools/extract_schemas.py`,
`src/tools/extract_docs.py` and `src/main.py`.

- `FileCause`: why the file system refused a path.
- `DecodeReason`: why bytes are not UTF-8.
- `Fault`: the causes, and `Fault.message` their text.
-/

namespace NodeCatalog

/-- Why the file system refused a path. -/
inductive FileCause where
  /-- The path, or a directory on the way to it, does not exist. -/
  | missing
  /-- A file was asked for and the path names a directory. -/
  | isDirectory
  /-- A directory on the way to the path is a file. -/
  | notDirectory
  /-- A directory was to be made where a file stands. -/
  | exists
  /-- A part of the path is longer than 255 bytes, or the whole path is 4096 bytes or more. -/
  | nameTooLong
  deriving Repr, DecidableEq

/-- The error number and text of a file-system cause. -/
def FileCause.describe : FileCause → String
  | .missing => "[Errno 2] No such file or directory"
  | .isDirectory => "[Errno 21] Is a directory"
  | .notDirectory => "[Errno 20] Not a directory"
  | .exists => "[Errno 17] File exists"
  | .nameTooLong => "[Errno 36] File name too long"

/-- Why a run of bytes is not UTF-8. -/
inductive DecodeReason where
  /-- A byte that cannot start a character. -/
  | invalidStart
  /-- A byte that cannot continue the character begun before it. -/
  | invalidContinuation
  /-- The bytes end inside a character. -/
  | unexpectedEnd
  deriving Repr, DecidableEq

/-- The text of a decoding reason. -/
def DecodeReason.describe : DecodeReason → String
  | .invalidStart => "invalid start byte"
  | .invalidContinuation => "invalid continuation byte"
  | .unexpectedEnd => "unexpected end of data"

/-- The causes for which an extraction stops. Kinds are the names of value kinds
(`NoneType`, `int`, `str`, `set`, ...). -/
inductive Fault where
  /-- The fallback loop of import resolution iterates over a truth value. -/
  | flagNotIterable
  /-- A pattern was applied to a value that is not text. -/
  | notText (kind : String)
  /-- A containment test was applied to a value that holds nothing. -/
  | notContainer (kind : String)
  /-- A text method was called on a value that is not text. -/
  | noAttribute (kind : String) (name : String)
  /-- A decimal integer with more digits than the limit was read. -/
  | tooManyDigits (count : Nat)
  /-- An integer with more digits than the limit was to be written. -/
  | tooLongToWrite
  /-- A value of a kind that JSON cannot hold was to be written. -/
  | notWritable (kind : String)
  /-- A mapping key of a kind that JSON cannot hold was to be written. -/
  | keyNotWritable (kind : String)
  /-- The file system refused a path. -/
  | fileSystem (cause : FileCause) (path : Text)
  /-- A path holds a null character, which no path given to the file system may hold. -/
  | nullByte
  /-- Text to be written as UTF-8 holds surrogates: the first of them, and where the run of
  surrogates that cannot be written starts and ends (end excluded). -/
  | unencodable (code : Nat) (start stop : Nat)
  /-- Bytes read from a file are not UTF-8: the first byte of the bad run, where the run
  starts and ends (end excluded). -/
  | undecodable (byte : Nat) (start stop : Nat) (reason : DecodeReason)
  deriving Repr

/-- Two lower-case hex digits. -/
def hexByte (b : Nat) : String :=
  String.ofList (Text.hexDigits 2 b)

/-- The message of a fault. -/
def Fault.message : Fault → String
  | .flagNotIterable => "'bool' object is not iterable"
  | .notText k => "expected string or bytes-like object, got '" ++ k ++ "'"
  | .notContainer k => "argument of type '" ++ k ++ "' is not iterable"
  | .noAttribute k n => "'" ++ k ++ "' object has no attribute '" ++ n ++ "'"
  | .tooManyDigits n =>
    "Exceeds the limit (4300 digits) for integer string conversion: value has " ++
      toString n ++ " digits; use sys.set_int_max_str_digits() to increase the limit"
  | .tooLongToWrite =>
    "Exceeds the limit (4300 digits) for integer string conversion; " ++
      "use sys.set_int_max_str_digits() to increase the limit"
  | .notWritable k => "Object of type " ++ k ++ " is not JSON serializable"
  | .keyNotWritable k => "keys must be str, int, float, bool or None, not " ++ k
  | .fileSystem c p => c.describe ++ ": " ++ Text.quote p
  | .nullByte => "embedded null byte"
  | .unencodable code start stop =>
    if stop = start + 1 then
      "'utf-8' codec can't encode character '\\u" ++ String.ofList (Text.hexDigits 4 code) ++
        "' in position " ++ toString start ++ ": surrogates not allowed"
    else
      "'utf-8' codec can't encode characters in position " ++ toString start ++ "-" ++
        toString (stop - 1) ++ ": surrogates not allowed"
  | .undecodable b start stop r =>
    if stop = start + 1 then
      "'utf-8' codec can't decode byte 0x" ++ hexByte b ++ " in position " ++ toString start ++
        ": " ++ r.describe
    else
      "'utf-8' codec can't decode bytes in position " ++ toString start ++ "-" ++
        toString (stop - 1) ++ ": " ++ r.describe

end NodeCatalog
