import NodeCatalog.Text.Point
/-!
# Text operations

Trimming, splitting, searching and collapsing of text. These are the small operations the extractors
apply to the text a pattern captured. A surrogate is never blank, so it stays where it stands. They
are `str.strip`, `str.split` and `re.sub(r'\s+', ' ', ...)` as `src/tools/extract_schemas.py`
applies them (lines 39, 65–66 and 92–101).

- `Text.trimBy`: drop the code points of a class from both ends.
- `Text.splitOn`: cut a text at every occurrence of a non-empty separator, from the left, with
  occurrences that do not overlap.
- `Text.occursIn`: whether one text occurs inside another; `Text.endsWith`.
- `Text.collapse`: every maximal run of blanks becomes one space.
- `Text.clean`: trim blanks, then collapse.
-/

namespace NodeCatalog

namespace Text

/-- Drop the code points of class `p` from the end of a text. -/
def trimRightBy (p : Point → Bool) (s : Text) : Text :=
  (s.reverse.dropWhile p).reverse

/-- Drop the code points of class `p` from both ends of a text. -/
def trimBy (p : Point → Bool) (s : Text) : Text :=
  trimRightBy p (s.dropWhile p)

/-- Drop blanks from both ends of a text. -/
def trim (s : Text) : Text :=
  trimBy Point.isBlank s

/-- Whether a code point is one of a list of characters. -/
def oneOf (cs : List Char) (p : Point) : Bool :=
  cs.any fun c => p == .char c

/-- Whether `needle` occurs inside `hay` as a block of consecutive code points. -/
def occursIn (needle : Text) : Text → Bool
  | [] => needle.isEmpty
  | c :: r => needle.isPrefixOf (c :: r) || occursIn needle r

/-- Whether a text ends with another. -/
def endsWith (s suffix : Text) : Bool :=
  suffix.reverse.isPrefixOf s.reverse

/-- Whether a text starts with another. -/
def startsWith (s pre : Text) : Bool :=
  pre.isPrefixOf s

/-- The pieces of a text between the occurrences of `sep`, found from the left without overlap.
There is always one piece more than there are occurrences; an empty separator cuts nothing. -/
def splitOn (sep : Text) (s : Text) : List Text :=
  go [] s
where
  /-- `acc` holds the current piece, last code point first. -/
  go (acc : Text) (s : Text) : List Text :=
    match s with
    | [] => [acc.reverse]
    | c :: r =>
      if h : sep ≠ [] ∧ sep.isPrefixOf (c :: r) = true then
        have : r.length + 1 - sep.length < r.length + 1 := by
          have := List.length_pos_iff.mpr h.1
          omega
        acc.reverse :: go [] ((c :: r).drop sep.length)
      else go (c :: acc) r
  termination_by s.length

/-- Collapse runs of blanks; `inRun` says that the code point before was blank. -/
def collapseFrom (inRun : Bool) : Text → Text
  | [] => []
  | c :: r =>
    if c.isBlank then
      if inRun then collapseFrom true r else .char ' ' :: collapseFrom true r
    else c :: collapseFrom false r

/-- Every maximal run of blanks becomes a single space. -/
def collapse (s : Text) : Text :=
  collapseFrom false s

/-- Trim blanks from both ends, then make every inner run of blanks a single space. -/
def clean (s : Text) : Text :=
  collapse (trim s)

/-- Replace every occurrence of one character by another. -/
def replaceChar (a b : Char) (s : Text) : Text :=
  s.map fun p => if p = .char a then .char b else p

end Text

end NodeCatalog
