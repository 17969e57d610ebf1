import NodeCatalog.Pattern.Basic
/-!
# Matching patterns

A backtracking matcher. A pattern is tried at a position with a continuation, the rest of the match;
each choice point (a repetition count, an alternative) tries its options in order of preference and
takes the first for which the continuation succeeds. So the first match found is the one that
prefers, from left to right, the earlier alternative and, for a greedy repetition, the longer run
and, for a lazy one, the shorter. A search tries each start position from the left; all matches are
found left to right without overlap. This is how `re.search` and `re.finditer` run the patterns of
`src/tools/extract_schemas.py` and `src/tools/extract_docs.py`.

- `Cursor`: a position in the text, with the code point before it and the text after it.
- `Match`: where a match starts and stops and what each group matched.
- `Pattern.matchAt`: the preferred match starting at a cursor.
- `Pattern.search`: the leftmost match; `Pattern.findAll`: all matches, left to right.

Every step into a part of a pattern spends one unit of fuel; the wrappers give enough for the
text at hand, as each repetition of `star` consumes text. Repetitions of a single class walk the
text itself: a lazy one steps a character at a time only when the rest fails, so a search costs
no more than the characters it looks at.
-/

namespace NodeCatalog

/-- A position in a text: its index, the code point before it, and the text after it. -/
structure Cursor where
  index : Nat
  prev : Option Point
  rest : Text
  deriving Inhabited

namespace Cursor

/-- The start of a text. -/
def start (s : Text) : Cursor :=
  ⟨0, none, s⟩

/-- Step over one code point of class `k`. -/
def advance (k : CharClass) (c : Cursor) : Option Cursor :=
  match c.rest with
  | x :: r => if k.test x then some ⟨c.index + 1, some x, r⟩ else none
  | [] => none

/-- Step over a word. -/
def eat : Text → Cursor → Option Cursor
  | [], c => some c
  | w :: ws, c =>
    match c.rest with
    | x :: r => if x == w then eat ws ⟨c.index + 1, some x, r⟩ else none
    | [] => none

/-- The cursors reached by stepping over code points of class `k` one at a time, from the given
one to the end of the run, in order. -/
def run (k : CharClass) (index : Nat) (prev : Option Point) : Text → List Cursor
  | [] => [⟨index, prev, []⟩]
  | x :: r =>
    if k.test x then ⟨index, prev, x :: r⟩ :: run k (index + 1) (some x) r
    else [⟨index, prev, x :: r⟩]

end Cursor

/-- What a group matched: the text from `start` to `stop` (excluded), `source` being the text at
`start`. -/
structure Span where
  start : Nat
  stop : Nat
  source : Text
  deriving Inhabited

/-- The code points a span covers. -/
def Span.chars (s : Span) : Text :=
  s.source.take (s.stop - s.start)

/-- The span from one cursor to a later one. -/
def Span.between (a b : Cursor) : Span :=
  ⟨a.index, b.index, a.rest⟩

/-- The groups of a match so far, by index (index zero unused). -/
abbrev Groups := Array (Option Span)

/-- The rest of a match after a pattern: given the cursor and groups where the pattern ended,
the end of the whole match, if the rest matches. -/
abbrev Cont := Cursor → Groups → Option (Cursor × Groups)

/-- Take the first option, in order, for which `f` gives an answer. -/
def firstOf {α β : Type} (f : α → Option β) : List α → Option β
  | [] => none
  | a :: as =>
    match f a with
    | some b => some b
    | none => firstOf f as

/-- Lazy repetition of a class from a position (`index`, `prev`, the characters from there):
try the rest here, and only when it fails step over one more code point of the class. -/
def lazyRun (k : CharClass) (cont : Cursor → Option (Cursor × Groups)) :
    Nat → Option Point → Text → Option (Cursor × Groups)
  | index, prev, [] => cont ⟨index, prev, []⟩
  | index, prev, x :: r =>
    match cont ⟨index, prev, x :: r⟩ with
    | some res => some res
    | none => if k.test x then lazyRun k cont (index + 1) (some x) r else none

/-- Step over `n` code points of class `k`. -/
def Cursor.advanceBy (k : CharClass) : Nat → Cursor → Option Cursor
  | 0, c => some c
  | n + 1, c =>
    match c.advance k with
    | some c' => advanceBy k n c'
    | none => none

namespace Pattern

/-- Match a pattern at a cursor, then the continuation. -/
def go : Nat → Pattern → Cursor → Groups → Cont → Option (Cursor × Groups)
  | 0, _, _, _, _ => none
  | _ + 1, .empty, c, g, k => k c g
  | _ + 1, .word w, c, g, k =>
    match c.eat w with
    | some c' => k c' g
    | none => none
  | _ + 1, .one cls, c, g, k =>
    match c.advance cls with
    | some c' => k c' g
    | none => none
  | _ + 1, .many cls least greedy, c, g, k =>
    if greedy then
      firstOf (fun c' => k c' g) ((Cursor.run cls c.index c.prev c.rest).drop least).reverse
    else
      match c.advanceBy cls least with
      | some c0 => lazyRun cls (fun c' => k c' g) c0.index c0.prev c0.rest
      | none => none
  | n + 1, .opt p, c, g, k =>
    match go n p c g k with
    | some r => some r
    | none => k c g
  | n + 1, .star p greedy, c, g, k =>
    let again : Cont := fun c' g' =>
      if c.index < c'.index then go n (.star p greedy) c' g' k else none
    if greedy then
      match go n p c g again with
      | some r => some r
      | none => k c g
    else
      match k c g with
      | some r => some r
      | none => go n p c g again
  | n + 1, .seq p q, c, g, k => go n p c g (fun c' g' => go n q c' g' k)
  | n + 1, .alt p q, c, g, k =>
    match go n p c g k with
    | some r => some r
    | none => go n q c g k
  | n + 1, .group i p, c, g, k =>
    go n p c g (fun c' g' => k c' (g'.set! i (some (Span.between c c'))))
  | _ + 1, .backref i, c, g, k =>
    match g[i]? with
    | some (some s) =>
      match c.eat s.chars with
      | some c' => k c' g
      | none => none
    | _ => none
  | n + 1, .ahead p, c, g, k =>
    match go n p c g (fun c' g' => some (c', g')) with
    | some (_, g') => k c g'
    | none => none
  | _ + 1, .lineStart, c, g, k =>
    if c.prev.isNone || c.prev == some (.char '\n') then k c g else none
  | _ + 1, .lineEnd, c, g, k =>
    match c.rest with
    | [] => k c g
    | x :: _ => if x == .char '\n' then k c g else none

end Pattern

/-- A match: the cursors where it starts and stops, and its groups. -/
structure Match where
  start : Cursor
  stop : Cursor
  groups : Groups

/-- The text a group matched, none when the group took no part. -/
def Match.group? (m : Match) (i : Nat) : Option Text :=
  match m.groups[i]? with
  | some (some s) => some s.chars
  | _ => none

/-- The text of the whole match. -/
def Match.text (m : Match) : Text :=
  (Span.between m.start m.stop).chars

/-- The text a group matched, or the empty text when it took no part. -/
def Match.groupD (m : Match) (i : Nat) : Text :=
  (m.group? i).getD []

namespace Pattern

/-- Enough fuel for a pattern on a text of `n` code points: each step of the matcher either
takes a code point or goes into a smaller part of the pattern. -/
def fuelFor (p : Pattern) (n : Nat) : Nat :=
  (n + 2) * (p.size + 1)

/-- The preferred match of a pattern starting at a cursor, within the given fuel. -/
def matchWith (fuel : Nat) (p : Pattern) (c : Cursor) : Option Match :=
  let groups : Groups := Array.replicate (p.groupCount + 1) none
  (go fuel p c groups fun c' g => some (c', g)).map fun (stop, g) => ⟨c, stop, g⟩

/-- The preferred match of a pattern starting at a cursor. -/
def matchAt (p : Pattern) (c : Cursor) : Option Match :=
  p.matchWith (p.fuelFor c.rest.length) c

/-- The leftmost match at or after a cursor, each try within the given fuel. -/
def searchFrom (p : Pattern) (fuel index : Nat) (prev : Option Point) :
    Text → Option Match
  | [] => p.matchWith fuel ⟨index, prev, []⟩
  | x :: r =>
    match p.matchWith fuel ⟨index, prev, x :: r⟩ with
    | some m => some m
    | none => searchFrom p fuel (index + 1) (some x) r

/-- The leftmost match in a text. -/
def search (p : Pattern) (s : Text) : Option Match :=
  p.searchFrom (p.fuelFor s.length) 0 none s

/-- All matches at or after a cursor, left to right without overlap: after a match the search
goes on where it stopped, or one code point later when it was empty. Each try has `budget` fuel;
`fuel` bounds the number of matches. -/
def findFrom (p : Pattern) (budget : Nat) : Nat → Cursor → List Match
  | 0, _ => []
  | fuel + 1, c =>
    match p.searchFrom budget c.index c.prev c.rest with
    | none => []
    | some m =>
      let next :=
        if m.stop.index = m.start.index then
          match m.stop.rest with
          | x :: r => some ⟨m.stop.index + 1, some x, r⟩
          | [] => none
        else some m.stop
      match next with
      | some c' => m :: findFrom p budget fuel c'
      | none => [m]

/-- All matches in a text, left to right without overlap. -/
def findAll (p : Pattern) (s : Text) : List Match :=
  p.findFrom (p.fuelFor s.length) (s.length + 1) (Cursor.start s)

end Pattern

end NodeCatalog
