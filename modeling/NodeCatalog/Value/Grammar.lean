import Std.Data.HashMap
/-!
# The expression grammar as its parser runs it

Literal texts are read by a recursive-descent parser generated from the scripting language's
expression grammar. Every rule of the grammar is one function, and so is every auxiliary rule the
generator makes for a group in parentheses, a repetition or a separated list. The parser counts how
deep these functions nest and refuses a text on which they nest more than `stackLimit` deep. That
depth is not the bracket depth of the text: between a container and an element inside it stands the
whole chain of precedence levels, about thirty calls, and which calls happen at all is decided by
the order of alternatives, by lookaheads and by the rules whose results are remembered per position.
It is the parser `ast.literal_eval` runs in `extract_metadata` (`src/tools/extract_docs.py`, line
61; `src/tools/fetch_all_nodes.py`, line 49).

This module holds the part of the grammar that literal texts reach, in that generated form,
and an interpreter that runs it the way the parser does: alternatives in order, a remembered
result reused at the same position, a left-recursive rule grown from a failed seed until it
stops getting longer. The interpreter spends one unit of a budget per nested call and reports
when the budget runs out, which is exactly when the parser would refuse the text.

- `Grammar.Terminal`, `Grammar.Item`, `Grammar.Rule`, `Grammar.Form`, `Grammar.form`: the
  grammar.
- `Grammar.stackLimit`: the deepest nesting of calls the parser allows.
- `Grammar.nestsDeeper`, `Grammar.overflows`: whether parsing a list of tokens nests calls
  deeper than a limit, or than the parser allows.
-/

namespace NodeCatalog

namespace Grammar

/-- A token as the grammar sees it. -/
inductive Terminal where
  | name
  | number
  | string
  | newline
  | endMarker
  /-- A keyword or an operator, by its spelling. -/
  | word (s : String)
  deriving DecidableEq, Inhabited, Repr

/-- The rules of the grammar, named ones and the auxiliary ones of the generated parser. -/
inductive Rule where
  | eval | newlines | expressions | moreExpressions | commaExpression | expression | lambdef
  | yieldExpr | disjunction | moreDisjuncts | orConjunction | conjunction | moreConjuncts
  | andInversion | inversion | comparison | comparisons | comparePair | equal | notEqual
  | notEqualSign | lessEqual | less | greaterEqual | greater | notIn | isIn | isNot | isSame
  | bitwiseOr | bitwiseXor | bitwiseAnd | shift | sum | term | factor | power | awaitPrimary
  | primary | atom | strings | stringRun | inParens | inBrackets | inBraces | tuple | tupleBody
  | group | groupBody | genexp | genexpBody | forIfClauses | forIfRun | forIfClause | list
  | listcomp | set | setcomp | dict | dictcomp | pairs | pairList | morePairs | pairItem | pair
  | badPairs | closeOrComma | badPair | starNamedExpressions | namedList | moreNamed
  | starNamedExpression | namedExpression | assignment | arguments | args | argList | moreArgs
  | arg | argExpression | argsKeywords | starredExpression | kwargs | starredKwList
  | moreStarredKws | doubleStarredKwList | moreDoubleStarredKws | kwargOrStarred
  | kwargOrDoubleStarred
  deriving DecidableEq, Hashable, Inhabited, Repr

/-- An item of an alternative. -/
inductive Item where
  /-- This token, taken. -/
  | token (t : Terminal)
  /-- This token if it is next. -/
  | optToken (t : Terminal)
  /-- A call of a rule that must succeed. -/
  | call (r : Rule)
  /-- A call of a rule that may fail. -/
  | optCall (r : Rule)
  /-- This token must be next; nothing is taken. -/
  | ahead (t : Terminal)
  /-- This token must not be next. -/
  | notAhead (t : Terminal)
  /-- A call of a rule that must succeed; nothing is taken. -/
  | aheadCall (r : Rule)
  /-- The rest of an alternative, which begins with a token no literal has and is left out. -/
  | stop
  deriving Inhabited, Repr

/-- How a rule runs. -/
inductive Form where
  /-- The first alternative that succeeds. -/
  | plain (alts : List (List Item))
  /-- As `plain`, with the result at each position remembered. -/
  | memo (alts : List (List Item))
  /-- A left-recursive rule: its result at a position is remembered, and its alternatives run
  again and again, each time seeing the last result for the rule itself, while the result
  gets longer. Each run of the alternatives is one more call. -/
  | leftRec (alts : List (List Item))
  /-- The body as many times as it succeeds. -/
  | many (body : List Item)
  /-- The body as many times as it succeeds, at least once. -/
  | many1 (body : List Item)
  deriving Inhabited, Repr

/-- A keyword or an operator. -/
abbrev w (s : String) : Terminal := .word s

open Item in
/-- The grammar: each rule's form. -/
def form : Rule → Form
  | .eval => .plain [[call .expressions, call .newlines, token .endMarker]]
  | .newlines => .many [token .newline]
  | .expressions => .plain
    [[call .expression, call .moreExpressions, optToken (w ",")],
     [call .expression, token (w ",")],
     [call .expression]]
  | .moreExpressions => .many1 [call .commaExpression]
  | .commaExpression => .plain [[token (w ","), call .expression]]
  | .expression => .memo
    [[call .disjunction, token (w "if"), call .disjunction, token (w "else"), call .expression],
     [call .disjunction],
     [call .lambdef]]
  | .lambdef => .plain [[token (w "lambda"), stop]]
  | .yieldExpr => .plain [[token (w "yield"), token (w "from"), stop], [token (w "yield"), stop]]
  | .disjunction => .memo [[call .conjunction, call .moreDisjuncts], [call .conjunction]]
  | .moreDisjuncts => .many1 [call .orConjunction]
  | .orConjunction => .plain [[token (w "or"), call .conjunction]]
  | .conjunction => .memo [[call .inversion, call .moreConjuncts], [call .inversion]]
  | .moreConjuncts => .many1 [call .andInversion]
  | .andInversion => .plain [[token (w "and"), call .inversion]]
  | .inversion => .memo [[token (w "not"), call .inversion], [call .comparison]]
  | .comparison => .plain [[call .bitwiseOr, call .comparisons], [call .bitwiseOr]]
  | .comparisons => .many1 [call .comparePair]
  | .comparePair => .plain
    [[call .equal], [call .notEqual], [call .lessEqual], [call .less], [call .greaterEqual],
     [call .greater], [call .notIn], [call .isIn], [call .isNot], [call .isSame]]
  | .equal => .plain [[token (w "=="), call .bitwiseOr]]
  | .notEqual => .plain [[call .notEqualSign, call .bitwiseOr]]
  | .notEqualSign => .plain [[token (w "!=")]]
  | .lessEqual => .plain [[token (w "<="), call .bitwiseOr]]
  | .less => .plain [[token (w "<"), call .bitwiseOr]]
  | .greaterEqual => .plain [[token (w ">="), call .bitwiseOr]]
  | .greater => .plain [[token (w ">"), call .bitwiseOr]]
  | .notIn => .plain [[token (w "not"), token (w "in"), call .bitwiseOr]]
  | .isIn => .plain [[token (w "in"), call .bitwiseOr]]
  | .isNot => .plain [[token (w "is"), token (w "not"), call .bitwiseOr]]
  | .isSame => .plain [[token (w "is"), call .bitwiseOr]]
  | .bitwiseOr => .leftRec
    [[call .bitwiseOr, token (w "|"), call .bitwiseXor], [call .bitwiseXor]]
  | .bitwiseXor => .leftRec
    [[call .bitwiseXor, token (w "^"), call .bitwiseAnd], [call .bitwiseAnd]]
  | .bitwiseAnd => .leftRec [[call .bitwiseAnd, token (w "&"), call .shift], [call .shift]]
  | .shift => .leftRec
    [[call .shift, token (w "<<"), call .sum], [call .shift, token (w ">>"), call .sum],
     [call .sum]]
  | .sum => .leftRec
    [[call .sum, token (w "+"), call .term], [call .sum, token (w "-"), call .term], [call .term]]
  | .term => .leftRec
    [[call .term, token (w "*"), call .factor], [call .term, token (w "/"), call .factor],
     [call .term, token (w "//"), call .factor], [call .term, token (w "%"), call .factor],
     [call .term, token (w "@"), call .factor], [call .factor]]
  | .factor => .memo
    [[token (w "+"), call .factor], [token (w "-"), call .factor], [token (w "~"), call .factor],
     [call .power]]
  | .power => .plain [[call .awaitPrimary, token (w "**"), call .factor], [call .awaitPrimary]]
  | .awaitPrimary => .memo [[token (w "await"), call .primary], [call .primary]]
  | .primary => .leftRec
    [[call .primary, token (w "."), token .name], [call .primary, call .genexp],
     [call .primary, token (w "("), optCall .arguments, token (w ")")],
     [call .primary, token (w "["), stop], [call .atom]]
  | .atom => .plain
    [[token .name], [token (w "True")], [token (w "False")], [token (w "None")],
     [ahead .string, call .strings], [token .number], [ahead (w "("), call .inParens],
     [ahead (w "["), call .inBrackets], [ahead (w "\x7b"), call .inBraces], [token (w "...")]]
  | .strings => .memo [[call .stringRun]]
  | .stringRun => .many1 [token .string]
  | .inParens => .plain [[call .tuple], [call .group], [call .genexp]]
  | .inBrackets => .plain [[call .list], [call .listcomp]]
  | .inBraces => .plain [[call .dict], [call .set], [call .dictcomp], [call .setcomp]]
  | .tuple => .plain [[token (w "("), optCall .tupleBody, token (w ")")]]
  | .tupleBody => .plain
    [[call .starNamedExpression, token (w ","), optCall .starNamedExpressions]]
  | .group => .plain [[token (w "("), call .groupBody, token (w ")")]]
  | .groupBody => .plain [[call .yieldExpr], [call .namedExpression]]
  | .genexp => .plain
    [[token (w "("), call .genexpBody, call .forIfClauses, token (w ")")]]
  | .genexpBody => .plain [[call .assignment], [call .expression, notAhead (w ":=")]]
  | .forIfClauses => .plain [[call .forIfRun]]
  | .forIfRun => .many1 [call .forIfClause]
  | .forIfClause => .plain [[token (w "async"), stop], [token (w "for"), stop]]
  | .list => .plain [[token (w "["), optCall .starNamedExpressions, token (w "]")]]
  | .listcomp => .plain
    [[token (w "["), call .namedExpression, call .forIfClauses, token (w "]")]]
  | .set => .plain [[token (w "\x7b"), call .starNamedExpressions, token (w "\x7d")]]
  | .setcomp => .plain
    [[token (w "\x7b"), call .namedExpression, call .forIfClauses, token (w "\x7d")]]
  | .dict => .plain
    [[token (w "\x7b"), optCall .pairs, token (w "\x7d")],
     [token (w "\x7b"), call .badPairs, token (w "\x7d")]]
  | .dictcomp => .plain [[token (w "\x7b"), call .pair, call .forIfClauses, token (w "\x7d")]]
  | .pairs => .plain [[call .pairList, optToken (w ",")]]
  | .pairList => .plain [[call .pairItem, call .morePairs]]
  | .morePairs => .many [token (w ","), call .pairItem]
  | .pairItem => .plain [[token (w "**"), call .bitwiseOr], [call .pair]]
  | .pair => .plain [[call .expression, token (w ":"), call .expression]]
  | .badPairs => .plain
    [[call .pairList, token (w ","), call .badPair],
     [call .expression, token (w ":"), token (w "*"), call .bitwiseOr],
     [call .expression, token (w ":"), aheadCall .closeOrComma]]
  | .closeOrComma => .plain [[token (w "\x7d")], [token (w ",")]]
  | .badPair => .plain
    [[call .expression, notAhead (w ":")],
     [call .expression, token (w ":"), token (w "*"), call .bitwiseOr],
     [call .expression, token (w ":"), aheadCall .closeOrComma]]
  | .starNamedExpressions => .plain [[call .namedList, optToken (w ",")]]
  | .namedList => .plain [[call .starNamedExpression, call .moreNamed]]
  | .moreNamed => .many [token (w ","), call .starNamedExpression]
  | .starNamedExpression => .plain [[token (w "*"), call .bitwiseOr], [call .namedExpression]]
  | .namedExpression => .plain [[call .assignment], [call .expression, notAhead (w ":=")]]
  | .assignment => .plain [[token .name, token (w ":="), stop]]
  | .arguments => .memo [[call .args, optToken (w ","), ahead (w ")")]]
  | .args => .plain [[call .argList, optCall .argsKeywords], [call .kwargs]]
  | .argList => .plain [[call .arg, call .moreArgs]]
  | .moreArgs => .many [token (w ","), call .arg]
  | .arg => .plain [[call .starredExpression], [call .argExpression, notAhead (w "=")]]
  | .argExpression => .plain [[call .assignment], [call .expression, notAhead (w ":=")]]
  | .argsKeywords => .plain [[token (w ","), call .kwargs]]
  | .starredExpression => .plain [[token (w "*"), call .expression]]
  | .kwargs => .plain
    [[call .starredKwList, token (w ","), call .doubleStarredKwList], [call .starredKwList],
     [call .doubleStarredKwList]]
  | .starredKwList => .plain [[call .kwargOrStarred, call .moreStarredKws]]
  | .moreStarredKws => .many [token (w ","), call .kwargOrStarred]
  | .doubleStarredKwList => .plain [[call .kwargOrDoubleStarred, call .moreDoubleStarredKws]]
  | .moreDoubleStarredKws => .many [token (w ","), call .kwargOrDoubleStarred]
  | .kwargOrStarred => .plain
    [[token .name, token (w "="), call .expression], [call .starredExpression]]
  | .kwargOrDoubleStarred => .plain
    [[token .name, token (w "="), call .expression], [token (w "**"), call .expression]]

/-- The deepest nesting of rule calls the parser allows. -/
def stackLimit : Nat := 6000

/-- The interpreter's state: the remembered results, by rule and position, and whether the
nesting has gone past the limit (after which every call fails at once). -/
structure Run where
  memo : Std.HashMap (Rule × Nat) (Option Nat) := {}
  overflowed : Bool := false

/-- Stop: the nesting has gone past the limit. -/
def overflow : StateM Run (Option Nat) := do
  modify fun s => { s with overflowed := true }
  pure none

/-- Remember a rule's result at a position. -/
def remember (r : Rule) (pos : Nat) (res : Option Nat) : StateM Run Unit :=
  modify fun s => { s with memo := s.memo.insert (r, pos) res }

mutual

/-- Call a rule at a token position with `budget` more nested calls allowed (this one
included): the position after what it takes, or none when it fails. -/
def call (ts : Array Terminal) (budget : Nat) (r : Rule) (pos : Nat) :
    StateM Run (Option Nat) := do
  match budget with
  | 0 => overflow
  | b + 1 =>
    if (← get).overflowed then return none
    match form r with
    | .plain alts => choose ts b alts pos
    | .memo alts =>
      match (← get).memo[(r, pos)]? with
      | some res => pure res
      | none =>
        let res ← choose ts b alts pos
        remember r pos res
        pure res
    | .leftRec alts =>
      match (← get).memo[(r, pos)]? with
      | some res => pure res
      | none => grow ts b r alts pos none pos (ts.size + 1)
    | .many body => do
      let (_, e) ← runMany ts b body pos 0 (ts.size + 1)
      pure (some e)
    | .many1 body => do
      let (n, e) ← runMany ts b body pos 0 (ts.size + 1)
      pure (if n = 0 then none else some e)
termination_by (budget, 0, 0)

/-- The first alternative that succeeds. -/
def choose (ts : Array Terminal) (budget : Nat) (alts : List (List Item)) (pos : Nat) :
    StateM Run (Option Nat) := do
  match alts with
  | [] => pure none
  | alt :: rest =>
    match ← walk ts budget alt pos with
    | some e => pure (some e)
    | none => if (← get).overflowed then pure none else choose ts budget rest pos
termination_by (budget, 3, alts.length)

/-- The items of an alternative in turn. -/
def walk (ts : Array Terminal) (budget : Nat) (items : List Item) (pos : Nat) :
    StateM Run (Option Nat) := do
  match items with
  | [] => pure (some pos)
  | .token t :: rest => if ts[pos]? == some t then walk ts budget rest (pos + 1) else pure none
  | .optToken t :: rest =>
    walk ts budget rest (if ts[pos]? == some t then pos + 1 else pos)
  | .call r :: rest =>
    match ← call ts budget r pos with
    | some e => walk ts budget rest e
    | none => pure none
  | .optCall r :: rest => do
    let e ← call ts budget r pos
    if (← get).overflowed then pure none else walk ts budget rest (e.getD pos)
  | .ahead t :: rest => if ts[pos]? == some t then walk ts budget rest pos else pure none
  | .notAhead t :: rest => if ts[pos]? == some t then pure none else walk ts budget rest pos
  | .aheadCall r :: rest =>
    match ← call ts budget r pos with
    | some _ => walk ts budget rest pos
    | none => pure none
  | .stop :: _ => pure none
termination_by (budget, 1, items.length)

/-- A body as many times as it succeeds (at most `fuel` times): how many times, and where the
last success ended. -/
def runMany (ts : Array Terminal) (budget : Nat) (body : List Item) (pos count : Nat)
    (fuel : Nat) : StateM Run (Nat × Nat) := do
  match fuel with
  | 0 => pure (count, pos)
  | fuel + 1 =>
    match ← walk ts budget body pos with
    | some e => runMany ts budget body e (count + 1) fuel
    | none => pure (count, pos)
termination_by (budget, 2, fuel)

/-- Grow a left-recursive rule at `start` from the result `res` (ending at `mark`): remember
it, run the alternatives once more as one call, and keep the new result while it is longer. -/
def grow (ts : Array Terminal) (budget : Nat) (r : Rule) (alts : List (List Item))
    (start : Nat) (res : Option Nat) (mark : Nat) (fuel : Nat) : StateM Run (Option Nat) := do
  match fuel with
  | 0 => pure res
  | fuel + 1 =>
    remember r start res
    let raw ← match budget with
      | 0 => overflow
      | b + 1 => choose ts b alts start
    if (← get).overflowed then return none
    match raw with
    | some e => if e ≤ mark then pure res else grow ts budget r alts start (some e) e fuel
    | none => pure res
termination_by (budget, 4, fuel)

end

/-- Whether parsing a list of tokens (ending with the line end and the end marker) nests rule
calls deeper than `limit`. -/
def nestsDeeper (limit : Nat) (ts : Array Terminal) : Bool :=
  ((call ts limit .eval 0).run {}).2.overflowed

/-- Whether parsing a list of tokens nests rule calls deeper than the parser allows. -/
def overflows (ts : Array Terminal) : Bool :=
  nestsDeeper stackLimit ts

end Grammar

end NodeCatalog
