import NodeCatalog.Pattern.Match
import NodeCatalog.Text.Basic
import NodeCatalog.Value.Number
/-!
# Field patterns of node sources

The shapes in which a node source declares its fields, as patterns. A field is its name, a colon
with blanks allowed around it, and a value: a quoted text (either quote, closed by the same quote,
the shortest such text), a bracketed list, or a number made of digits and dots. A declaration is
`const` and a name, an optional type, `=`, and a braced body closed by `}` and `;`, the shortest
such body. They are the regular expressions of `extract_base_description`,
`extract_single_node_fields` and `extract_node_versions` (`src/tools/extract_schemas.py`, lines
43–115).

- `Fields.quoted`, `Fields.bracketed`, `Fields.listed`, `Fields.numeric`, `Fields.singleQuoted`:
  the field shapes.
- `Fields.typedDeclaration`, `Fields.plainDeclaration`, `Fields.declarationBody`: the body of a
  declaration.
- `Fields.splitList`: the items of a bracketed list, trimmed of blanks and then of quotes.
-/

namespace NodeCatalog

namespace Fields

open Pattern

/-- `NAME: 'text'` or `NAME: "text"`: group 1 is the quote, group 2 the shortest text up to the
same quote, across lines. -/
def quoted (name : String) : Pattern :=
  seqs [key name, openQuote 1, .group 2 (.many .any 0 false), .backref 1]

/-- `NAME: [items]` with at least one character between the brackets and no `]`: group 1 is the
items. -/
def bracketed (name : String) : Pattern :=
  seqs [key name, lit "[", .group 1 (.many (.complement (.char ']')) 1 true), lit "]"]

/-- `NAME: [items]`, the items possibly empty: group 1 is the items. -/
def listed (name : String) : Pattern :=
  seqs [key name, lit "[", .group 1 (.many (.complement (.char ']')) 0 true), lit "]"]

/-- `NAME: 1.2`: group 1 is the longest run of digits and dots. -/
def numeric (name : String) : Pattern :=
  seqs [key name, .group 1 (.many (.union .digit (.char '.')) 1 true)]

/-- `NAME: 'text'` in single quotes, where a quote preceded by a backslash does not close the
text unless nothing else can: group 1 is the text. -/
def singleQuoted (name : String) : Pattern :=
  seqs [key name, lit "'",
    .group 1 (.star (.alt (lit "\\'") (.one (.complement (.char '\'')))) false), lit "'"]

/-- `const NAME: Type = { body };` with `= ` written with one space and the type free of `{` and
`=`: group 1 is the shortest body. -/
def typedDeclaration (name : String) : Pattern :=
  seqs [lit "const", someBlanks, lit name, blanks, lit ":",
    .many (.complement (CharClass.ofList ['{', '='])) 0 true, lit "= ", blanks, lit "\x7b",
    .group 1 (.many .any 0 false), lit "\x7d", blanks, lit ";"]

/-- `const NAME = { body };`: group 1 is the shortest body. -/
def plainDeclaration (name : String) : Pattern :=
  seqs [lit "const", someBlanks, lit name, blanks, lit "=", blanks, lit "\x7b",
    .group 1 (.many .any 0 false), lit "\x7d", blanks, lit ";"]

/-- The body of the declaration of a name: the typed form first, else the plain form. -/
def declarationBody (name : String) (content : Text) : Option Text :=
  match (typedDeclaration name).search content with
  | some m => some (m.groupD 1)
  | none => ((plainDeclaration name).search content).map (·.groupD 1)

/-- The quote characters trimmed from list items. -/
def quoteChars : List Char := ['"', '\'']

/-- The items of a list text: cut at every comma, each trimmed of blanks and then of quotes. -/
def splitList (items : Text) : List Text :=
  (Text.splitOn [.char ','] items).map fun s => Text.trimBy (Text.oneOf quoteChars) (Text.trim s)

end Fields

end NodeCatalog
