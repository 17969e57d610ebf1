import NodeCatalog.Pattern.Match
import NodeCatalog.Value.Literal
import NodeCatalog.Docs.Description
/-!
# Front matter

A Markdown doc opens with front matter: a line starting with `---`, fields, and another `---`. The
front matter is the shortest text between the first `---` at the start of a line and the next `---`,
blanks around it dropped. In it, `title:` and `description:` at the start of a line give the rest of
their line (blanks after the colon skipped, even across lines), and `contentType: [...]` gives a
list: read as a literal list when it is one, else cut at commas and trimmed. These are the patterns
of both `extract_metadata` functions (`src/tools/extract_docs.py`, lines 41–63;
`src/tools/fetch_all_nodes.py`, lines 29–52).

- `FrontMatter.section?`: the front matter of a doc.
- `FrontMatter.contentType`: the list a `contentType` field gives.
- `FrontMatter.Fields`, `FrontMatter.fields?`: title, cleaned description and content types, or
  none when the doc lacks front matter, a title or a description.
-/

namespace NodeCatalog

namespace FrontMatter

open Pattern

/-- The front matter: `---` at the start of a line, blanks, the shortest text (group 1),
blanks, `---`. -/
def sectionPattern : Pattern :=
  seqs [.lineStart, lit "---", blanks, .group 1 (.many .any 0 false), blanks, lit "---"]

/-- A field line: the name and colon at the start of a line, blanks, and the rest of a line
(group 1, at least one character) up to its end. -/
def fieldPattern (name : String) : Pattern :=
  seqs [.lineStart, lit (name ++ ":"), blanks, .group 1 (.many CharClass.notNewline 1 true),
    .lineEnd]

/-- The content type line: `contentType:` at the start of a line, blanks, and the shortest text
between brackets on one line (group 1). -/
def contentTypePattern : Pattern :=
  seqs [.lineStart, lit "contentType:", blanks, lit "[",
    .group 1 (.many CharClass.notNewline 0 false), lit "]"]

/-- The front matter of a doc, if it has one. -/
def section? (content : Text) : Option Text :=
  (sectionPattern.search content).map (·.groupD 1)

/-- The list a content type field gives: its text, trimmed and in brackets, read as a literal
list; when that is not a literal list, the text cut at commas with each piece trimmed. -/
def contentType (inner : Text) : List Value :=
  match Literal.read? (.char '[' :: Text.trim inner ++ [.char ']']) with
  | some (.list vs) => vs
  | _ => (Text.splitOn [.char ','] inner).map fun p => .str (Text.trim p)

/-- What the front matter of a doc gives. -/
structure Fields where
  title : Text
  description : Text
  contentType : List Value

/-- The fields of a doc's front matter; none without front matter, title or description. The
title is trimmed; the description is trimmed and cleaned. -/
def fields? (content : Text) : Option Fields := do
  let fm ← section? content
  let title ← (fieldPattern "title").search fm
  let description ← (fieldPattern "description").search fm
  let types := match contentTypePattern.search fm with
    | some m => contentType (m.groupD 1)
    | none => []
  return {
    title := Text.trim (title.groupD 1)
    description := Description.clean (Text.trim (description.groupD 1))
    contentType := types }

end FrontMatter

end NodeCatalog
