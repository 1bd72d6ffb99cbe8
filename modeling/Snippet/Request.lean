import Snippet.Language
import Snippet.Text.Lines
/-!
A request to run a snippet, and the cursor that hands out its input lines.
-/

namespace Snippet

/-- One submission: source text, language and the input lines it may read. -/
structure Request where
  /-- the source text -/
  source : String
  /-- its declared language -/
  language : Language
  /-- the lines that its input primitive hands out -/
  stdin : List String
  deriving Repr, DecidableEq

/-- A request whose input lines are those of a text. -/
def Request.ofText (source : String) (language : Language) (stdin : String) : Request :=
  ⟨source, language, Text.lines stdin⟩

/-- Hands out input lines in order; belongs to one request. -/
structure LineCursor where
  /-- all lines, handed out or not -/
  lines : List String
  /-- how many lines have been handed out -/
  position : Nat
  deriving Repr, DecidableEq

namespace LineCursor

/-- A cursor before its first line. -/
def ofLines (lines : List String) : LineCursor := ⟨lines, 0⟩

/-- The next line, if there is one, and the cursor after it. -/
def next (c : LineCursor) : Option String × LineCursor :=
  match c.lines[c.position]? with
  | some line => (some line, { c with position := c.position + 1 })
  | none => (none, c)

/-- Have all lines been handed out? -/
def isExhausted (c : LineCursor) : Bool := c.lines.length ≤ c.position

end LineCursor

/-- A cursor over the input lines of a request. -/
def Request.cursor (r : Request) : LineCursor := .ofLines r.stdin

end Snippet
