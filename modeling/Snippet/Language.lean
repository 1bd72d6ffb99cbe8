import Snippet.Json.Read
import Snippet.Json.Write
import Snippet.Text.Blank
import Snippet.Text.Case
/-!
The declared language of a snippet.

Reading a tag never fails: a tag that names none of the four languages with a backend of their own is
kept, in lower case, as `other`. In JSON a language is its tag.
-/

namespace Snippet

open Snippet.Text

/-- The declared language of a piece of source text. -/
inductive Language where
  | javascript
  | python
  | html
  | css
  | other (name : String)
  deriving Repr, DecidableEq, Inhabited

namespace Language

/-- The language a tag names. Blanks around the tag and the case of ASCII letters do not count. -/
def ofTag (tag : String) : Language :=
  let name := lowerAscii (trim tag)
  if name = "javascript" ∨ name = "js" ∨ name = "node" then .javascript
  else if name = "python" ∨ name = "py" ∨ name = "python3" then .python
  else if name = "html" ∨ name = "htm" then .html
  else if name = "css" then .css
  else .other name

/-- The language a file extension stands for. Only the case of ASCII letters does not count. -/
def ofExtension (extension : String) : Language :=
  let name := lowerAscii extension
  if name = "js" ∨ name = "mjs" ∨ name = "cjs" then .javascript
  else if name = "py" then .python
  else if name = "html" ∨ name = "htm" then .html
  else if name = "css" then .css
  else .other name

/-- The tag under which a language is written. -/
def tag : Language → String
  | .javascript => "javascript"
  | .python => "python"
  | .html => "html"
  | .css => "css"
  | .other name => name

/-- The name shown to people. -/
def displayName : Language → String
  | .javascript => "JavaScript"
  | .python => "Python"
  | .html => "HTML"
  | .css => "CSS"
  | .other name => upper name

/-- Can a preview document be built from the language? -/
def isPreviewable : Language → Bool
  | .html | .css | .javascript => true
  | _ => false

/-- Does the language have a backend of its own? -/
def isKnown : Language → Bool
  | .other _ => false
  | _ => true

/-! ## Languages in JSON -/

/-- A language as a JSON value. -/
def toJson (l : Language) : Json String := .str l.tag

/-- The language that a JSON value names, if it is text. -/
def ofJson? : Json String → Option Language
  | .str tag => some (ofTag tag)
  | _ => none

/-- A language as JSON text. -/
def written (l : Language) : String := Json.compact l.toJson

/-- The language that a JSON text names. -/
def read? (text : String) : Option Language := (Json.readText text).bind ofJson?

end Language

/-- The backends a request can be routed to. -/
inductive Backend where
  | script
  | interpreter
  | markup
  | outline
  deriving Repr, DecidableEq

namespace Backend

/-- The name of a backend. -/
def name : Backend → String
  | .script => "script"
  | .interpreter => "interpreter"
  | .markup => "markup"
  | .outline => "structure"

end Backend

/-- The one backend that serves a language. -/
def Language.backend : Language → Backend
  | .javascript => .script
  | .python => .interpreter
  | .html | .css => .markup
  | .other _ => .outline

end Snippet
