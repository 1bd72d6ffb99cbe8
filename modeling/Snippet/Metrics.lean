import Snippet.Language
import Snippet.Text.Lines
import Snippet.Text.Search
import Snippet.Json.Write
/-!
Structural metrics of a text, and the report made from them.

The scan looks for fixed tokens and counts lines; nothing is parsed.
-/

namespace Snippet

open Snippet.Text

/-- What a scan of raw text finds. -/
structure Metrics where
  /-- lines, where every newline separates two -/
  lines : Nat
  /-- lines with something to see on them -/
  nonBlankLines : Nat
  /-- characters -/
  characters : Nat
  /-- a token of a function definition occurs -/
  hasFunctions : Bool
  /-- a token of a conditional occurs -/
  hasConditionals : Bool
  /-- a token of a loop occurs -/
  hasLoops : Bool
  deriving Repr, DecidableEq

namespace Metrics

/-- Tokens that speak for a function definition. -/
def functionTokens : List String := ["function", "def ", "void "]

/-- Tokens that speak for a conditional. -/
def conditionalTokens : List String := ["if ", "if("]

/-- Tokens that speak for a loop. -/
def loopTokens : List String := ["for ", "while "]

/-- Does one of the tokens occur in the text? -/
def containsAny (source : String) (tokens : List String) : Bool := tokens.any (contains source)

/-- The metrics of a text. -/
def scan (source : String) : Metrics :=
  let pieces := splitAt '\n' source.toList
  { lines := pieces.length
    nonBlankLines := (pieces.filter fun line => !line.all isBlank).length
    characters := source.length
    hasFunctions := containsAny source functionTokens
    hasConditionals := containsAny source conditionalTokens
    hasLoops := containsAny source loopTokens }

/-- The line of the report that confirms functions. -/
def functionsLine : String := "✅ Contains function definitions\n"

/-- The line of the report that confirms conditionals. -/
def conditionalsLine : String := "✅ Contains conditional statements\n"

/-- The line of the report that confirms loops. -/
def loopsLine : String := "✅ Contains loops\n"

/-- The report on a text of a language without a backend. -/
def report (language : Language) (m : Metrics) : String :=
  "📊 " ++ language.displayName ++ " Code Analysis:\n\n" ++
  "📏 Lines of code: " ++ toString m.lines ++ "\n" ++
  "🔤 Characters: " ++ toString m.characters ++ "\n" ++
  "📝 Non-empty lines: " ++ toString m.nonBlankLines ++ "\n\n" ++
  (if m.hasFunctions then functionsLine else "") ++
  (if m.hasConditionals then conditionalsLine else "") ++
  (if m.hasLoops then loopsLine else "") ++
  "\n💡 Note: " ++ language.tag ++ " requires a specific runtime environment for execution." ++
  "\n📋 This analysis shows the code structure and basic syntax validation."

/-- The metrics as a JSON object. -/
def toJson (m : Metrics) : Json String :=
  .obj [("lines", .ofNat m.lines), ("nonBlankLines", .ofNat m.nonBlankLines),
    ("characters", .ofNat m.characters), ("hasFunctions", .bool m.hasFunctions),
    ("hasConditionals", .bool m.hasConditionals), ("hasLoops", .bool m.hasLoops)]

end Metrics

end Snippet
