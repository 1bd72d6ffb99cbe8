import Snippet.Review.Finding
import Snippet.Time
/-!
A review: the insight of a model, where one could be had in time, beside the local findings.

The model is a `Course`: how long it would take and what would come of it. `review` waits for it no
longer than the limit and always comes to a usable bundle.
-/

namespace Snippet.Review

open Snippet.Text

/-- What a model's answer comes to. -/
inductive Reply where
  | text (insight : String)
  | failed (reason : String)
  | panicked (reason : String)
  deriving Repr, DecidableEq

/-- How a model would answer a prompt: after so many milliseconds, or never. -/
structure Course where
  /-- how long the answer takes; none if it never comes -/
  after : Option Nat
  reply : Reply
  deriving Repr, DecidableEq

/-- What stands in for an insight that could not be had. -/
def fallback : String :=
  "🤖 AI analysis temporarily unavailable. Showing local analysis only."

/-- What a model is asked about a source text. -/
def prompt (language : Language) (source : String) : String :=
  "Please analyze this " ++ language.tag ++ " code and provide:\n" ++
  "1. Code quality assessment\n" ++
  "2. Potential bugs or issues\n" ++
  "3. Performance suggestions\n" ++
  "4. Best practices recommendations\n" ++
  "5. Security considerations (if applicable)\n" ++
  "\n" ++
  "Code:\n" ++
  "\x60\x60\x60" ++ language.tag ++ "\n" ++
  source ++ "\n" ++
  "\x60\x60\x60"

/-- A review. -/
structure Bundle where
  /-- the model's insight, or what stands in for it -/
  insight : String
  findings : List Subject
  language : Language
  timestamp : Timestamp
  /-- characters of the source -/
  codeLength : Nat
  /-- the insight is the one that stands in -/
  degraded : Bool
  deriving Repr, DecidableEq

/-- The insight that an answer gives, unless there is nothing to see in it. -/
def Reply.insight? : Reply → Option String
  | .text insight => if isBlankText insight then none else some insight
  | .failed _ => none
  | .panicked _ => none

/-- The insight of a model that is given `limit` milliseconds. An answer that comes exactly at the
limit still counts. -/
def Course.insight? (c : Course) (limit : Nat) : Option String :=
  match c.after with
  | some t => if t ≤ limit then c.reply.insight? else none
  | none => none

/-- How long a model is waited for. -/
def Course.waited (c : Course) (limit : Nat) : Nat :=
  match c.after with
  | some t => min t limit
  | none => limit

/-- The bundle made of the local findings and an insight, if there is one. -/
def Bundle.make (insight : Option String) (source : String) (language : Language)
    (now : Timestamp) : Bundle :=
  { insight := insight.getD fallback
    findings := Review.findings source
    language
    timestamp := now
    codeLength := source.length
    degraded := insight.isNone }

/-- A review with a model, if there is one, that is waited for `limit` milliseconds at most; and how
many milliseconds it took. -/
def review (model : Option Course) (limit : Nat) (source : String) (language : Language)
    (now : Timestamp) : Bundle × Nat :=
  match model with
  | none => (.make none source language now, 0)
  | some course => (.make (course.insight? limit) source language now, course.waited limit)

namespace Bundle

/-- The bundle as a JSON object. -/
def toJson (b : Bundle) : Json String :=
  .obj [("aiInsight", .str b.insight), ("localFindings", .arr (b.findings.map (·.toJson))),
    ("language", .str b.language.tag), ("timestamp", .str b.timestamp.text),
    ("codeLength", .ofNat b.codeLength), ("degraded", .bool b.degraded)]

/-- The local findings as a list in Markdown. -/
def findingsText (b : Bundle) : String :=
  "## 📊 Local analysis (" ++ b.language.tag ++ ", " ++ toString b.codeLength ++ " characters)\n\n" ++
  join "" (b.findings.map fun f => "- " ++ f.severity.marker ++ " " ++ f.message ++ "\n")

/-- The insight under its heading, in Markdown. -/
def insightText (b : Bundle) : String := "## 🧠 AI insight\n\n" ++ b.insight ++ "\n"

end Bundle

/-- A line of Markdown on a terminal: a heading of the second level is underlined, plain text stands
as it is. -/
def terminalLine (line : List Char) : String :=
  match after? "## ".toList line with
  | some heading => "\x1b[4m" ++ String.ofList heading ++ "\x1b[0m\n"
  | none => String.ofList line ++ "\n"

/-- Short Markdown on a terminal. -/
def terminalText (text : String) : String := join "" ((linesOf text.toList).map terminalLine)

/-- What printing a bundle writes, laid out as Markdown or not. -/
def Bundle.printed (b : Bundle) (markdown : Bool) : String :=
  if markdown then terminalText b.insightText ++ "\n" ++ terminalText b.findingsText ++ "\n"
  else b.insightText ++ "\n" ++ b.findingsText ++ "\n"

end Snippet.Review
