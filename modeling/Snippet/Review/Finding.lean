import Snippet.Metrics
/-!
Findings: what can be said about a source text without help.

The list always begins with the size. A blank source is reported and nothing else is said of it.
-/

namespace Snippet.Review

open Snippet.Text

/-- How much a finding matters. -/
inductive Severity where
  | info
  | notice
  deriving Repr, DecidableEq

/-- The name of a severity in reports. -/
def Severity.name : Severity → String
  | .info => "info"
  | .notice => "notice"

/-- The marker of a severity in a list. -/
def Severity.marker : Severity → String
  | .info => "ℹ️"
  | .notice => "⚠️"

/-- What a finding is about. -/
inductive Subject where
  | size (lines nonBlank characters : Nat)
  | blankSource
  | functions
  | noFunctions
  | conditionals
  | loops
  | longLines (count : Nat)
  | markers (count : Nat)
  deriving Repr, DecidableEq

/-- Lines with more characters than this are long. -/
def longLine : Nat := 120

namespace Subject

/-- How much a finding of the subject matters. -/
def severity : Subject → Severity
  | .size .. | .functions | .conditionals | .loops => .info
  | .blankSource | .noFunctions | .longLines _ | .markers _ => .notice

/-- The wording of a finding. -/
def message : Subject → String
  | .size lines nonBlank characters =>
    "Size: " ++ toString lines ++ " lines (" ++ toString nonBlank ++ " non-empty), " ++
      toString characters ++ " characters"
  | .blankSource => "Source is empty"
  | .functions => "Contains function definitions"
  | .noFunctions => "No function definitions found; consider splitting the code into functions"
  | .conditionals => "Contains conditional statements"
  | .loops => "Contains loops"
  | .longLines count =>
    toString count ++ " line(s) longer than " ++ toString longLine ++ " characters"
  | .markers count => toString count ++ " TODO/FIXME marker(s)"

/-- The finding as a JSON object. -/
def toJson (s : Subject) : Json String :=
  .obj [("severity", .str s.severity.name), ("message", .str s.message)]

end Subject

/-- How many lines are long. -/
def countLong (source : String) : Nat :=
  ((linesOf source.toList).filter fun line => longLine < line.length).length

/-- How many lines carry a marker of unfinished work. -/
def countMarkers (source : String) : Nat :=
  ((linesOf source.toList).filter fun line =>
    occurs "TODO".toList line || occurs "FIXME".toList line).length

/-- What can be said about a source text, in a fixed order. -/
def findings (source : String) : List Subject :=
  let m := Metrics.scan source
  let size := Subject.size m.lines m.nonBlankLines m.characters
  if isBlankText source then [size, .blankSource]
  else
    [size] ++
    (if m.hasFunctions then [.functions] else if 1 < m.nonBlankLines then [.noFunctions] else []) ++
    (if m.hasConditionals then [.conditionals] else []) ++
    (if m.hasLoops then [.loops] else []) ++
    (if 0 < countLong source then [.longLines (countLong source)] else []) ++
    (if 0 < countMarkers source then [.markers (countMarkers source)] else [])

end Snippet.Review
