import Snippet.CommandLine.Arguments
import Snippet.Source
import Snippet.Chat.Client
import Snippet.Review.Bundle
import Snippet.Preview.FileSurface
import Snippet.Dispatch
import Snippet.Presentation
/-!
What the program does, as a function of the site at which it is called.

A `Site` is everything that a command may look at; a `Report` is everything that it leaves behind. The
time that a run takes is not known here, so what is printed depends on it.
-/

namespace Snippet.CommandLine

open Snippet.Text

/-- Where the program is called. -/
structure Site where
  tree : Files.Tree
  /-- the directory that path names are seen from -/
  here : Files.Location
  settingsFile : String
  /-- the directory for temporary files -/
  temporary : String
  environment : List (String × String)
  /-- what is piped in -/
  piped : List UInt8
  now : Timestamp
  /-- what the interpreter makes of a request -/
  interpret : Settings → Request → Ending
  /-- the address of the chat service -/
  server : String
  /-- what the chat service would do -/
  response : Chat.Response

/-- What the program leaves behind. -/
structure Report where
  exit : Nat
  /-- what is printed, when a run took so many milliseconds -/
  out : Float → String
  /-- what is printed as a complaint -/
  complaint : String
  tree : Files.Tree
  /-- the request that was sent to the chat service -/
  sent : Option Chat.Sent

namespace Report

/-- A text is printed and nothing else happens. -/
def say (s : Site) (text : String) : Report := ⟨0, fun _ => text, "", s.tree, none⟩

/-- Causes below a message, numbered if there are several. -/
def causes : List String → String
  | [] => ""
  | [cause] => "\n\nCaused by:\n    " ++ cause
  | several =>
    "\n\nCaused by:\n" ++ join "\n" (several.zipIdx.map fun (cause, i) =>
      "    " ++ toString i ++ ": " ++ cause)

/-- The command cannot be carried out. -/
def fail (s : Site) : List String → Report
  | [] => ⟨1, fun _ => "", "", s.tree, none⟩
  | message :: rest => ⟨1, fun _ => "", "Error: " ++ message ++ causes rest ++ "\n", s.tree, none⟩

/-- The report, or what is said of a fault. -/
def orFail (s : Site) : Except SourceFault Report → Report
  | .ok r => r
  | .error e => fail s e.messages

end Report

namespace Site

/-- The settings that hold. -/
def settings (s : Site) : Settings :=
  .load s.temporary (s.tree.read s.here s.settingsFile).toOption s.environment

/-- The source text that a command names, and its language. -/
def source (s : Site) (file lang : Option String) : Except SourceFault (SourceText × Language) := do
  let text ← SourceText.ofArgument s.tree s.here s.piped file
  return (text, ← resolveLanguage lang text.path)

/-- The input that a command names for a snippet. -/
def input (s : Site) (a : RunArguments) : Except SourceFault String :=
  match a.stdin, a.stdinFile with
  | some text, _ => .ok text
  | none, some path => SourceText.readText s.tree s.here path ("stdin file " ++ path)
  | none, none => .ok ""

/-- Runs a snippet. -/
def run (s : Site) (a : RunArguments) : Report :=
  Report.orFail s do
    let (text, language) ← s.source a.file a.lang
    text.requireCode "No code to run"
    let input ← s.input a
    let settings := s.settings
    let path := settings.previewPath s.temporary
    let S := (⟨s.here, path⟩ : Preview.FilePlace).surface
    let backends := Backends.standard s.now (s.interpret settings)
    let request := Request.ofText text.text language input
    let (result, renderer) := (Preview.Renderer.start s.tree).dispatch S backends request 0.0
    let timed (ms : Float) : RunResult := { result with milliseconds := ms }
    let linked := if renderer.current.isSome then printed false ("🔗 Preview: " ++ path) .info else ""
    return {
      exit := if result.isSuccess then 0 else 1
      out := fun ms =>
        if a.json then Json.indented (timed ms).toJson ++ "\n" else (timed ms).printed false ++ linked
      complaint := ""
      tree := renderer.surface
      sent := none }

/-- How the chat service would review a snippet, when it is waited for so many milliseconds at most. -/
def reviewer (s : Site) (settings : Settings) (model : Option String) (limit : Nat) (source : String)
    (language : Language) : Option Chat.Sent × Review.Course :=
  let client := Chat.Client.ofSettings settings
  let (sent, answer) := client.insight s.server (Chat.modelOf settings model)
    (Review.prompt language source) s.response
  let reply : Review.Reply := match answer with
    | .ok text => .text text
    | .error reason => .failed reason
  (if limit = 0 then none else sent, ⟨some 1, reply⟩)

/-- Reviews a snippet. -/
def analyze (s : Site) (a : AnalyzeArguments) : Report :=
  Report.orFail s do
    let (text, language) ← s.source a.file a.lang
    text.requireCode "Please write some code to analyze"
    let settings := s.settings
    let limit := (settings.seconds "ANALYSIS_TIMEOUT" 30).nanos / 1000000
    let (sent, course) := s.reviewer settings a.model limit text.text language
    let (bundle, _) := Review.review (some course) limit text.text language s.now
    let markdown := if a.noMd then false else a.md || settings.flag "PRETTIFY_MARKDOWN"
    let note := if bundle.degraded then
        printed false "⚠️ AI insight unavailable; showing local analysis only." .warning
      else ""
    let out := if a.json then Json.indented bundle.toJson ++ "\n" else bundle.printed markdown ++ note
    return { Report.say s out with sent }

/-- What is said of a preview. -/
def previewNote (written : Bool) (language : Language) (path : String) : String :=
  (if written then Tone.success.paint "🔗 Preview written to"
    else Tone.warning.paint (language.displayName ++ " has no live preview; placeholder written to")) ++
    " " ++ path ++ "\n"

/-- Writes a preview of a snippet. -/
def preview (s : Site) (a : PreviewArguments) : Report :=
  if a.watch && (a.file.isNone || a.file == some "-") then
    Report.fail s ["--watch needs a FILE to watch"]
  else
    Report.orFail s do
      let (text, language) ← s.source a.file a.lang
      let settings := s.settings
      let path := a.out.getD (settings.previewPath s.temporary)
      let S := (⟨s.here, path⟩ : Preview.FilePlace).surface
      let renderer := ((Preview.Renderer.start s.tree).setAuto (settings.flag "AUTO_PREVIEW")).update S
        text.text language
      return { Report.say s (previewNote renderer.current.isSome language path) with
        tree := renderer.surface }

/-- What comes of a command. -/
def perform (s : Site) : Command → Report
  | .run a => s.run a
  | .analyze a => s.analyze a
  | .preview a => s.preview a

/-- What is said when no command comes of arguments. -/
def stopped (s : Site) : Stop → Report
  | .help f => Report.say s f.help
  | .version => Report.say s (version ++ "\n")
  | .bare => ⟨2, fun _ => "", programForm.help, s.tree, none⟩
  | .refused r => ⟨2, fun _ => "", "error: " ++ r.message ++ "\n", s.tree, none⟩

/-- What comes of arguments. -/
def call (s : Site) (arguments : List String) : Report :=
  match Command.ofArguments arguments with
  | .ok c => s.perform c
  | .error e => s.stopped e

end Site

end Snippet.CommandLine
