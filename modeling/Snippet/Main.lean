import Snippet.CommandLine.Report
import Snippet.Guest.Interpret
import Std.Time
/-!
The program at a terminal.

The files that a command may look at are read into a tree beforehand, the command is carried out on the
tree, and what has changed is written back. No chat service is reached from here.
-/

open Snippet Snippet.CommandLine

namespace Snippet.Terminal

/-- The names from the root to a path, seen from a directory. -/
def locate (here : Files.Location) (path : String) : Files.Location :=
  let names := (Files.segments path).filter fun p => p != "" && p != "."
  names.foldl (fun at_ p => if p == ".." then at_.dropLast else at_ ++ [p])
    (if Files.isAbsolute path then [] else here)

/-- The path name of a location. -/
def pathOf (at_ : Files.Location) : String := "/" ++ Text.join "/" at_

/-- The number of the complaint that what should be read is a directory. -/
def directoryComplaint : UInt32 := 21

/-- What is at a location: what cannot be read is either a directory or nothing. -/
def look (at_ : Files.Location) : IO (Option Files.Node) := do
  try
    let content ← IO.FS.readBinFile (pathOf at_)
    return some (.file content.toList)
  catch
    | .inappropriateType _ number _ =>
      return if number == directoryComplaint then some .directory else none
    | _ => return none

/-- The tree with what is at a path, and on the way there. -/
def gather (here : Files.Location) (tree : Files.Tree) (path : String) : IO Files.Tree := do
  let at_ := locate here path
  (List.range at_.length).foldlM (fun tree n => do
    let part := at_.take (n + 1)
    match ← look part with
    | some node => return tree.put part node
    | none => return tree) tree

/-- Writes back what is new in a tree. -/
def writeBack (before after : Files.Tree) : IO Unit := do
  for (at_, node) in after.entries do
    if before.lookup at_ != some node then
      match node with
      | .directory => IO.FS.createDirAll (pathOf at_)
      | .file content => IO.FS.writeBinFile (pathOf at_) ⟨content.toArray⟩

/-- The files that a command names. -/
def named : Command → List String
  | .run a => a.file.toList ++ a.stdinFile.toList
  | .analyze a => a.file.toList
  | .preview a => a.file.toList ++ a.out.toList

/-- Does a command take its source from what is piped in? -/
def readsPipe (c : Command) : Bool :=
  let file := match c with
    | .run a => a.file
    | .analyze a => a.file
    | .preview a => a.file
  file.isNone || file == some "-"

/-- All that is piped in. -/
def piped (c : Command) : IO (List UInt8) := do
  if readsPipe c then return (← (← IO.getStdin).readToEnd).toUTF8.toList else return []

/-- The variables that settings depend on. -/
def environment : IO (List (String × String)) :=
  (Settings.keys ++ ["OPENAI_API_KEY", "TMPDIR"]).filterMapM fun key => do
    return (← IO.getEnv key).map (key, ·)

/-- The place at which a command is called, with the files that it may look at. -/
def site (command : Option Command) : IO Site := do
  let here := locate [] (toString (← IO.currentDir))
  let home := (← IO.getEnv "HOME").getD "/"
  let environment ← environment
  let temporary := Settings.temporaryDirectory environment
  let settingsFile := home ++ "/.config/neoncode/.neoncoderc"
  let now ← Std.Time.Timestamp.now
  let tree ← ((command.map named).getD [] ++ [settingsFile]).foldlM (gather here) Files.Tree.empty
  let s : Site :=
    { tree, here, settingsFile, temporary, environment
      piped := ← (match command with
        | some c => piped c
        | none => pure [])
      now := ⟨now.toSecondsSinceUnixEpoch.toInt, 0⟩
      interpret := Guest.interpret Guest.usualPrograms (.panicked .opaquePayload)
      server := "", response := .dropped }
  let preview := s.settings.previewPath temporary
  let place : Preview.FilePlace := ⟨here, preview⟩
  let tree ← [preview, place.staging].foldlM (gather here) s.tree
  return { s with tree }

end Snippet.Terminal

/-- Carries out the arguments of the program. -/
def main (arguments : List String) : IO UInt32 := do
  let s ← Terminal.site (Command.ofArguments arguments).toOption
  let start ← IO.monoNanosNow
  let report ← IO.lazyPure fun _ => s.call arguments
  let exit := report.exit
  let stop ← IO.monoNanosNow
  Terminal.writeBack s.tree report.tree
  IO.print (report.out ((stop - start).toFloat / 1000000.0))
  IO.eprint report.complaint
  return exit.toUInt32
