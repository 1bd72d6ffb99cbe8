import Snippet.Text.Search
/-!
The forms of the command line, as data: which options a command takes and what is said about them.

`Form.help` lays out what the forms say; the reading of arguments is another module's.
-/

namespace Snippet.CommandLine

open Snippet.Text

/-- What an option stands for. -/
inductive Key where
  | verbose
  | help
  | version
  | lang
  | stdin
  | stdinFile
  | json
  | model
  | md
  | noMd
  | out
  | watch
  | delayMs
  deriving Repr, DecidableEq

/-- What an option may be set to. -/
inductive Kind where
  /-- any text -/
  | text
  /-- a path name, which is not empty -/
  | path
  /-- a natural number of 64 bits -/
  | count
  deriving Repr, DecidableEq

/-- An option. -/
structure Spec where
  key : Key
  short : Option Char
  long : String
  /-- the label of the value and what it may be, if the option takes one -/
  value : Option (String × Kind)
  help : String
  deriving Repr, DecidableEq

/-- The option as it is named in messages. -/
def Spec.label (s : Spec) : String :=
  "--" ++ s.long ++ (match s.value with
    | some (label, _) => " <" ++ label ++ ">"
    | none => "")

/-- The option as it is listed. -/
def Spec.listed (s : Spec) : String :=
  (match s.short with
    | some c => "-" ++ String.singleton c ++ ", "
    | none => "    ") ++ s.label

/-- A command, or the program as a whole. -/
structure Form where
  /-- the name by which it is chosen -/
  name : String
  about : String
  usage : String
  /-- what may be chosen next, with a description -/
  choices : List (String × String)
  /-- arguments by position, with a description -/
  arguments : List (String × String)
  options : List Spec
  /-- options of which only one may be given -/
  exclusive : List Key
  deriving Repr

namespace Form

/-- A list in two columns. -/
def columns (rows : List (String × String)) : String :=
  let width := (rows.map fun r => r.1.length).foldl max 0
  join "" (rows.map fun (left, right) =>
    "  " ++ left ++ spaces (width - left.length + 2) ++ right ++ "\n")

/-- A titled list, or nothing if there is nothing to list. -/
def section_ (title : String) (rows : List (String × String)) : String :=
  if rows.isEmpty then "" else "\n" ++ title ++ ":\n" ++ columns rows

/-- What is said about the form on request. -/
def help (f : Form) : String :=
  f.about ++ "\n\nUsage: " ++ f.usage ++ "\n" ++ section_ "Commands" f.choices ++
    section_ "Arguments" f.arguments ++
    section_ "Options" (f.options.map fun s => (s.listed, s.help))

/-- The option of that long name. -/
def long? (f : Form) (name : String) : Option Spec := f.options.find? fun s => s.long == name

/-- The option of that letter. -/
def short? (f : Form) (letter : Char) : Option Spec :=
  f.options.find? fun s => s.short == some letter

/-- The option of that key. -/
def spec? (f : Form) (key : Key) : Option Spec := f.options.find? fun s => s.key == key

end Form

/-! ## The forms of the program -/

/-- The name and the version of the program. -/
def version : String := "neoncode 0.1.0"

/-- Tells the program to say more about what it does. -/
def verbose : Spec := ⟨.verbose, some 'v', "verbose", none, "Verbose logging (debug level) on stderr"⟩

/-- Asks for a description. -/
def askHelp : Spec := ⟨.help, some 'h', "help", none, "Print help"⟩

/-- The language of a snippet; what is said about it differs. -/
def lang (help : String) : Spec := ⟨.lang, some 'l', "lang", some ("LANG", .text), help⟩

/-- Asks for JSON. -/
def json (help : String) : Spec := ⟨.json, none, "json", none, help⟩

/-- A source file by position. -/
def sourceArgument : String × String :=
  ("[FILE]", "Source file, or \x60-\x60 / nothing to read piped stdin")

/-- Running a snippet. -/
def runForm : Form where
  name := "run"
  about := "Execute a snippet and print its output"
  usage := "neoncode run [OPTIONS] [FILE]"
  choices := []
  arguments := [sourceArgument]
  options :=
    [lang "Language tag (javascript, python, html, css, ...). Defaults to the file extension", verbose,
      ⟨.stdin, none, "stdin", some ("STDIN", .text),
        "Text fed to \x60input()\x60 / \x60prompt()\x60, one line per call"⟩,
      ⟨.stdinFile, none, "stdin-file", some ("STDIN_FILE", .path),
        "Read the program's input lines from a file"⟩,
      json "Print the result as JSON", askHelp]
  exclusive := [.stdin, .stdinFile]

/-- Reviewing a snippet. -/
def analyzeForm : Form where
  name := "analyze"
  about := "Review a snippet with the configured model plus local checks"
  usage := "neoncode analyze [OPTIONS] [FILE]"
  choices := []
  arguments := [sourceArgument]
  options :=
    [lang "", verbose,
      ⟨.model, none, "model", some ("MODEL", .text),
        "Model used for the review. Defaults to DEFAULT_MODEL"⟩,
      ⟨.md, none, "md", none, "Render the review as Markdown"⟩,
      ⟨.noMd, none, "no-md", none, "Print the review as plain text"⟩,
      json "Print the bundle as JSON", askHelp]
  exclusive := [.md, .noMd]

/-- Previewing a snippet. -/
def previewForm : Form where
  name := "preview"
  about := "Write a live HTML preview of an HTML, CSS or JavaScript file"
  usage := "neoncode preview [OPTIONS] [FILE]"
  choices := []
  arguments := [("[FILE]", "")]
  options :=
    [lang "", verbose,
      ⟨.out, some 'o', "out", some ("OUT", .path), "Output HTML file. Defaults to PREVIEW_PATH"⟩,
      ⟨.watch, some 'w', "watch", none, "Keep running and re-render whenever FILE changes"⟩,
      ⟨.delayMs, none, "delay-ms", some ("DELAY_MS", .count),
        "Quiet period before a change is rendered. Defaults to PREVIEW_DEBOUNCE_MS"⟩,
      askHelp]
  exclusive := []

/-- Describing a command. -/
def helpForm : Form where
  name := "help"
  about := "Print this message or the help of the given subcommand(s)"
  usage := "neoncode help [COMMAND]..."
  choices := []
  arguments := [("[COMMAND]...", "Print help for the subcommand(s)")]
  options := []
  exclusive := []

/-- The commands. -/
def forms : List Form := [runForm, analyzeForm, previewForm, helpForm]

/-- The program as a whole. -/
def programForm : Form where
  name := "neoncode"
  about := "Run, preview and review code snippets"
  usage := "neoncode [OPTIONS] <COMMAND>"
  choices := forms.map fun f => (f.name, f.about)
  arguments := []
  options := [verbose, askHelp, ⟨.version, some 'V', "version", none, "Print version"⟩]
  exclusive := []

end Snippet.CommandLine
