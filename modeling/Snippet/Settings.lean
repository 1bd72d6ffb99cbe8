import Snippet.Files.Path
import Snippet.Text.Blank
import Snippet.Text.Search
import Snippet.Text.Utf8
import Snippet.Text.Case
import Snippet.Text.Lines
import Snippet.Time
import Snippet.Decimal.Reading
/-!
Settings: defaults, then the lines of a settings file, then the environment.

Later layers override earlier ones. The file may set any key; of the environment only the known keys
and those with a known beginning count.
-/

namespace Snippet

open Snippet.Text

/-- Keys and their values, the newest binding of a key in front. -/
structure Settings where
  bindings : List (String × String)
  deriving Repr, DecidableEq

namespace Settings

/-- The value of a key. -/
def get? (s : Settings) (key : String) : Option String :=
  (s.bindings.find? fun b => b.1 == key).map (·.2)

/-- The settings with one key bound anew. -/
def set (s : Settings) (key value : String) : Settings :=
  ⟨(key, value) :: s.bindings.filter fun b => b.1 != key⟩

/-- Where previews are written unless a place is set; the directory is the one for temporary files. -/
def previewIn (temporary : String) : String :=
  Files.entry (Files.entry temporary "neoncode") "preview.html"

/-- What holds before any file or variable is read; the directory is the one for temporary files. -/
def defaults (temporary : String) : Settings :=
  ⟨[("PREVIEW_PATH", previewIn temporary),
    ("REQUEST_TIMEOUT", "60"), ("ANALYSIS_TIMEOUT", "30"), ("BOOTSTRAP_TIMEOUT", "30"),
    ("PREVIEW_DEBOUNCE_MS", "500"), ("DEFAULT_MODEL", "gpt-4o"), ("API_BASE_URL", "default"),
    ("PYTHON_BIN", "auto"), ("AUTO_PREVIEW", "true"), ("PRETTIFY_MARKDOWN", "true")]⟩

/-! ## The settings file -/

/-- What a line of a settings file binds: nothing if it is blank, a comment or has no equals sign,
else the text before the first equals sign to the text after it, both without blanks around. -/
def binding? (line : List Char) : Option (String × String) :=
  let line := trimChars line
  if line.isEmpty || line.head? == some '#' then none
  else (cutAt? '=' line).map fun (key, value) =>
    (String.ofList (trimChars key), String.ofList (trimChars value))

/-- The settings after a line of a settings file. -/
def applyLine (s : Settings) (line : List Char) : Settings :=
  match binding? line with
  | some (key, value) => s.set key value
  | none => s

/-- The lines of a settings file that are read: those before the first one that is not UTF-8. -/
def readableLines (content : List UInt8) : List (List Char) :=
  ((records 10 content).map Utf8.decode?).takeWhile Option.isSome |>.filterMap id

/-- The settings after a settings file. -/
def merge (s : Settings) (content : List UInt8) : Settings :=
  (readableLines content).foldl applyLine s

/-! ## The environment -/

/-- The keys that the environment may set. -/
def keys : List String :=
  ["API_BASE_URL", "REQUEST_TIMEOUT", "ANALYSIS_TIMEOUT", "DEFAULT_MODEL", "PYTHON_BIN",
    "BOOTSTRAP_TIMEOUT", "PREVIEW_DEBOUNCE_MS", "PREVIEW_PATH", "AUTO_PREVIEW",
    "PRETTIFY_MARKDOWN"]

/-- May the environment set the key? -/
def isKey (key : String) : Bool :=
  keys.contains key || startsWith key "NEONCODE_" || startsWith key "OPENAI_"

/-- The settings after the variables of an environment. -/
def applyEnvironment (s : Settings) (environment : List (String × String)) : Settings :=
  environment.foldl (fun s (key, value) => if isKey key then s.set key value else s) s

/-- An environment as it is handed over: variables whose names and values are bytes. -/
abbrev RawEnvironment := List (List UInt8 × List UInt8)

/-- The variables as text; none if some name or value is not UTF-8, related to settings or not. -/
def decodeEnvironment? (raw : RawEnvironment) : Option (List (String × String)) :=
  raw.mapM fun (name, value) => do
    return (String.ofList (← Utf8.decode? name), String.ofList (← Utf8.decode? value))

/-- The settings that hold: defaults, then the file if there is one, then the environment. -/
def load (temporary : String) (file : Option (List UInt8)) (environment : List (String × String)) :
    Settings :=
  let s := defaults temporary
  let s := match file with
    | some content => s.merge content
    | none => s
  s.applyEnvironment environment

/-- The directory for temporary files. A variable that names another one is no setting. -/
def temporaryDirectory (environment : List (String × String)) : String :=
  ((environment.find? fun v => v.1 == "TMPDIR").map (·.2)).getD "/tmp"

/-- The settings that hold for a process, all variables that it can see being given. -/
def ofProcess (file : Option (List UInt8)) (environment : List (String × String)) : Settings :=
  load (temporaryDirectory environment) file environment

/-- The settings that hold for a process whose variables are bytes; none if these are not all text. -/
def ofRaw? (file : Option (List UInt8)) (raw : RawEnvironment) : Option Settings :=
  (decodeEnvironment? raw).map (ofProcess file)

/-! ## Typed values -/

/-- Is the key set to a word for yes? -/
def flag (s : Settings) (key : String) : Bool :=
  match s.get? key with
  | some v => lowerAscii v == "true" || v == "1"
  | none => false

/-- A natural number of 64 bits in decimal digits, with an optional plus sign. -/
def parseCount? (text : String) : Option Nat :=
  let cs := text.toList
  let ds := match cs with
    | '+' :: rest => rest
    | _ => cs
  if ds.isEmpty || !ds.all Char.isDigit then none
  else
    let n := Decimal.digitsValue ds
    if n < 0x10000000000000000 then some n else none

/-- The number that a key is set to; blanks around it do not count. -/
def count? (s : Settings) (key : String) : Option Nat :=
  (s.get? key).bind fun v => parseCount? (trim v)

/-- The number of seconds that a key is set to. -/
def seconds (s : Settings) (key : String) (default : Nat) : Duration :=
  .ofSeconds ((s.count? key).getD default)

/-- The number of milliseconds that a key is set to. -/
def millis (s : Settings) (key : String) (default : Nat) : Duration :=
  .ofMillis ((s.count? key).getD default)

/-- Where previews are written. -/
def previewPath (s : Settings) (temporary : String) : String :=
  (s.get? "PREVIEW_PATH").getD (previewIn temporary)

end Settings

end Snippet
