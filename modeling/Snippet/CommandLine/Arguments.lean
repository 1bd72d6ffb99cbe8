import Snippet.CommandLine.Form
import Snippet.Settings
/-!
Reading the arguments of the program.

Arguments are taken one by one against a form. An option whose value has not come yet is kept aside and
settled as soon as something else is taken, so of two faults the one that is met first in this order is
told.
-/

namespace Snippet.CommandLine

open Snippet.Text

/-- Why arguments are refused. -/
inductive Refusal where
  | unknownCommand (name : String)
  | missingCommand
  | unexpectedArgument (argument : String)
  /-- a value for an option that takes none -/
  | unexpectedValue (value label : String)
  | missingValue (label : String)
  | invalidValue (value label reason : String)
  | repeated (label : String)
  /-- two options of which only one may be given -/
  | conflict (label other : String)
  deriving Repr, DecidableEq

/-- The wording of a refusal. -/
def Refusal.message : Refusal → String
  | .unknownCommand name => "unrecognized subcommand '" ++ name ++ "'"
  | .missingCommand => "'neoncode' requires a subcommand but one was not provided"
  | .unexpectedArgument argument => "unexpected argument '" ++ argument ++ "' found"
  | .unexpectedValue value label =>
    "unexpected value '" ++ value ++ "' for '" ++ label ++ "' found; no more were expected"
  | .missingValue label => "a value is required for '" ++ label ++ "' but none was supplied"
  | .invalidValue value label reason =>
    "invalid value '" ++ value ++ "' for '" ++ label ++ "': " ++ reason
  | .repeated label => "the argument '" ++ label ++ "' cannot be used multiple times"
  | .conflict label other => "the argument '" ++ label ++ "' cannot be used with '" ++ other ++ "'"

/-- Why no command comes of arguments. -/
inductive Stop where
  /-- a description was asked for -/
  | help (f : Form)
  | version
  /-- there is nothing to go by, so the program describes itself -/
  | bare
  | refused (r : Refusal)
  deriving Repr

/-- What has been taken. -/
structure Taken where
  /-- options with their values, in the order in which they came -/
  given : List (Key × String)
  /-- an option that is not settled, with its value if that has come -/
  pending : Option (Spec × Option String)
  /-- the argument by position -/
  file : Option String
  /-- only arguments by position follow -/
  onlyFiles : Bool
  deriving Repr

namespace Taken

/-- Nothing. -/
def nothing : Taken := ⟨[], none, none, false⟩

/-- The value of an option. -/
def get? (t : Taken) (key : Key) : Option String := (t.given.find? fun g => g.1 == key).map (·.2)

/-- Is an option given? -/
def has (t : Taken) (key : Key) : Bool := (t.get? key).isSome

/-- What is wrong with a value. -/
def fault? (label value : String) : Kind → Option Refusal
  | .text => none
  | .path => if value.isEmpty then some (.missingValue label) else none
  | .count =>
    if (Settings.parseCount? value).isSome then none
    else
      let digits := match value.toList with
        | '+' :: rest => rest
        | s => s
      some (.invalidValue value label (
        if value.isEmpty then "cannot parse integer from empty string"
        else if digits.isEmpty || !digits.all Char.isDigit then "invalid digit found in string"
        else "number too large to fit in target type"))

/-- Takes an option with its value. -/
def settle (f : Form) (t : Taken) (s : Spec) (value : Option String) : Except Stop Taken :=
  match s.key, s.value, value with
  | .help, _, _ => .error (.help f)
  | .version, _, _ => .error .version
  | key, none, _ =>
    if t.has key then .error (.refused (.repeated s.label))
    else .ok { t with given := t.given ++ [(key, "")] }
  | _, some _, none => .error (.refused (.missingValue s.label))
  | key, some (_, kind), some value =>
    if t.has key then .error (.refused (.repeated s.label))
    else
      match fault? s.label value kind with
      | some r => .error (.refused r)
      | none => .ok { t with given := t.given ++ [(key, value)] }

/-- Settles the option that was kept aside. -/
def settlePending (f : Form) (t : Taken) : Except Stop Taken :=
  match t.pending with
  | some (s, value) => settle f { t with pending := none } s value
  | none => .ok t

/-- Takes an option that came with its value, or needs none. -/
def takeWhole (f : Form) (t : Taken) (s : Spec) (value : Option String) : Except Stop Taken := do
  settle f (← t.settlePending f) s value

/-- Keeps aside an option whose value is to come. -/
def await (f : Form) (t : Taken) (s : Spec) : Except Stop Taken := do
  return { ← t.settlePending f with pending := some (s, none) }

/-- Takes an argument that begins with two dashes, given without them. -/
def long (f : Form) (t : Taken) (s : List Char) : Except Stop Taken :=
  let name := String.ofList (s.takeWhile (· != '='))
  let attached := (s.dropWhile (· != '=')).tail?.map String.ofList
  match f.long? name with
  | none => .error (.refused (.unexpectedArgument ("--" ++ name)))
  | some spec =>
    match spec.value, attached with
    | none, none => t.takeWhole f spec none
    | none, some value => .error (.refused (.unexpectedValue value spec.label))
    | some _, some value => t.takeWhole f spec (some value)
    | some _, none => t.await f spec

/-- Takes the letters after one dash. -/
def letters (f : Form) (t : Taken) : List Char → Except Stop Taken
  | [] => .ok t
  | c :: rest =>
    match f.short? c with
    | none => .error (.refused (.unexpectedArgument ("-" ++ String.singleton c)))
    | some spec =>
      match spec.value, rest with
      | none, rest => do letters f (← t.takeWhole f spec none) rest
      | some _, [] => t.await f spec
      | some _, '=' :: value => t.takeWhole f spec (some (String.ofList value))
      | some _, value => t.takeWhole f spec (some (String.ofList value))

/-- What is said of an argument for which there is no place. -/
def unplaced (f : Form) (t : Taken) (a : String) : Refusal :=
  if f.choices.isEmpty || (t.onlyFiles && f.choices.any fun c => c.1 == a) then .unexpectedArgument a
  else .unknownCommand a

/-- Takes an argument by position. -/
def position (f : Form) (t : Taken) (a : String) : Except Stop Taken :=
  if f.arguments.isEmpty || t.file.isSome then .error (.refused (t.unplaced f a))
  else do return { ← t.settlePending f with file := some a }

/-- Takes one argument that is not the name of a command. -/
def one (f : Form) (t : Taken) (a : String) : Except Stop Taken :=
  if t.onlyFiles then t.position f a
  else
    match a.toList, t.pending with
    | ['-', '-'], _ => .ok { t with onlyFiles := true }
    | '-' :: '-' :: s, _ => t.long f s
    | '-' :: c :: s, _ => t.letters f (c :: s)
    | _, some (s, none) => .ok { t with pending := some (s, some a) }
    | _, _ => t.position f a

/-- Two options of which only one may be given, if both are. -/
def conflict? (f : Form) (t : Taken) : Option Refusal :=
  match t.given.filterMap fun g => if f.exclusive.contains g.1 then f.spec? g.1 else none with
  | a :: b :: _ => some (.conflict a.label b.label)
  | _ => none

/-- What is given in the end. -/
def finish (f : Form) (t : Taken) : Except Stop Taken := do
  let t ← t.settlePending f
  match t.conflict? f with
  | some r => .error (.refused r)
  | none => return t

/-- Takes all arguments of a command. -/
def all (f : Form) : Taken → List String → Except Stop Taken
  | t, [] => t.finish f
  | t, a :: rest => do all f (← t.one f a) rest

end Taken

/-! ## Commands -/

/-- Running a snippet. -/
structure RunArguments where
  file : Option String
  lang : Option String
  stdin : Option String
  stdinFile : Option String
  json : Bool
  deriving Repr, DecidableEq

/-- Reviewing a snippet. -/
structure AnalyzeArguments where
  file : Option String
  lang : Option String
  model : Option String
  md : Bool
  noMd : Bool
  json : Bool
  deriving Repr, DecidableEq

/-- Previewing a snippet. -/
structure PreviewArguments where
  file : Option String
  lang : Option String
  out : Option String
  watch : Bool
  delayMs : Option Nat
  deriving Repr, DecidableEq

/-- What the program is asked to do. -/
inductive Command where
  | run (a : RunArguments)
  | analyze (a : AnalyzeArguments)
  | preview (a : PreviewArguments)
  deriving Repr, DecidableEq

namespace Command

/-- The command of a form with what was given. -/
def ofTaken (f : Form) (t : Taken) : Command :=
  if f.name == "run" then
    .run ⟨t.file, t.get? .lang, t.get? .stdin, t.get? .stdinFile, t.has .json⟩
  else if f.name == "analyze" then
    .analyze ⟨t.file, t.get? .lang, t.get? .model, t.has .md, t.has .noMd, t.has .json⟩
  else
    .preview ⟨t.file, t.get? .lang, t.get? .out, t.has .watch,
      (t.get? .delayMs).bind Settings.parseCount?⟩

/-- The description that is asked for by names of commands. -/
def describe (f : Form) : List String → Stop
  | [] => .help f
  | name :: rest =>
    match forms.find? fun g => g.name == name && !f.choices.isEmpty with
    | some g => describe g rest
    | none => .refused (.unknownCommand name)

/-- The command that arguments ask for, after what was taken in front of it. -/
def after (t : Taken) : List String → Except Stop Command
  | [] => .error (if t.given.isEmpty then .bare else .refused .missingCommand)
  | a :: rest =>
    match (if t.onlyFiles then none else forms.find? fun f => f.name == a) with
    | some f =>
      if f.name == "help" then .error (describe programForm rest)
      else do return ofTaken f (← Taken.all f .nothing rest)
    | none => do after (← t.one programForm a) rest

/-- The command that arguments ask for. -/
def ofArguments (arguments : List String) : Except Stop Command := after .nothing arguments

end Command

end Snippet.CommandLine
