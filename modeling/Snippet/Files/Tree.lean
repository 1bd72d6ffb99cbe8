import Snippet.Files.Path
import Snippet.Text.Utf8
/-!
A tree of files, and the operations on it that can fail.

`resolve` walks a path name from a directory and says what it names: an entry that is there, or a
name that is free in a directory that is there. Every operation is decided by what `resolve` says.
-/

namespace Snippet.Files

/-- Names from the root down to an entry. -/
abbrev Location := List String

/-- What is at a location. -/
inductive Node where
  | file (content : List UInt8)
  | directory
  deriving Repr, DecidableEq

/-- Why an operation on files failed. -/
inductive Fault where
  | noEntry
  | exists
  | notDirectory
  | isDirectory
  deriving Repr, DecidableEq

/-- The wording of a failed operation. -/
def Fault.message : Fault → String
  | .noEntry => "No such file or directory (os error 2)"
  | .exists => "File exists (os error 17)"
  | .notDirectory => "Not a directory (os error 20)"
  | .isDirectory => "Is a directory (os error 21)"

/-- A tree of files: entries below a root directory, each at its location, in the order in which
they were made. -/
structure Tree where
  entries : List (Location × Node)
  deriving Repr, DecidableEq

namespace Tree

/-- A root directory with nothing in it. -/
def empty : Tree := ⟨[]⟩

/-- What is at a location. -/
def lookup (t : Tree) (at_ : Location) : Option Node :=
  if at_ = [] then some .directory
  else (t.entries.find? fun e => e.1 == at_).map (·.2)

/-- The tree with an entry put at a location, in place of what was there. -/
def put (t : Tree) (at_ : Location) (node : Node) : Tree :=
  if t.entries.any (fun e => e.1 == at_) then
    ⟨t.entries.map fun e => if e.1 == at_ then (at_, node) else e⟩
  else ⟨t.entries ++ [(at_, node)]⟩

/-- The tree without the entry at a location. -/
def erase (t : Tree) (at_ : Location) : Tree := ⟨t.entries.filter fun e => e.1 != at_⟩

/-- The tree without the entry at a location and all below it. -/
def eraseBelow (t : Tree) (at_ : Location) : Tree :=
  ⟨t.entries.filter fun e => !at_.isPrefixOf e.1⟩

/-- What a path name names. -/
inductive Target where
  /-- an entry that is there -/
  | present (at_ : Location) (node : Node)
  /-- a free name in a directory that is there; a slash may follow the name -/
  | free (at_ : Location) (slash : Bool)
  deriving Repr, DecidableEq

/-- Walks the pieces of a path name from a location. -/
def walk (t : Tree) (here : Location) : List String → Except Fault Target
  | [] =>
    match t.lookup here with
    | some node => .ok (.present here node)
    | none => .error .noEntry
  | piece :: rest =>
    match t.lookup here with
    | none => .error .noEntry
    | some (.file _) => .error .notDirectory
    | some .directory =>
      if piece = "" ∨ piece = "." then walk t here rest
      else if piece = ".." then walk t here.dropLast rest
      else
        match t.lookup (here ++ [piece]) with
        | some _ => walk t (here ++ [piece]) rest
        | none =>
          if rest.all (· == "") then .ok (.free (here ++ [piece]) (!rest.isEmpty))
          else .error .noEntry

/-- What a path name names, seen from a directory. The empty name names nothing. -/
def resolve (t : Tree) (from_ : Location) (path : String) : Except Fault Target :=
  if path.isEmpty then .error .noEntry
  else t.walk (if isAbsolute path then [] else from_) (segments path)

/-- Is there an entry of that name? -/
def exists? (t : Tree) (from_ : Location) (path : String) : Bool :=
  match t.resolve from_ path with
  | .ok (.present ..) => true
  | _ => false

/-- Is there a directory of that name? -/
def isDirectory (t : Tree) (from_ : Location) (path : String) : Bool :=
  match t.resolve from_ path with
  | .ok (.present _ .directory) => true
  | _ => false

/-- The content of a file. -/
def read (t : Tree) (from_ : Location) (path : String) : Except Fault (List UInt8) :=
  match t.resolve from_ path with
  | .error e => .error e
  | .ok (.free ..) => .error .noEntry
  | .ok (.present _ .directory) => .error .isDirectory
  | .ok (.present _ (.file content)) => .ok content

/-- Makes one directory. -/
def makeDirectory (t : Tree) (from_ : Location) (path : String) : Except Fault Tree :=
  match t.resolve from_ path with
  | .error e => .error e
  | .ok (.present ..) => .error .exists
  | .ok (.free at_ _) => .ok (t.put at_ .directory)

/-- Writes a whole file, over what it held. -/
def write (t : Tree) (from_ : Location) (path : String) (content : List UInt8) : Except Fault Tree :=
  match t.resolve from_ path with
  | .error e => .error e
  | .ok (.present _ .directory) => .error .isDirectory
  | .ok (.present at_ (.file _)) => .ok (t.put at_ (.file content))
  | .ok (.free _ true) => .error .isDirectory
  | .ok (.free at_ false) => .ok (t.put at_ (.file content))

/-- Gives a file another name; a file of that name is replaced at once. -/
def rename (t : Tree) (from_ : Location) (source target : String) : Except Fault Tree :=
  match t.resolve from_ source, t.resolve from_ target with
  | .error e, _ => .error e
  | .ok (.free ..), _ => .error .noEntry
  | .ok (.present _ .directory), _ => .error .isDirectory
  | .ok (.present _ (.file _)), .error e => .error e
  | .ok (.present _ (.file _)), .ok (.present _ .directory) => .error .isDirectory
  | .ok (.present _ (.file _)), .ok (.free _ true) => .error .notDirectory
  | .ok (.present a (.file content)), .ok (.present b (.file _)) =>
    .ok (if a = b then t else (t.erase a).put b (.file content))
  | .ok (.present a (.file content)), .ok (.free b false) => .ok ((t.erase a).put b (.file content))

/-- The tree without the entry of that name and all below it. -/
def remove (t : Tree) (from_ : Location) (path : String) : Tree :=
  match t.resolve from_ path with
  | .ok (.present at_ _) => t.eraseBelow at_
  | _ => t

/-- Makes a directory and those above it that are missing. The number bounds how far up the walk
goes; directories made before a failure stay. -/
def makeDirectories (from_ : Location) : Nat → Tree → String → Tree × Except Fault Unit
  | 0, t, _ => (t, .error .noEntry)
  | fuel + 1, t, path =>
    if path.isEmpty then (t, .ok ())
    else match t.makeDirectory from_ path with
      | .ok t => (t, .ok ())
      | .error .noEntry =>
        match parent? path with
        | none => (t, .error .noEntry)
        | some up =>
          match makeDirectories from_ fuel t up with
          | (t, .error e) => (t, .error e)
          | (t, .ok ()) =>
            match t.makeDirectory from_ path with
            | .ok t => (t, .ok ())
            | .error e => (t, if t.isDirectory from_ path then .ok () else .error e)
      | .error e => (t, if t.isDirectory from_ path then .ok () else .error e)

/-- Makes a directory and those above it that are missing. -/
def createDirectories (t : Tree) (from_ : Location) (path : String) : Tree × Except Fault Unit :=
  makeDirectories from_ ((segments path).length + 1) t path

/-- Every entry below a location: its name from there, and the bytes of a file. -/
def listing (t : Tree) (below : Location) : List (Location × Node) :=
  t.entries.filterMap fun (at_, node) =>
    if below.isPrefixOf at_ && below.length < at_.length then some (at_.drop below.length, node)
    else none

end Tree

end Snippet.Files
