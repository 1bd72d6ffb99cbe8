import Snippet.Text.Lines
import Snippet.Text.Search
/-!
Path names and their parts.

A path name is text; `segments` cuts it at slashes as name resolution does, `parts` drops what does
not name anything. `parent?`, `stem?`, `extension?` and `withExtension` work on the last part.
-/

namespace Snippet.Files

open Snippet.Text

/-- The pieces of a path name between slashes, empty ones included. -/
def segments (path : String) : List String := (splitAt '/' path.toList).map String.ofList

/-- Does the path start at the root? -/
def isAbsolute (path : String) : Bool := startsWith path "/"

/-- The parts that name something: empty pieces are dropped, and so is a dot that is not in front. -/
def parts (path : String) : List String :=
  match segments path with
  | [] => []
  | first :: rest =>
    let kept := rest.filter fun p => p != "" && p != "."
    if first == "" then kept else first :: kept

/-- A path name made of parts. -/
def ofParts (absolute : Bool) (ps : List String) : String :=
  (if absolute then "/" else "") ++ join "/" ps

/-- The path without its last part; none for the root and for the empty path. -/
def parent? (path : String) : Option String :=
  match parts path with
  | [] => none
  | ps => some (ofParts (isAbsolute path) ps.dropLast)

/-- The last part, if it names an entry of a directory. -/
def fileName? (path : String) : Option String :=
  match (parts path).getLast? with
  | some name => if name == ".." || name == "." then none else some name
  | none => none

/-- Where the extension of a file name begins: at its last dot, unless that is its first character. -/
def splitName (name : String) : String × Option String :=
  let behind := name.toList.reverse.takeWhile (· != '.')
  let before := name.toList.reverse.dropWhile (· != '.')
  match before with
  | [] => (name, none)
  | [_] => (name, none)
  | _ :: stem => (String.ofList stem.reverse, some (String.ofList behind.reverse))

/-- The file name without its extension. -/
def stem? (path : String) : Option String := (fileName? path).map fun n => (splitName n).1

/-- The extension of the file name: what follows its last dot. -/
def extension? (path : String) : Option String := (fileName? path).bind fun n => (splitName n).2

/-- The path with another extension; a path without a file name stays as it is. -/
def withExtension (path extension : String) : String :=
  match stem? path with
  | none => path
  | some stem =>
    ofParts (isAbsolute path) ((parts path).dropLast ++ [stem ++ "." ++ extension])

/-- The path of an entry of a directory. No slash is put behind one that is there already, nor behind
the empty path. -/
def entry (directory name : String) : String :=
  if directory = "" ∨ directory.toList.getLast? = some '/' then directory ++ name
  else directory ++ "/" ++ name

end Snippet.Files
