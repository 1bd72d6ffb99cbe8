/-!
Finding and replacing pieces of text.
-/

namespace Snippet.Text

/-- Does the piece occur somewhere in the text? -/
def occurs (piece : List Char) : List Char → Bool
  | [] => piece.isEmpty
  | c :: rest => piece.isPrefixOf (c :: rest) || occurs piece rest

/-- Does the piece occur somewhere in the text? -/
def contains (s piece : String) : Bool := occurs piece.toList s.toList

/-- What follows the piece, if the text starts with it. -/
def after? : List Char → List Char → Option (List Char)
  | [], s => some s
  | _ :: _, [] => none
  | p :: ps, c :: s => if p = c then after? ps s else none

/-- Does the text start with the piece? -/
def startsWith (s piece : String) : Bool := piece.toList.isPrefixOf s.toList

/-- The text before and after the first separator, if there is one. -/
def cutAt? (sep : Char) : List Char → Option (List Char × List Char)
  | [] => none
  | c :: rest =>
    if c = sep then some ([], rest)
    else (cutAt? sep rest).map fun (before, behind) => (c :: before, behind)

/-- The text with characters joined by a separator between each two pieces. -/
def join (sep : String) (pieces : List String) : String := String.intercalate sep pieces

/-- A number of spaces. -/
def spaces (n : Nat) : String := String.ofList (List.replicate n ' ')

end Snippet.Text
