import Snippet.Text.Blank
/-!
Cutting a text into lines.

`splitAt` cuts at every separator and so never answers the empty list; `lines` follows the
convention of line-oriented input, where a newline ends a line, a carriage return before it belongs
to the line end, and a final newline starts no further line.
-/

namespace Snippet.Text

/-- The pieces between separators: one more piece than there are separators. -/
def splitAt (sep : Char) : List Char → List (List Char)
  | [] => [[]]
  | c :: rest =>
    if c = sep then [] :: splitAt sep rest
    else match splitAt sep rest with
      | [] => [[c]]
      | piece :: pieces => (c :: piece) :: pieces

/-- The line without one carriage return at its end. -/
def dropReturn (line : List Char) : List Char :=
  if line.getLast? = some '\r' then line.dropLast else line

/-- The pieces that were ended by the terminator, without it, and what stands after the last one. -/
def terminated {α : Type} [DecidableEq α] (stop : α) : List α → List (List α) × List α
  | [] => ([], [])
  | c :: rest =>
    match terminated stop rest with
    | ([], tail) => if c = stop then ([[]], tail) else ([], c :: tail)
    | (line :: ended, tail) =>
      if c = stop then ([] :: line :: ended, tail) else ((c :: line) :: ended, tail)

/-- The pieces that were ended, and after them what stands after the last one unless it is empty. -/
def records {α : Type} [DecidableEq α] (stop : α) (s : List α) : List (List α) :=
  match terminated stop s with
  | (ended, []) => ended
  | (ended, tail) => ended ++ [tail]

/-- The lines of line-oriented input: each newline ends one, a carriage return before the newline
belongs to the line end, and text after the last newline is one more line unless it is empty. -/
def linesOf (s : List Char) : List (List Char) :=
  match terminated '\n' s with
  | (ended, []) => ended.map dropReturn
  | (ended, tail) => ended.map dropReturn ++ [tail]

/-- The lines of a text, as `linesOf`. -/
def lines (s : String) : List String := (linesOf s.toList).map String.ofList

end Snippet.Text
