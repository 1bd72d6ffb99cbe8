import Snippet.Text.UpperTable
/-!
Letter case: lowering of ASCII letters and full uppercase of Unicode text.
-/

namespace Snippet.Text

/-- Lowers the letters `A` to `Z` and leaves every other character alone. -/
def lowerAscii (s : String) : String := String.ofList (s.toList.map Char.toLower)

/-- The uppercase form of a character, which may be longer than one character. -/
def upperChar (c : Char) : List Char :=
  let n := c.toNat
  if n < 128 then [c.toUpper]
  else match upperSpecial.find? fun e => e.1 == n with
    | some (_, form) => form.map Char.ofNat
    | none =>
      match upperRanges.find? fun r =>
          r.first ≤ n && n ≤ r.last && (n - r.first) % r.step == 0 with
      | some r => [Char.ofNat ((n : Int) + r.offset).toNat]
      | none => [c]

/-- The text in uppercase, character by character. -/
def upper (s : String) : String := String.ofList (s.toList.flatMap upperChar)

end Snippet.Text
