/-!
Blank characters and trimming.

A character is blank when it has the Unicode property `White_Space`; trimming removes blank
characters at either end.
-/

namespace Snippet.Text

/-- The code points with the Unicode property `White_Space`. -/
def isBlank (c : Char) : Bool :=
  let n := c.toNat
  (9 ≤ n && n ≤ 13) || n == 0x20 || n == 0x85 || n == 0xA0 || n == 0x1680 ||
    (0x2000 ≤ n && n ≤ 0x200A) || n == 0x2028 || n == 0x2029 || n == 0x202F || n == 0x205F ||
    n == 0x3000

/-- The text without blank characters at its end. -/
def dropTrailing (p : Char → Bool) (s : List Char) : List Char :=
  (s.reverse.dropWhile p).reverse

/-- The characters without blanks at the start. -/
def trimStartChars (s : List Char) : List Char := s.dropWhile isBlank

/-- The characters without blanks at the end. -/
def trimEndChars (s : List Char) : List Char := dropTrailing isBlank s

/-- The characters without blanks at either end. -/
def trimChars (s : List Char) : List Char := trimEndChars (trimStartChars s)

/-- The text without blanks at either end. -/
def trim (s : String) : String := String.ofList (trimChars s.toList)

/-- The text without blanks at the end. -/
def trimEnd (s : String) : String := String.ofList (trimEndChars s.toList)

/-- A text is blank when nothing in it can be seen. -/
def isBlankText (s : String) : Bool := s.toList.all isBlank

end Snippet.Text
