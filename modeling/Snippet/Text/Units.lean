import Snippet.Text.Points
import Snippet.Json.Write
/-!
Text as 16-bit units.

A code point beyond 16 bits takes two units, a pair of surrogates. Unpaired surrogates may occur;
`escaped` spells them out where ordinary text is wanted.
-/

namespace Snippet.Text

/-- 16-bit units in order; unpaired surrogates may occur. -/
abbrev Units := List Nat

namespace Units

/-- The units of a code point. -/
def ofPoint (n : Nat) : Units :=
  if n < 0x10000 then [n] else [0xD800 + (n - 0x10000) / 0x400, 0xDC00 + (n - 0x10000) % 0x400]

/-- The units of a text. -/
def ofChars (s : List Char) : Units := s.flatMap fun c => ofPoint c.toNat

/-- The units of a text. -/
def ofString (s : String) : Units := ofChars s.toList

/-- The code points, pairs of surrogates joined. -/
def toPoints (u : Units) : Points := Points.joinPairs u

/-- An unpaired surrogate spelled out as an escape. -/
def escapeSurrogate (n : Nat) : List Char :=
  (Json.unicodeEscape n).mapIdx fun i c => if i < 2 then c else c.toUpper

/-- The text, unpaired surrogates spelled out. -/
def escaped (u : Units) : String :=
  String.ofList (u.toPoints.flatMap fun n =>
    if Points.isSurrogate n then escapeSurrogate n else [Char.ofNat n])

/-- The text, if no unpaired surrogate is in it. -/
def toString? (u : Units) : Option String := u.toPoints.toString?

/-- Is the first text before the second in the order of their units? -/
def isBefore : Units → Units → Bool
  | _, [] => false
  | [], _ :: _ => true
  | a :: as, b :: bs => a < b || (a == b && isBefore as bs)

end Units

end Snippet.Text
