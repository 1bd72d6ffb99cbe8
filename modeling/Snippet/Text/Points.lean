/-!
Text as code points.

A `Points` is a sequence of code points in which unpaired surrogates may occur; it is what an escape
sequence can spell. `ofString` embeds ordinary text, `toString?` recovers it where no surrogate is
left, and `joinPairs` makes one code point of each pair of surrogates.
-/

namespace Snippet.Text

/-- Code points in order; unpaired surrogates may occur. -/
abbrev Points := List Nat

namespace Points

/-- The leading half of a surrogate pair. -/
def isHigh (n : Nat) : Bool := 0xD800 ≤ n && n ≤ 0xDBFF

/-- The trailing half of a surrogate pair. -/
def isLow (n : Nat) : Bool := 0xDC00 ≤ n && n ≤ 0xDFFF

/-- Either half of a surrogate pair. -/
def isSurrogate (n : Nat) : Bool := 0xD800 ≤ n && n ≤ 0xDFFF

/-- The code point that a pair of surrogates stands for. -/
def ofPair (high low : Nat) : Nat := 0x10000 + (high - 0xD800) * 0x400 + (low - 0xDC00)

/-- Every pair of neighbouring surrogates made into the code point it stands for. -/
def joinPairs : Points → Points
  | [] => []
  | [n] => [n]
  | high :: low :: rest =>
    if isHigh high && isLow low then ofPair high low :: joinPairs rest
    else high :: joinPairs (low :: rest)

/-- Ordinary text as code points. -/
def ofString (s : String) : Points := s.toList.map Char.toNat

/-- The characters, if no surrogate is among the code points. -/
def toChars? : Points → Option (List Char)
  | [] => some []
  | n :: rest => if isSurrogate n then none else (toChars? rest).map (Char.ofNat n :: ·)

/-- The text, if no surrogate is among the code points. -/
def toString? (p : Points) : Option String := p.toChars?.map String.ofList

/-- The text, with a replacement character for each surrogate. -/
def toStringLossy (p : Points) : String :=
  String.ofList (p.map fun n => if isSurrogate n then '\uFFFD' else Char.ofNat n)

end Points

end Snippet.Text
