/-!
Reading UTF-8.

The reader is a machine that takes one byte at a time: between characters it is at `start`, inside
one it keeps the value so far, how many bytes are still owed and the range of the next one. A byte
sequence that breaks off is answered by one mark for its longest beginning that could have become a
character, and the byte that broke it is read anew. `decode?` refuses text with such a mark,
`decodeLossy` writes a replacement character for it.
-/

namespace Snippet.Text.Utf8

/-- Where the reader stands between two bytes. -/
inductive State where
  /-- between characters -/
  | start
  /-- inside a character: its bits so far, bytes still owed, least and greatest next byte -/
  | owed (bits need : Nat) (lo hi : UInt8)
  deriving Repr, DecidableEq

/-- One thing read: a character, or `none` for a sequence that broke off. -/
abbrev Piece := Option Char

/-- A byte at the start of a character. -/
def begin (b : UInt8) : State × List Piece :=
  let n := b.toNat
  if n < 0x80 then (.start, [some (Char.ofNat n)])
  else if n < 0xC2 then (.start, [none])
  else if n < 0xE0 then (.owed (n - 0xC0) 1 0x80 0xBF, [])
  else if n < 0xF0 then
    (.owed (n - 0xE0) 2 (if b = 0xE0 then 0xA0 else 0x80) (if b = 0xED then 0x9F else 0xBF), [])
  else if n < 0xF5 then
    (.owed (n - 0xF0) 3 (if b = 0xF0 then 0x90 else 0x80) (if b = 0xF4 then 0x8F else 0xBF), [])
  else (.start, [none])

/-- One byte: the state after it and what was read. -/
def step : State → UInt8 → State × List Piece
  | .start, b => begin b
  | .owed bits need lo hi, b =>
    if lo ≤ b ∧ b ≤ hi then
      let bits := bits * 64 + (b.toNat - 0x80)
      if need ≤ 1 then (.start, [some (Char.ofNat bits)]) else (.owed bits (need - 1) 0x80 0xBF, [])
    else ((begin b).1, none :: (begin b).2)

/-- What the end of the bytes adds: a character that was begun has broken off. -/
def finish : State → List Piece
  | .start => []
  | .owed .. => [none]

/-- The pieces of a byte sequence, read from a given state. -/
def piecesFrom : State → List UInt8 → List Piece
  | state, [] => finish state
  | state, b :: rest => (step state b).2 ++ piecesFrom (step state b).1 rest

/-- The pieces of a byte sequence. -/
def pieces (bytes : List UInt8) : List Piece := piecesFrom .start bytes

/-- The text that the bytes encode, if they are UTF-8. -/
def decode? (bytes : List UInt8) : Option (List Char) := (pieces bytes).mapM id

/-- The text with a replacement character for each sequence that is not UTF-8. -/
def decodeLossy (bytes : List UInt8) : List Char :=
  (pieces bytes).map fun piece => piece.getD '\uFFFD'

/-- Where bytes stop being UTF-8: the place of the first byte that is part of no character, and how many
bytes are to blame; without a number the bytes end inside a character. -/
structure Fault where
  place : Nat
  length : Option Nat
  deriving Repr, DecidableEq

/-- The first fault from a state on, given where the character at hand began and how many bytes have been
read. -/
def faultFrom : State → Nat → Nat → List UInt8 → Option Fault
  | .start, _, _, [] => none
  | .owed .., begun, _, [] => some ⟨begun, none⟩
  | .start, _, at_, b :: rest =>
    match begin b with
    | (_, [none]) => some ⟨at_, some 1⟩
    | (state, _) => faultFrom state at_ (at_ + 1) rest
  | .owed bits need lo hi, begun, at_, b :: rest =>
    match step (.owed bits need lo hi) b with
    | (_, none :: _) => some ⟨begun, some (at_ - begun)⟩
    | (state, _) => faultFrom state begun (at_ + 1) rest

/-- The first fault of a byte sequence. -/
def fault? (bytes : List UInt8) : Option Fault := faultFrom .start 0 0 bytes

/-- The wording of a fault. -/
def Fault.message (f : Fault) : String :=
  match f.length with
  | some n => "invalid utf-8 sequence of " ++ toString n ++ " bytes from index " ++ toString f.place
  | none => "incomplete utf-8 byte sequence from index " ++ toString f.place

/-- The bytes of a text. -/
def encode (s : String) : List UInt8 := s.toUTF8.toList

end Snippet.Text.Utf8
