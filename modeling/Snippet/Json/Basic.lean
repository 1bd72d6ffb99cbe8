import Snippet.Text.Points
/-!
JSON values.

A value is generic in its carrier of text: values that come out of an escape sequence may hold
unpaired surrogates (`Points`), values of the program hold ordinary text (`String`). `host?` passes
from the first to the second and refuses what a text cannot hold.
-/

namespace Snippet

open Snippet.Text

/-- A JSON number: a whole number, or a double. -/
inductive Json.Num where
  | int (n : Int)
  | float (x : Float)
  deriving Repr, Inhabited

/-- A JSON value over a carrier of text. Members of an object keep their order. -/
inductive Json (σ : Type) where
  | null
  | bool (b : Bool)
  | num (n : Json.Num)
  | str (s : σ)
  | arr (items : List (Json σ))
  | obj (members : List (σ × Json σ))
  deriving Repr, Inhabited

namespace Json

/-- A whole number as a JSON value. -/
def ofNat {σ : Type} (n : Nat) : Json σ := .num (.int n)

/-- The text, if the value is one. -/
def str? {σ : Type} : Json σ → Option σ
  | .str s => some s
  | _ => none

/-- The members, if the value is an object. -/
def members? {σ : Type} : Json σ → Option (List (σ × Json σ))
  | .obj ms => some ms
  | _ => none

/-- The items, if the value is an array. -/
def items? {σ : Type} : Json σ → Option (List (Json σ))
  | .arr xs => some xs
  | _ => none

/-- The last member of that name, if the value is an object that has one. -/
def get? {σ : Type} [BEq σ] (v : Json σ) (name : σ) : Option (Json σ) :=
  match v with
  | .obj ms => (ms.reverse.find? fun m => m.1 == name).map (·.2)
  | _ => none

/-- The only member of that name; none if there is no such member or more than one. -/
def sole? {σ : Type} [BEq σ] (name : σ) (ms : List (σ × Json σ)) : Option (Json σ) :=
  match ms.filter fun m => m.1 == name with
  | [m] => some m.2
  | _ => none

/-- A finite number; infinity stands for a literal that no double can hold. -/
def Num.isFinite : Num → Bool
  | .int _ => true
  | .float x => x.isFinite

mutual

/-- The value over ordinary text, if no unpaired surrogate and no number out of range is in it. -/
def host? : Json Points → Option (Json String)
  | .null => some .null
  | .bool b => some (.bool b)
  | .num n => if n.isFinite then some (.num n) else none
  | .str s => s.toString?.map .str
  | .arr xs => (hostItems? xs).map .arr
  | .obj ms => (hostMembers? ms).map .obj

/-- `host?` of every item. -/
def hostItems? : List (Json Points) → Option (List (Json String))
  | [] => some []
  | x :: rest => do return (← host? x) :: (← hostItems? rest)

/-- `host?` of every member. -/
def hostMembers? : List (Points × Json Points) → Option (List (String × Json String))
  | [] => some []
  | (k, v) :: rest => do return (← k.toString?, ← host? v) :: (← hostMembers? rest)

end

mutual

/-- The value over ordinary text, with a replacement character for each unpaired surrogate. -/
def lossy : Json Points → Json String
  | .null => .null
  | .bool b => .bool b
  | .num n => .num n
  | .str s => .str s.toStringLossy
  | .arr xs => .arr (lossyItems xs)
  | .obj ms => .obj (lossyMembers ms)

/-- `lossy` of every item. -/
def lossyItems : List (Json Points) → List (Json String)
  | [] => []
  | x :: rest => lossy x :: lossyItems rest

/-- `lossy` of every member. -/
def lossyMembers : List (Points × Json Points) → List (String × Json String)
  | [] => []
  | (k, v) :: rest => (k.toStringLossy, lossy v) :: lossyMembers rest

end

mutual

/-- The value over code points. -/
def toPoints : Json String → Json Points
  | .null => .null
  | .bool b => .bool b
  | .num n => .num n
  | .str s => .str (Points.ofString s)
  | .arr xs => .arr (itemsToPoints xs)
  | .obj ms => .obj (membersToPoints ms)

/-- `toPoints` of every item. -/
def itemsToPoints : List (Json String) → List (Json Points)
  | [] => []
  | x :: rest => toPoints x :: itemsToPoints rest

/-- `toPoints` of every member. -/
def membersToPoints : List (String × Json String) → List (Points × Json Points)
  | [] => []
  | (k, v) :: rest => (Points.ofString k, toPoints v) :: membersToPoints rest

end

end Json

end Snippet
