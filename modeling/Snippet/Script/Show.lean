import Snippet.Script.Convert
import Snippet.Text.Search
/-!
How values are shown.

There are three ways: as JSON, which is how objects reach the console; as text, by conversion; and in a
display form that always works and is used where conversion fails and for exceptions.
-/

namespace Snippet.Script

open Snippet.Text

/-! ## The display form -/

/-- A number in the display form, which keeps the sign of zero. -/
def displayNumber : Json.Num → String
  | .int n => numberText (.int n)
  | .float x => if x == 0.0 && Decimal.isNegative x then "-0" else numberText (.float x)

/-- A value that is no object in the display form. -/
def displayPrimitive : Value → String
  | .num n => displayNumber n
  | .str s => "\"" ++ s.escaped ++ "\""
  | v => (primitiveUnits v).escaped

/-- Text filled up with spaces on the left. -/
def padLeft (width : Nat) (s : String) : String := spaces (width - s.length) ++ s

/-- An accessor in the display form. -/
def displayAccessor (getter setter : Option Value) : String :=
  match getter, setter with
  | some _, some _ => "Getter & Setter"
  | none, some _ => "Setter"
  | some _, none => "Getter"
  | none, none => "No Getter/Setter"

namespace Machine

/-- An object by its properties, each on a line and its name flush right at the level's width. An
object inside itself is a cycle. The first number bounds the nesting. -/
def displayObject (m : Machine) : Nat → List Nat → Nat → Nat → String
  | 0, _, _, _ => "[Cycle]"
  | n + 1, inside, width, at_ =>
    if inside.contains at_ then "[Cycle]"
    else
      let o := m.obj at_
      let shown (p : Property) : String :=
        match p.holding with
        | .data (.object at') => m.displayObject n (at_ :: inside) (width + 4) at'
        | .data v => displayPrimitive v
        | .accessor g s => displayAccessor g s
      let lines := o.keys.filterMap fun k =>
        (o.own? k).map fun p => padLeft width k.escaped ++ ": " ++ shown p
      "\x7b\n" ++ join ",\n" lines ++ "\n" ++ spaces (width - 4) ++ "\x7d"

/-- A property as text where it is one, else in a display form for values that are none. -/
def shownProperty? (m : Machine) (at_ : Nat) (name : String) : Option String :=
  match m.lookup at_ (Units.ofString name) with
  | some ⟨.data (.str s), _, _, _⟩ => some s.escaped
  | some ⟨.data (.object at'), _, _, _⟩ => some (m.displayObject (m.objects.size + 1) [] 4 at')
  | some ⟨.data v, _, _, _⟩ => some (displayPrimitive v)
  | _ => none

/-- An error in the display form: its name and its message, where they are not empty. -/
def displayError (m : Machine) (at_ : Nat) : String :=
  let name := (m.shownProperty? at_ "name").getD "<error>"
  let message := (m.shownProperty? at_ "message").getD ""
  if name.isEmpty then message else if message.isEmpty then name else name ++ ": " ++ message

/-- A function in the display form. -/
def displayFunction (m : Machine) (at_ : Nat) : String :=
  let word := if (m.obj at_).isConstructor then "class" else "Function:"
  match m.lookup at_ (Units.ofString "name") with
  | some ⟨.data (.str s), _, _, _⟩ => "[" ++ word ++ " " ++ s.escaped ++ "]"
  | _ => if (m.obj at_).isConstructor then "[class (anonymous)]" else "[Function (anonymous)]"

/-- An object in the display form, an array only by its size. -/
def displayBrief (m : Machine) (at_ : Nat) : String :=
  match (m.obj at_).kind with
  | .array items => "Array(" ++ Decimal.natText items.size ++ ")"
  | .error _ => m.displayError at_
  | .function .. => m.displayFunction at_
  | .native _ => m.displayFunction at_
  | .boxed (.str s) => "[String: \"" ++ s.escaped ++ "\"]"
  | .boxed (.num n) => "[Number: " ++ displayNumber n ++ "]"
  | .boxed (.bool b) => "[Boolean: " ++ (if b then "true" else "false") ++ "]"
  | .promise .pending => "Promise \x7b <pending> \x7d"
  | .promise (.fulfilled v) => "Promise \x7b " ++ nested v ++ " \x7d"
  | .promise (.rejected v) => "Promise \x7b <rejected> " ++ nested v ++ " \x7d"
  | _ => m.displayObject (m.objects.size + 1) [] 4 at_
where
  /-- A value inside a promise. -/
  nested : Value → String
    | .object at_ => m.displayObject (m.objects.size + 1) [] 4 at_
    | v => displayPrimitive v

/-- An item of an array in the display form. -/
def displayItem (m : Machine) : Option Value → String
  | none => "<empty>"
  | some (.object at_) => m.displayBrief at_
  | some v => displayPrimitive v

/-- A value in the display form. -/
def display (m : Machine) : Value → String
  | .object at_ =>
    match (m.obj at_).kind with
    | .array items =>
      if items.isEmpty then "[]"
      else "[ " ++ join ", " (items.toList.map m.displayItem) ++ " ]"
    | _ => m.displayBrief at_
  | v => displayPrimitive v

/-! ## Values as JSON -/

/-- Why a value cannot be shown as JSON. -/
inductive JsonFault where
  /-- there is an undefined value inside -/
  | undefinedInside
  /-- the value contains itself -/
  | endless
  deriving Repr, DecidableEq

end Machine

/-- A member put in its place by name, over one of the same name. -/
def insertMember (k : String) (v : Json String) :
    List (String × Json String) → List (String × Json String)
  | [] => [(k, v)]
  | (k', v') :: rest =>
    if k == k' then (k, v) :: rest
    else if k < k' then (k, v) :: (k', v') :: rest
    else (k', v') :: insertMember k v rest

/-- A number as JSON; what JSON has no number for is null. -/
def jsonNumber : Json.Num → Json String
  | .int n => .num (.int n)
  | .float x => if x.isFinite then .num (.float x) else .null

/-- What is made of parts fails only if it fails at one of them. -/
theorem exists_of_mapM_error {α β γ ε : Type} {f : α → Except ε β} {g : List β → γ} {e : ε}
    {parts : List α} (refused : (do return g (← parts.mapM f)) = (.error e : Except ε γ)) :
    ∃ a ∈ parts, f a = .error e := by
  induction parts generalizing g with
  | nil => cases refused
  | cons a rest ih =>
    rw [List.mapM_cons] at refused
    cases first : f a with
    | error e' =>
      rw [first] at refused
      cases refused
      exact ⟨a, List.mem_cons_self, first⟩
    | ok b =>
      rw [first] at refused
      have later : (do return g (b :: (← rest.mapM f))) = (.error e : Except ε γ) := by
        rw [← refused]
        cases rest.mapM f <;> rfl
      obtain ⟨a', among, inner⟩ := ih (g := fun bs => g (b :: bs)) later
      exact ⟨a', List.mem_cons_of_mem a among, inner⟩

namespace Machine

/-- A value as JSON. Holes and accessors are null, members are in the order of their names. The number
bounds the nesting. -/
def toJson (m : Machine) : Nat → Value → Except JsonFault (Json String)
  | 0, _ => .error .endless
  | _, .undefined => .error .undefinedInside
  | _, .null => .ok .null
  | _, .bool b => .ok (.bool b)
  | _, .num n => .ok (jsonNumber n)
  | _, .str s => .ok (.str s.escaped)
  | n + 1, .object at_ =>
    let o := m.obj at_
    match o.kind with
    | .array items => do
      return .arr (← items.toList.mapM fun
        | some v => m.toJson n v
        | none => return .null)
    | _ => do
      let members ← o.keys.mapM fun k =>
        match o.own? k with
        | some ⟨.data v, _, _, _⟩ => do return (k.escaped, ← m.toJson n v)
        | _ => return (k.escaped, .null)
      return .obj (members.foldl (fun ms (k, v) => insertMember k v ms) [])

/-- What has no JSON form because of an undefined value holds one. -/
theorem holdsUndefined_of_toJson {m : Machine} {n : Nat} {v : Value}
    (refused : m.toJson n v = .error .undefinedInside) : m.HoldsUndefined v := by
  induction n generalizing v with
  | zero => cases refused
  | succ n ih =>
    cases v with
    | undefined => exact .here
    | null => cases refused
    | bool b => cases refused
    | num x => cases refused
    | str s => cases refused
    | object at_ =>
      rw [toJson] at refused
      split at refused
      next items array =>
        obtain ⟨item, among, inner⟩ := exists_of_mapM_error refused
        cases item with
        | none => cases inner
        | some v => exact .item array (Array.mem_toList_iff.mp among) (ih inner)
      next noArray =>
        obtain ⟨key, among, inner⟩ := exists_of_mapM_error refused
        split at inner
        next v writable enumerable configurable own =>
          cases shown : m.toJson n v with
          | ok json =>
            rw [shown] at inner
            cases inner
          | error fault =>
            rw [shown] at inner
            cases inner
            exact .member noArray among own rfl (ih shown)
        next => cases inner

/-- A value as JSON, or why the engine stops over it. -/
def shownJson (m : Machine) (v : Value) : Except Stop (Json String) :=
  match shown : m.toJson (m.objects.size + 2) v with
  | .ok json => .ok json
  | .error .undefinedInside => .error (.unshowable ⟨m, v, holdsUndefined_of_toJson shown⟩)
  | .error .endless => .error .outOfBudget

end Machine

namespace Engine

/-- A value by conversion to text, or in the display form if that fails. -/
def shownText (E : Engine) (v : Value) : Run String := do
  match ← (E.text v).attempt with
  | .ok s => return s.escaped
  | .error _ => return (← Run.machine).display v

/-- An object as JSON over several lines, any other value as text. -/
def rendered (E : Engine) (v : Value) : Run String :=
  match v with
  | .object _ => do
    let m ← Run.machine
    match m.shownJson v with
    | .ok json => return Json.indented json
    | .error cause => Run.stop cause
  | _ => E.shownText v

end Engine

end Snippet.Script
