import Snippet.Guest.Notice
import Snippet.Proofs.Json.RoundTrip
import Snippet.Proofs.Text.Trimming
import Snippet.Wire.Frame

/-!
# Frames that are read back

Either side of a pipe reads what the other side has written. A worker finds the frames of its host
as they were meant (`HostFrame.ofLine?_line`); a host finds the notices of a worker, as far as text
can hold what they say and the number of the request has 64 bits (`Notice.ofLine?_line`).
-/

namespace Snippet

open Text Guest

/-! ## What a worker reads -/

theorem Wire.HostFrame.fits_toJson (frame : Wire.HostFrame) {depth : Nat} :
    Json.Fits (depth + 1) frame.toJson := by
  cases frame with
  | exec id code => exact .obj (by simp [Json.ofNat])
  | inputReply id value =>
    cases value with
    | none => exact .obj (by simp [Json.ofNat])
    | some value => exact .obj (by simp [Json.ofNat])

/-- A worker finds a frame of its host as it was meant. -/
theorem Wire.HostFrame.ofLine?_line (frame : Wire.HostFrame) :
    Message.ofLine? frame.line = some frame.toJson.toPoints :=
  Json.read_compact rfl frame.fits_toJson

/-- The end of the line does not matter to a worker. -/
theorem Wire.HostFrame.ofLine?_line_newline (frame : Wire.HostFrame) :
    Message.ofLine? (frame.line ++ "\n") = some frame.toJson.toPoints := by
  have space : ∀ c ∈ ['\n'], Json.isSpace c = true := List.forall_mem_singleton.mpr rfl
  exact Json.read_compact_gap rfl frame.fits_toJson space

/-! ## What a host reads -/

namespace Guest.Notice

/-- The style of notices is legible. -/
theorem style_legible : style.Legible Points.respelled where
  quote p := by
    refine ⟨p.flatMap Json.escapePoint ++ ['"'], rfl, fun rest => ?_⟩
    rw [List.append_assoc]
    exact Json.string?_quotePoints p rest
  comma := ⟨[' '], rfl, fun _ => rfl⟩
  colon := ⟨[' '], rfl, fun _ => rfl⟩

/-- A text of a notice as a host reads it. -/
def text? (p : Points) : Option String := p.respelled.toString?

/-- The number of a request as a host reads it. -/
def number? : Message → Option Nat
  | .num (.int n) => if 0 ≤ n ∧ n < 0x10000000000000000 then some n.toNat else none
  | _ => none

/-- What a notice is to a host. -/
def frame? : Notice → Option Wire.DriverFrame
  | .ready version => return .ready (← text? version)
  | .input id prompt => return .input (← number? id) (← text? prompt)
  | .done id output => return .done (← number? id) (← text? output)
  | .error id output message trace =>
    return .error (← number? id) (← text? output) (← text? message) (← text? trace)

/-- The notice names its request by a whole number. -/
def Numbered : Notice → Prop
  | .ready _ => True
  | .input id _ => ∃ n, id = .num (.int n)
  | .done id _ => ∃ n, id = .num (.int n)
  | .error id _ _ _ => ∃ n, id = .num (.int n)

theorem text?_ofString (s : String) : text? (Points.ofString s) = some s := by
  rw [text?, Points.respelled_ofString, Points.toString?_ofString]

/-- A number beyond 64 bits is none to a host. -/
theorem id?_renumber (n : Int) :
    (Json.host? (.num (Json.bounded.renumber (.int n)))).bind Wire.DriverFrame.id? =
      number? (.num (.int n)) := by
  by_cases keeps : Json.bounded.Keeps n
  · rw [Json.renumber_int keeps]
    rfl
  · have out : ¬ (0 ≤ n ∧ n < 0x10000000000000000) := by
      rintro ⟨low, high⟩
      exact keeps (Or.inr ⟨by omega, high⟩)
    obtain ⟨x, double⟩ : ∃ x, Json.bounded.renumber (.int n) = .float x :=
      Json.renumber_of_not_keeps keeps
    rw [double, number?, if_neg out, Json.host?]
    split <;> rfl

/-- A notice stands in braces, so there is nothing to trim around it. -/
theorem trim_line (n : Notice) : trim n.line = n.line := by
  have braces : ∃ members, n.toJson = .obj members := by
    cases n with
    | ready => exact ⟨_, rfl⟩
    | input => exact ⟨_, rfl⟩
    | done => exact ⟨_, rfl⟩
    | error => exact ⟨_, rfl⟩
  obtain ⟨members, eq⟩ := braces
  rw [line, eq, Json.write, List.cons_append, trim, String.toList_ofList, trimChars_of_ends rfl rfl]

theorem fits_toJson {n : Notice} (numbered : n.Numbered) :
    Json.Fits Json.bounded.depth n.toJson := by
  cases n with
  | ready version => exact .obj (by simp [word])
  | input id prompt =>
    obtain ⟨k, rfl⟩ := numbered
    exact .obj (by simp [word])
  | done id output =>
    obtain ⟨k, rfl⟩ := numbered
    exact .obj (by simp [word])
  | error id output message trace =>
    obtain ⟨k, rfl⟩ := numbered
    exact .obj (by simp [word])

/-- A host finds a notice of a worker that names its request by a number. -/
theorem ofLine?_line {n : Notice} (numbered : n.Numbered) :
    Wire.DriverFrame.ofLine? n.line = n.frame? := by
  have name : ∀ s, Points.toString? (Points.respelled (pts s)) = some s := text?_ofString
  have host_str : ∀ p, Json.host? (.str p) = p.toString?.map .str := fun _ => rfl
  have host_obj : ∀ ms, Json.host? (.obj ms) = (Json.hostMembers? ms).map .obj := fun _ => rfl
  rw [Wire.DriverFrame.ofLine?, trim_line, Json.readText, Json.read, line, String.toList_ofList,
    Json.readChars_write style_legible (fits_toJson numbered), Option.bind_some]
  -- once the texts are there the members can be looked up by their names
  cases n with
  | ready version =>
    simp only [toJson, word, Json.respell, Json.respellMembers, host_obj, Json.hostMembers?, host_str,
      name, frame?, text?]
    cases version.respelled.toString? with
    | none => rfl
    | some version => rfl
  | input id prompt =>
    obtain ⟨k, rfl⟩ := numbered
    simp only [toJson, word, Json.respell, Json.respellMembers, host_obj, Json.hostMembers?, host_str,
      name, frame?, text?, ← id?_renumber]
    cases Json.host? (.num (Json.bounded.renumber (.int k))) with
    | none => rfl
    | some id =>
      cases prompt.respelled.toString? with
      | none => simp
      | some prompt => rfl
  | done id output =>
    obtain ⟨k, rfl⟩ := numbered
    simp only [toJson, word, Json.respell, Json.respellMembers, host_obj, Json.hostMembers?, host_str,
      name, frame?, text?, ← id?_renumber]
    cases Json.host? (.num (Json.bounded.renumber (.int k))) with
    | none => rfl
    | some id =>
      cases output.respelled.toString? with
      | none => simp
      | some output => rfl
  | error id output message trace =>
    obtain ⟨k, rfl⟩ := numbered
    simp only [toJson, word, Json.respell, Json.respellMembers, host_obj, Json.hostMembers?, host_str,
      name, frame?, text?, ← id?_renumber]
    cases Json.host? (.num (Json.bounded.renumber (.int k))) with
    | none => rfl
    | some id =>
      cases output.respelled.toString? with
      | none => simp
      | some output =>
        cases message.respelled.toString? with
        | none => simp
        | some message =>
          cases trace.respelled.toString? with
          | none => simp
          | some trace => rfl

end Guest.Notice

end Snippet
