import Mathlib.Data.List.Forall2
import Snippet.Guest.Inbox
import Snippet.Proofs.Guest.Conduct
import Snippet.Proofs.Json.Printed
import Snippet.Proofs.Text.Cuts
import Snippet.Proofs.Text.Decoding

/-!
# Frames on a pipe

The frames of a host are bytes when a worker gets them. The worker reads text from them and takes lines
from the text, and to it a carriage return ends a line as well. `Inbox.read_frames`: it finds one line for
each frame, and in the lines just those frames, since a frame has no control characters in it.
-/

namespace Snippet.Guest

open Text Wire

namespace Inbox

/-- The reader with its reader of characters in another state. -/
def decoding (r : Inbox) (decoder : Utf8.State) : Inbox := { r with decoder }

theorem take_decoding (r : Inbox) (decoder : Utf8.State) (c : Char) :
    (r.decoding decoder).take c = ((r.take c).1.decoding decoder, (r.take c).2) := by
  unfold take put finishLine decoding
  dsimp only
  split
  all_goals
    split
    all_goals try split
    all_goals rfl

theorem takeAll_decoding (r : Inbox) (decoder : Utf8.State) (pieces : List Utf8.Piece) :
    (r.decoding decoder).takeAll pieces =
      (r.takeAll pieces).map fun (r, lines) => (r.decoding decoder, lines) := by
  induction pieces generalizing r with
  | nil => rfl
  | cons piece pieces ih =>
    cases piece with
    | none => rfl
    | some c =>
      rw [takeAll, take_decoding, takeAll]
      dsimp only
      rw [ih, Option.map_map, Option.map_map]
      rfl

theorem takeAll_append (r : Inbox) (x y : List Utf8.Piece) :
    r.takeAll (x ++ y) = (r.takeAll x).bind fun (r, lines) =>
      (r.takeAll y).map fun (r, more) => (r, lines ++ more) := by
  induction x generalizing r with
  | nil =>
    rw [List.nil_append, takeAll, Option.bind_some]
    dsimp only
    cases r.takeAll y <;> rfl
  | cons piece x ih =>
    cases piece with
    | none => rfl
    | some c =>
      rw [List.cons_append, takeAll, takeAll]
      dsimp only
      rw [ih]
      cases (r.take c).1.takeAll x with
      | none => rfl
      | some run =>
        obtain ⟨r', lines⟩ := run
        dsimp only [Option.bind_some, Option.map_some]
        cases r'.takeAll y <;> simp

/-- Lines are taken from text as characters are read from bytes: neither waits for the other. -/
theorem read_eq (r : Inbox) (bytes : List UInt8) :
    r.read bytes = (r.takeAll (Utf8.readFrom r.decoder bytes)).map fun (r', lines) =>
      (r'.decoding (Utf8.after r.decoder bytes), lines) := by
  induction bytes generalizing r with
  | nil => rfl
  | cons b bytes ih =>
    have front : takeAll { r with decoder := (Utf8.step r.decoder b).1 } (Utf8.step r.decoder b).2 =
        _ := takeAll_decoding r _ _
    rw [read, Utf8.readFrom, Utf8.after_cons, takeAll_append]
    dsimp only
    rw [front]
    cases r.takeAll (Utf8.step r.decoder b).2 with
    | none => rfl
    | some run =>
      obtain ⟨r', lines⟩ := run
      have stands : (r'.decoding (Utf8.step r.decoder b).1).decoder = (Utf8.step r.decoder b).1 := rfl
      dsimp only [Option.map_some, Option.bind_some]
      rw [ih, stands, takeAll_decoding]
      cases r'.takeAll (Utf8.readFrom (Utf8.step r.decoder b).1 bytes) <;> rfl

theorem read_append (r : Inbox) (x y : List UInt8) :
    r.read (x ++ y) = (r.read x).bind fun (r, lines) =>
      (r.read y).map fun (r, more) => (r, lines ++ more) := by
  induction x generalizing r with
  | nil =>
    rw [List.nil_append, read, Option.bind_some]
    dsimp only
    cases r.read y <;> rfl
  | cons b x ih =>
    rw [List.cons_append, read, read]
    dsimp only
    cases takeAll { r with decoder := (Utf8.step r.decoder b).1 } (Utf8.step r.decoder b).2 with
    | none => rfl
    | some run =>
      obtain ⟨r', lines⟩ := run
      dsimp only
      rw [ih]
      cases r'.read x with
      | none => rfl
      | some run =>
        obtain ⟨r'', more⟩ := run
        dsimp only [Option.bind_some, Option.map_some]
        cases r''.read y <;> simp

/-- Characters that end no line are kept until one does. -/
theorem takeAll_line {text : List Char} (newline : '\n' ∉ text) (carriage : '\r' ∉ text)
    (decoder : Utf8.State) (line : List Char) :
    takeAll ⟨decoder, false, line⟩ ((text ++ ['\n']).map some) =
      some (⟨decoder, false, []⟩, [String.ofList (line ++ text ++ ['\n'])]) := by
  induction text generalizing line with
  | nil =>
    rw [List.append_nil]
    rfl
  | cons c text ih =>
    rw [List.mem_cons, not_or] at newline carriage
    have stays : take ⟨decoder, false, line⟩ c = (⟨decoder, false, line ++ [c]⟩, []) := by
      have plain : take ⟨decoder, false, line⟩ c = put ⟨decoder, false, line⟩ c := rfl
      rw [plain, put, if_neg (Ne.symm newline.1), if_neg (Ne.symm carriage.1)]
    rw [List.cons_append, List.map_cons, takeAll, stays]
    dsimp only
    rw [ih newline.2 carriage.2]
    simp

/-- The bytes of a line without a line end in it are read as that line. -/
theorem read_line {text : String} (newline : '\n' ∉ text.toList) (carriage : '\r' ∉ text.toList) :
    fresh.read (Utf8.encode (text ++ "\n")) = some (fresh, [text ++ "\n"]) := by
  obtain ⟨pieces, stands⟩ := Utf8.readFrom_encode (text ++ "\n")
  have chars : (text ++ "\n").toList = text.toList ++ ['\n'] := String.toList_append
  have start : fresh = ⟨.start, false, []⟩ := rfl
  have whole : String.ofList (text.toList ++ ['\n']) = text ++ "\n" := by
    rw [← chars, String.ofList_toList]
  rw [read_eq, start, pieces, stands, chars, takeAll_line newline carriage, List.nil_append, whole]
  rfl

/-! ## Frames -/

/-- A frame has no control characters in it, and so no line end. -/
theorem visible_line (f : HostFrame) : ∀ c ∈ f.line.toList, 0x20 ≤ c.toNat := by
  have written : f.line.toList = Json.write Json.report f.toJson := String.toList_ofList
  have fits : Json.Fits 1 f.toJson := f.fits_toJson
  rw [written]
  exact Json.report_keepsTo.all_write fits

theorem read_bytes (f : HostFrame) : fresh.read f.bytes = some (fresh, [f.line ++ "\n"]) := by
  refine read_line (fun mem => ?_) (fun mem => ?_)
  · exact absurd (visible_line f _ mem) (by decide)
  · exact absurd (visible_line f _ mem) (by decide)

/-- Each frame is one line. -/
theorem read_flatMap_bytes (frames : List HostFrame) :
    fresh.read (frames.flatMap HostFrame.bytes) = some (fresh, frames.map fun f => f.line ++ "\n") := by
  induction frames with
  | nil => rfl
  | cons f frames ih =>
    rw [List.flatMap_cons, read_append, read_bytes, Option.bind_some]
    dsimp only
    rw [ih]
    rfl

/-- What a worker looks for in the members of a message, it finds as the frame has it. -/
def Finds (members : List (Points × Message)) : HostFrame → Prop
  | .exec id code => Message.isWord "exec" (Message.member members "type" .null) = true ∧
      Errand.ofRequest members = .fresh (.ofNat id) ∧
      sourceOf members = .str (Points.ofString code)
  | .inputReply id value =>
      Message.isWord "input_reply" (Message.member members "type" .null) = true ∧
      Message.member members "id" .null = .ofNat id ∧
      Message.member members "value" .null = valueOf value

theorem valueOf_injective {x y : Option String} (same : valueOf x = valueOf y) : x = y := by
  cases x with
  | none =>
    cases y with
    | none => rfl
    | some t => cases same
  | some s =>
    cases y with
    | none => cases same
    | some t =>
      have texts : Points.ofString s = Points.ofString t := Json.str.inj same
      rw [Points.ofString_inj texts]

/-- A word is no other. -/
theorem word_unique {x y : String} {m : Message} (is : Message.isWord x m = true)
    (is' : Message.isWord y m = true) : x = y := by
  cases m with
  | str p =>
    rw [Message.isWord, beq_iff_eq] at is is'
    exact Points.ofString_inj (is.symm.trans is')
  | _ => cases is

/-- In the same members there is one frame to be found. -/
theorem Finds.unique {members : List (Points × Message)} {f g : HostFrame} (finds : Finds members f)
    (finds' : Finds members g) : f = g := by
  cases f with
  | exec id code =>
    obtain ⟨kind, errand, source⟩ := finds
    cases g with
    | exec id' code' =>
      obtain ⟨_, errand', source'⟩ := finds'
      have ids := congrArg Errand.id (errand.symm.trans errand')
      have codes := Json.str.inj (source.symm.trans source')
      rw [ofNat_inj ids, Points.ofString_inj codes]
    | inputReply => exact absurd (word_unique kind finds'.1) (by decide)
  | inputReply id value =>
    obtain ⟨kind, number, given⟩ := finds
    cases g with
    | exec => exact absurd (word_unique kind finds'.1) (by decide)
    | inputReply id' value' =>
      obtain ⟨_, number', given'⟩ := finds'
      rw [ofNat_inj (number.symm.trans number'), valueOf_injective (given.symm.trans given')]

/-- The line is a message in which a worker finds the frame. -/
def Says (line : String) (f : HostFrame) : Prop :=
  ∃ members, Message.ofLine? line = some (.obj members) ∧ Finds members f

/-- A line says the frame that it was written for, and no other. -/
theorem says_iff (f g : HostFrame) : Says (f.line ++ "\n") g ↔ f = g := by
  have heard := f.ofLine?_line_newline
  obtain ⟨members, object, finds⟩ : ∃ members, f.toJson.toPoints = .obj members ∧ Finds members f := by
    cases f with
    | exec id code => exact ⟨_, rfl, rfl, rfl, rfl⟩
    | inputReply id value => exact ⟨_, rfl, rfl, rfl, rfl⟩
  rw [object] at heard
  constructor
  · rintro ⟨members', heard', finds'⟩
    rw [heard, Option.some_inj, Json.obj.injEq] at heard'
    subst heard'
    exact finds.unique finds'
  · rintro rfl
    exact ⟨members, heard, finds⟩

/-- The bytes of frames one after another are one line for each of them, where a worker takes a carriage
return for the end of a line as well. Those lines say the frames, and say no other frames; a worker does
with them what it does with the frames. -/
theorem read_frames (frames : List HostFrame) :
    ∃ lines, fresh.read (frames.flatMap HostFrame.bytes) = some (fresh, lines) ∧
      (∀ others, List.Forall₂ Says lines others ↔ frames = others) ∧
      ∀ {μ : Type} (P : Programs μ) (w : Worker μ),
        lines.map (w.hearLine P) = frames.map fun f => w.hearLine P f.line := by
  refine ⟨_, read_flatMap_bytes frames, fun others => ?_, fun P w => ?_⟩
  · rw [List.forall₂_map_left_iff]
    simp only [says_iff]
    rw [List.forall₂_eq_eq_eq]
  · rw [List.map_map]
    refine List.map_congr_left fun f _ => ?_
    rw [Function.comp_apply, Worker.hearLine, Worker.hearLine, f.ofLine?_line, f.ofLine?_line_newline]

end Inbox

end Snippet.Guest
