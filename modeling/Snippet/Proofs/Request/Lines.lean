import Snippet.Proofs.Request.Cursor
import Snippet.Proofs.Text.Lines

/-!
# Input lines that are read back

Input is written line by line, with a newline behind each line or a carriage return and a newline. Behind the
last line nothing need stand, unless the line is empty (`Spells`). A line is told from its end if it neither
holds a newline nor ends in a carriage return (`PlainLine`). `Request.stdin_ofText_iff`: such lines are the
input of a request exactly if its text spells them, and its cursor then hands out these lines and no more.
-/

namespace Snippet

open Text

namespace Text

/-- What stands behind a line. -/
inductive Ending where
  | newline
  | returnNewline
  deriving DecidableEq

/-- Its characters. -/
def Ending.text : Ending → String
  | .newline => "\n"
  | .returnNewline => "\r\n"

/-- A line that is told from whatever ends it. -/
structure PlainLine (line : String) : Prop where
  single : '\n' ∉ line.toList
  last : line.toList.getLast? ≠ some '\r'

instance (line : String) : Decidable (PlainLine line) :=
  decidable_of_iff ('\n' ∉ line.toList ∧ line.toList.getLast? ≠ some '\r')
    ⟨fun both => ⟨both.1, both.2⟩, fun plain => ⟨plain.single, plain.last⟩⟩

/-- The text consists of the lines, each with an end behind it. -/
inductive Spells : List String → String → Prop
  /-- no line -/
  | nothing : Spells [] ""
  /-- one line that is not ended, which can be seen only if it is not empty -/
  | unended {line : String} (some_ : line ≠ "") : Spells [line] line
  /-- a line with its end, and more lines -/
  | line (line : String) (ending : Ending) {lines : List String} {rest : String}
      (later : Spells lines rest) : Spells (line :: lines) (line ++ ending.text ++ rest)

/-! ## The first line -/

theorem linesOf_cut {x : List Char} (single : '\n' ∉ x) (rest : List Char) :
    linesOf (x ++ '\n' :: rest) = dropReturn x :: linesOf rest := by
  rw [linesOf, terminated_cut single, linesOf]
  obtain ⟨ended, tail⟩ := terminated '\n' rest
  cases tail <;> rfl

theorem lines_unended {text : String} (single : '\n' ∉ text.toList) (some_ : text ≠ "") :
    lines text = [text] := by
  have own : linesOf text.toList = [text.toList] := by
    rw [linesOf, terminated_open single]
    cases chars : text.toList with
    | nil => exact absurd (String.toList_inj.mp chars) some_
    | cons c x => rfl
  rw [lines, own, List.map_singleton, String.ofList_toList]

theorem dropReturn_of_plain {line : String} (plain : PlainLine line) :
    dropReturn line.toList = line.toList := if_neg plain.last

theorem dropReturn_snoc (x : List Char) : dropReturn (x ++ ['\r']) = x := by
  rw [dropReturn, List.getLast?_concat, if_pos rfl, List.dropLast_concat]

/-- What stands in front of a newline is the line, or the line and a carriage return. -/
theorem exists_ending (x : List Char) :
    ∃ ending : Ending, x ++ ['\n'] = dropReturn x ++ ending.text.toList := by
  by_cases returns : x.getLast? = some '\r'
  · obtain ⟨line, rfl⟩ := List.getLast?_eq_some_iff.mp returns
    refine ⟨.returnNewline, ?_⟩
    rw [dropReturn_snoc, List.append_assoc]
    rfl
  · refine ⟨.newline, ?_⟩
    rw [dropReturn, if_neg returns]
    rfl

/-- The newline that ends a plain line, and the line in front of it. -/
theorem exists_front {line : String} (plain : PlainLine line) (ending : Ending) :
    ∃ x, line.toList ++ ending.text.toList = x ++ ['\n'] ∧ '\n' ∉ x ∧ dropReturn x = line.toList := by
  cases ending with
  | newline => exact ⟨line.toList, rfl, plain.single, dropReturn_of_plain plain⟩
  | returnNewline =>
    refine ⟨line.toList ++ ['\r'], ?_, ?_, dropReturn_snoc _⟩
    · rw [List.append_assoc]
      rfl
    · simp [plain.single]

/-- Whatever ends a plain line does not get into it. -/
theorem lines_ended {line : String} (plain : PlainLine line) (ending : Ending) (rest : String) :
    lines (line ++ ending.text ++ rest) = line :: lines rest := by
  obtain ⟨x, front, single, own⟩ := exists_front plain ending
  have chars : (line ++ ending.text ++ rest).toList = x ++ '\n' :: rest.toList := by
    rw [String.toList_append, String.toList_append, front, List.append_assoc, List.singleton_append]
  rw [lines, chars, linesOf_cut single, own, List.map_cons, String.ofList_toList]
  rfl

/-! ## All lines -/

variable {ls : List String} {text : String}

theorem Spells.lines_eq (spells : Spells ls text) (plain : ∀ line ∈ ls, PlainLine line) :
    lines text = ls := by
  induction spells with
  | nothing => rfl
  | @unended line some_ => exact lines_unended (plain line List.mem_cons_self).single some_
  | line line ending later ih =>
    obtain ⟨first, others⟩ := List.forall_mem_cons.mp plain
    rw [lines_ended first, ih others]

/-- A text is empty, or is one line without an end, or has a first line that is ended. -/
theorem lines_cases (text : String) :
    (text = "" ∨ text ≠ "" ∧ lines text = [text]) ∨ ∃ (line : String) (ending : Ending) (rest : String),
      text = line ++ ending.text ++ rest ∧ lines text = line :: lines rest := by
  by_cases ended : '\n' ∈ text.toList
  · obtain ⟨x, rest, eq, single⟩ := List.eq_append_cons_of_mem ended
    obtain ⟨ending, parts⟩ := exists_ending x
    refine .inr ⟨String.ofList (dropReturn x), ending, String.ofList rest, ?_, ?_⟩
    · refine String.toList_inj.mp ?_
      rw [String.toList_append, String.toList_append, String.toList_ofList, String.toList_ofList, ← parts,
        List.append_assoc, eq]
      rfl
    · rw [lines, eq, linesOf_cut single, lines, String.toList_ofList]
      rfl
  · refine .inl ?_
    by_cases some_ : text = ""
    · exact .inl some_
    · exact .inr ⟨some_, lines_unended ended some_⟩

/-- A text spells whatever lines it has. -/
theorem spells_of_lines_eq (eq : lines text = ls) : Spells ls text := by
  induction ls generalizing text with
  | nil =>
    rcases lines_cases text with (rfl | ⟨_, one⟩) | ⟨_, _, _, _, more⟩
    · exact .nothing
    · rw [eq] at one
      cases one
    · rw [eq] at more
      cases more
  | cons line ls ih =>
    rcases lines_cases text with (rfl | ⟨some_, one⟩) | ⟨_, ending, rest, rfl, more⟩
    · cases eq
    · rw [eq] at one
      cases one
      exact .unended some_
    · rw [eq] at more
      cases more
      exact .line line ending (ih rfl)

theorem lines_eq_iff (plain : ∀ line ∈ ls, PlainLine line) : lines text = ls ↔ Spells ls text := by
  constructor
  · exact spells_of_lines_eq
  · exact fun spells => spells.lines_eq plain

end Text

/-! ## The cursor -/

namespace LineCursor

/-- What so many reads give, one after another, and the cursor behind them. -/
def reads : Nat → LineCursor → List (Option String) × LineCursor
  | 0, c => ([], c)
  | count + 1, c => (c.next.1 :: (reads count c.next.2).1, (reads count c.next.2).2)

theorem reads_asked (lines : List String) (before count : Nat) :
    (asked lines before).reads count =
      ((List.range' before count).map (lines[·]?), asked lines (before + count)) := by
  induction count generalizing before with
  | zero => rfl
  | succ count ih =>
    rw [reads, next_asked, ih, List.range'_succ, Nat.add_assoc, Nat.add_comm 1 count]
    rfl

theorem isExhausted_asked (lines : List String) (count : Nat) :
    (asked lines count).isExhausted = true ↔ lines.length ≤ count := by
  rw [isExhausted, asked, decide_eq_true_iff]
  dsimp only
  omega

/-- Reading on behind the last line gives nothing. -/
theorem reads_ofLines (lines : List String) (more : Nat) :
    ((ofLines lines).reads (lines.length + more)).1 =
      lines.map some ++ List.replicate more none := by
  rw [ofLines_eq_asked, reads_asked]
  refine List.ext_getElem (by simp) fun i inside _ => ?_
  rw [List.getElem_map, List.getElem_range', List.getElem_append]
  split
  next here =>
    have inside' : i < lines.length := by simpa using here
    simp [inside']
  next behind =>
    have past : lines.length ≤ i := by simpa using behind
    simp [past]

end LineCursor

/-- Plain lines are the input of a request exactly if its text spells them. Reading its cursor then gives the
lines, and afterwards nothing, however often it is read; it is exhausted once they have been read, and not
before. -/
theorem Request.stdin_ofText_iff (source : String) (language : Language) {lines : List String}
    (plain : ∀ line ∈ lines, PlainLine line) (text : String) :
    ((ofText source language text).stdin = lines ↔ Spells lines text) ∧
    (Spells lines text →
      (∀ more, ((ofText source language text).cursor.reads (lines.length + more)).1 =
        lines.map some ++ List.replicate more none) ∧
      ∀ count, ((ofText source language text).cursor.reads count).2.isExhausted = true ↔
        lines.length ≤ count) := by
  refine ⟨lines_eq_iff plain, fun spells => ?_⟩
  have cursor : (ofText source language text).cursor = .ofLines lines :=
    congrArg LineCursor.ofLines (spells.lines_eq plain)
  rw [cursor]
  refine ⟨LineCursor.reads_ofLines lines, fun count => ?_⟩
  rw [LineCursor.ofLines_eq_asked, LineCursor.reads_asked, Nat.zero_add]
  exact LineCursor.isExhausted_asked lines count

/-- Both kinds of ends, a line that is empty, a carriage return within a line, and a last line without an
end. -/
theorem Request.stdin_ofText_mixed :
    let lines := ["Ada", "", "x\ry", " b"]
    let request := ofText "" .python "Ada\r\n\nx\ry\r\n b"
    (∀ line ∈ lines, PlainLine line) ∧ Spells lines "Ada\r\n\nx\ry\r\n b" ∧ request.stdin = lines ∧
      (request.cursor.reads 5).1 = [some "Ada", some "", some "x\ry", some " b", none] := by
  intro lines request
  have plain : ∀ line ∈ lines, PlainLine line := by decide
  have spells : Spells lines "Ada\r\n\nx\ry\r\n b" :=
    .line "Ada" .returnNewline <| .line "" .newline <| .line "x\ry" .returnNewline <|
      .unended (by decide)
  have all := stdin_ofText_iff "" .python plain "Ada\r\n\nx\ry\r\n b"
  exact ⟨plain, spells, all.1.mpr spells, (all.2 spells).1 1⟩

end Snippet
