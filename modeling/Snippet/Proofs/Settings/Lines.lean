import Snippet.Proofs.Settings.Precedence

/-!
# Which lines of a settings file are heard

A settings file is bytes, and a line of it binds a key if it is UTF-8 and its text does (`Sets`). What a
list of lines says of a key (`Told`) is what the last of them that binds it says, whatever stands in the
others. `get?_foldl_bound?_iff`: reading lines one after another comes to just that. A file however is read
only up to its first line that is not UTF-8 (`heard`), so what stands behind is lost, unless it says what
was said before (`get?_merge_iff_all_heard`).
-/

namespace Snippet.Settings

open Text

/-- The line is UTF-8, and its text binds the key to the value. -/
def Sets (key : String) (line : List UInt8) (value : String) : Prop :=
  ∃ text, Utf8.decode? line = some text ∧ Binds text key value

/-- What the lines say of a key that had the value `old?` before. -/
inductive Told (lines : List (List UInt8)) (key : String) (old? : Option String) :
    Option String → Prop
  /-- the last line that binds the key -/
  | line {value : String} (latest : Latest (Sets key) lines value) : Told lines key old? (some value)
  /-- no line binds it -/
  | kept (unset : ∀ line ∈ lines, ∀ value, ¬ Sets key line value) : Told lines key old? old?

/-- What a line binds. -/
def bound? (line : List UInt8) : Option (String × String) := (Utf8.decode? line).bind binding?

/-- Is the line UTF-8? -/
def isReadable (line : List UInt8) : Bool := (Utf8.decode? line).isSome

/-- The lines in front of the first one that is not UTF-8. -/
def heard (content : List UInt8) : List (List UInt8) := (records 10 content).takeWhile isReadable

/-- The first line that is not UTF-8, and all lines behind it. -/
def unheard (content : List UInt8) : List (List UInt8) := (records 10 content).dropWhile isReadable

variable {lines before behind : List (List UInt8)} {line content : List UInt8} {key value : String}
  {s : Settings} {o : Option String}

/-! ## One line after another -/

theorem bound?_eq_some_iff : bound? line = some (key, value) ↔ Sets key line value := by
  unfold bound? Sets
  simp only [Option.bind_eq_some_iff, binding?_eq_some_iff]

theorem Latest.append {α : Type} {binds : α → String → Prop} {items : List α}
    (latest : Latest binds items value) (front : List α) : Latest binds (front ++ items) value := by
  obtain ⟨before, item, behind, rfl, is, last⟩ := latest
  exact ⟨front ++ before, item, behind, (List.append_assoc _ _ _).symm, is, last⟩

/-- What the lines say of a key is found once they have been read. -/
theorem Told.get?_foldl (told : Told lines key (s.get? key) o) :
    (lines.foldl (assign bound?) s).get? key = o := by
  cases told with
  | line latest =>
    simp only [Latest, ← bound?_eq_some_iff] at latest
    exact get?_of_latest latest s
  | kept unset =>
    simp only [← bound?_eq_some_iff] at unset
    exact get?_of_unbound unset s

theorem exists_told (lines : List (List UInt8)) (key : String) (old? : Option String) :
    ∃ o, Told lines key old? o := by
  rcases latest_or_unbound (Sets key) lines with ⟨value, latest⟩ | unset
  · exact ⟨_, .line latest⟩
  · exact ⟨_, .kept unset⟩

theorem get?_foldl_bound?_iff :
    (lines.foldl (assign bound?) s).get? key = o ↔ Told lines key (s.get? key) o := by
  constructor
  · intro found
    obtain ⟨o', told⟩ := exists_told lines key (s.get? key)
    rw [told.get?_foldl] at found
    rw [← found]
    exact told
  · exact Told.get?_foldl

/-! ## The file -/

theorem heard_append_unheard (content : List UInt8) :
    heard content ++ unheard content = records 10 content := List.takeWhile_append_dropWhile

/-- A file changes the settings by the lines that are heard. -/
theorem merge_eq (s : Settings) (content : List UInt8) :
    s.merge content = (heard content).foldl (assign bound?) s := by
  have texts : readableLines content = (heard content).filterMap Utf8.decode? := by
    unfold readableLines heard
    rw [List.takeWhile_map, List.filterMap_map]
    rfl
  unfold merge
  rw [texts, List.foldl_filterMap]
  refine List.foldl_ext _ _ s fun s line _ => ?_
  unfold assign bound?
  cases Utf8.decode? line with
  | none => rfl
  | some text => rfl

theorem get?_merge_iff : (s.merge content).get? key = o ↔ Told (heard content) key (s.get? key) o := by
  rw [merge_eq, get?_foldl_bound?_iff]

/-- What is said behind the lines that are heard does not matter to a key, if its last word there was
the last word before too. -/
theorem get?_foldl_unheard (again : ∀ value, Latest (Sets key) behind value →
      Latest (Sets key) before value) (s : Settings) :
    ((before ++ behind).foldl (assign bound?) s).get? key =
      (before.foldl (assign bound?) s).get? key := by
  rcases latest_or_unbound (Sets key) behind with ⟨value, latest⟩ | unset
  · have whole : ((before ++ behind).foldl (assign bound?) s).get? key = some value :=
      (Told.line (latest.append before)).get?_foldl
    have front : (before.foldl (assign bound?) s).get? key = some value :=
      (Told.line (again value latest)).get?_foldl
    rw [whole, front]
  · rw [List.foldl_append]
    exact (Told.kept unset).get?_foldl

/-- Of a settings file the lines in front of the first one that is not UTF-8 are heard, and the last of
these that binds a key decides. So every line that binds the key takes effect, as if no other line
mattered, exactly if the last word on the key behind the lines that are heard, if there is one, is their
last word too. -/
theorem get?_merge_iff_all_heard (content : List UInt8) (key : String) :
    (∀ (s : Settings) (o : Option String),
      (s.merge content).get? key = o ↔ Told (heard content) key (s.get? key) o) ∧
    ((∀ (s : Settings) (o : Option String),
        (s.merge content).get? key = o ↔ Told (records 10 content) key (s.get? key) o) ↔
      ∀ value, Latest (Sets key) (unheard content) value →
        Latest (Sets key) (heard content) value) := by
  refine ⟨fun s o => get?_merge_iff, ?_⟩
  constructor
  · intro all value latest
    have last : Latest (Sets key) (records 10 content) value := by
      rw [← heard_append_unheard]
      exact latest.append _
    -- over settings without any key, only a line that is heard can have set it
    have found : (merge ⟨[]⟩ content).get? key = some value := (all ⟨[]⟩ _).mpr (.line last)
    cases get?_merge_iff.mp found with
    | line latest => exact latest
  · intro again s o
    have same : ((records 10 content).foldl (assign bound?) s).get? key = (s.merge content).get? key := by
      rw [← heard_append_unheard, get?_foldl_unheard again, merge_eq]
    rw [← same, get?_foldl_bound?_iff]

/-- The first line is not UTF-8; the second binds a key, and is lost. -/
theorem second_line_lost :
    let content := [0xFF, 10] ++ Utf8.encode "DEFAULT_MODEL=b\n"
    Told (records 10 content) "DEFAULT_MODEL" ((defaults "/tmp").get? "DEFAULT_MODEL") (some "b") ∧
      ((defaults "/tmp").merge content).get? "DEFAULT_MODEL" = some "gpt-4o" := by
  intro content
  refine ⟨get?_foldl_bound?_iff.mp ?_, ?_⟩
  · decide +kernel
  · decide +kernel

end Snippet.Settings
