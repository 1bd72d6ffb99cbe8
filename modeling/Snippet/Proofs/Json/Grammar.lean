import Snippet.Proofs.Json.RoundTrip

/-!
# All spellings of a text

A text can be spelled in many ways: a character stands for itself or is escaped by a letter, by its number,
or by the numbers of two surrogates, and there may be space between tokens. `Json.Spells` and
`Json.Denotes` are the grammar of these spellings for texts that stand alone, or alone in arrays and
objects. `Json.Denotes.readChars`: whatever spelling was chosen, the same value is read.
-/

namespace Snippet.Json

open Text

/-! ## Spellings -/

/-- The characters spell one character of a text. -/
inductive Spells : Char → List Char → Prop where
  | plain {c : Char} (visible : ¬ c.toNat < 0x20) (quote : c ≠ '"') (backslash : c ≠ '\\') : Spells c [c]
  | letter {c e : Char} (means : shortEscape? e = some c.toNat) : Spells c ['\\', e]
  | number {c i j k l : Char} (means : hex4? i j k l = some c.toNat) : Spells c ['\\', 'u', i, j, k, l]
  | pair {c i j k l i' j' k' l' : Char} {high low : Nat} (leads : hex4? i j k l = some high)
      (trails : hex4? i' j' k' l' = some low) (isHigh : Points.isHigh high = true)
      (isLow : Points.isLow low = true) (means : Points.ofPair high low = c.toNat) :
      Spells c (['\\', 'u', i, j, k, l] ++ ['\\', 'u', i', j', k', l'])

/-- The characters spell a text. -/
inductive SpellsText : List Char → List Char → Prop where
  | nil : SpellsText [] []
  | cons {c : Char} {s spelled rest : List Char} (first : Spells c spelled) (later : SpellsText s rest) :
      SpellsText (c :: s) (spelled ++ rest)

/-- Space between tokens on one line. -/
def Gap (gap : List Char) : Prop := ∀ c ∈ gap, isSpace c = true ∧ c ≠ '\n'

instance (gap : List Char) : Decidable (Gap gap) := List.decidableBAll _ gap

/-- The characters denote a value, on one line: a text, or an array or an object around one value. -/
inductive Denotes : Json String → List Char → Prop where
  | str {s : String} {spelled : List Char} (spells : SpellsText s.toList spelled) :
      Denotes (.str s) ('"' :: (spelled ++ ['"']))
  | arr {v : Json String} {inner before behind : List Char} (value : Denotes v inner)
      (gap : Gap before) (gap' : Gap behind) :
      Denotes (.arr [v]) ('[' :: (before ++ inner ++ behind ++ [']']))
  | obj {k : String} {v : Json String} {name inner g₁ g₂ g₃ g₄ : List Char}
      (spells : SpellsText k.toList name) (value : Denotes v inner)
      (gap₁ : Gap g₁) (gap₂ : Gap g₂) (gap₃ : Gap g₃) (gap₄ : Gap g₄) :
      Denotes (.obj [(k, v)])
        ('\x7b' :: (g₁ ++ '"' :: name ++ '"' :: g₂ ++ ':' :: g₃ ++ inner ++ g₄ ++ ['\x7d']))

variable {c : Char} {s spelled : List Char}

/-! ## Spellings are read -/

/-- The units that a spelling of a character stands for. -/
theorem Spells.read (spells : Spells c spelled) : ∃ units : Points,
    (∀ rest, rawString (spelled ++ rest) = ahead units (rawString rest)) ∧
      ∀ p : Points, Points.joinPairs (units ++ p) = c.toNat :: Points.joinPairs p := by
  have single : ∀ p : Points, Points.joinPairs ([c.toNat] ++ p) = c.toNat :: Points.joinPairs p :=
    Points.joinPairs_cons (Points.isHigh_toNat c)
  cases spells with
  | plain visible quote backslash =>
    exact ⟨[c.toNat], rawString_plain visible quote backslash, single⟩
  | letter means => exact ⟨[c.toNat], rawString_letter means, single⟩
  | number means => exact ⟨[c.toNat], rawString_number means, single⟩
  | @pair _ _ _ _ _ _ _ _ high low leads trails isHigh isLow means =>
    refine ⟨[high, low], fun rest => ?_, fun p => ?_⟩
    · rw [List.append_assoc, rawString_number leads, rawString_number trails, ahead_ahead]
      rfl
    · rw [List.cons_append, List.cons_append, List.nil_append, Points.joinPairs, isHigh, isLow, means]
      rfl

/-- A text is read from any spelling of it. -/
theorem SpellsText.string? (spells : SpellsText s spelled) (rest : List Char) :
    string? (spelled ++ '"' :: rest) = some (s.map Char.toNat, rest) := by
  have raw : ∃ units : Points, rawString (spelled ++ '"' :: rest) = some (units, rest) ∧
      Points.joinPairs units = s.map Char.toNat := by
    induction spells with
    | nil => exact ⟨[], rawString_quote rest, rfl⟩
    | cons first later ih =>
      obtain ⟨units, read, joined⟩ := first.read
      obtain ⟨more, read', joined'⟩ := ih
      refine ⟨units ++ more, ?_, ?_⟩
      · rw [List.append_assoc, read, read']
        rfl
      · rw [joined, joined', List.map_cons]
  obtain ⟨units, read, joined⟩ := raw
  rw [Json.string?, read, Option.map_some]
  dsimp only
  rw [joined]

theorem skip_gap {gap : List Char} (space : Gap gap) (rest : List Char) :
    skip (gap ++ rest) = skip rest :=
  List.dropWhile_append_of_pos fun c mem => (space c mem).1

variable {v : Json String} {d : Dialect}

/-- What denotes a value begins as a text, an array or an object does. -/
theorem Denotes.head (denotes : Denotes v spelled) :
    ∃ c t, spelled = c :: t ∧ isSpace c = false ∧ c ≠ ']' ∧ c ≠ '\x7d' := by
  cases denotes with
  | str => exact ⟨_, _, rfl, by decide⟩
  | arr => exact ⟨_, _, rfl, by decide⟩
  | obj => exact ⟨_, _, rfl, by decide⟩

/-- The value is read from any spelling of it. -/
theorem Denotes.readValue? (denotes : Denotes v spelled) {depth : Nat} (fits : Fits depth v) :
    ∀ work rest, spelled.length ≤ work →
      readValue? d work depth (spelled ++ rest) = some (v.toPoints, rest) := by
  induction denotes generalizing depth with
  | str spells =>
    intro work rest enough
    obtain ⟨work, rfl⟩ : ∃ n, work = n + 1 := ⟨work - 1, by rw [List.length_cons] at enough; omega⟩
    rw [List.cons_append, List.append_assoc, List.singleton_append, Json.readValue?,
      spells.string?]
    rfl
  | @arr v inner before behind value gap gap' ih =>
    intro work rest enough
    cases fits with
    | @arr depth _ items =>
    simp only [List.length_cons, List.length_append, List.length_nil] at enough
    obtain ⟨work, rfl⟩ : ∃ n, work = n + 2 := ⟨work - 2, by omega⟩
    obtain ⟨c, t, head, solid, open_, _⟩ := value.head
    have depth' : ¬ depth + 1 = 0 := Nat.succ_ne_zero depth
    have read := ih (items v (List.mem_singleton_self v)) work (behind ++ ']' :: rest) (by omega)
    have start : skip (before ++ inner ++ behind ++ [']'] ++ rest) =
        inner ++ (behind ++ ']' :: rest) := by
      simp only [List.append_assoc, List.singleton_append]
      rw [skip_gap gap, head, List.cons_append, skip_cons solid]
    have close : skip (behind ++ ']' :: rest) = ']' :: rest := by
      rw [skip_gap gap', skip_cons rfl]
    rw [List.cons_append, Json.readValue?, if_neg depth', start]
    rw [head, List.cons_append] at read ⊢
    split
    next eq =>
      injection eq with eq
      exact absurd eq open_
    next =>
      rw [readItems?, Nat.add_sub_cancel, read]
      simp only [Option.bind_eq_bind, Option.bind_some, close]
      rfl
  | @obj k v name inner g₁ g₂ g₃ g₄ spells value gap₁ gap₂ gap₃ gap₄ ih =>
    intro work rest enough
    cases fits with
    | @obj depth _ members =>
    simp only [List.length_cons, List.length_append, List.length_nil] at enough
    obtain ⟨work, rfl⟩ : ∃ n, work = n + 2 := ⟨work - 2, by omega⟩
    obtain ⟨c, t, head, solid, _⟩ := value.head
    have depth' : ¬ depth + 1 = 0 := Nat.succ_ne_zero depth
    have read := ih (members (k, v) (List.mem_singleton_self _)) work (g₄ ++ '\x7d' :: rest) (by omega)
    have start : skip (g₁ ++ '"' :: name ++ '"' :: g₂ ++ ':' :: g₃ ++ inner ++ g₄ ++ ['\x7d'] ++ rest) =
        '"' :: (name ++ '"' :: (g₂ ++ ':' :: (g₃ ++ (inner ++ (g₄ ++ '\x7d' :: rest))))) := by
      simp only [List.append_assoc, List.cons_append, List.nil_append]
      rw [skip_gap gap₁, skip_cons rfl]
    have colon : skip (g₂ ++ ':' :: (g₃ ++ (inner ++ (g₄ ++ '\x7d' :: rest)))) =
        ':' :: (g₃ ++ (inner ++ (g₄ ++ '\x7d' :: rest))) := by
      rw [skip_gap gap₂, skip_cons rfl]
    have begin_ : skip (g₃ ++ (inner ++ (g₄ ++ '\x7d' :: rest))) = inner ++ (g₄ ++ '\x7d' :: rest) := by
      rw [skip_gap gap₃, head, List.cons_append, skip_cons solid]
    have close : skip (g₄ ++ '\x7d' :: rest) = '\x7d' :: rest := by
      rw [skip_gap gap₄, skip_cons rfl]
    rw [List.cons_append, Json.readValue?, if_neg depth', start]
    split
    next eq => cases eq
    next =>
      rw [readMembers?, spells.string?]
      simp only [Option.bind_eq_bind, Option.bind_some, colon, begin_, Nat.add_sub_cancel, read, close]
      rfl

/-- A text that spells a value, and nothing else, is read as the value. -/
theorem Denotes.readChars (denotes : Denotes v spelled) (fits : Fits d.depth v) :
    readChars d spelled = some v.toPoints := by
  obtain ⟨c, t, head, solid, _⟩ := denotes.head
  have read := denotes.readValue? (d := d) fits (2 * spelled.length + 2) [] (by omega)
  have start : skip spelled = spelled := by rw [head, skip_cons solid]
  rw [List.append_nil] at read
  rw [Json.readChars, start, read]
  rfl

/-- A spelling of a value is longer than the value is deep. -/
theorem Denotes.fits (denotes : Denotes v spelled) : ∀ {depth : Nat}, spelled.length ≤ depth → Fits depth v := by
  induction denotes with
  | str => exact fun _ => .str _
  | @arr v inner before behind value gap gap' ih =>
    intro depth enough
    simp only [List.length_cons, List.length_append, List.length_nil] at enough
    obtain ⟨depth, rfl⟩ : ∃ n, depth = n + 1 := ⟨depth - 1, by omega⟩
    refine .arr fun x mem => ?_
    rw [List.mem_singleton.mp mem]
    exact ih (by omega)
  | @obj k v name inner g₁ g₂ g₃ g₄ spells value gap₁ gap₂ gap₃ gap₄ ih =>
    intro depth enough
    simp only [List.length_cons, List.length_append, List.length_nil] at enough
    obtain ⟨depth, rfl⟩ : ∃ n, depth = n + 1 := ⟨depth - 1, by omega⟩
    refine .obj fun m mem => ?_
    rw [List.mem_singleton.mp mem]
    exact ih (by omega)

/-- A value is picked from any text that spells it and nothing else. -/
theorem Denotes.pick (denotes : Denotes v spelled) : Json.pick spelled = some v.toPoints :=
  denotes.readChars (denotes.fits (Nat.le_refl _))

/-! ## Spellings are on one line -/

theorem Spells.one_line (spells : Spells c spelled) : '\n' ∉ spelled := by
  have digit : ∀ {i j k l : Char} {n : Nat}, hex4? i j k l = some n → '\n' ∉ ['\\', 'u', i, j, k, l] := by
    intro i j k l n means mem
    have none_ : hexValue? '\n' = none := by decide
    simp only [List.mem_cons, List.not_mem_nil, or_false] at mem
    rcases mem with mem | mem | rfl | rfl | rfl | rfl
    · cases mem
    · cases mem
    all_goals simp [hex4?, none_] at means
  cases spells with
  | plain visible =>
    intro mem
    rw [← List.mem_singleton.mp mem] at visible
    exact visible (by decide)
  | letter means =>
    intro mem
    simp only [List.mem_cons, List.not_mem_nil, or_false] at mem
    rcases mem with mem | rfl
    · cases mem
    · cases means
  | number means => exact digit means
  | pair leads trails =>
    rw [List.mem_append, not_or]
    exact ⟨digit leads, digit trails⟩

theorem SpellsText.one_line (spells : SpellsText s spelled) : '\n' ∉ spelled := by
  induction spells with
  | nil => exact List.not_mem_nil
  | cons first later ih =>
    rw [List.mem_append, not_or]
    exact ⟨first.one_line, ih⟩

theorem Gap.one_line {gap : List Char} (space : Gap gap) : '\n' ∉ gap := fun mem =>
  (space _ mem).2 rfl

theorem Denotes.one_line (denotes : Denotes v spelled) : '\n' ∉ spelled := by
  induction denotes with
  | str spells => simp [spells.one_line]
  | arr value gap gap' ih => simp [ih, gap.one_line, gap'.one_line]
  | obj spells value gap₁ gap₂ gap₃ gap₄ ih =>
    simp [spells.one_line, ih, gap₁.one_line, gap₂.one_line, gap₃.one_line, gap₄.one_line]

/-! ## How writers spell -/

/-- The style of reports spells texts. -/
theorem spellsText_escapeChar (s : List Char) : SpellsText s (s.flatMap escapeChar) := by
  have one : ∀ c, Spells c (escapeChar c) := by
    intro c
    unfold escapeChar
    split
    next e short => exact .letter (shortEscape?_of_shortEscape short)
    next plain =>
      split
      next control =>
        refine .number ((hex4?_hexDigits c.toNat).trans ?_)
        rw [Nat.mod_eq_of_lt (by omega)]
      next visible =>
        obtain ⟨quote, backslash⟩ := ne_of_shortEscape plain
        exact .plain visible quote backslash
  induction s with
  | nil => exact .nil
  | cons c s ih => exact .cons (one c) ih

theorem denotes_str (s : String) : Denotes (.str s) (write report (.str s)) :=
  .str (spellsText_escapeChar s.toList)

theorem denotes_arr (denotes : Denotes v (write report v)) :
    Denotes (.arr [v]) (write report (.arr [v])) := by
  have gap : Gap [] := by decide
  have same : write report (.arr [v]) = '[' :: ([] ++ write report v ++ [] ++ [']']) := by
    simp [write, writeItems]
  rw [same]
  exact .arr denotes gap gap

theorem denotes_obj (k : String) (denotes : Denotes v (write report v)) :
    Denotes (.obj [(k, v)]) (write report (.obj [(k, v)])) := by
  have gap : Gap [] := by decide
  have quote : report.quote k = '"' :: (k.toList.flatMap escapeChar ++ ['"']) := rfl
  have colon : report.colon = [':'] := rfl
  have same : write report (.obj [(k, v)]) = '\x7b' :: ([] ++ '"' :: k.toList.flatMap escapeChar ++
      '"' :: [] ++ ':' :: [] ++ write report v ++ [] ++ ['\x7d']) := by
    simp [write, writeMembers, quote, colon]
  rw [same]
  exact .obj (spellsText_escapeChar k.toList) denotes gap gap gap gap

end Snippet.Json
