import Snippet.Proofs.Json.RoundTrip

/-!
# The characters of what is written

`Json.Style.KeepsTo.all_write`: whatever is true of the characters of quoted texts, of separators and of printable
ASCII is true of all characters of a value with whole numbers. So a value that is written in pure ASCII is
printable, and one in the style of reports is on one line.
-/

namespace Snippet.Json

open Text

/-- Nothing but printable ASCII. -/
def Printed (s : List Char) : Prop := ∀ c ∈ s, 0x20 ≤ c.toNat ∧ c.toNat < 0x7F

variable {s t : List Char}

theorem printed_append : Printed (s ++ t) ↔ Printed s ∧ Printed t := List.forall_mem_append

theorem printed_cons {c : Char} :
    Printed (c :: s) ↔ (0x20 ≤ c.toNat ∧ c.toNat < 0x7F) ∧ Printed s := List.forall_mem_cons

instance (s : List Char) : Decidable (Printed s) := List.decidableBAll _ s

/-! ## Escapes and digits -/

theorem printed_hexDigit (n : Nat) : 0x20 ≤ (hexDigit n).toNat ∧ (hexDigit n).toNat < 0x7F := by
  have all : ∀ d : Fin 16, 0x20 ≤ (Nat.digitChar d).toNat ∧ (Nat.digitChar d).toNat < 0x7F := by
    decide
  exact all ⟨n % 16, Nat.mod_lt _ (by decide)⟩

theorem printed_unicodeEscape (n : Nat) : Printed (unicodeEscape n) := by
  simp only [unicodeEscape, printed_cons, printed_hexDigit, true_and]
  decide

theorem printed_shortEscape {n : Nat} {e : Char} (short : shortEscape n = some e) :
    Printed ['\\', e] := by
  unfold shortEscape at short
  split_ifs at short
  all_goals
    cases short
    decide

theorem printed_escapePoint (n : Nat) : Printed (escapePoint n) := by
  unfold escapePoint
  split
  next e short => exact printed_shortEscape short
  next =>
    split_ifs with ascii small
    · have value : (Char.ofNat n).toNat = n := by
        rw [Char.ofNat, dif_pos (Or.inl (by omega))]
        rfl
      intro c mem
      rw [List.mem_singleton.mp mem, value]
      omega
    · exact printed_unicodeEscape n
    · exact printed_append.mpr ⟨printed_unicodeEscape _, printed_unicodeEscape _⟩

theorem printed_quotePoints (p : Points) : Printed (quotePoints p) := by
  have inside : Printed (p.flatMap escapePoint) := by
    intro c mem
    obtain ⟨n, _, mem⟩ := List.mem_flatMap.mp mem
    exact printed_escapePoint n c mem
  rw [quotePoints, List.cons_append, printed_cons, printed_append]
  exact ⟨by decide, inside, by decide⟩

theorem printed_intText (n : Int) : Printed (Decimal.intText n).toList := by
  have digits : Printed (Decimal.natText n.natAbs).toList := by
    intro c mem
    rw [Decimal.natText, String.toList_ofList] at mem
    have digit : c.isDigit := Nat.isDigit_of_mem_toDigits (by decide) (by decide) mem
    rw [Char.isDigit_iff_toNat] at digit
    exact ⟨Nat.le_trans (by decide) digit.1, Nat.lt_of_le_of_lt digit.2 (by decide)⟩
  unfold Decimal.intText
  split
  · rw [String.toList_append, printed_append]
    exact ⟨by decide, digits⟩
  · exact digits

/-- A text between quotes has no control characters in it, though text beyond ASCII is left as it is. -/
theorem visible_quoteChars (s : List Char) : ∀ c ∈ quoteChars s, 0x20 ≤ c.toNat := by
  have escaped : ∀ a : Char, ∀ c ∈ escapeChar a, 0x20 ≤ c.toNat := by
    intro a c mem
    unfold escapeChar at mem
    split at mem
    next e short => exact (printed_shortEscape short c mem).1
    next =>
      split at mem
      next => exact (printed_unicodeEscape _ c mem).1
      next visible =>
        rw [List.mem_singleton.mp mem]
        exact Nat.le_of_not_lt visible
  have quote : 0x20 ≤ '"'.toNat := by decide
  rw [quoteChars, List.cons_append, List.forall_mem_cons, List.forall_mem_append,
    List.forall_mem_singleton]
  refine ⟨quote, fun c mem => ?_, quote⟩
  obtain ⟨a, _, mem⟩ := List.mem_flatMap.mp mem
  exact escaped a c mem

/-! ## Values -/

/-- All that a style writes for itself is made of such characters, and so is printable ASCII. -/
structure Style.KeepsTo {σ : Type} (f : Style σ) (p : Char → Prop) : Prop where
  quote : ∀ s, ∀ c ∈ f.quote s, p c
  comma : ∀ c ∈ f.comma, p c
  colon : ∀ c ∈ f.colon, p c
  printed : ∀ c, 0x20 ≤ c.toNat ∧ c.toNat < 0x7F → p c

namespace Style

variable {σ : Type} {f : Style σ} {p : Char → Prop}

theorem KeepsTo.of_printed (keeps : f.KeepsTo p) (printed : Printed s) : ∀ c ∈ s, p c :=
  fun c mem => keeps.printed c (printed c mem)

theorem KeepsTo.all_writeItems (keeps : f.KeepsTo p) {xs : List (Json σ)}
    (each : ∀ x ∈ xs, ∀ c ∈ write f x, p c) : ∀ c ∈ writeItems f xs, p c := by
  induction xs with
  | nil => exact nofun
  | cons x xs ih =>
    obtain ⟨first, later⟩ := List.forall_mem_cons.mp each
    cases xs with
    | nil => exact first
    | cons y xs =>
      simp only [writeItems, List.forall_mem_append]
      exact ⟨⟨first, keeps.comma⟩, ih later⟩

theorem KeepsTo.all_writeMembers (keeps : f.KeepsTo p) {ms : List (σ × Json σ)}
    (each : ∀ m ∈ ms, ∀ c ∈ write f m.2, p c) : ∀ c ∈ writeMembers f ms, p c := by
  induction ms with
  | nil => exact nofun
  | cons m ms ih =>
    obtain ⟨first, later⟩ := List.forall_mem_cons.mp each
    cases ms with
    | nil =>
      simp only [writeMembers, List.forall_mem_append]
      exact ⟨⟨keeps.quote m.1, keeps.colon⟩, first⟩
    | cons m' ms =>
      simp only [writeMembers, List.forall_mem_append]
      exact ⟨⟨⟨⟨keeps.quote m.1, keeps.colon⟩, first⟩, keeps.comma⟩, ih later⟩

/-- A value with whole numbers is written in such characters. -/
theorem KeepsTo.all_write (keeps : f.KeepsTo p) {depth : Nat} {v : Json σ} (fits : Fits depth v) :
    ∀ c ∈ write f v, p c := by
  induction fits with
  | null =>
    have word : Printed "null".toList := by decide
    exact keeps.of_printed word
  | bool b =>
    have word : Printed (boolWord b) := by cases b <;> decide
    exact keeps.of_printed word
  | int n => exact keeps.of_printed (printed_intText n)
  | str s => exact keeps.quote s
  | @arr depth xs items ih =>
    rw [write, List.cons_append, List.forall_mem_cons, List.forall_mem_append]
    exact ⟨keeps.printed _ (by decide), keeps.all_writeItems ih, keeps.of_printed (by decide)⟩
  | @obj depth ms members ih =>
    rw [write, List.cons_append, List.forall_mem_cons, List.forall_mem_append]
    exact ⟨keeps.printed _ (by decide), keeps.all_writeMembers ih, keeps.of_printed (by decide)⟩

end Style

/-- Reports are written without control characters. -/
theorem report_keepsTo : report.KeepsTo fun c => 0x20 ≤ c.toNat where
  quote s := visible_quoteChars s.toList
  comma := List.forall_mem_singleton.mpr (by decide)
  colon := List.forall_mem_singleton.mpr (by decide)
  printed _ inside := inside.1

end Snippet.Json
