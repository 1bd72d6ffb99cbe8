import Snippet.Proofs.Json.Spelling

/-!
# Reading what was written

`Json.readChars_write`: a value that is written in a legible style is read back, with its texts as
the style spells them and its numbers as the dialect keeps them. `Style.Legible` is what a style has
to do for this; a value `Fits` a depth if its numbers are whole and it does not nest deeper.
-/

namespace Snippet.Json

open Snippet.Text

/-! ## Values that can be read back -/

mutual

/-- The value with each text and each number as it is read. -/
def respell {σ : Type} (text : σ → Points) (number : Num → Num) : Json σ → Json Points
  | .null => .null
  | .bool b => .bool b
  | .num n => .num (number n)
  | .str s => .str (text s)
  | .arr xs => .arr (respellItems text number xs)
  | .obj ms => .obj (respellMembers text number ms)

/-- `respell` of every item. -/
def respellItems {σ : Type} (text : σ → Points) (number : Num → Num) :
    List (Json σ) → List (Json Points)
  | [] => []
  | x :: rest => respell text number x :: respellItems text number rest

/-- `respell` of every member. -/
def respellMembers {σ : Type} (text : σ → Points) (number : Num → Num) :
    List (σ × Json σ) → List (Points × Json Points)
  | [] => []
  | (k, v) :: rest => (text k, respell text number v) :: respellMembers text number rest

end

mutual

theorem respell_ofString (v : Json String) : respell Points.ofString id v = v.toPoints := by
  cases v with
  | null => rfl
  | bool => rfl
  | num => rfl
  | str => rfl
  | arr xs => rw [respell, toPoints, respellItems_ofString xs]
  | obj ms => rw [respell, toPoints, respellMembers_ofString ms]

theorem respellItems_ofString (xs : List (Json String)) :
    respellItems Points.ofString id xs = itemsToPoints xs := by
  cases xs with
  | nil => rfl
  | cons x rest =>
    rw [respellItems, itemsToPoints, respell_ofString x, respellItems_ofString rest]

theorem respellMembers_ofString (ms : List (String × Json String)) :
    respellMembers Points.ofString id ms = membersToPoints ms := by
  cases ms with
  | nil => rfl
  | cons m rest =>
    obtain ⟨k, v⟩ := m
    rw [respellMembers, membersToPoints, respell_ofString v, respellMembers_ofString rest]

end

/-- A number as the dialect keeps it. -/
def Dialect.renumber (d : Dialect) : Num → Num
  | .int n => d.number (literalOf n)
  | .float x => .float x

/-- The dialect keeps the whole number as it is. -/
def Dialect.Keeps (d : Dialect) (n : Int) : Prop :=
  d.bigWhole = true ∨ -0x8000000000000000 ≤ n ∧ n < 0x10000000000000000

/-- All numbers of the value are whole, and it nests no deeper than said. -/
inductive Fits {σ : Type} : Nat → Json σ → Prop where
  | null {depth : Nat} : Fits depth .null
  | bool {depth : Nat} (b : Bool) : Fits depth (.bool b)
  | int {depth : Nat} (n : Int) : Fits depth (.num (.int n))
  | str {depth : Nat} (s : σ) : Fits depth (.str s)
  | arr {depth : Nat} {xs : List (Json σ)} (items : ∀ x ∈ xs, Fits depth x) : Fits (depth + 1) (.arr xs)
  | obj {depth : Nat} {ms : List (σ × Json σ)} (members : ∀ m ∈ ms, Fits depth m.2) :
      Fits (depth + 1) (.obj ms)

attribute [simp] Fits.null Fits.bool Fits.int Fits.str

/-- Quoted texts are read as `text` says, and only space stands beside commas and colons. -/
structure Style.Legible {σ : Type} (f : Style σ) (text : σ → Points) : Prop where
  quote : ∀ s, ∃ body, f.quote s = '"' :: body ∧ ∀ rest, string? (body ++ rest) = some (text s, rest)
  comma : ∃ gap, f.comma = ',' :: gap ∧ ∀ rest, skip (gap ++ rest) = skip rest
  colon : ∃ gap, f.colon = ':' :: gap ∧ ∀ rest, skip (gap ++ rest) = skip rest

/-- The style of reports is legible. -/
theorem report_legible : report.Legible Points.ofString where
  quote s := by
    refine ⟨s.toList.flatMap escapeChar ++ ['"'], rfl, fun rest => ?_⟩
    rw [List.append_assoc]
    exact string?_quoteChars s.toList rest
  comma := ⟨[], rfl, fun _ => rfl⟩
  colon := ⟨[], rfl, fun _ => rfl⟩

variable {σ : Type} {f : Style σ} {text : σ → Points} {d : Dialect}

/-! ## Words and numbers -/

theorem skip_cons {c : Char} (solid : isSpace c = false) (s : List Char) :
    skip (c :: s) = c :: s := by
  rw [skip, List.dropWhile_cons, solid]
  rfl

/-- Where no text, array or object begins there is a word. -/
theorem readValue?_word {c : Char} (quote : c ≠ '"') (bracket : c ≠ '[') (brace : c ≠ '\x7b')
    (work depth : Nat) (s : List Char) :
    readValue? d (work + 1) depth (c :: s) = word? d (c :: s) := by
  rw [readValue?]
  · rintro _ ⟨⟩
    exact quote rfl
  · rintro _ ⟨⟩
    exact bracket rfl
  · rintro _ ⟨⟩
    exact brace rfl

theorem renumber_eq (n : Int) : d.renumber (.int n) =
    if (d.bigWhole || (decide (-0x8000000000000000 ≤ n) && decide (n < 0x10000000000000000))) = true then
      .int n
    else .float (literalOf n).toFloat := by
  have value : (if (literalOf n).negative = true then -((literalOf n).digits : Int)
      else ((literalOf n).digits : Int)) = n := by
    simp only [literalOf, decide_eq_true_eq]
    split <;> omega
  have sign : ((literalOf n).negative && n == 0) = false := by
    simp only [literalOf, Bool.and_eq_false_iff, decide_eq_false_iff_not, beq_eq_false_iff_ne]
    omega
  have whole : (literalOf n).whole = true := rfl
  rw [Dialect.renumber, Dialect.number, if_pos whole]
  dsimp only
  rw [value, sign, Bool.not_false, Bool.and_true]

theorem renumber_int {n : Int} (keeps : d.Keeps n) : d.renumber (.int n) = .int n := by
  rw [renumber_eq, if_pos]
  rcases keeps with big | ⟨low, high⟩
  · rw [big, Bool.true_or]
  · simp [low, high]

theorem renumber_of_not_keeps {n : Int} (loses : ¬ d.Keeps n) :
    ∃ x, d.renumber (.int n) = .float x := by
  have out : ¬ (d.bigWhole ||
      (decide (-0x8000000000000000 ≤ n) && decide (n < 0x10000000000000000))) = true := by
    simpa [Dialect.Keeps] using loses
  exact ⟨(literalOf n).toFloat, by rw [renumber_eq, if_neg out]⟩

/-- The text of a whole number begins with a digit, or with a minus sign and a digit. -/
theorem intText_shape (n : Int) : ∃ c ds, (Decimal.intText n).toList = c :: ds ∧
    (c.isDigit ∨ c = '-' ∧ ∃ c' ds', ds = c' :: ds' ∧ c'.isDigit) := by
  obtain ⟨c, ds, digits⟩ := List.exists_cons_of_ne_nil
    (Nat.toDigits_ne_nil (b := 10) (n := n.natAbs))
  have digit : c.isDigit := Nat.isDigit_of_mem_toDigits (b := 10) (n := n.natAbs) (by decide)
    (by decide) (by rw [digits]; exact List.mem_cons_self ..)
  by_cases negative : n < 0
  · refine ⟨'-', c :: ds, ?_, Or.inr ⟨rfl, c, ds, rfl, digit⟩⟩
    simp [Decimal.intText, Decimal.natText, negative, digits]
  · refine ⟨c, ds, ?_, Or.inl digit⟩
    simp [Decimal.intText, Decimal.natText, negative, digits]

theorem ne_of_isDigit {c e : Char} (digit : c.isDigit) (other : e.isDigit = false) : c ≠ e := by
  rintro rfl
  rw [digit] at other
  cases other

theorem word?_intText (n : Int) {rest : List Char} (closed : Closed rest) :
    word? d ((Decimal.intText n).toList ++ rest) = some (.num (d.renumber (.int n)), rest) := by
  have read := number?_intText n closed
  obtain ⟨c, ds, shape, first⟩ := intText_shape n
  rw [shape] at read ⊢
  rw [List.cons_append] at read ⊢
  have noWord : ∀ e word, e.isDigit = false → e ≠ '-' →
      (e :: word).isPrefixOf (c :: (ds ++ rest)) = false := by
    intro e word other sign
    rw [List.isPrefixOf, Bool.and_eq_false_iff, beq_eq_false_iff_ne]
    rcases first with digit | ⟨rfl, _⟩
    · exact Or.inl (ne_of_isDigit digit other).symm
    · exact Or.inl sign
  have noInfinity : "-Infinity".toList.isPrefixOf (c :: (ds ++ rest)) = false := by
    rcases first with digit | ⟨rfl, c', ds', rfl, digit⟩
    · have other : '-' ≠ c := (ne_of_isDigit digit rfl).symm
      simp [List.isPrefixOf, other]
    · have other : 'I' ≠ c' := (ne_of_isDigit digit rfl).symm
      simp [List.isPrefixOf, other]
  have noTrue := noWord 't' "rue".toList rfl (by decide)
  have noFalse := noWord 'f' "alse".toList rfl (by decide)
  have noNull := noWord 'n' "ull".toList rfl (by decide)
  have noNaN := noWord 'N' "aN".toList rfl (by decide)
  have noInfinity' := noWord 'I' "nfinity".toList rfl (by decide)
  simp only [String.reduceToList] at noTrue noFalse noNull noNaN noInfinity' noInfinity
  simp only [word?, String.reduceToList, noTrue, noFalse, noNull, noNaN, noInfinity', noInfinity,
    Bool.and_false, Bool.false_eq_true, if_false, read, Option.map_some, Dialect.renumber]

/-! ## Values -/

theorem Closed.cons {c : Char} (digit : c.isDigit = false) (point : c ≠ '.') (small : c ≠ 'e')
    (large : c ≠ 'E') (s : List Char) : Closed (c :: s) := by
  rintro _ _ ⟨⟩
  exact ⟨digit, point, small, large⟩

/-- A value begins with something that neither is space nor closes an array. -/
theorem write_head (legible : f.Legible text) {depth : Nat} {v : Json σ} (fits : Fits depth v) :
    ∃ c s, write f v = c :: s ∧ isSpace c = false ∧ c ≠ ']' := by
  cases fits with
  | null => exact ⟨_, _, rfl, rfl, by decide⟩
  | bool b =>
    cases b
    · exact ⟨_, _, rfl, rfl, by decide⟩
    · exact ⟨_, _, rfl, rfl, by decide⟩
  | @int _ n =>
    obtain ⟨c, ds, shape, first⟩ := intText_shape n
    refine ⟨c, ds, shape, ?_⟩
    rcases first with digit | ⟨rfl, _⟩
    · have space : ∀ e, e.isDigit = false → (c == e) = false := fun e other =>
        beq_eq_false_iff_ne.mpr (ne_of_isDigit digit other)
      refine ⟨?_, ne_of_isDigit digit rfl⟩
      simp [isSpace, space]
    · exact ⟨rfl, by decide⟩
  | str s =>
    obtain ⟨body, quote, _⟩ := legible.quote s
    exact ⟨_, _, quote, rfl, by decide⟩
  | arr => exact ⟨_, _, rfl, rfl, by decide⟩
  | obj => exact ⟨_, _, rfl, rfl, by decide⟩

theorem writeItems_head {x : Json σ} {c : Char} {s : List Char} (head : write f x = c :: s)
    (xs : List (Json σ)) : ∃ s', writeItems f (x :: xs) = c :: s' := by
  cases xs with
  | nil => exact ⟨s, by rw [writeItems, head]⟩
  | cons y more =>
    refine ⟨s ++ (f.comma ++ writeItems f (y :: more)), ?_⟩
    rw [writeItems, head, List.append_assoc, List.cons_append]

theorem writeMembers_head {k : σ} {v : Json σ} {s : List Char} (quote : f.quote k = '"' :: s)
    (ms : List (σ × Json σ)) : ∃ s', writeMembers f ((k, v) :: ms) = '"' :: s' := by
  cases ms with
  | nil =>
    refine ⟨s ++ (f.colon ++ write f v), ?_⟩
    rw [writeMembers, quote, List.append_assoc, List.cons_append]
  | cons m more =>
    refine ⟨s ++ (f.colon ++ (write f v ++ (f.comma ++ writeMembers f (m :: more)))), ?_⟩
    rw [writeMembers, quote]
    simp only [List.append_assoc, List.cons_append]

/-- The value is read back by whoever allows for the work and the depth, whatever closes it. -/
def ReadBack (f : Style σ) (text : σ → Points) (d : Dialect) (depth : Nat) (v : Json σ) : Prop :=
  ∀ work rest, (write f v).length ≤ work → Closed rest →
    readValue? d work depth (write f v ++ rest) = some (respell text d.renumber v, rest)

theorem readItems?_writeItems (legible : f.Legible text) {depth : Nat} {xs : List (Json σ)}
    (some_ : xs ≠ []) (fits : ∀ x ∈ xs, Fits depth x) (each : ∀ x ∈ xs, ReadBack f text d depth x)
    (work : Nat) (enough : (writeItems f xs).length < work) (rest : List Char) :
    readItems? d work depth (writeItems f xs ++ ']' :: rest) =
      some (respellItems text d.renumber xs, rest) := by
  induction xs generalizing work with
  | nil => exact absurd rfl some_
  | cons x xs ih =>
    obtain ⟨work, rfl⟩ : ∃ n, work = n + 1 := ⟨work - 1, by omega⟩
    have readBack := each x (List.mem_cons_self ..)
    cases xs with
    | nil =>
      have closed : Closed (']' :: rest) := .cons rfl (by decide) (by decide) (by decide) rest
      rw [writeItems] at enough ⊢
      rw [readItems?, readBack work _ (by omega) closed]
      rfl
    | cons y more =>
      obtain ⟨gap, comma, space⟩ := legible.comma
      obtain ⟨c, s, head, solid, _⟩ := write_head legible (fits y (by simp))
      obtain ⟨s', start⟩ := writeItems_head head more
      have closed : Closed (',' :: (gap ++ (writeItems f (y :: more) ++ ']' :: rest))) :=
        .cons rfl (by decide) (by decide) (by decide) _
      have later := ih (by simp) (fun x mem => fits x (List.mem_cons_of_mem _ mem))
        (fun x mem => each x (List.mem_cons_of_mem _ mem)) work (by
          rw [writeItems, List.length_append, List.length_append, comma, List.length_cons] at enough
          omega)
      rw [writeItems, List.length_append, List.length_append] at enough
      rw [writeItems, comma, List.append_assoc, List.append_assoc, List.cons_append, readItems?,
        readBack work _ (by omega) closed]
      have next : skip (gap ++ (writeItems f (y :: more) ++ ']' :: rest)) =
          writeItems f (y :: more) ++ ']' :: rest := by
        rw [space, start, List.cons_append, skip_cons solid]
      simp only [Option.bind_eq_bind, Option.bind_some, skip_cons (show isSpace ',' = false from rfl),
        next, later]
      rfl

theorem readMembers?_writeMembers (legible : f.Legible text) {depth : Nat}
    {ms : List (σ × Json σ)} (some_ : ms ≠ []) (fits : ∀ m ∈ ms, Fits depth m.2)
    (each : ∀ m ∈ ms, ReadBack f text d depth m.2) (work : Nat)
    (enough : (writeMembers f ms).length < work) (rest : List Char) :
    readMembers? d work depth (writeMembers f ms ++ '\x7d' :: rest) =
      some (respellMembers text d.renumber ms, rest) := by
  induction ms generalizing work with
  | nil => exact absurd rfl some_
  | cons m ms ih =>
    obtain ⟨work, rfl⟩ : ∃ n, work = n + 1 := ⟨work - 1, by omega⟩
    obtain ⟨k, v⟩ := m
    have readBack : ReadBack f text d depth v := each (k, v) (List.mem_cons_self ..)
    obtain ⟨c, s, head, solid, _⟩ := write_head legible (fits (k, v) (List.mem_cons_self ..))
    obtain ⟨body, quote, name⟩ := legible.quote k
    obtain ⟨gap, colon, space⟩ := legible.colon
    have value : ∀ more, skip (gap ++ (write f v ++ more)) = write f v ++ more := by
      intro more
      rw [space, head, List.cons_append, skip_cons solid]
    cases ms with
    | nil =>
      have closed : Closed ('\x7d' :: rest) := .cons rfl (by decide) (by decide) (by decide) rest
      rw [writeMembers, List.length_append] at enough
      rw [writeMembers, quote, colon, List.append_assoc, List.append_assoc, List.cons_append,
        List.cons_append, readMembers?, name]
      simp only [Option.bind_eq_bind, Option.bind_some, skip_cons (show isSpace ':' = false from rfl),
        value, readBack work _ (by omega) closed]
      rfl
    | cons m more =>
      obtain ⟨gap', comma, space'⟩ := legible.comma
      obtain ⟨k', v'⟩ := m
      obtain ⟨body', quote', _⟩ := legible.quote k'
      obtain ⟨s', start⟩ := writeMembers_head (v := v') quote' more
      have closed : Closed (',' :: (gap' ++ (writeMembers f ((k', v') :: more) ++ '\x7d' :: rest))) :=
        .cons rfl (by decide) (by decide) (by decide) _
      rw [writeMembers] at enough
      simp only [List.length_append] at enough
      have later := ih (by simp) (fun m mem => fits m (List.mem_cons_of_mem _ mem))
        (fun m mem => each m (List.mem_cons_of_mem _ mem)) work (by
          rw [comma, List.length_cons] at enough
          omega)
      have next : skip (gap' ++ (writeMembers f ((k', v') :: more) ++ '\x7d' :: rest)) =
          writeMembers f ((k', v') :: more) ++ '\x7d' :: rest := by
        rw [space', start, List.cons_append, skip_cons rfl]
      rw [writeMembers, quote, colon, comma]
      simp only [List.append_assoc, List.cons_append]
      rw [readMembers?, name]
      simp only [Option.bind_eq_bind, Option.bind_some, skip_cons (show isSpace ':' = false from rfl),
        value, readBack work _ (by omega) closed, skip_cons (show isSpace ',' = false from rfl), next,
        later]
      rfl

/-- A value that fits is read back. -/
theorem readValue?_write (legible : f.Legible text) {depth : Nat} {v : Json σ}
    (fits : Fits depth v) :
    ReadBack f text d depth v := by
  induction fits with
  | @null depth =>
    intro work rest enough _
    obtain ⟨work, rfl⟩ : ∃ n, work = n + 1 := ⟨work - 1, by simp [write] at enough; omega⟩
    exact readValue?_word (by decide) (by decide) (by decide) work depth _
  | @bool depth b =>
    intro work rest enough _
    obtain ⟨work, rfl⟩ : ∃ n, work = n + 1 :=
      ⟨work - 1, by cases b <;> simp [write, boolWord] at enough <;> omega⟩
    cases b
    · exact readValue?_word (by decide) (by decide) (by decide) work depth _
    · exact readValue?_word (by decide) (by decide) (by decide) work depth _
  | @int depth n =>
    intro work rest enough closed
    obtain ⟨c, ds, shape, first⟩ := intText_shape n
    have read := word?_intText (d := d) n closed
    have text : write f (.num (.int n)) = (Decimal.intText n).toList := rfl
    rw [text] at enough ⊢
    rw [shape] at enough read ⊢
    obtain ⟨work, rfl⟩ : ∃ n, work = n + 1 := ⟨work - 1, by rw [List.length_cons] at enough; omega⟩
    have other : ∀ e, e.isDigit = false → '-' ≠ e → c ≠ e := by
      intro e other sign
      rcases first with digit | ⟨rfl, _⟩
      · exact ne_of_isDigit digit other
      · exact sign
    rw [List.cons_append] at read ⊢
    rw [readValue?_word (other _ rfl (by decide)) (other _ rfl (by decide)) (other _ rfl (by decide)),
      read]
    rfl
  | @str depth s =>
    intro work rest enough _
    obtain ⟨body, quote, name⟩ := legible.quote s
    have text : write f (.str s) = f.quote s := rfl
    rw [text, quote] at enough ⊢
    obtain ⟨work, rfl⟩ : ∃ n, work = n + 1 := ⟨work - 1, by rw [List.length_cons] at enough; omega⟩
    rw [List.cons_append, readValue?, name]
    rfl
  | @arr depth xs items ih =>
    intro work rest enough _
    have text : write f (.arr xs) = '[' :: writeItems f xs ++ [']'] := by rw [write]
    rw [text, List.length_append, List.length_cons] at enough
    obtain ⟨work, rfl⟩ : ∃ n, work = n + 1 := ⟨work - 1, by omega⟩
    have depth' : ¬ depth + 1 = 0 := Nat.succ_ne_zero depth
    rw [text, List.append_assoc, List.cons_append, List.singleton_append, readValue?, if_neg depth']
    cases xs with
    | nil => rfl
    | cons x xs =>
      obtain ⟨c, s, head, solid, open_⟩ := write_head legible (items x (List.mem_cons_self ..))
      obtain ⟨s', start⟩ := writeItems_head head xs
      have read := readItems?_writeItems legible (by simp) items ih work
        (by rw [List.length_singleton] at enough; omega) rest
      rw [start, List.cons_append] at read ⊢
      rw [skip_cons solid]
      split
      next eq =>
        injection eq with eq
        exact absurd eq open_
      next =>
        rw [Nat.add_sub_cancel, read]
        rfl
  | @obj depth ms members ih =>
    intro work rest enough _
    have text : write f (.obj ms) = '\x7b' :: writeMembers f ms ++ ['\x7d'] := by rw [write]
    rw [text, List.length_append, List.length_cons] at enough
    obtain ⟨work, rfl⟩ : ∃ n, work = n + 1 := ⟨work - 1, by omega⟩
    have depth' : ¬ depth + 1 = 0 := Nat.succ_ne_zero depth
    rw [text, List.append_assoc, List.cons_append, List.singleton_append, readValue?, if_neg depth']
    cases ms with
    | nil => rfl
    | cons m ms =>
      obtain ⟨body, quote, _⟩ := legible.quote m.1
      obtain ⟨s', start⟩ := writeMembers_head (v := m.2) quote ms
      have read := readMembers?_writeMembers legible (by simp) members ih work
        (by rw [List.length_singleton] at enough; omega) rest
      rw [start, List.cons_append] at read ⊢
      rw [skip_cons rfl]
      split
      next eq => cases eq
      next =>
        rw [Nat.add_sub_cancel, read]
        rfl

theorem closed_of_space {gap : List Char} (space : ∀ c ∈ gap, isSpace c = true) : Closed gap := by
  rintro c more rfl
  have first := space c (List.mem_cons_self ..)
  simp only [isSpace, Bool.or_eq_true, beq_iff_eq] at first
  rcases first with ((rfl | rfl) | rfl) | rfl
  all_goals decide

/-- A value that is written in a legible style is read back, space behind it or not. -/
theorem readChars_write_gap (legible : f.Legible text) {v : Json σ} (fits : Fits d.depth v)
    {gap : List Char} (space : ∀ c ∈ gap, isSpace c = true) :
    readChars d (write f v ++ gap) = some (respell text d.renumber v) := by
  obtain ⟨c, s, head, solid, _⟩ := write_head legible fits
  have enough : (write f v).length ≤ 2 * (write f v ++ gap).length + 2 := by
    rw [List.length_append]
    omega
  have read := readValue?_write (d := d) legible fits _ gap enough (closed_of_space space)
  have start : skip (write f v ++ gap) = write f v ++ gap := by
    rw [head, List.cons_append, skip_cons solid]
  have stop : skip (gap ++ []) = skip [] := List.dropWhile_append_of_pos space
  rw [List.append_nil] at stop
  rw [readChars, start, read, Option.bind_eq_bind, Option.bind_some]
  dsimp only
  rw [stop]
  rfl

/-- A value that is written in a legible style is read back. -/
theorem readChars_write (legible : f.Legible text) {v : Json σ} (fits : Fits d.depth v) :
    readChars d (write f v) = some (respell text d.renumber v) := by
  have read : readChars d (write f v ++ []) = _ := readChars_write_gap legible fits nofun
  rwa [List.append_nil] at read

/-- A dialect that keeps whole numbers of any size renumbers nothing. -/
theorem renumber_of_bigWhole (big : d.bigWhole = true) : d.renumber = id := by
  funext n
  cases n with
  | int n => exact renumber_int (Or.inl big)
  | float x => rfl

/-- A value in the style of reports is read back by a dialect that keeps whole numbers of any
size, space behind it or not. -/
theorem read_compact_gap (big : d.bigWhole = true) {v : Json String} (fits : Fits d.depth v)
    {gap : List Char} (space : ∀ c ∈ gap, isSpace c = true) :
    read d (compact v ++ String.ofList gap) = some v.toPoints := by
  rw [read, compact, String.toList_append, String.toList_ofList, String.toList_ofList,
    readChars_write_gap report_legible fits space, renumber_of_bigWhole big, respell_ofString]

theorem read_compact (big : d.bigWhole = true) {v : Json String} (fits : Fits d.depth v) :
    read d (compact v) = some v.toPoints := by
  have whole : read d (compact v ++ String.ofList []) = _ := read_compact_gap big fits nofun
  rwa [String.ofList_nil, String.append_empty] at whole

end Snippet.Json
