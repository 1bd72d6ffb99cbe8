import Mathlib.Tactic.Common
import Snippet.Json.Read
import Snippet.Json.Write

/-!
# Texts and numbers as they are spelled

What stands between quotes is read back as it was meant. A writer of ordinary text escapes single
characters (`Json.string?_quoteChars`); a writer of pure ASCII spells code points in 16-bit units,
and the reader makes code points of pairs of units again (`Json.string?_quotePoints`). Whole numbers
are read back from their decimal digits (`Json.number?_intText`).
-/

namespace Snippet.Text.Points

/-- The 16-bit units in which a code point is spelled. -/
def units (n : Nat) : Points :=
  if n < 0x10000 then [n]
  else [(0xD800 + (n - 0x10000) / 0x400) % 0x10000, 0xDC00 + (n - 0x10000) % 0x400]

/-- A text after it has been spelled in units and read: neighbouring surrogates have become one code
point. -/
def respelled (p : Points) : Points := joinPairs (p.flatMap units)

/-- Without a leading half of a pair there is nothing to join. -/
theorem joinPairs_of_not_isHigh {p : Points} (plain : ∀ n ∈ p, isHigh n = false) :
    joinPairs p = p := by
  induction p using joinPairs.induct with
  | case1 => rfl
  | case2 => rfl
  | case3 high low rest pair _ =>
    rw [plain high (List.mem_cons_self ..)] at pair
    cases pair
  | case4 high low rest pair ih =>
    rw [joinPairs, if_neg pair, ih fun n mem => plain n (List.mem_cons_of_mem _ mem)]

theorem joinPairs_cons {n : Nat} (plain : isHigh n = false) (p : Points) :
    joinPairs (n :: p) = n :: joinPairs p := by
  cases p with
  | nil => rfl
  | cons m p => rw [joinPairs, plain, Bool.false_and, if_neg Bool.false_ne_true]

theorem ofPair_units {n : Nat} (large : 0x10000 ≤ n) :
    ofPair (0xD800 + (n - 0x10000) / 0x400) (0xDC00 + (n - 0x10000) % 0x400) = n := by
  obtain ⟨m, rfl⟩ := Nat.exists_eq_add_of_le large
  have parts := Nat.div_add_mod m 0x400
  unfold ofPair
  omega

/-- The two units of a code point are joined to it. -/
theorem joinPairs_units {n : Nat} (large : 0x10000 ≤ n) (valid : n < 0x110000) (p : Points) :
    joinPairs (units n ++ p) = n :: joinPairs p := by
  have high : (0xD800 + (n - 0x10000) / 0x400) % 0x10000 = 0xD800 + (n - 0x10000) / 0x400 :=
    Nat.mod_eq_of_lt (by omega)
  have pair : (isHigh (0xD800 + (n - 0x10000) / 0x400) &&
      isLow (0xDC00 + (n - 0x10000) % 0x400)) = true := by
    simp only [isHigh, isLow, Bool.and_eq_true, decide_eq_true_eq]
    omega
  rw [units, if_neg (by omega), high, List.cons_append, List.cons_append, List.nil_append, joinPairs,
    if_pos pair, ofPair_units large]

theorem units_of_lt {n : Nat} (small : n < 0x10000) : units n = [n] := if_pos small

/-- Spelling in units does nothing more than to join neighbouring surrogates. -/
theorem respelled_eq_joinPairs {p : Points} (valid : ∀ n ∈ p, n < 0x110000) :
    p.respelled = p.joinPairs := by
  have plain_of_large : ∀ {n}, ¬ n < 0x10000 → isHigh n = false := by
    intro n large
    simp only [isHigh, Bool.and_eq_false_iff, decide_eq_false_iff_not]
    omega
  unfold respelled
  induction p using joinPairs.induct with
  | case1 => rfl
  | case2 n =>
    by_cases small : n < 0x10000
    · rw [List.flatMap_singleton, units_of_lt small]
    · have whole := joinPairs_units (Nat.le_of_not_lt small) (valid n (List.mem_cons_self ..)) []
      rw [List.append_nil] at whole
      rw [List.flatMap_singleton, whole]
      rfl
  | case3 high low rest pair ih =>
    have bounds := pair
    simp only [isHigh, isLow, Bool.and_eq_true, decide_eq_true_eq] at bounds
    rw [List.flatMap_cons, List.flatMap_cons, units_of_lt (by omega), units_of_lt (by omega), joinPairs,
      if_pos pair]
    simp only [List.cons_append, List.nil_append]
    rw [joinPairs, if_pos pair,
      ih fun n mem => valid n (List.mem_cons_of_mem _ (List.mem_cons_of_mem _ mem))]
  | case4 n m rest pair ih =>
    have tail := ih fun n mem => valid n (List.mem_cons_of_mem _ mem)
    rw [joinPairs, if_neg pair, ← tail, List.flatMap_cons]
    by_cases small : n < 0x10000
    · rw [units_of_lt small, List.singleton_append]
      by_cases plain : isHigh n = true
      · -- what follows the leading half begins with no trailing half, spelled out or not
        rw [plain, Bool.true_and] at pair
        have first : ∃ u more, (m :: rest).flatMap units = u :: more ∧ isLow u = false := by
          rw [List.flatMap_cons]
          by_cases little : m < 0x10000
          · rw [units_of_lt little]
            exact ⟨m, _, rfl, Bool.eq_false_iff.mpr pair⟩
          · have bound := valid m (List.mem_cons_of_mem _ (List.mem_cons_self ..))
            rw [units, if_neg little]
            refine ⟨_, _, rfl, ?_⟩
            simp only [isLow, Bool.and_eq_false_iff, decide_eq_false_iff_not]
            omega
        obtain ⟨u, more, eq, other⟩ := first
        rw [eq, joinPairs, other, Bool.and_false, if_neg Bool.false_ne_true]
      · exact joinPairs_cons (Bool.eq_false_iff.mpr plain) _
    · exact joinPairs_units (Nat.le_of_not_lt small) (valid n (List.mem_cons_self ..)) _

theorem isHigh_toNat (c : Char) : isHigh c.toNat = false := by
  have valid : c.toNat < 0xD800 ∨ 0xDFFF < c.toNat := by
    rcases c.valid with low | ⟨high, _⟩
    · exact Or.inl low
    · exact Or.inr high
  rw [isHigh, Bool.and_eq_false_iff, decide_eq_false_iff_not, decide_eq_false_iff_not]
  omega

theorem joinPairs_map_toNat (s : List Char) : joinPairs (s.map Char.toNat) = s.map Char.toNat := by
  apply joinPairs_of_not_isHigh
  intro n mem
  obtain ⟨c, _, rfl⟩ := List.mem_map.mp mem
  exact isHigh_toNat c

/-- Ordinary text stays as it is. -/
theorem respelled_ofString (s : String) : (ofString s).respelled = ofString s := by
  have valid : ∀ n ∈ ofString s, n < 0x110000 := by
    intro n mem
    obtain ⟨c, _, rfl⟩ := List.mem_map.mp mem
    rcases c.valid with low | ⟨_, high⟩
    · exact Nat.lt_trans low (by decide)
    · exact high
  rw [respelled_eq_joinPairs valid]
  exact joinPairs_map_toNat s.toList

/-- Ordinary text can be had back. -/
theorem toString?_ofString (s : String) : (ofString s).toString? = some s := by
  have chars : ∀ cs : List Char, toChars? (cs.map Char.toNat) = some cs := by
    intro cs
    induction cs with
    | nil => rfl
    | cons c cs ih =>
      have valid : isSurrogate c.toNat = false := by
        rw [isSurrogate, Bool.and_eq_false_iff, decide_eq_false_iff_not, decide_eq_false_iff_not]
        rcases c.valid with low | ⟨high, _⟩
        · exact Or.inl (Nat.not_le_of_lt low)
        · exact Or.inr (Nat.not_le_of_lt high)
      rw [List.map_cons, toChars?, valid, ih]
      simp
  rw [toString?, ofString, chars, Option.map_some, String.ofList_toList]

theorem ofString_inj {s t : String} (same : ofString s = ofString t) : s = t := by
  have read := toString?_ofString s
  rw [same, toString?_ofString] at read
  exact (Option.some_inj.mp read).symm

end Snippet.Text.Points

namespace Snippet.Json

open Snippet.Text

/-! ## Escapes -/

theorem hexValue?_hexDigit (n : Nat) : hexValue? (hexDigit n) = some (n % 16) := by
  have all : ∀ d : Fin 16, hexValue? (Nat.digitChar d) = some d.val := by decide
  exact all ⟨n % 16, Nat.mod_lt _ (by decide)⟩

theorem hex4?_hexDigits (n : Nat) :
    hex4? (hexDigit (n / 4096)) (hexDigit (n / 256)) (hexDigit (n / 16)) (hexDigit n) =
      some (n % 0x10000) := by
  simp only [hex4?, hexValue?_hexDigit, Option.bind_eq_bind, Option.bind_some, Option.pure_def,
    Option.some.injEq]
  omega

/-- Puts code points in front of what has been read. -/
def ahead (ns : Points) (read : Option (Points × List Char)) : Option (Points × List Char) :=
  read.map fun (more, rest) => (ns ++ more, rest)

theorem ahead_ahead (ns ms : Points) (read : Option (Points × List Char)) :
    ahead ns (ahead ms read) = ahead (ns ++ ms) read := by
  cases read with
  | none => rfl
  | some r => simp [ahead]

theorem rawString_quote (rest : List Char) : rawString ('"' :: rest) = some ([], rest) := by
  rw [rawString]

/-- Four hexadecimal digits behind a mark mean the code point of that number. -/
theorem rawString_number {i j k l : Char} {n : Nat} (means : hex4? i j k l = some n)
    (rest : List Char) :
    rawString (['\\', 'u', i, j, k, l] ++ rest) = ahead [n] (rawString rest) := by
  simp only [List.cons_append, List.nil_append]
  rw [rawString, means]
  cases rawString rest with
  | none => rfl
  | some r => rfl

theorem rawString_unicodeEscape (n : Nat) (rest : List Char) :
    rawString (unicodeEscape n ++ rest) = ahead [n % 0x10000] (rawString rest) :=
  rawString_number (hex4?_hexDigits n) rest

theorem shortEscape?_of_shortEscape {n : Nat} {e : Char} (short : shortEscape n = some e) :
    shortEscape? e = some n := by
  unfold shortEscape at short
  split_ifs at short
  all_goals
    subst n
    cases short
    rfl

/-- A one-letter escape means the code point that its letter stands for. -/
theorem rawString_letter {n : Nat} {e : Char} (means : shortEscape? e = some n) (rest : List Char) :
    rawString ('\\' :: e :: rest) = ahead [n] (rawString rest) := by
  rw [rawString, means]
  · cases rawString rest with
    | none => rfl
    | some r => rfl
  · rintro a b c d more rfl
    cases means

/-- A character that is no control character, no quote and no backslash stands for itself. -/
theorem rawString_plain {c : Char} (visible : ¬ c.toNat < 0x20) (quote : c ≠ '"')
    (backslash : c ≠ '\\') (rest : List Char) :
    rawString (c :: rest) = ahead [c.toNat] (rawString rest) := by
  rw [rawString, if_neg visible]
  · cases rawString rest with
    | none => rfl
    | some r => rfl
  · exact quote
  · rintro _ _ _ _ _ rfl
    exact absurd rfl backslash
  · rintro _ _ rfl
    exact absurd rfl backslash

theorem ne_of_shortEscape {c : Char} (plain : shortEscape c.toNat = none) : c ≠ '"' ∧ c ≠ '\\' := by
  constructor
  · rintro rfl
    cases plain
  · rintro rfl
    cases plain

theorem rawString_escapeChar (c : Char) (rest : List Char) :
    rawString (escapeChar c ++ rest) = ahead [c.toNat] (rawString rest) := by
  unfold escapeChar
  split
  next e short => exact rawString_letter (shortEscape?_of_shortEscape short) rest
  next plain =>
    split
    next control =>
      rw [rawString_unicodeEscape, Nat.mod_eq_of_lt (by omega)]
    next visible =>
      obtain ⟨quote, backslash⟩ := ne_of_shortEscape plain
      exact rawString_plain visible quote backslash rest

theorem rawString_escapePoint (n : Nat) (rest : List Char) :
    rawString (escapePoint n ++ rest) = ahead (Points.units n) (rawString rest) := by
  unfold escapePoint
  split
  next e short =>
    have small : n < 0x10000 := by
      unfold shortEscape at short
      split_ifs at short
      all_goals omega
    rw [Points.units, if_pos small]
    exact rawString_letter (shortEscape?_of_shortEscape short) rest
  next plain =>
    split_ifs with ascii small
    · have valid : n.isValidChar := Or.inl (by omega)
      have char : (Char.ofNat n).toNat = n := by
        rw [Char.ofNat, dif_pos valid]
        rfl
      rw [Points.units, if_pos (by omega)]
      obtain ⟨quote, backslash⟩ := ne_of_shortEscape (c := Char.ofNat n) (by rw [char]; exact plain)
      have read := rawString_plain (by rw [char]; omega) quote backslash rest
      rw [char] at read
      exact read
    · rw [Points.units, if_pos small, rawString_unicodeEscape, Nat.mod_eq_of_lt small]
    · have low : (0xDC00 + (n - 0x10000) % 0x400) % 0x10000 = 0xDC00 + (n - 0x10000) % 0x400 := by
        omega
      rw [List.append_assoc, rawString_unicodeEscape, rawString_unicodeEscape, ahead_ahead, low,
        Points.units, if_neg small]
      rfl

/-! ## Texts between quotes -/

theorem rawString_flatMap {α : Type} {write : α → List Char} {meaning : α → Points}
    (one : ∀ a rest, rawString (write a ++ rest) = ahead (meaning a) (rawString rest)) (s : List α)
    (rest : List Char) :
    rawString (s.flatMap write ++ '"' :: rest) = some (s.flatMap meaning, rest) := by
  induction s with
  | nil => exact rawString_quote rest
  | cons a s ih =>
    rw [List.flatMap_cons, List.append_assoc, one, ih]
    rfl

/-- Text in which single characters are escaped is read back. -/
theorem string?_quoteChars (s rest : List Char) :
    string? (s.flatMap escapeChar ++ '"' :: rest) = some (s.map Char.toNat, rest) := by
  rw [string?, rawString_flatMap rawString_escapeChar]
  have chars : s.flatMap (fun c => [c.toNat]) = s.map Char.toNat := by
    rw [List.map_eq_flatMap]
  rw [chars, Option.map_some]
  dsimp only
  rw [Points.joinPairs_map_toNat]

/-- Text in pure ASCII is read back in code points. -/
theorem string?_quotePoints (p : Points) (rest : List Char) :
    string? (p.flatMap escapePoint ++ '"' :: rest) = some (p.respelled, rest) := by
  rw [string?, rawString_flatMap rawString_escapePoint]
  rfl

/-! ## Whole numbers -/

/-- What follows goes on with no number. -/
def Closed (rest : List Char) : Prop :=
  ∀ c more, rest = c :: more → c.isDigit = false ∧ c ≠ '.' ∧ c ≠ 'e' ∧ c ≠ 'E'

theorem Closed.nil : Closed [] := by
  rintro c more ⟨⟩

theorem digits_append {ds rest : List Char} (all : ∀ c ∈ ds, c.isDigit) (closed : Closed rest) :
    digits (ds ++ rest) = (ds, rest) := by
  have stop : rest.takeWhile Char.isDigit = [] ∧ rest.dropWhile Char.isDigit = rest := by
    cases rest with
    | nil => exact ⟨rfl, rfl⟩
    | cons c more =>
      have other := (closed c more rfl).1
      simp [other]
  rw [digits, List.takeWhile_append_of_pos all, List.dropWhile_append_of_pos all, stop.1, stop.2,
    List.append_nil]

theorem head?_toDigits {n : Nat} (pos : 0 < n) : (Nat.toDigits 10 n).head? ≠ some '0' := by
  induction n using Nat.strongRecOn with
  | _ n ih =>
    by_cases small : n < 10
    · rw [Nat.toDigits_of_lt_base small, List.head?_cons]
      intro eq
      injection eq with eq
      rw [Nat.digitChar_eq_zero] at eq
      omega
    · have first := ih (n / 10) (by omega) (by omega)
      obtain ⟨c, ds, digits⟩ := List.exists_cons_of_ne_nil
        (Nat.toDigits_ne_nil (b := 10) (n := n / 10))
      rw [Nat.toDigits_of_base_le (by decide) (by omega), digits]
      rw [digits] at first
      exact first

theorem unsigned?_toDigits (negative : Bool) (n : Nat) {rest : List Char} (closed : Closed rest) :
    unsigned? negative (Nat.toDigits 10 n ++ rest) = some (⟨negative, n, 0, true⟩, rest) := by
  have all : ∀ c ∈ Nat.toDigits 10 n, c.isDigit := fun c mem =>
    Nat.isDigit_of_mem_toDigits (by decide) (by decide) mem
  have shape : ((Nat.toDigits 10 n).isEmpty ||
      ((Nat.toDigits 10 n).head? == some '0' && decide (1 < (Nat.toDigits 10 n).length))) = false := by
    rw [Bool.or_eq_false_iff, Bool.and_eq_false_iff]
    refine ⟨by simp, ?_⟩
    cases n with
    | zero => exact Or.inr rfl
    | succ n => exact Or.inl (beq_eq_false_iff_ne.mpr (head?_toDigits (Nat.succ_pos n)))
  have noFraction : fraction? rest = some ([], rest) := by
    unfold fraction?
    split
    next => exact absurd rfl (closed _ _ rfl).2.1
    next => rfl
  have noExponent : exponent? rest = some (none, rest) := by
    cases rest with
    | nil => rfl
    | cons c more =>
      obtain ⟨_, _, small, large⟩ := closed c more rfl
      simp [exponent?, small, large]
  have value : Decimal.digitsValue (Nat.toDigits 10 n) = n := Nat.ofDigitChars_ten_toDigits
  simp [unsigned?, digits_append all closed, shape, noFraction, noExponent, value]

/-- A whole number as a literal. -/
def literalOf (n : Int) : Literal := ⟨decide (n < 0), n.natAbs, 0, true⟩

/-- A whole number is read back from its digits. -/
theorem number?_intText (n : Int) {rest : List Char} (closed : Closed rest) :
    number? ((Decimal.intText n).toList ++ rest) = some (literalOf n, rest) := by
  have nonempty : Nat.toDigits 10 n.natAbs ≠ [] := Nat.toDigits_ne_nil
  by_cases negative : n < 0
  · have text : (Decimal.intText n).toList = '-' :: Nat.toDigits 10 n.natAbs := by
      simp [Decimal.intText, Decimal.natText, negative]
    rw [text, List.cons_append, number?, unsigned?_toDigits true _ closed, literalOf]
    simp [negative]
  · have text : (Decimal.intText n).toList = Nat.toDigits 10 n.natAbs := by
      simp [Decimal.intText, Decimal.natText, negative]
    rw [text, number?, unsigned?_toDigits false _ closed, literalOf]
    · simp [negative]
    · intro more eq
      obtain ⟨c, ds, digits⟩ := List.exists_cons_of_ne_nil nonempty
      have digit : c.isDigit := Nat.isDigit_of_mem_toDigits (b := 10) (n := n.natAbs) (by decide)
        (by decide) (by rw [digits]; exact List.mem_cons_self ..)
      rw [digits, List.cons_append] at eq
      injection eq with eq
      subst eq
      cases digit

end Snippet.Json
