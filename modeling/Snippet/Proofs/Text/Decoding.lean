import Mathlib.Algebra.Group.Nat.Defs
import Mathlib.Tactic.Common
import Snippet.Proofs.Text.Cuts
import Snippet.Proofs.Text.Lines
import Snippet.Text.Utf8

/-!
# Characters that are decoded

`Utf8.mem_decodeLossy`: a character that is decoded is one of the bytes, or is beyond ASCII. The
invariant of the reader is `Utf8.State.Ranged`: whatever bytes go on with the character at hand, its
value is one of a character, and not of an ASCII one.

Every text is read back from its bytes (`Utf8.decodeLossy_encode`). ASCII text is one byte a character.
-/

namespace Snippet.Text.Utf8

/-- All from the first value on and below the second one are characters beyond ASCII. -/
def Beyond (low high : Nat) : Prop := 0x80 ≤ low ∧ (high ≤ 0xD800 ∨ 0xE000 ≤ low ∧ high ≤ 0x110000)

theorem Beyond.mono {low high low' high' : Nat} (beyond : Beyond low high) (above : low ≤ low')
    (below : high' ≤ high) : Beyond low' high' := by
  refine ⟨Nat.le_trans beyond.1 above, ?_⟩
  rcases beyond.2 with small | ⟨large, bound⟩
  · exact Or.inl (Nat.le_trans below small)
  · exact Or.inr ⟨Nat.le_trans large above, Nat.le_trans below bound⟩

theorem Beyond.char {low high n : Nat} (beyond : Beyond low high) (above : low ≤ n)
    (below : n < high) :
    0x80 ≤ (Char.ofNat n).toNat := by
  have valid : n.isValidChar := by
    rcases beyond.2 with small | ⟨large, bound⟩
    · exact Or.inl (Nat.lt_of_lt_of_le below small)
    · have large' : 0xE000 ≤ n := Nat.le_trans large above
      exact Or.inr ⟨Nat.lt_of_lt_of_le (by decide) large', Nat.lt_of_lt_of_le below bound⟩
  have value : (Char.ofNat n).toNat = n := by
    rw [Char.ofNat, dif_pos valid]
    rfl
  rw [value]
  exact Nat.le_trans beyond.1 above

/-- However the character at hand goes on, it is a character beyond ASCII. -/
def State.Ranged : State → Prop
  | .start => True
  | .owed bits need lo hi => 1 ≤ need ∧ 0x80 ≤ lo.toNat ∧
    Beyond ((bits * 64 + (lo.toNat - 0x80)) * 64 ^ (need - 1))
      ((bits * 64 + (hi.toNat - 0x80) + 1) * 64 ^ (need - 1))

instance (state : State) : Decidable state.Ranged :=
  match state with
  | .start => .isTrue trivial
  | .owed bits need lo hi =>
    inferInstanceAs (Decidable (1 ≤ need ∧ 0x80 ≤ lo.toNat ∧
      (0x80 ≤ (bits * 64 + (lo.toNat - 0x80)) * 64 ^ (need - 1) ∧
        ((bits * 64 + (hi.toNat - 0x80) + 1) * 64 ^ (need - 1) ≤ 0xD800 ∨
          0xE000 ≤ (bits * 64 + (lo.toNat - 0x80)) * 64 ^ (need - 1) ∧
            (bits * 64 + (hi.toNat - 0x80) + 1) * 64 ^ (need - 1) ≤ 0x110000))))

theorem begin_ranged (b : UInt8) : (begin b).1.Ranged := by
  have all : ∀ n : Fin 256, (begin (UInt8.ofNat n)).1.Ranged := by decide +kernel
  have own := all ⟨b.toNat, b.toNat_lt⟩
  rw [UInt8.ofNat_toNat] at own
  exact own

theorem step_ranged {state : State} (ranged : state.Ranged) (b : UInt8) :
    (step state b).1.Ranged := by
  cases state with
  | start => exact begin_ranged b
  | owed bits need lo hi =>
    rw [step]
    split
    next within =>
      dsimp only
      split
      next => trivial
      next more =>
        obtain ⟨_, low, beyond⟩ := ranged
        obtain ⟨rest, rfl⟩ : ∃ rest, need = rest + 2 := ⟨need - 2, by omega⟩
        have above := UInt8.le_iff_toNat_le.mp within.1
        have below := UInt8.le_iff_toNat_le.mp within.2
        have power : 64 ^ (rest + 2 - 1) = 64 * 64 ^ rest := Nat.pow_succ'
        have least : (bits * 64 + (b.toNat - 0x80)) * 64 * 64 ^ rest =
            (bits * 64 + (b.toNat - 0x80)) * 64 ^ (rest + 2 - 1) := by rw [power, Nat.mul_assoc]
        have most : ((bits * 64 + (b.toNat - 0x80)) * 64 + 63 + 1) * 64 ^ rest =
            (bits * 64 + (b.toNat - 0x80) + 1) * 64 ^ (rest + 2 - 1) := by
          rw [power, ← Nat.mul_assoc, Nat.succ_mul _ 64]
        have narrow : Beyond ((bits * 64 + (b.toNat - 0x80)) * 64 * 64 ^ rest)
            (((bits * 64 + (b.toNat - 0x80)) * 64 + 63 + 1) * 64 ^ rest) := by
          rw [least, most]
          exact beyond.mono (Nat.mul_le_mul_right _ (by omega)) (Nat.mul_le_mul_right _ (by omega))
        have first : (0x80 : UInt8).toNat - 0x80 = 0 := rfl
        have last : (0xBF : UInt8).toNat - 0x80 = 63 := rfl
        have fewer : rest + 2 - 1 - 1 = rest := by omega
        refine ⟨by omega, by decide, ?_⟩
        rw [first, last, fewer, Nat.add_zero]
        exact narrow
    next => exact begin_ranged b

theorem begin_piece {b : UInt8} {c : Char} (read : some c ∈ (begin b).2) :
    c.toNat = b.toNat := by
  have all : ∀ n : Fin 256, (begin (UInt8.ofNat n)).2 = [] ∨ (begin (UInt8.ofNat n)).2 = [none] ∨
      (begin (UInt8.ofNat n)).2 = [some (Char.ofNat n)] ∧ n.val < 0x80 := by decide +kernel
  have own := all ⟨b.toNat, b.toNat_lt⟩
  rw [UInt8.ofNat_toNat] at own
  rcases own with none_ | broken | ⟨ascii, small⟩
  · rw [none_] at read
    cases read
  · rw [broken, List.mem_singleton] at read
    cases read
  · rw [ascii, List.mem_singleton] at read
    have small' : b.toNat < 0x80 := small
    have valid : b.toNat.isValidChar := Or.inl (by omega)
    cases read
    rw [Char.ofNat, dif_pos valid]
    rfl

/-- A character that is read is the byte itself, or is beyond ASCII. -/
theorem step_piece {state : State} (ranged : state.Ranged) {b : UInt8} {c : Char}
    (read : some c ∈ (step state b).2) : c.toNat = b.toNat ∨ 0x80 ≤ c.toNat := by
  cases state with
  | start => exact Or.inl (begin_piece read)
  | owed bits need lo hi =>
    rw [step] at read
    split at read
    next within =>
      dsimp only at read
      split at read
      next last =>
        obtain ⟨positive, low, beyond⟩ := ranged
        have above := UInt8.le_iff_toNat_le.mp within.1
        have below := UInt8.le_iff_toNat_le.mp within.2
        obtain rfl : need = 1 := by omega
        rw [Nat.sub_self, Nat.pow_zero, Nat.mul_one, Nat.mul_one] at beyond
        rw [Option.some.inj (List.mem_singleton.mp read)]
        exact Or.inr (beyond.char (by omega) (by omega))
      next => cases read
    next =>
      rcases List.mem_cons.mp read with none_ | own
      · cases none_
      · exact Or.inl (begin_piece own)

theorem piecesFrom_piece {state : State} (ranged : state.Ranged) {x : List UInt8} {c : Char}
    (read : some c ∈ piecesFrom state x) : (∃ b ∈ x, c.toNat = b.toNat) ∨ 0x80 ≤ c.toNat := by
  induction x generalizing state with
  | nil =>
    cases state with
    | start => cases read
    | owed => cases List.mem_singleton.mp read
  | cons b x ih =>
    rw [piecesFrom] at read
    rcases List.mem_append.mp read with now | later
    · rcases step_piece ranged now with own | beyond
      · exact Or.inl ⟨b, List.mem_cons_self .., own⟩
      · exact Or.inr beyond
    · rcases ih (step_ranged ranged b) later with ⟨b', mem, own⟩ | beyond
      · exact Or.inl ⟨b', List.mem_cons_of_mem _ mem, own⟩
      · exact Or.inr beyond

/-- A character that is decoded is one of the bytes, or is beyond ASCII. -/
theorem mem_decodeLossy {x : List UInt8} {c : Char} (mem : c ∈ decodeLossy x) :
    (∃ b ∈ x, c.toNat = b.toNat) ∨ 0x80 ≤ c.toNat := by
  obtain ⟨piece, read, rfl⟩ := List.mem_map.mp mem
  cases piece with
  | none => exact Or.inr (by decide)
  | some c =>
    have fresh : State.start.Ranged := trivial
    exact piecesFrom_piece fresh read

/-! ## The bytes of a text -/

theorem toList_loop (bytes : ByteArray) (i : Nat) (done : List UInt8) :
    ByteArray.toList.loop bytes i done = done.reverse ++ bytes.data.toList.drop i := by
  fun_induction ByteArray.toList.loop bytes i done with
  | case1 i done inside ih =>
    have here : i < bytes.data.toList.length := by simpa using inside
    have byte : bytes.get! i = bytes.data.toList[i] := by
      cases bytes
      exact getElem!_pos _ i inside
    rw [ih, List.drop_eq_getElem_cons here, byte, List.reverse_cons, List.append_assoc]
    rfl
  | case2 i done outside =>
    have past : bytes.data.toList.length ≤ i := by simpa using outside
    rw [List.drop_eq_nil_of_le past, List.append_nil]

theorem encode_ofList (s : List Char) :
    encode (String.ofList s) = s.flatMap String.utf8EncodeChar := by
  rw [encode, String.toUTF8, String.toByteArray_ofList, ByteArray.toList, toList_loop, List.drop_zero,
    List.utf8Encode, List.toList_data_toByteArray]
  rfl

theorem toNat_byte {n : Nat} (byte : n < 0x100) : (UInt8.ofNat n).toNat = n :=
  UInt8.toNat_ofNat_of_lt' byte

theorem byte_eq_iff {n k : Nat} (byte : n < 0x100) (byte' : k < 0x100) :
    UInt8.ofNat n = UInt8.ofNat k ↔ n = k := by
  constructor
  · intro same
    have values := congrArg UInt8.toNat same
    rwa [toNat_byte byte, toNat_byte byte'] at values
  · exact congrArg _

theorem toNat_ite {n k : Nat} {x y : UInt8} (byte : n < 0x100) (byte' : k < 0x100) :
    (if UInt8.ofNat n = UInt8.ofNat k then x else y).toNat = if n = k then x.toNat else y.toNat := by
  rw [apply_ite UInt8.toNat]
  simp only [byte_eq_iff byte byte']

theorem step_within {bits need n : Nat} {lo hi : UInt8} (byte : n < 0x100) (least : lo.toNat ≤ n)
    (most : n ≤ hi.toNat) :
    step (.owed bits need lo hi) (UInt8.ofNat n) =
      if need ≤ 1 then (.start, [some (Char.ofNat (bits * 64 + (n - 0x80)))])
      else (.owed (bits * 64 + (n - 0x80)) (need - 1) 0x80 0xBF, []) := by
  have within : lo ≤ UInt8.ofNat n ∧ UInt8.ofNat n ≤ hi := by
    rw [UInt8.le_iff_toNat_le, UInt8.le_iff_toNat_le, toNat_byte byte]
    exact ⟨least, most⟩
  rw [step, if_pos within, toNat_byte byte]

theorem begin_one {n : Nat} (most : n < 0x80) :
    begin (UInt8.ofNat n) = (.start, [some (Char.ofNat n)]) := by
  simp only [begin, toNat_byte (n := n) (by omega), if_pos most]

theorem begin_two {n : Nat} (least : 0xC2 ≤ n) (most : n < 0xE0) :
    begin (UInt8.ofNat n) = (.owed (n - 0xC0) 1 0x80 0xBF, []) := by
  simp only [begin, toNat_byte (n := n) (by omega)]
  rw [if_neg (by omega), if_neg (by omega), if_pos most]

/-- After the first of three bytes: the second one must not spell a shorter form or a surrogate. -/
theorem begin_three {n : Nat} (least : 0xE0 ≤ n) (most : n < 0xF0) :
    ∃ lo hi, begin (UInt8.ofNat n) = (.owed (n - 0xE0) 2 lo hi, []) ∧
      lo.toNat = (if n = 0xE0 then 0xA0 else 0x80) ∧ hi.toNat = if n = 0xED then 0x9F else 0xBF := by
  refine ⟨if UInt8.ofNat n = 0xE0 then 0xA0 else 0x80, if UInt8.ofNat n = 0xED then 0x9F else 0xBF,
    ?_, ?_, ?_⟩
  · simp only [begin, toNat_byte (n := n) (by omega)]
    rw [if_neg (by omega), if_neg (by omega), if_neg (by omega), if_pos most]
  · exact toNat_ite (k := 0xE0) (by omega) (by omega)
  · exact toNat_ite (k := 0xED) (by omega) (by omega)

/-- After the first of four bytes: the second one must not spell a shorter form or leave the range. -/
theorem begin_four {n : Nat} (least : 0xF0 ≤ n) (most : n < 0xF5) :
    ∃ lo hi, begin (UInt8.ofNat n) = (.owed (n - 0xF0) 3 lo hi, []) ∧
      lo.toNat = (if n = 0xF0 then 0x90 else 0x80) ∧ hi.toNat = if n = 0xF4 then 0x8F else 0xBF := by
  refine ⟨if UInt8.ofNat n = 0xF0 then 0x90 else 0x80, if UInt8.ofNat n = 0xF4 then 0x8F else 0xBF,
    ?_, ?_, ?_⟩
  · simp only [begin, toNat_byte (n := n) (by omega)]
    rw [if_neg (by omega), if_neg (by omega), if_neg (by omega), if_neg (by omega), if_pos most]
  · exact toNat_ite (k := 0xF0) (by omega) (by omega)
  · exact toNat_ite (k := 0xF4) (by omega) (by omega)

/-- The bytes of a character are read as the character. -/
theorem piecesFrom_char (c : Char) (rest : List UInt8) :
    piecesFrom .start (String.utf8EncodeChar c ++ rest) = some c :: piecesFrom .start rest := by
  have valid : c.val.toNat < 0xD800 ∨ 0xDFFF < c.val.toNat ∧ c.val.toNat < 0x110000 := c.valid
  have self : Char.ofNat c.val.toNat = c := Char.ofNat_toNat c
  have low : (0x80 : UInt8).toNat = 0x80 := rfl
  have high : (0xBF : UInt8).toNat = 0xBF := rfl
  unfold String.utf8EncodeChar
  generalize c.val.toNat = v at valid self
  dsimp only
  split
  next one =>
    simp only [List.cons_append, List.nil_append, piecesFrom, step.eq_1]
    rw [begin_one (by omega), self]
    rfl
  split
  next two =>
    have number : (v / 64 % 32 + 192 - 0xC0) * 64 + (v % 64 + 128 - 0x80) = v := by omega
    simp only [List.cons_append, List.nil_append, piecesFrom, step.eq_1]
    rw [begin_two (by omega) (by omega), step_within (by omega) (by omega) (by omega), number, self]
    rfl
  split
  next three =>
    have number : ((v / 4096 % 16 + 224 - 0xE0) * 64 + (v / 64 % 64 + 128 - 0x80)) * 64 +
        (v % 64 + 128 - 0x80) = v := by omega
    obtain ⟨lo, hi, first, least, most⟩ := begin_three (n := v / 4096 % 16 + 224) (by omega) (by omega)
    have second : lo.toNat ≤ v / 64 % 64 + 128 ∧ v / 64 % 64 + 128 ≤ hi.toNat := by
      rw [least, most]
      constructor <;> split <;> omega
    simp only [List.cons_append, List.nil_append, piecesFrom, step.eq_1]
    rw [first, step_within (by omega) second.1 second.2]
    rw [if_neg (by omega), step_within (by omega) (by omega) (by omega), number, self]
    rfl
  next four =>
    have number : (((v / 262144 % 8 + 240 - 0xF0) * 64 + (v / 4096 % 64 + 128 - 0x80)) * 64 +
        (v / 64 % 64 + 128 - 0x80)) * 64 + (v % 64 + 128 - 0x80) = v := by omega
    obtain ⟨lo, hi, first, least, most⟩ := begin_four (n := v / 262144 % 8 + 240) (by omega) (by omega)
    have second : lo.toNat ≤ v / 4096 % 64 + 128 ∧ v / 4096 % 64 + 128 ≤ hi.toNat := by
      rw [least, most]
      constructor <;> split <;> omega
    simp only [List.cons_append, List.nil_append, piecesFrom, step.eq_1]
    rw [first, step_within (by omega) second.1 second.2]
    rw [if_neg (by omega), step_within (by omega) (by omega) (by omega)]
    rw [if_neg (by omega), step_within (by omega) (by omega) (by omega), number, self]
    rfl

theorem encode_eq (s : String) : encode s = s.toList.flatMap String.utf8EncodeChar := by
  have bytes := encode_ofList s.toList
  rwa [String.ofList_toList] at bytes

theorem pieces_encode (s : String) : pieces (encode s) = s.toList.map some := by
  rw [encode_eq, pieces]
  induction s.toList with
  | nil => rfl
  | cons c text ih => rw [List.flatMap_cons, piecesFrom_char, ih, List.map_cons]

/-- A text is read back from its bytes. -/
theorem decodeLossy_encode (s : String) : decodeLossy (encode s) = s.toList := by
  rw [decodeLossy, pieces_encode, List.map_map]
  exact List.map_id s.toList

/-- Behind the bytes of a text the reader stands between two characters, and has read the text. -/
theorem readFrom_encode (s : String) :
    readFrom .start (encode s) = s.toList.map some ∧ after .start (encode s) = .start := by
  have parts : s.toList.map some =
      readFrom .start (encode s) ++ finish (after .start (encode s)) := by
    rw [← pieces_encode, pieces, piecesFrom_eq_readFrom]
  cases stand : after .start (encode s) with
  | start =>
    rw [stand, finish, List.append_nil] at parts
    exact ⟨parts.symm, rfl⟩
  | owed bits need lo hi =>
    rw [stand, finish] at parts
    have broken : none ∈ s.toList.map some := by
      rw [parts]
      simp
    obtain ⟨c, _, eq⟩ := List.mem_map.mp broken
    cases eq

/-- The bytes of a text are UTF-8. -/
theorem decode?_encode (s : String) : decode? (encode s) = some s.toList := by
  rw [decode?, pieces_encode]
  induction s.toList with
  | nil => rfl
  | cons c text ih => rw [List.map_cons, List.mapM_cons, ih]; rfl

/-! ## Faults -/

theorem begin_broken_or (b : UInt8) : (begin b).2 = [none] ∨ none ∉ (begin b).2 := by
  unfold begin
  dsimp only
  split_ifs <;> simp

theorem step_broken_or (bits need : Nat) (lo hi b : UInt8) :
    (∃ rest, (step (.owed bits need lo hi) b).2 = none :: rest) ∨
      none ∉ (step (.owed bits need lo hi) b).2 := by
  unfold step
  dsimp only
  split_ifs <;> simp

/-- A fault is found where a sequence of bytes has broken off. -/
theorem faultFrom_eq_none_iff {state : State} (begun place : Nat) (x : List UInt8) :
    faultFrom state begun place x = none ↔ none ∉ piecesFrom state x := by
  induction x generalizing state begun place with
  | nil => cases state <;> simp [faultFrom, piecesFrom, finish]
  | cons b x ih =>
    rw [piecesFrom, List.mem_append, not_or]
    cases state with
    | start =>
      rw [faultFrom]
      split
      next read =>
        rw [step, read]
        simp
      next state pieces sound read =>
        rcases begin_broken_or b with broken | whole
        · rw [read] at broken
          exact (sound broken).elim
        · rw [step, ih, read]
          rw [read] at whole
          exact (and_iff_right whole).symm
    | owed bits need lo hi =>
      rw [faultFrom]
      split
      next read =>
        rw [read]
        simp
      next state pieces sound read =>
        rcases step_broken_or bits need lo hi b with ⟨rest, broken⟩ | whole
        · rw [read] at broken
          exact (sound rest broken).elim
        · rw [ih, read]
          rw [read] at whole
          exact (and_iff_right whole).symm

theorem exists_mapM_id_iff {α : Type} (l : List (Option α)) :
    (∃ found, l.mapM id = some found) ↔ none ∉ l := by
  induction l with
  | nil => exact iff_of_true ⟨[], rfl⟩ List.not_mem_nil
  | cons a l ih =>
    cases a with
    | none => exact iff_of_false (fun ⟨_, found⟩ => nomatch found) fun fresh => fresh List.mem_cons_self
    | some a =>
      have behind : none ∉ some a :: l ↔ none ∉ l := by simp
      have first : (some a :: l).mapM id = (l.mapM id).map (a :: ·) := by
        rw [List.mapM_cons]
        cases l.mapM id <;> rfl
      rw [behind, ← ih, first]
      simp only [Option.map_eq_some_iff]
      exact ⟨fun ⟨_, later, found, _⟩ => ⟨later, found⟩, fun ⟨later, found⟩ => ⟨_, later, found, rfl⟩⟩

/-- Bytes are UTF-8 exactly if no fault is found in them. -/
theorem fault?_eq_none_iff (bytes : List UInt8) :
    fault? bytes = none ↔ ∃ text, decode? bytes = some text := by
  rw [fault?, faultFrom_eq_none_iff, decode?, exists_mapM_id_iff, pieces]

/-! ## ASCII -/

/-- Nothing but ASCII characters. -/
def Ascii (s : List Char) : Prop := ∀ c ∈ s, c.toNat < 0x80

instance (s : List Char) : Decidable (Ascii s) := List.decidableBAll _ s

/-- The byte of an ASCII character is read as the character. -/
theorem begin_ascii {c : Char} (ascii : c.toNat < 0x80) :
    begin (UInt8.ofNat c.toNat) = (.start, [some c]) := by
  rw [begin_one ascii, Char.ofNat_toNat]

variable {s : List Char}

theorem encode_ascii (ascii : Ascii s) :
    encode (String.ofList s) = s.map fun c => UInt8.ofNat c.toNat := by
  rw [encode_ofList]
  induction s with
  | nil => rfl
  | cons c s ih =>
    obtain ⟨first, later⟩ := List.forall_mem_cons.mp ascii
    have one : String.utf8EncodeChar c = [UInt8.ofNat c.toNat] := if_pos (Nat.le_of_lt_succ first)
    rw [List.flatMap_cons, one, ih later]
    rfl

theorem encode_small (ascii : Ascii s) :
    ∀ b ∈ encode (String.ofList s), b.toNat < 0x80 := by
  rw [encode_ascii ascii]
  intro b mem
  obtain ⟨c, here, rfl⟩ := List.mem_map.mp mem
  have small := ascii c here
  rwa [UInt8.toNat_ofNat_of_lt' (Nat.lt_trans small (by decide))]

theorem fault?_ascii (ascii : Ascii s) : fault? (encode (String.ofList s)) = none := by
  have sound : ∀ j k, faultFrom .start j k (s.map fun c => UInt8.ofNat c.toNat) = none := by
    induction s with
    | nil => exact fun _ _ => rfl
    | cons c s ih =>
      intro j k
      obtain ⟨first, later⟩ := List.forall_mem_cons.mp ascii
      rw [List.map_cons, faultFrom, begin_ascii first]
      exact ih later k (k + 1)
  rw [encode_ascii ascii]
  exact sound 0 0

/-! ## Lines as bytes -/

/-- A byte of a character is the character itself, or is beyond ASCII. -/
theorem toNat_of_mem_utf8EncodeChar {b : UInt8} {c : Char} (mem : b ∈ String.utf8EncodeChar c) :
    b.toNat = c.toNat ∨ 0x80 ≤ b.toNat := by
  have valid : c.val.toNat < 0xD800 ∨ 0xDFFF < c.val.toNat ∧ c.val.toNat < 0x110000 := c.valid
  have value : c.toNat = c.val.toNat := rfl
  unfold String.utf8EncodeChar at mem
  rw [value]
  generalize c.val.toNat = v at valid mem
  dsimp only at mem
  split at mem
  next one =>
    rw [List.mem_singleton.mp mem]
    exact Or.inl (toNat_byte (by omega))
  next =>
    refine Or.inr ?_
    split_ifs at mem
    all_goals
      simp only [List.mem_cons, List.not_mem_nil, or_false] at mem
      rcases mem with rfl | rfl | rfl | rfl
      all_goals
        rw [toNat_byte (by omega)]
        omega

theorem newline_not_mem {c : Char} (other : c ≠ '\n') : 10 ∉ String.utf8EncodeChar c := by
  intro mem
  have ten : (10 : UInt8).toNat = '\n'.toNat := rfl
  rcases toNat_of_mem_utf8EncodeChar mem with own | beyond
  · exact other (Char.toNat_inj.mp (own.symm.trans ten))
  · exact absurd beyond (by decide)

/-- The bytes of characters one after another. -/
abbrev encodeChars (s : List Char) : List UInt8 := s.flatMap String.utf8EncodeChar

theorem terminated_encodeChars (s : List Char) :
    terminated 10 (encodeChars s) =
      ((terminated '\n' s).1.map encodeChars, encodeChars (terminated '\n' s).2) := by
  induction s with
  | nil => rfl
  | cons c s ih =>
    by_cases newline : c = '\n'
    · have bytes : encodeChars (c :: s) = 10 :: encodeChars s := by
        rw [encodeChars, List.flatMap_cons, newline]
        rfl
      rw [bytes, terminated, terminated, ih]
      obtain ⟨ended, tail⟩ := terminated '\n' s
      cases ended <;> simp only [List.map_nil, List.map_cons, if_pos newline, if_true] <;> rfl
    · have bytes : encodeChars (c :: s) = String.utf8EncodeChar c ++ encodeChars s := List.flatMap_cons
      rw [bytes, terminated_append_of_not_mem (newline_not_mem newline), terminated, ih]
      obtain ⟨ended, tail⟩ := terminated '\n' s
      cases ended <;> simp only [List.map_nil, List.map_cons, if_neg newline] <;> rfl

/-- The lines of the bytes of a text are the bytes of its lines. -/
theorem records_encode (s : String) :
    records 10 (encode s) = (records '\n' s.toList).map encodeChars := by
  have empty_iff : ∀ t, encodeChars t = [] → t = [] := by
    intro t bytes
    cases t with
    | nil => rfl
    | cons c t =>
      have none_ := (List.append_eq_nil_iff.mp (List.flatMap_cons.symm.trans bytes)).1
      have some_ := String.length_utf8EncodeChar c
      rw [none_] at some_
      exact absurd some_.symm (Nat.ne_of_gt c.utf8Size_pos)
  rw [encode_eq, records, terminated_encodeChars, records]
  obtain ⟨ended, tail⟩ := terminated '\n' s.toList
  cases tail with
  | nil => rfl
  | cons c tail =>
    dsimp only
    split
    next ended' eq =>
      cases empty_iff _ (congrArg Prod.snd eq)
    next ended' tail' _ eq =>
      cases eq
      rw [List.map_append]
      rfl

end Snippet.Text.Utf8
