import Snippet.Proofs.Json.Printed
import Snippet.Proofs.Text.Decoding
import Snippet.Proofs.Wire.Frames
import Snippet.Wire.StandIn

/-!
# Which notices a host understands

A worker writes whatever its programs put out, unpaired surrogates included; a host reads text, in
which there are none. `Guest.Notice.understood_iff_paired`: a host takes a notice as it is meant
exactly if every surrogate in its texts belongs to a pair. It passes over any other notice as if
nothing had been said, and a request whose answer was such a notice is left waiting.
-/

namespace Snippet

open Text Wire

/-! ## Surrogates in pairs -/

namespace Text.Points

/-- Every surrogate belongs to a pair. -/
inductive Paired : Points → Prop
  | nil : Paired []
  | plain {n : Nat} {p : Points} (other : isSurrogate n = false) (rest : Paired p) : Paired (n :: p)
  | pair {high low : Nat} {p : Points} (leads : isHigh high = true) (trails : isLow low = true)
    (rest : Paired p) : Paired (high :: low :: p)

/-- What code points say: pairs of surrogates are the characters they stand for, and a replacement
character stands for every other surrogate. -/
def meaning (p : Points) : String := p.joinPairs.toStringLossy

theorem isSurrogate_of_isHigh {n : Nat} (high : isHigh n = true) : isSurrogate n = true := by
  simp only [isHigh, isSurrogate, Bool.and_eq_true, decide_eq_true_eq] at high ⊢
  omega

theorem isSurrogate_ofPair (high low : Nat) : isSurrogate (ofPair high low) = false := by
  have beyond : 0x10000 ≤ ofPair high low := by
    unfold ofPair
    omega
  simp only [isSurrogate, Bool.and_eq_false_iff, decide_eq_false_iff_not]
  omega

/-- The surrogates that belong to no pair are those that are left when pairs are joined. -/
theorem paired_iff {p : Points} : Paired p ↔ ∀ n ∈ p.joinPairs, isSurrogate n = false := by
  induction p using joinPairs.induct with
  | case1 =>
    rw [joinPairs]
    exact iff_of_true .nil (List.forall_mem_nil _)
  | case2 n =>
    rw [joinPairs, List.forall_mem_singleton]
    constructor
    · rintro (_ | ⟨other, _⟩)
      exact other
    · exact fun other => .plain other .nil
  | case3 high low rest both ih =>
    obtain ⟨leads, trails⟩ := Bool.and_eq_true_iff.mp both
    rw [joinPairs, if_pos both, List.forall_mem_cons, ← ih]
    constructor
    · rintro (_ | ⟨other, _⟩ | ⟨_, _, paired⟩)
      · rw [isSurrogate_of_isHigh leads] at other
        cases other
      · exact ⟨isSurrogate_ofPair high low, paired⟩
    · exact fun left => .pair leads trails left.2
  | case4 n m rest apart ih =>
    rw [joinPairs, if_neg apart, List.forall_mem_cons, ← ih]
    constructor
    · rintro (_ | ⟨other, paired⟩ | ⟨leads, trails, _⟩)
      · exact ⟨other, paired⟩
      · exact (apart (Bool.and_eq_true_iff.mpr ⟨leads, trails⟩)).elim
    · exact fun left => .plain left.1 left.2

instance (p : Points) : Decidable p.Paired := decidable_of_iff _ paired_iff.symm

theorem toString?_eq (p : Points) :
    p.toString? = if ∀ n ∈ p, isSurrogate n = false then some p.toStringLossy else none := by
  have chars : p.toChars? = if ∀ n ∈ p, isSurrogate n = false then
      some (p.map fun n => if isSurrogate n then '\uFFFD' else Char.ofNat n) else none := by
    induction p with
    | nil => rfl
    | cons n p ih =>
      cases first : isSurrogate n with
      | true => simp [toChars?, first]
      | false =>
        by_cases later : ∀ n ∈ p, isSurrogate n = false
        · simp [toChars?, first, ih, if_pos later]
        · simp [toChars?, first, ih, if_neg later]
  rw [toString?, chars]
  split <;> rfl

end Text.Points

/-! ## What notices mean -/

namespace Guest.Notice

/-- The texts that a notice carries. -/
def texts : Notice → List Points
  | .ready version => [version]
  | .input _ prompt => [prompt]
  | .done _ output => [output]
  | .error _ output message trace => [output, message, trace]

/-- All that is in the texts are code points. -/
def Valid (n : Notice) : Prop := ∀ p ∈ n.texts, ∀ c ∈ p, c < 0x110000

/-- Every surrogate in the texts belongs to a pair. -/
def Paired (n : Notice) : Prop := ∀ p ∈ n.texts, p.Paired

instance (n : Notice) : Decidable n.Valid := inferInstanceAs (Decidable (∀ p ∈ n.texts, _))

instance (n : Notice) : Decidable n.Paired := inferInstanceAs (Decidable (∀ p ∈ n.texts, _))

/-- What a notice means to a host, if it names its request by a number that a host can have given. -/
def meant? : Notice → Option DriverFrame
  | .ready version => some (.ready version.meaning)
  | .input id prompt => (number? id).map (.input · prompt.meaning)
  | .done id output => (number? id).map (.done · output.meaning)
  | .error id output message trace =>
    (number? id).map (.error · output.meaning message.meaning trace.meaning)

variable {n : Notice} {f : DriverFrame}

theorem text?_eq {p : Points} (valid : ∀ c ∈ p, c < 0x110000) :
    text? p = if p.Paired then some p.meaning else none := by
  rw [text?, Points.respelled_eq_joinPairs valid, Points.toString?_eq]
  exact if_congr Points.paired_iff.symm rfl rfl

theorem numbered_of_meant (meant : n.meant? = some f) : n.Numbered := by
  have integer : ∀ {id : Message} {k : Nat}, number? id = some k → ∃ i, id = .num (.int i) := by
    intro id k number
    unfold number? at number
    split at number
    · exact ⟨_, rfl⟩
    · cases number
  cases n with
  | ready => trivial
  | input | done | error =>
    obtain ⟨k, number, _⟩ := Option.map_eq_some_iff.mp meant
    exact integer number

/-- A host finds a notice with a surrogate outside a pair to be none. -/
theorem frame?_eq (valid : n.Valid) : n.frame? = if n.Paired then n.meant? else none := by
  have read : ∀ p ∈ n.texts, text? p = if p.Paired then some p.meaning else none :=
    fun p mem => text?_eq (valid p mem)
  cases n with
  | ready version =>
    have whole : (ready version).Paired ↔ version.Paired := List.forall_mem_singleton
    simp only [frame?, meant?, whole, read version (List.mem_singleton_self _)]
    split <;> rfl
  | input id prompt =>
    have whole : (input id prompt).Paired ↔ prompt.Paired := List.forall_mem_singleton
    simp only [frame?, meant?, whole, read prompt (List.mem_singleton_self _)]
    cases number? id <;> split <;> rfl
  | done id output =>
    have whole : (done id output).Paired ↔ output.Paired := List.forall_mem_singleton
    simp only [frame?, meant?, whole, read output (List.mem_singleton_self _)]
    cases number? id <;> split <;> rfl
  | error id output message trace =>
    have whole : (error id output message trace).Paired ↔
        output.Paired ∧ message.Paired ∧ trace.Paired := by simp [Paired, texts]
    simp only [frame?, meant?, whole, read output (by simp [texts]), read message (by simp [texts]),
      read trace (by simp [texts])]
    cases number? id with
    | none => simp
    | some id =>
      by_cases one : output.Paired
      · by_cases two : message.Paired
        · by_cases three : trace.Paired
          · simp [one, two, three]
          · simp [one, two, three]
        · simp [one, two]
      · simp [one]

end Guest.Notice

/-! ## Notices as bytes -/

namespace Guest.Notice

theorem style_keepsTo : style.KeepsTo fun c => 0x20 ≤ c.toNat ∧ c.toNat < 0x7F where
  quote := Json.printed_quotePoints
  comma := (by decide : Json.Printed [',', ' '])
  colon := (by decide : Json.Printed [':', ' '])
  printed _ inside := inside

/-- A notice is printed on one line. -/
theorem printed_line {n : Notice} (numbered : n.Numbered) : Json.Printed n.line.toList := by
  rw [line, String.toList_ofList]
  exact style_keepsTo.all_write (fits_toJson numbered)

end Guest.Notice

namespace Json

/-- A printed text and the end of its line are ASCII. -/
theorem Printed.ascii {s : List Char} (printed : Printed s) : Utf8.Ascii (s ++ ['\n']) := by
  intro c mem
  rcases List.mem_append.mp mem with inside | last
  · have := (printed c inside).2
    omega
  · rw [List.mem_singleton.mp last]
    decide

end Json

/-- A printed line arrives as it was written. -/
theorem Wire.Arrival.ofBytes_printed {s : List Char} (printed : Json.Printed s) :
    Arrival.ofBytes (Utf8.encode (String.ofList (s ++ ['\n']))) = .line (String.ofList s) := by
  have kept : dropReturn s = s := by
    rw [dropReturn]
    refine if_neg fun last => ?_
    have visible := (printed '\r' (List.mem_of_getLast? last)).1
    exact absurd visible (by decide)
  rw [Arrival.ofBytes, Utf8.fault?_ascii printed.ascii]
  dsimp only
  rw [Utf8.decodeLossy_encode, String.toList_ofList, List.getLast?_concat, if_pos rfl, List.dropLast_concat,
    kept]

/-- A printed line that a stand-in has written is what the host reads next. -/
theorem Wire.StandIn.receive_printed {s : StandIn} {text : String} {rest : List UInt8}
    (printed : Json.Printed text.toList) (sent : s.outbox = Utf8.encode (text ++ "\n") ++ rest) :
    s.receive = (.line text, { s with outbox := rest }) := by
  have whole : text ++ "\n" = String.ofList (text.toList ++ ['\n']) := by
    rw [String.ofList_append, String.ofList_toList]
  have arrives : Arrival.ofBytes (Utf8.encode (text ++ "\n")) = .line text := by
    rw [whole, Arrival.ofBytes_printed printed, String.ofList_toList]
  obtain ⟨line, bytes, inside⟩ : ∃ line, Utf8.encode (text ++ "\n") = line ++ [10] ∧
      ∀ b ∈ line, (b != 10) = true := by
    refine ⟨text.toList.map fun c => UInt8.ofNat c.toNat, ?_, ?_⟩
    · rw [whole, Utf8.encode_ascii printed.ascii, List.map_append]
      rfl
    · intro b mem
      obtain ⟨c, here, rfl⟩ := List.mem_map.mp mem
      obtain ⟨low, high⟩ := printed c here
      have value : (UInt8.ofNat c.toNat).toNat = c.toNat :=
        UInt8.toNat_ofNat_of_lt' (Nat.lt_trans high (by decide))
      rw [bne_iff_ne]
      intro eq
      rw [eq] at value
      have ten : (10 : UInt8).toNat = 10 := rfl
      omega
  have cut : s.outbox = line ++ 10 :: rest := by
    rw [sent, bytes, List.append_assoc]
    rfl
  have front : (line ++ 10 :: rest).takeWhile (· != 10) = line := by
    rw [List.takeWhile_append_of_pos inside]
    exact List.append_nil line
  have back : (line ++ 10 :: rest).dropWhile (· != 10) = 10 :: rest := by
    rw [List.dropWhile_append_of_pos inside]
    rfl
  simp only [receive, cut, front, back, ← bytes, arrives]

/-! ## Which notices are understood -/

namespace Guest.Notice

variable {n : Notice} {f : DriverFrame} {s : StandIn} {rest : List UInt8}

/-- A host finds a notice as it is meant, or finds none. -/
theorem ofLine?_eq (meant : n.meant? = some f) (valid : n.Valid) :
    DriverFrame.ofLine? n.line = if n.Paired then some f else none := by
  rw [ofLine?_line (numbered_of_meant meant), frame?_eq valid, meant]

theorem receive_notice (meant : n.meant? = some f)
    (sent : s.outbox = Utf8.encode (n.line ++ "\n") ++ rest) :
    s.receive = (.line n.line, { s with outbox := rest }) :=
  StandIn.receive_printed (printed_line (numbered_of_meant meant)) sent

/-- A notice in pairs is the next frame; any other notice is passed over. -/
theorem frame_eq (meant : n.meant? = some f) (valid : n.Valid)
    (sent : s.outbox = Utf8.encode (n.line ++ "\n") ++ rest) (bound : Nat) :
    StandIn.peer.frame (bound + 1) s =
      if n.Paired then (.inl f, { s with outbox := rest })
      else StandIn.peer.frame bound { s with outbox := rest } := by
  rw [Peer.frame, StandIn.peer]
  dsimp only
  rw [receive_notice meant sent]
  dsimp only
  rw [ofLine?_eq meant valid]
  by_cases paired : n.Paired
  · rw [if_pos paired, if_pos paired]
  · rw [if_neg paired, if_neg paired]

/-- A stand-in that has nothing more to say and has not ended says nothing. -/
theorem frame_silent (mute : s.outbox = []) (running : s.exited = false) (bound : Nat) :
    StandIn.peer.frame bound s = (.inr .silent, s) := by
  cases bound with
  | zero => rfl
  | succ bound =>
    have silent : s.receive = (.silent, s) := by
      rw [StandIn.receive, mute]
      simp [running]
    rw [Peer.frame, StandIn.peer]
    dsimp only
    rw [silent]

/-- Behind a notice that is passed over a request waits for ever. -/
theorem unanswered (meant : n.meant? = some f) (valid : n.Valid) (alone : ¬ n.Paired)
    (sent : s.outbox = Utf8.encode (n.line ++ "\n") ++ []) (running : s.exited = false)
    (e : Exchange) (lines rounds : Nat) :
    (Exchange.converse StandIn.peer lines rounds e s).1 = none := by
  have silent : ∃ s', StandIn.peer.frame lines s = (.inr .silent, s') := by
    cases lines with
    | zero => exact ⟨s, rfl⟩
    | succ lines =>
      have mute := frame_silent (s := { s with outbox := [] }) rfl running lines
      rw [frame_eq meant valid sent, if_neg alone]
      exact ⟨_, mute⟩
  obtain ⟨s', silent⟩ := silent
  cases rounds with
  | zero => rfl
  | succ rounds => rw [Exchange.converse, silent]

/-- A notice that names its request by a number is taken by a host as it is meant if every surrogate
in its texts belongs to a pair. Otherwise it is passed over: a request that it was the answer to has
no answer, however long it waits, when there is nothing behind it. -/
theorem understood_iff_paired (meant : n.meant? = some f) (valid : n.Valid)
    (sent : s.outbox = Utf8.encode (n.line ++ "\n") ++ rest) :
    (n.Paired → ∀ bound,
      StandIn.peer.frame (bound + 1) s = (.inl f, { s with outbox := rest })) ∧
    (¬ n.Paired → ∀ bound,
      StandIn.peer.frame (bound + 1) s = StandIn.peer.frame bound { s with outbox := rest }) ∧
    ∀ (e : Exchange) (output : String) (error : Option ErrorDetail),
      e.react f = .answer output error →
        (n.Paired → ∀ lines rounds,
          Exchange.converse StandIn.peer (lines + 1) (rounds + 1) e s =
            (some (.answered output error), e, { s with outbox := rest })) ∧
        (¬ n.Paired → rest = [] → s.exited = false → ∀ lines rounds,
          (Exchange.converse StandIn.peer lines rounds e s).1 = none) := by
  have next := frame_eq meant valid sent
  refine ⟨fun paired bound => (next bound).trans (if_pos paired),
    fun alone bound => (next bound).trans (if_neg alone), fun e output error answers => ⟨?_, ?_⟩⟩
  · intro paired lines rounds
    rw [Exchange.converse, next, if_pos paired]
    dsimp only
    rw [answers]
  · intro alone last running lines rounds
    exact unanswered meant valid alone (last ▸ sent) running e lines rounds

/-- A pair of surrogates, a quote, a tab and a character beyond 16 bits all arrive. -/
theorem understood_iff_paired_failure :
    let n : Notice := .error (.num (.int 7)) [0xD83D, 0xDE00, 0x0A] (pts "ValueError: \"x\"")
      [0x1F600, 0x09, 0x5C]
    let s : StandIn := ⟨[], [], Utf8.encode (n.line ++ "\n") ++ [], [], false, false⟩
    let e : Exchange := ⟨7, ⟨[], 0⟩⟩
    let failed := (ErrorDetail.ofMessage "ValueError: \"x\"").withTrace (some "😀\t\\")
    n.meant? = some (.error 7 "😀\n" "ValueError: \"x\"" "😀\t\\") ∧ n.Valid ∧ n.Paired ∧
      (Exchange.converse StandIn.peer 1 1 e s).1 = some (.answered "😀\n" (some failed)) := by
  intro n s e failed
  have meant : n.meant? = some (.error 7 "😀\n" "ValueError: \"x\"" "😀\t\\") := by decide
  have valid : n.Valid := by decide
  have paired : n.Paired := by decide
  have sent : s.outbox = Utf8.encode (n.line ++ "\n") ++ [] := rfl
  have answers : e.react (.error 7 "😀\n" "ValueError: \"x\"" "😀\t\\") =
      .answer "😀\n" (some failed) := rfl
  have answered := (understood_iff_paired meant valid sent).2.2 e _ _ answers
  exact ⟨meant, valid, paired, congrArg Prod.fst (answered.1 paired 0 0)⟩

/-- An output that is one half of a pair is never heard of. -/
theorem unanswered_half :
    let n : Notice := .done (.num (.int 1)) [0xD800, 0x0A]
    let s : StandIn := ⟨[], [], Utf8.encode (n.line ++ "\n") ++ [], [], false, false⟩
    n.meant? = some (.done 1 "\uFFFD\n") ∧ n.Valid ∧ DriverFrame.ofLine? n.line = none ∧
      ∀ lines rounds, (Exchange.converse StandIn.peer lines rounds ⟨1, ⟨[], 0⟩⟩ s).1 = none := by
  intro n s
  have meant : n.meant? = some (.done 1 "\uFFFD\n") := by decide
  have valid : n.Valid := by decide
  have alone : ¬ n.Paired := by decide
  refine ⟨meant, valid, ?_, unanswered meant valid alone rfl rfl _⟩
  rw [ofLine?_eq meant valid, if_neg alone]

end Guest.Notice

end Snippet
