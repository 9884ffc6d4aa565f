import Keychain.Rust.Ledger.Framing

/-!
What `read_apdu` accepts, for every device.

The loop ends in one of two ways: it holds as many bytes as the first chunk announced,
or it has read `0xffff` chunks. The second way is not told apart from the first, so a
device whose chunks carry too little is believed (`readApdu_untruncated_iff`), where
`write_apdu` stops with an error at the same sequence number.
-/

namespace Keychain.Rust.Ledger

open Prog

/-! ## Chunks -/

/-- What stands before the message bytes in the chunk `seq`. -/
def chunkFront (seq : ℕ) : ℕ := if seq = 0 then 7 else 5

/-- A chunk with the right channel and tag, this sequence number and, when it is the
first one, room for the length it announces. -/
def InOrder (seq : ℕ) (chunk : Bytes) : Prop :=
  packetHeader seq <+: chunk ∧ chunkFront seq ≤ chunk.length

instance {seq : ℕ} {chunk : Bytes} : Decidable (InOrder seq chunk) :=
  inferInstanceAs (Decidable (_ ∧ _))

/-- The length in the first chunk. -/
def announcedBy (chunk : Bytes) : ℕ := (chunk.getD 5 0).toNat * 256 + (chunk.getD 6 0).toNat

theorem bigEndian_eq_iff {n : ℕ} {high low : UInt8} (small : n < 65536) :
    bigEndian n = [high, low] ↔ high.toNat * 256 + low.toNat = n := by
  constructor
  · intro same
    rw [bigEndian, List.cons.injEq, List.cons.injEq] at same
    obtain ⟨rfl, rfl, -⟩ := same
    exact bigEndian_toNat small
  · intro same
    rw [← same, bigEndian_of_toNat]

/-- The header is five bytes. -/
theorem packetHeader_prefix_iff {seq : ℕ} {a b c high low : UInt8} {payload : Bytes}
    (small : seq < 65536) :
    packetHeader seq <+: a :: b :: c :: high :: low :: payload ↔
      (a = 0x01 ∧ b = 0x01 ∧ c = apduTag) ∧ high.toNat * 256 + low.toNat = seq := by
  have listed : packetHeader seq = 0x01 :: 0x01 :: apduTag :: bigEndian seq := rfl
  have number : bigEndian seq <+: high :: low :: payload ↔ bigEndian seq = [high, low] := by
    rw [List.prefix_iff_eq_take]
    rfl
  rw [listed, List.cons_prefix_cons, List.cons_prefix_cons, List.cons_prefix_cons, number,
    bigEndian_eq_iff small]
  constructor
  · intro h
    obtain ⟨rfl, rfl, rfl, same⟩ := h
    exact ⟨⟨rfl, rfl, rfl⟩, same⟩
  · intro h
    obtain ⟨⟨rfl, rfl, rfl⟩, same⟩ := h
    exact ⟨rfl, rfl, rfl, same⟩

theorem readFirst_eq_ok {payload rest : Bytes} {size : ℕ} :
    readFirst payload = .ok (rest, size) ↔
      2 ≤ payload.length ∧ rest = payload.drop 2 ∧
        size = (payload.getD 0 0).toNat * 256 + (payload.getD 1 0).toNat := by
  match payload with
  | [] => simp [readFirst]
  | [_] => simp [readFirst]
  | _ :: _ :: _ =>
    simp only [readFirst, Except.ok.injEq, Prod.mk.injEq, List.length_cons, List.drop_succ_cons,
      List.drop_zero, List.getD_cons_zero, List.getD_cons_succ]
    constructor
    · intro h
      obtain ⟨rfl, rfl⟩ := h
      exact ⟨by omega, rfl, rfl⟩
    · intro h
      obtain ⟨-, rfl, rfl⟩ := h
      exact ⟨rfl, rfl⟩

/-- All that one read can do to the loop: exactly the chunks in order are taken, behind
their header. -/
theorem readChunk_eq_ok {index messageSize size : ℕ} {chunk payload : Bytes}
    (small : index < 65536) :
    readChunk index messageSize chunk = .ok (payload, size) ↔
      InOrder index chunk ∧ payload = chunk.drop (chunkFront index) ∧
        size = if index = 0 then announcedBy chunk else messageSize := by
  have short : ∀ chunk : Bytes, chunk.length < 5 → ¬ InOrder index chunk := by
    intro chunk few inOrder
    have front := inOrder.1.length_le
    rw [length_packetHeader] at front
    omega
  match chunk with
  | [] => simp [readChunk, short]
  | [_] => simp [readChunk, short]
  | [_, _] => simp [readChunk, short]
  | [_, _, _] => simp [readChunk, short]
  | [_, _, _, _] => simp [readChunk, short]
  | a :: b :: c :: high :: low :: rest =>
    rw [InOrder, packetHeader_prefix_iff small, readChunk]
    by_cases tagged : a ≠ 0x01 ∨ b ≠ 0x01 ∨ c ≠ apduTag
    · rw [if_pos tagged]
      have other : ¬ (a = 0x01 ∧ b = 0x01 ∧ c = apduTag) := by
        intro same
        obtain ⟨rfl, rfl, rfl⟩ := same
        simp at tagged
      simp [other]
    · have same : a = 0x01 ∧ b = 0x01 ∧ c = apduTag := by
        simpa only [ne_eq, not_or, not_not] using tagged
      rw [if_neg tagged]
      by_cases numbered : high.toNat * 256 + low.toNat = index
      · rw [if_neg (not_not.mpr numbered)]
        by_cases first : index = 0
        · subst first
          rw [if_pos rfl, if_pos rfl, readFirst_eq_ok]
          have room : chunkFront 0 ≤ (a :: b :: c :: high :: low :: rest).length ↔
              2 ≤ rest.length := by
            simp only [chunkFront, if_true, List.length_cons]
            omega
          rw [room]
          exact ⟨fun h => ⟨⟨⟨same, numbered⟩, h.1⟩, h.2⟩, fun h => ⟨h.1.2, h.2⟩⟩
        · have room : chunkFront index ≤ (a :: b :: c :: high :: low :: rest).length := by
            simp only [chunkFront, if_neg first, List.length_cons]
            omega
          have behind : (a :: b :: c :: high :: low :: rest).drop (chunkFront index) = rest := by
            simp [chunkFront, first]
          rw [if_neg first, if_neg first, behind, Except.ok.injEq, Prod.mk.injEq]
          constructor
          · intro h
            exact ⟨⟨⟨same, numbered⟩, room⟩, h.1.symm, h.2.symm⟩
          · intro h
            exact ⟨h.2.1.symm, h.2.2.symm⟩
      · rw [if_pos numbered]
        simp [numbered]

/-! ## Runs -/

section

variable {answers : ℕ → HidAnswer}

/-- What the read `seq` puts into the buffer of one packet. -/
def HidAnswer.chunk? : HidAnswer → Option Bytes
  | .failed => none
  | .transferred data => some (data.take hidPacketSize)

/-- The reads from `first` on, as many, are chunks in order. -/
def ReadsInOrder (answers : ℕ → HidAnswer) (reads : ℕ) : Prop :=
  ∀ seq < reads, ∃ chunk, (answers seq).chunk? = some chunk ∧ InOrder seq chunk

/-- The message bytes of the read `seq`. -/
def carriedBy (answers : ℕ → HidAnswer) (seq : ℕ) : Bytes :=
  ((answers seq).chunk?.getD []).drop (chunkFront seq)

/-- The message bytes of so many reads. -/
def carried (answers : ℕ → HidAnswer) (reads : ℕ) : Bytes :=
  (List.range reads).flatMap (carriedBy answers)

/-- The length that the first read announces. -/
def announced (answers : ℕ → HidAnswer) : ℕ := announcedBy ((answers 0).chunk?.getD [])

theorem carried_succ {reads : ℕ} :
    carried answers (reads + 1) = carried answers reads ++ carriedBy answers reads := by
  simp [carried, List.range_succ]

theorem length_carried_mono {m n : ℕ} (le : m ≤ n) :
    (carried answers m).length ≤ (carried answers n).length := by
  induction le with
  | refl => exact Nat.le_refl _
  | step le ih =>
    rw [carried_succ, List.length_append]
    omega

variable {left index size : ℕ} {held message : Bytes} {w w' : World HidCall HidAnswer Unit}

/-- The loop before the read `index`: it holds what the reads so far carried, and that is
less than the first of them announced. -/
structure Reading (answers : ℕ → HidAnswer) (index : ℕ) (held : Bytes) (size : ℕ)
    (w : World HidCall HidAnswer Unit) : Prop where
  asked : w.asked = index
  inOrder : ReadsInOrder answers index
  holds : held = carried answers index
  unfinished : index ≠ 0 → size = announced answers ∧ held.length < size

/-- A chunk in order is taken: its bytes are put behind the others. -/
theorem Reading.takes (reading : Reading answers index held size w) (small : index < 65536)
    {chunk : Bytes} (got : (answers index).chunk? = some chunk) (inOrder : InOrder index chunk) :
    readChunk index size chunk = .ok (carriedBy answers index, announced answers) := by
  refine (readChunk_eq_ok small).mpr ⟨inOrder, ?_, ?_⟩
  · rw [carriedBy, got, Option.getD_some]
  · by_cases first : index = 0
    · subst first
      rw [if_pos rfl, announced, got, Option.getD_some]
    · rw [if_neg first, (reading.unfinished first).1]

/-- One more chunk in order ends the loop or leaves it before the next read. -/
theorem Reading.run_succ (reading : Reading answers index held size w) (small : index < 65536)
    {chunk : Bytes} (got : (answers index).chunk? = some chunk) (inOrder : InOrder index chunk) :
    (readLoop (left + 1) index held size).run answers w =
      if announced answers ≤ (carried answers (index + 1)).length then
        (.ok ((carried answers (index + 1)).take (announced answers)),
          w.heard .read (answers index))
      else
        (readLoop left (index + 1) (carried answers (index + 1)) (announced answers)).run answers
          (w.heard .read (answers index)) := by
  have taken := reading.takes small got inOrder
  have grown : held ++ carriedBy answers index = carried answers (index + 1) := by
    rw [carried_succ, reading.holds]
  rw [readLoop]
  simp only [run_bind, run_ask, reading.asked]
  cases answered : answers index with
  | failed =>
    rw [answered] at got
    cases got
  | transferred data =>
    rw [answered, HidAnswer.chunk?, Option.some.injEq] at got
    subst got
    simp only [run_bind, run_ofExcept, taken, grown]
    split <;> rfl

/-- The loop ends with an error at any other answer. -/
theorem Reading.refuses (reading : Reading answers index held size w) (small : index < 65536)
    (other : ¬ ∃ chunk, (answers index).chunk? = some chunk ∧ InOrder index chunk) :
    ((readLoop (left + 1) index held size).run answers w).1 ≠ .ok message := by
  unfold readLoop
  simp only [run_bind, run_ask, reading.asked]
  cases answered : answers index with
  | failed => simp
  | transferred data =>
    cases read : readChunk index size (data.take hidPacketSize) with
    | error e => simp [run_bind, read]
    | ok part =>
      have inOrder := ((readChunk_eq_ok small).mp read).1
      refine absurd ⟨_, ?_, inOrder⟩ other
      rw [answered, HidAnswer.chunk?]

theorem Reading.next (reading : Reading answers index held size w) {chunk : Bytes}
    (got : (answers index).chunk? = some chunk) (inOrder : InOrder index chunk)
    (few : (carried answers (index + 1)).length < announced answers) :
    Reading answers (index + 1) (carried answers (index + 1)) (announced answers)
      (w.heard .read (answers index)) where
  asked := by rw [World.heard_asked, reading.asked]
  inOrder := by
    intro seq before
    rcases Nat.lt_succ_iff_lt_or_eq.mp before with earlier | rfl
    · exact reading.inOrder seq earlier
    · exact ⟨chunk, got, inOrder⟩
  holds := rfl
  unfinished := fun _ => ⟨rfl, few⟩

/-- A run of the loop that returns has read chunks in order only. It stopped because they
carried as much as was announced, or because there were no more sequence numbers. -/
theorem Reading.of_run_ok (reading : Reading answers index held size w)
    (few : index + left ≤ 0xffff) (started : 0 < index + left)
    (ran : (readLoop left index held size).run answers w = (.ok message, w')) :
    0 < w'.asked ∧ ReadsInOrder answers w'.asked ∧
      message = (carried answers w'.asked).take (announced answers) ∧
      (announced answers ≤ (carried answers w'.asked).length ∨
        w'.asked = index + left ∧
          (carried answers w'.asked).length < announced answers) := by
  induction left generalizing index held size w with
  | zero =>
    have later : index ≠ 0 := by omega
    rw [readLoop, run_pure, Prod.mk.injEq, Except.ok.injEq] at ran
    obtain ⟨rfl, rfl⟩ := ran
    obtain ⟨rfl, less⟩ := reading.unfinished later
    have all : held.take (announced answers) = held := List.take_of_length_le (by omega)
    rw [reading.asked, ← reading.holds, all]
    exact ⟨by omega, reading.inOrder, rfl, .inr ⟨rfl, less⟩⟩
  | succ left ih =>
    by_cases taken : ∃ chunk, (answers index).chunk? = some chunk ∧ InOrder index chunk
    · obtain ⟨chunk, got, inOrder⟩ := taken
      rw [reading.run_succ (by omega) got inOrder] at ran
      split at ran
      · next enough =>
        rw [Prod.mk.injEq, Except.ok.injEq] at ran
        obtain ⟨rfl, rfl⟩ := ran
        have read : ReadsInOrder answers (index + 1) := by
          intro seq before
          rcases Nat.lt_succ_iff_lt_or_eq.mp before with earlier | rfl
          · exact reading.inOrder seq earlier
          · exact ⟨chunk, got, inOrder⟩
        rw [World.heard_asked, reading.asked]
        exact ⟨by omega, read, rfl, .inl enough⟩
      · next less =>
        have rest := ih (reading.next got inOrder (by omega)) (by omega) (by omega) ran
        rwa [Nat.add_right_comm, Nat.add_assoc] at rest
    · exact absurd (congrArg Prod.fst ran) (reading.refuses (by omega) taken)

/-- A device that keeps to the order and carries too little uses up the sequence
numbers, and the loop returns what it holds. -/
theorem Reading.run_starved (reading : Reading answers index held size w)
    (few : index + left ≤ 0xffff) (read : ReadsInOrder answers (index + left))
    (less : (carried answers (index + left)).length < announced answers) :
    ((readLoop left index held size).run answers w).1 = .ok (carried answers (index + left)) := by
  induction left generalizing index held size w with
  | zero => rw [readLoop, run_pure, reading.holds, Nat.add_zero]
  | succ left ih =>
    obtain ⟨chunk, got, inOrder⟩ := read index (by omega)
    have before : (carried answers (index + 1)).length < announced answers :=
      Nat.lt_of_le_of_lt (length_carried_mono (by omega)) less
    have next : index + 1 + left = index + (left + 1) := by omega
    rw [reading.run_succ (by omega) got inOrder, if_neg (by omega)]
    rw [← next] at read less ⊢
    exact ih (reading.next got inOrder before) (by omega) read less

/-! ## What is accepted -/

theorem Reading.start : Reading answers 0 [] 0 (.start ()) where
  asked := rfl
  inOrder := fun seq before => absurd before (Nat.not_lt_zero seq)
  holds := rfl
  unfinished := fun later => absurd rfl later

theorem splitStatus_eq_ok {payload : Bytes} {status : ℕ} :
    splitStatus message = .ok (payload, status) ↔
      2 ≤ message.length ∧ payload = message.take (message.length - 2) ∧
        status = (message.getD (message.length - 2) 0).toNat * 256 +
          (message.getD (message.length - 1) 0).toNat := by
  rw [splitStatus]
  by_cases short : message.length < 2
  · rw [if_pos short]
    simp [show ¬ 2 ≤ message.length by omega]
  · rw [if_neg short, Except.ok.injEq, Prod.mk.injEq]
    exact ⟨fun h => ⟨by omega, h.1.symm, h.2.symm⟩, fun h => ⟨h.2.1.symm, h.2.2.symm⟩⟩

/-- The response is whole: the run has read chunks in order, and the payload and the two
status bytes are as long as the first chunk announced. -/
structure Whole (answers : ℕ → HidAnswer) (reads : ℕ) (payload : Bytes) : Prop where
  some : 0 < reads
  inOrder : ReadsInOrder answers reads
  length : payload.length + 2 = announced answers

/-- No truncated response is accepted from this device. -/
def Untruncated (answers : ℕ → HidAnswer) : Prop :=
  ∀ payload status, (readApdu.run answers (.start ())).1 = .ok (payload, status) →
    Whole answers (readApdu.run answers (.start ())).2.log.length payload

/-- The device sends a chunk in order under every sequence number, and all of them carry
a status word but less than the first one announced. -/
def Starved (answers : ℕ → HidAnswer) : Prop :=
  ReadsInOrder answers 0xffff ∧ 2 ≤ (carried answers 0xffff).length ∧
    (carried answers 0xffff).length < announced answers

/-- An accepted response is what the loop returned, without its status word. -/
theorem readApdu_run_ok {payload : Bytes} {status : ℕ}
    (ran : (readApdu.run answers (.start ())).1 = .ok (payload, status)) :
    ∃ message, splitStatus message = .ok (payload, status) ∧
      (readLoop 0xffff 0 [] 0).run answers (.start ()) =
        (.ok message, (readApdu.run answers (.start ())).2) := by
  rw [readApdu, run_bind] at ran ⊢
  rcases looped : (readLoop 0xffff 0 [] 0).run answers (.start ()) with ⟨e | message, w⟩
  · rw [looped] at ran
    cases ran
  · rw [looped] at ran
    exact ⟨message, ran, rfl⟩

/-- A starved run takes the little that was carried for the whole response. -/
theorem readApdu_of_starved (starved : Starved answers) :
    (readApdu.run answers (.start ())).1 = splitStatus (carried answers 0xffff) := by
  obtain ⟨read, -, less⟩ := starved
  have looped : ((readLoop 0xffff 0 [] 0).run answers (.start ())).1 =
      .ok (carried answers (0 + 0xffff)) := by
    apply Reading.start.run_starved (by omega)
    · rwa [Nat.zero_add]
    · rwa [Nat.zero_add]
  rw [Nat.zero_add] at looped
  rw [readApdu, run_bind_ofExcept_fst, looped]
  generalize carried answers 0xffff = message
  rfl

theorem not_untruncated_of_starved (starved : Starved answers) : ¬ Untruncated answers := by
  intro untruncated
  obtain ⟨-, long, less⟩ := id starved
  have ran := (readApdu_of_starved starved).trans (splitStatus_eq_ok.mpr ⟨long, rfl, rfl⟩)
  have whole := (untruncated _ _ ran).length
  rw [List.length_take] at whole
  omega

/-- `read_apdu` accepts no truncated response exactly from the devices that do not starve
it of data until the sequence numbers run out. -/
theorem readApdu_untruncated_iff (answers : ℕ → HidAnswer) :
    Untruncated answers ↔ ¬ Starved answers := by
  refine ⟨fun untruncated starved => not_untruncated_of_starved starved untruncated, ?_⟩
  intro fed payload status ran
  obtain ⟨message, split, looped⟩ := readApdu_run_ok ran
  obtain ⟨some, inOrder, held, stopped⟩ :=
    Reading.start.of_run_ok (Nat.le_refl _) (by omega) looped
  obtain ⟨long, rfl, -⟩ := splitStatus_eq_ok.mp split
  rw [Nat.zero_add] at stopped
  have enough : announced answers ≤
      (carried answers (readApdu.run answers (.start ())).2.asked).length := by
    rcases stopped with enough | ⟨all, less⟩
    · exact enough
    · rw [all] at inOrder less
      rw [held, all, List.length_take] at long
      exact absurd ⟨inOrder, by omega, less⟩ fed
  have length : message.length = announced answers := by
    rw [held, List.length_take]
    omega
  refine ⟨some, inOrder, ?_⟩
  rw [List.length_take]
  omega

end

/-! ## A device that keeps its data back -/

/-- The first chunk announces three bytes and carries two. No later chunk carries any. -/
def keepingBack (seq : ℕ) : HidAnswer :=
  .transferred (packetHeader seq ++ if seq = 0 then [0x00, 0x03, 0x90, 0x00] else [])

theorem keepingBack_inOrder (seq : ℕ) :
    ∃ chunk, (keepingBack seq).chunk? = some chunk ∧ InOrder seq chunk := by
  refine ⟨_, rfl, ?_⟩
  by_cases first : seq = 0
  · subst first
    decide
  · have whole : (packetHeader seq ++ []).take hidPacketSize = packetHeader seq := by
      rw [List.append_nil]
      rfl
    rw [if_neg first, whole]
    refine ⟨List.prefix_refl _, ?_⟩
    rw [chunkFront, if_neg first]
    exact Nat.le_refl 5

theorem carried_keepingBack (reads : ℕ) : carried keepingBack (reads + 1) = [0x90, 0x00] := by
  induction reads with
  | zero => rfl
  | succ reads ih =>
    rw [carried_succ, ih]
    rfl

theorem keepingBack_starved : Starved keepingBack := by
  refine ⟨fun seq _ => keepingBack_inOrder seq, ?_, ?_⟩
  · rw [carried_keepingBack 0xfffe]
    decide
  · rw [carried_keepingBack 0xfffe]
    decide

/-- After 65535 chunks the two bytes are taken for a response without payload, although
a byte is missing. -/
theorem readApdu_accepts_truncated :
    (readApdu.run keepingBack (.start ())).1 = .ok ([], 0x9000) ∧ announced keepingBack = 3 ∧
      ¬ Untruncated keepingBack := by
  refine ⟨?_, rfl, not_untruncated_of_starved keepingBack_starved⟩
  rw [readApdu_of_starved keepingBack_starved, carried_keepingBack 0xfffe]
  rfl

end Keychain.Rust.Ledger
