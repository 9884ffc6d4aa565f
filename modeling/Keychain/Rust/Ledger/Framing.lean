import Keychain.Lib.Pieces
import Keychain.Rust.Ledger.Dashboard

/-!
The Ledger APDU-over-HID transport of `ledger/dashboard.rs`: `write_apdu` and
`read_apdu`, as conversations with an opened HID device.

A message travels behind its own length, cut into pieces of 59 bytes, each in a packet
of 64 with its sequence number. `hidPackets` lists these packets. The writer sends
exactly them (`writeApdu_sends`), the reader puts them together again
(`readApdu_of_hidPackets`), and the two know nothing of one another.
-/

namespace Keychain.Rust.Ledger

open Prog

/-! ## The transport -/

def apduTag : UInt8 := 0x05

def hidPacketSize : ℕ := 64

inductive HidCall where
  | write (packet : Bytes)
  /-- `read_timeout` into a buffer of one packet -/
  | read
  deriving DecidableEq

/-- What a call into `hidapi` returns: an error, or the bytes that were transferred.
A read that times out transfers none. -/
inductive HidAnswer where
  | failed
  | transferred (data : Bytes)
  deriving DecidableEq

/-- A conversation with an opened device. -/
abbrev HidProg := Prog HidCall HidAnswer Unit SignerError

def hidWriteFailed : SignerError := .notAvailable
  "writing to the Ledger failed. Either it was disconnected, or another application is holding the device."

def hidReadFailed : SignerError := .notAvailable
  "reading from the Ledger failed. Either it was disconnected, or another application is holding the device."

/-- The two bytes of a `u16`, high byte first. -/
def bigEndian (n : ℕ) : Bytes := [UInt8.ofNat (n / 256), UInt8.ofNat (n % 256)]

def packetHeader (seq : ℕ) : Bytes := [0x01, 0x01, apduTag] ++ bigEndian seq

/-- The packet with this sequence number, and the number of APDU bytes in it. -/
def nextPacket (apdu : Bytes) (seq offset : ℕ) : Bytes × ℕ :=
  let front := packetHeader seq ++ if seq = 0 then bigEndian apdu.length else []
  let n := min (hidPacketSize - front.length) (apdu.length - offset)
  (front ++ (apdu.drop offset).take n ++ List.replicate (hidPacketSize - (front.length + n)) 0, n)

/-- The loop of `write_apdu`. The first argument counts down to the sequence number
`0xffff`, which is never sent. -/
def writeLoop (apdu : Bytes) : ℕ → ℕ → ℕ → HidProg Unit
  | 0, _, _ => fail (.other "APDU too large")
  | left + 1, seq, offset =>
    if seq = 0 ∨ offset < apdu.length then do
      let (packet, n) := nextPacket apdu seq offset
      match ← ask (.write packet) with
      | .failed => fail hidWriteFailed
      | .transferred _ => writeLoop apdu left (seq + 1) (offset + n)
    else
      pure ()

/-- `CLA INS P1 P2 Lc`, then the data. -/
def apduBytes (cla ins p1 p2 : UInt8) (data : Bytes) : Bytes :=
  [cla, ins, p1, p2, UInt8.ofNat data.length] ++ data

def writeApdu (cla ins p1 p2 : UInt8) (data : Bytes) : HidProg Unit :=
  writeLoop (apduBytes cla ins p1 p2 data) 0xffff 0 0

/-- The first chunk carries the size of the message before its bytes. -/
def readFirst : Bytes → Except SignerError (Bytes × ℕ)
  | sizeHigh :: sizeLow :: payload => .ok (payload, sizeHigh.toNat * 256 + sizeLow.toNat)
  | _ => .error (.other "short Ledger HID chunk")

/-- The part of the message in the chunk that was read, and the announced size of the
message, which the first chunk changes. -/
def readChunk (index messageSize : ℕ) : Bytes → Except SignerError (Bytes × ℕ)
  | [] => .error (.notAvailable "Ledger HID read timed out")
  | channelHigh :: channelLow :: tag :: seqHigh :: seqLow :: payload =>
    if channelHigh ≠ 0x01 ∨ channelLow ≠ 0x01 ∨ tag ≠ apduTag then
      .error (.other "unexpected Ledger HID chunk")
    else if seqHigh.toNat * 256 + seqLow.toNat ≠ index then
      .error (.other "out-of-order Ledger HID chunk")
    else if index = 0 then
      readFirst payload
    else
      .ok (payload, messageSize)
  | _ => .error (.other "unexpected Ledger HID chunk")

/-- The loop of `read_apdu`, with the chunks it may still read. -/
def readLoop : ℕ → ℕ → Bytes → ℕ → HidProg Bytes
  | 0, _, message, _ => pure message
  | left + 1, index, message, messageSize => do
    match ← ask .read with
    | .failed => fail hidReadFailed
    | .transferred data =>
      let (payload, messageSize) ← ofExcept (readChunk index messageSize (data.take hidPacketSize))
      let message := message ++ payload
      if messageSize ≤ message.length then pure (message.take messageSize)
      else readLoop left (index + 1) message messageSize

/-- The status word at the end of a message, and what stands before it. -/
def splitStatus (message : Bytes) : Except SignerError (Bytes × ℕ) :=
  if message.length < 2 then
    .error (.other "no APDU status word")
  else
    .ok (message.take (message.length - 2),
      (message.getD (message.length - 2) 0).toNat * 256 +
        (message.getD (message.length - 1) 0).toNat)

def readApdu : HidProg (Bytes × ℕ) := do
  let message ← readLoop 0xffff 0 [] 0
  ofExcept (splitStatus message)

/-- What an exchange with this device amounts to for the dashboard: how the writing ends
and, by what the device then answers, the reading. -/
def Apdu.overHid (cla ins p1 p2 : UInt8) (data : Bytes) (accepts delivers : ℕ → HidAnswer) :
    Apdu where
  write := ((writeApdu cla ins p1 p2 data).run accepts (.start ())).1
  read := (readApdu.run delivers (.start ())).1

/-! ## The documented packets -/

/-- What one packet has room for behind its header. -/
def hidPayloadSize : ℕ := 59

/-- `[channel] [tag] [seq] [payload]`, filled up with zeros. -/
def hidPacket (seq : ℕ) (payload : Bytes) : Bytes :=
  packetHeader seq ++ payload ++ List.replicate (hidPayloadSize - payload.length) 0

/-- The message behind its length. -/
def hidStream (message : Bytes) : Bytes := bigEndian message.length ++ message

/-- The packets a message travels in, with the sequence numbers 0, 1, 2, … -/
def hidPackets (message : Bytes) : List Bytes :=
  (List.range (pieceCount hidPayloadSize (message.length + 2))).map fun seq =>
    hidPacket seq (piece hidPayloadSize (hidStream message) seq)

section

variable {message : Bytes} {seq : ℕ}

@[simp] theorem length_bigEndian {n : ℕ} : (bigEndian n).length = 2 := rfl

@[simp] theorem length_packetHeader : (packetHeader seq).length = 5 := rfl

theorem length_hidStream : (hidStream message).length = message.length + 2 := by
  rw [hidStream, List.length_append, length_bigEndian, Nat.add_comm]

theorem length_hidPackets :
    (hidPackets message).length = pieceCount hidPayloadSize (message.length + 2) := by
  rw [hidPackets, List.length_map, List.length_range]

theorem getElem?_hidPackets {packet : Bytes} :
    (hidPackets message)[seq]? = some packet ↔
      hidPayloadSize * seq < message.length + 2 ∧
        packet = hidPacket seq (piece hidPayloadSize (hidStream message) seq) := by
  rw [hidPackets, List.getElem?_map, Option.map_eq_some_iff]
  constructor
  · intro given
    obtain ⟨i, found, rfl⟩ := given
    obtain ⟨inside, numbered⟩ := List.getElem?_eq_some_iff.mp found
    rw [List.getElem_range] at numbered
    subst numbered
    rw [List.length_range] at inside
    exact ⟨(lt_pieceCount_iff (by decide)).mp inside, rfl⟩
  · intro given
    obtain ⟨inside, rfl⟩ := given
    exact ⟨seq, List.getElem?_range ((lt_pieceCount_iff (by decide)).mpr inside), rfl⟩

/-- Every packet has 64 bytes. -/
theorem length_of_mem_hidPackets {packet : Bytes} (member : packet ∈ hidPackets message) :
    packet.length = hidPacketSize := by
  obtain ⟨seq, found⟩ := List.mem_iff_getElem?.mp member
  obtain ⟨-, rfl⟩ := getElem?_hidPackets.mp found
  have bounded : (piece hidPayloadSize (hidStream message) seq).length ≤ hidPayloadSize := by
    rw [length_piece]
    omega
  have sum : 5 + hidPayloadSize = hidPacketSize := rfl
  simp only [hidPacket, List.length_append, length_packetHeader, List.length_replicate]
  omega

end

/-! ## Writing -/

section

variable {apdu : Bytes}

/-- The bytes sent before the packet `seq`, which the length at the front leaves less
room for. -/
def offsetAt (apdu : Bytes) (seq : ℕ) : ℕ := min apdu.length (hidPayloadSize * seq - 2)

theorem take_min_length {n : ℕ} {bytes : Bytes} :
    bytes.take (min n bytes.length) = bytes.take n := by
  rw [List.take_eq_take_iff]
  omega

theorem piece_hidStream_zero :
    piece hidPayloadSize (hidStream apdu) 0 = bigEndian apdu.length ++ apdu.take 57 := rfl

theorem piece_hidStream_succ {seq : ℕ} :
    piece hidPayloadSize (hidStream apdu) (seq + 1) =
      (apdu.drop (hidPayloadSize * (seq + 1) - 2)).take hidPayloadSize := by
  have behind : hidPayloadSize * (seq + 1) = (hidPayloadSize * (seq + 1) - 2) + 2 := by
    simp only [hidPayloadSize]
    omega
  have dropped : (hidStream apdu).drop (hidPayloadSize * (seq + 1)) =
      apdu.drop (hidPayloadSize * (seq + 1) - 2) := by
    conv_lhs => rw [behind]
    rfl
  rw [piece, dropped]

/-- The writer fills in the documented packet. -/
theorem nextPacket_eq {seq : ℕ} (started : hidPayloadSize * seq < apdu.length + 2) :
    nextPacket apdu seq (offsetAt apdu seq) =
      (hidPacket seq (piece hidPayloadSize (hidStream apdu) seq),
        offsetAt apdu (seq + 1) - offsetAt apdu seq) := by
  cases seq with
  | zero =>
    have offset : offsetAt apdu 0 = 0 := by simp [offsetAt]
    have next : offsetAt apdu 1 = min 57 apdu.length := by
      simp only [offsetAt, hidPayloadSize]
      omega
    have front : (packetHeader 0 ++ bigEndian apdu.length).length = 7 := rfl
    have zeros : 64 - (7 + min 57 apdu.length) = 59 - (2 + min 57 apdu.length) := by omega
    rw [offset, next, nextPacket, hidPacket, piece_hidStream_zero]
    simp only [if_true, front, hidPacketSize, hidPayloadSize, Nat.sub_zero, Nat.reduceSub,
      List.drop_zero, take_min_length, List.length_append, length_bigEndian, List.length_take,
      zeros, List.append_assoc]
  | succ seq =>
    have offset : offsetAt apdu (seq + 1) = hidPayloadSize * (seq + 1) - 2 := by
      rw [offsetAt]
      omega
    have next : offsetAt apdu (seq + 1 + 1) - offsetAt apdu (seq + 1) =
        min hidPayloadSize (apdu.length - (hidPayloadSize * (seq + 1) - 2)) := by
      simp only [offsetAt, hidPayloadSize] at offset started ⊢
      omega
    have whole : (apdu.drop (hidPayloadSize * (seq + 1) - 2)).take
        (min hidPayloadSize (apdu.length - (hidPayloadSize * (seq + 1) - 2))) =
          (apdu.drop (hidPayloadSize * (seq + 1) - 2)).take hidPayloadSize := by
      rw [← List.length_drop]
      exact take_min_length
    have room : hidPacketSize - (packetHeader (seq + 1)).length = hidPayloadSize := rfl
    rw [next, nextPacket, hidPacket, piece_hidStream_succ, offset]
    simp only [Nat.succ_ne_zero, if_false, List.append_nil, room, whole, ← Nat.sub_sub,
      List.length_take, List.length_drop]

/-- From the packet `seq` on, the loop sends the packets that are left, or stops at one
that the device does not take. -/
theorem writeLoop_sends {left seq : ℕ} {answers : ℕ → HidAnswer}
    {w : World HidCall HidAnswer Unit} (reached : seq ≤ (hidPackets apdu).length)
    (few : (hidPackets apdu).length < left + seq) :
    let sent := (writeLoop apdu left seq (offsetAt apdu seq)).run answers w
    let documented := w.log.map Prod.fst ++ ((hidPackets apdu).drop seq).map .write
    sent.1 = .ok () ∧ sent.2.log.map Prod.fst = documented ∨
      (∃ i, answers i = .failed) ∧ sent.2.log.map Prod.fst <+: documented := by
  induction left generalizing seq w with
  | zero => omega
  | succ left ih =>
    unfold writeLoop
    by_cases started : hidPayloadSize * seq < apdu.length + 2
    · have pending : seq = 0 ∨ offsetAt apdu seq < apdu.length := by
        simp only [offsetAt, hidPayloadSize] at started ⊢
        omega
      have moved : offsetAt apdu seq + (offsetAt apdu (seq + 1) - offsetAt apdu seq) =
          offsetAt apdu (seq + 1) := by
        simp only [offsetAt, hidPayloadSize]
        omega
      have packet := getElem?_hidPackets.mpr ⟨started, rfl⟩
      obtain ⟨inside, numbered⟩ := List.getElem?_eq_some_iff.mp packet
      rw [if_pos pending, nextPacket_eq started, List.drop_eq_getElem_cons inside, numbered]
      simp only [run_bind, run_ask, List.map_cons, List.append_cons _ _ (List.map _ _)]
      cases answered : answers w.asked with
      | failed =>
        refine .inr ⟨⟨_, answered⟩, ?_⟩
        simp
      | transferred data =>
        simp only [moved]
        have rest := @ih (seq + 1)
          (w.heard (.write (hidPacket seq (piece hidPayloadSize (hidStream apdu) seq)))
            (.transferred data)) inside (by omega)
        simpa using rest
    · have done : ¬ (seq = 0 ∨ offsetAt apdu seq < apdu.length) := by
        simp only [offsetAt, hidPayloadSize] at started ⊢
        omega
      have last : (hidPackets apdu).length ≤ seq := by
        rw [length_hidPackets]
        by_contra more
        exact started ((lt_pieceCount_iff (by decide)).mp (by omega))
      rw [if_neg done]
      left
      simp [List.drop_of_length_le last]

end

theorem length_apduBytes {cla ins p1 p2 : UInt8} {data : Bytes} :
    (apduBytes cla ins p1 p2 data).length = data.length + 5 := by
  simp [apduBytes]

/-- `write_apdu` sends the documented packets and returns, or stops at one that the
device does not take. -/
theorem writeApdu_sends {cla ins p1 p2 : UInt8} {data : Bytes} (short : data.length ≤ 255)
    {answers : ℕ → HidAnswer} :
    let sent := (writeApdu cla ins p1 p2 data).run answers (.start ())
    let documented := (hidPackets (apduBytes cla ins p1 p2 data)).map HidCall.write
    sent.1 = .ok () ∧ sent.2.log.map Prod.fst = documented ∨
      (∃ i, answers i = .failed) ∧ sent.2.log.map Prod.fst <+: documented := by
  have few : (hidPackets (apduBytes cla ins p1 p2 data)).length < 0xffff + 0 := by
    rw [length_hidPackets, length_apduBytes, pieceCount, hidPayloadSize]
    omega
  have start : offsetAt (apduBytes cla ins p1 p2 data) 0 = 0 := by simp [offsetAt]
  have sends := @writeLoop_sends _ _ _ answers (.start ()) (Nat.zero_le _) few
  rw [start] at sends
  simpa [writeApdu] using sends

/-- To a device that takes every packet the whole APDU is sent. -/
theorem writeApdu_sends_all {cla ins p1 p2 : UInt8} {data : Bytes} (short : data.length ≤ 255)
    {answers : ℕ → HidAnswer} (accepted : ∀ i, answers i ≠ .failed) :
    ((writeApdu cla ins p1 p2 data).run answers (.start ())).1 = .ok () ∧
      ((writeApdu cla ins p1 p2 data).run answers (.start ())).2.log.map Prod.fst =
        (hidPackets (apduBytes cla ins p1 p2 data)).map .write := by
  rcases writeApdu_sends short with all | ⟨⟨i, failed⟩, -⟩
  · exact all
  · exact absurd failed (accepted i)

/-! ## Reading -/

section

variable {message : Bytes} {answers : ℕ → HidAnswer} {w : World HidCall HidAnswer Unit}

theorem bigEndian_toNat {n : ℕ} (small : n < 65536) :
    (UInt8.ofNat (n / 256)).toNat * 256 + (UInt8.ofNat (n % 256)).toNat = n := by
  have high : (UInt8.ofNat (n / 256)).toNat = n / 256 := by
    rw [UInt8.toNat_ofNat', Nat.mod_eq_of_lt (by omega)]
  have low : (UInt8.ofNat (n % 256)).toNat = n % 256 := by
    rw [UInt8.toNat_ofNat', Nat.mod_eq_of_lt (by omega)]
  rw [high, low]
  omega

/-- What the packets carry one after the other: the message behind its length, and
zeros. -/
def paddedStream (message : Bytes) : Bytes :=
  hidStream message ++ List.replicate hidPayloadSize 0

/-- A packet carries a full piece of the padded stream. -/
theorem hidPacket_eq {seq : ℕ} (started : hidPayloadSize * seq < message.length + 2) :
    hidPacket seq (piece hidPayloadSize (hidStream message) seq) =
      packetHeader seq ++ piece hidPayloadSize (paddedStream message) seq := by
  have inside : hidPayloadSize * seq ≤ (hidStream message).length := by
    rw [length_hidStream]
    omega
  rw [hidPacket, paddedStream, piece_append inside, List.take_replicate, List.append_assoc]
  congr 3
  omega

theorem length_piece_paddedStream {seq : ℕ} (started : hidPayloadSize * seq < message.length + 2) :
    (piece hidPayloadSize (paddedStream message) seq).length = hidPayloadSize := by
  rw [length_piece, paddedStream, List.length_append, length_hidStream, List.length_replicate]
  omega

/-- A packet with the expected number is taken; the first one announces the size. -/
theorem readChunk_packetHeader {seq messageSize : ℕ} {payload : Bytes} (small : seq < 65536) :
    readChunk seq messageSize (packetHeader seq ++ payload) =
      if seq = 0 then readFirst payload else .ok (payload, messageSize) := by
  have listed : packetHeader seq ++ payload = 0x01 :: 0x01 :: apduTag ::
      UInt8.ofNat (seq / 256) :: UInt8.ofNat (seq % 256) :: payload := rfl
  have number := bigEndian_toNat small
  rw [listed, readChunk, if_neg (by decide), if_neg (not_not.mpr number)]

/-- Reading a packet yields its piece; the first one yields the size of the message
too. -/
theorem readChunk_hidPacket {seq messageSize : ℕ}
    (started : hidPayloadSize * seq < message.length + 2) (small : message.length < 65536) :
    ∃ payload size, readChunk seq messageSize
        ((packetHeader seq ++ piece hidPayloadSize (paddedStream message) seq).take hidPacketSize) =
          .ok (payload, size) ∧
      size = (if seq = 0 then message.length else messageSize) ∧
      piece hidPayloadSize (paddedStream message) seq =
        (if seq = 0 then bigEndian message.length else []) ++ payload := by
  have width : (packetHeader seq ++ piece hidPayloadSize (paddedStream message) seq).length =
      hidPacketSize := by
    rw [List.length_append, length_packetHeader, length_piece_paddedStream started]
    rfl
  have numbered : seq < 65536 := by
    simp only [hidPayloadSize] at started
    omega
  rw [List.take_of_length_le (Nat.le_of_eq width), readChunk_packetHeader numbered]
  by_cases first : seq = 0
  · subst first
    have size := bigEndian_toNat small
    have listed : piece hidPayloadSize (paddedStream message) 0 = bigEndian message.length ++
        (message ++ List.replicate hidPayloadSize 0).take 57 := rfl
    refine ⟨_, message.length, ?_, rfl, listed⟩
    have read : readFirst (piece hidPayloadSize (paddedStream message) 0) =
        .ok ((message ++ List.replicate hidPayloadSize 0).take 57, _) := rfl
    rw [if_pos rfl, read, size]
  · exact ⟨_, messageSize, by rw [if_neg first], by rw [if_neg first], by rw [if_neg first]; rfl⟩

/-- Enough of the padded stream contains the message. -/
theorem take_of_stream {held : Bytes} {n : ℕ}
    (grown : bigEndian message.length ++ held = (paddedStream message).take n)
    (within : message.length + 2 ≤ n) : held.take message.length = message := by
  have front : (bigEndian message.length).take (message.length + 2) =
      bigEndian message.length := by
    apply List.take_of_length_le
    rw [length_bigEndian]
    omega
  have stream : bigEndian message.length ++ held.take message.length =
      bigEndian message.length ++ message := by
    calc bigEndian message.length ++ held.take message.length
        = (bigEndian message.length ++ held).take (message.length + 2) := by
          rw [List.take_append, length_bigEndian, front, Nat.add_sub_cancel]
      _ = (paddedStream message).take (hidStream message).length := by
          rw [grown, List.take_take, Nat.min_eq_left within, length_hidStream]
      _ = bigEndian message.length ++ message := by
          rw [paddedStream, List.take_left]
          rfl
  exact List.append_cancel_left stream

/-- The loop holds the pieces before `index`, behind the length of the message, and
goes on to the whole message. -/
theorem readLoop_of_hidPackets {left index : ℕ} {held : Bytes} {messageSize : ℕ}
    (small : message.length < 65536)
    (delivered : ∀ i packet, (hidPackets message)[index + i]? = some packet →
      answers (w.asked + i) = .transferred packet)
    (started : hidPayloadSize * index < message.length + 2)
    (few : (hidPackets message).length ≤ left + index)
    (holds : index = 0 ∧ held = [] ∨ index ≠ 0 ∧ messageSize = message.length ∧
      bigEndian message.length ++ held = (paddedStream message).take (hidPayloadSize * index)) :
    ((readLoop left index held messageSize).run answers w).1 = .ok message := by
  have packet := getElem?_hidPackets.mpr ⟨started, rfl⟩
  induction left generalizing index held messageSize w with
  | zero =>
    obtain ⟨inside, -⟩ := List.getElem?_eq_some_iff.mp packet
    omega
  | succ left ih =>
    have answered : answers w.asked = _ := delivered 0 _ packet
    obtain ⟨payload, size, read, announced, carried⟩ :=
      @readChunk_hidPacket _ _ messageSize started small
    have whole : size = message.length := by
      rcases holds with ⟨first, -⟩ | ⟨later, same, -⟩
      · rw [announced, if_pos first]
      · rw [announced, if_neg later, same]
    have grown : bigEndian message.length ++ (held ++ payload) =
        (paddedStream message).take (hidPayloadSize * (index + 1)) := by
      rw [take_succ_eq_append_piece, carried]
      rcases holds with ⟨rfl, rfl⟩ | ⟨later, -, before⟩
      · simp
      · rw [if_neg later, List.nil_append, ← before, List.append_assoc]
    have length : (held ++ payload).length + 2 = hidPayloadSize * (index + 1) := by
      have counted := congrArg List.length grown
      simp only [paddedStream, List.length_append, length_bigEndian, List.length_take,
        length_hidStream, List.length_replicate, hidPayloadSize] at counted started ⊢
      omega
    unfold readLoop
    simp only [run_bind, run_ask, answered, hidPacket_eq started, run_ofExcept, read, whole]
    split
    · next complete =>
      have within : message.length + 2 ≤ hidPayloadSize * (index + 1) := by omega
      rw [take_of_stream grown within]
      rfl
    · next unfinished =>
      have more : hidPayloadSize * (index + 1) < message.length + 2 := by omega
      refine ih ?_ more (by omega) (.inr ⟨Nat.succ_ne_zero index, rfl, grown⟩)
        (getElem?_hidPackets.mpr ⟨more, rfl⟩)
      intro i packet' found
      have next := delivered (i + 1) packet' (by rw [← found]; congr 1; omega)
      rw [← next, World.heard_asked]
      congr 1
      omega

/-- `read_apdu` puts the packets of a message together and splits off its status. -/
theorem readApdu_of_hidPackets (long : 2 ≤ message.length) (small : message.length < 65536)
    (delivered : ∀ i packet, (hidPackets message)[i]? = some packet →
      answers i = .transferred packet) :
    (readApdu.run answers (.start ())).1 =
      .ok (message.take (message.length - 2),
        (message.getD (message.length - 2) 0).toNat * 256 +
          (message.getD (message.length - 1) 0).toNat) := by
  have few : (hidPackets message).length ≤ 0xffff + 0 := by
    rw [length_hidPackets, pieceCount, hidPayloadSize]
    omega
  have read : ((readLoop 0xffff 0 [] 0).run answers (.start ())).1 = .ok message := by
    apply readLoop_of_hidPackets small _ (by omega) few (.inl ⟨rfl, rfl⟩)
    intro i packet found
    rw [World.start_asked, Nat.zero_add]
    rw [Nat.zero_add] at found
    exact delivered i packet found
  rw [readApdu, run_bind_ofExcept_fst, read]
  change splitStatus message = _
  rw [splitStatus, if_neg (by omega)]

/-- Splitting off the status loses nothing. -/
theorem append_status (long : 2 ≤ message.length) :
    message.take (message.length - 2) ++
      [message.getD (message.length - 2) 0, message.getD (message.length - 1) 0] = message := by
  have before : message.length - 2 < message.length := by omega
  have last : message.length - 1 < message.length := by omega
  have follows : message.length - 2 + 1 = message.length - 1 := by omega
  have ends : message.length - 1 + 1 = message.length := by omega
  have tail : message.drop (message.length - 2) =
      [message.getD (message.length - 2) 0, message.getD (message.length - 1) 0] := by
    rw [List.drop_eq_getElem_cons before, follows, List.drop_eq_getElem_cons last, ends,
      List.drop_length, ← List.getElem_eq_getD 0, ← List.getElem_eq_getD 0]
  rw [← tail, List.take_append_drop]

/-- Two bytes are the big-endian form of the number they make up. -/
theorem bigEndian_of_toNat {high low : UInt8} :
    bigEndian (high.toNat * 256 + low.toNat) = [high, low] := by
  have bounded := low.toNat_lt
  have quotient : (high.toNat * 256 + low.toNat) / 256 = high.toNat := by omega
  have remainder : (high.toNat * 256 + low.toNat) % 256 = low.toNat := by omega
  rw [bigEndian, quotient, remainder, UInt8.ofNat_toNat, UInt8.ofNat_toNat]

end

/-! ## Both directions -/

/-- What the dashboard sees of a device that takes the packets of a request and answers with
those of a message. -/
theorem Apdu.overHid_eq (cla ins p1 p2 : UInt8) {data message : Bytes}
    {accepts delivers : ℕ → HidAnswer} (short : data.length ≤ 255) (long : 2 ≤ message.length)
    (small : message.length < 65536) (accepted : ∀ i, accepts i ≠ .failed)
    (delivered : ∀ i packet, (hidPackets message)[i]? = some packet →
      delivers i = .transferred packet) :
    Apdu.overHid cla ins p1 p2 data accepts delivers =
      ⟨.ok (), .ok (message.take (message.length - 2),
        (message.getD (message.length - 2) 0).toNat * 256 +
          (message.getD (message.length - 1) 0).toNat)⟩ := by
  rw [Apdu.overHid, (writeApdu_sends_all short accepted).1,
    readApdu_of_hidPackets long small delivered]

/-- The writer sends the documented packets, one after the other until the device fails,
the reader reads any message framed that way, and so it reads back the APDU that was
written. -/
theorem hid_framing_round_trip :
    (∀ (cla ins p1 p2 : UInt8) (data : Bytes) (accepts : ℕ → HidAnswer), data.length ≤ 255 →
      let sent := (writeApdu cla ins p1 p2 data).run accepts (.start ())
      let documented := hidPackets (apduBytes cla ins p1 p2 data)
      (∀ packet ∈ documented, packet.length = hidPacketSize) ∧
        sent.2.log.map Prod.fst <+: documented.map .write ∧
        ((∀ i, accepts i ≠ .failed) →
          sent.1 = .ok () ∧ sent.2.log.map Prod.fst = documented.map .write)) ∧
    (∀ (message : Bytes) (delivers : ℕ → HidAnswer), 2 ≤ message.length →
      message.length ≤ 65535 →
      (∀ i packet, (hidPackets message)[i]? = some packet → delivers i = .transferred packet) →
      (readApdu.run delivers (.start ())).1 =
        .ok (message.take (message.length - 2),
          (message.getD (message.length - 2) 0).toNat * 256 +
            (message.getD (message.length - 1) 0).toNat)) ∧
    (∀ (cla ins p1 p2 : UInt8) (data : Bytes) (accepts delivers : ℕ → HidAnswer),
      data.length ≤ 255 → (∀ i, accepts i ≠ .failed) →
      let sent := (writeApdu cla ins p1 p2 data).run accepts (.start ())
      (∀ i packet, (sent.2.log.map Prod.fst)[i]? = some (.write packet) →
        delivers i = .transferred packet) →
      ∃ body status, (readApdu.run delivers (.start ())).1 = .ok (body, status) ∧
        body ++ bigEndian status = apduBytes cla ins p1 p2 data) := by
  refine ⟨?_, ?_, ?_⟩
  · intro cla ins p1 p2 data accepts short sent documented
    refine ⟨fun packet member => length_of_mem_hidPackets member, ?_,
      fun accepted => writeApdu_sends_all short accepted⟩
    rcases writeApdu_sends short with ⟨-, all⟩ | ⟨-, some⟩
    · exact all ▸ List.prefix_refl _
    · exact some
  · intro message delivers long small delivered
    exact readApdu_of_hidPackets long (by omega) delivered
  · intro cla ins p1 p2 data accepts delivers short accepted sent delivered
    have total : (apduBytes cla ins p1 p2 data).length = data.length + 5 := length_apduBytes
    have given : ∀ i packet, (hidPackets (apduBytes cla ins p1 p2 data))[i]? = some packet →
        delivers i = .transferred packet := by
      intro i packet found
      apply delivered i packet
      rw [(writeApdu_sends_all short accepted).2, List.getElem?_map, found, Option.map_some]
    have echoed := Apdu.overHid_eq cla ins p1 p2 short (by omega) (by omega) accepted given
    refine ⟨_, _, congrArg Apdu.read echoed, ?_⟩
    rw [bigEndian_of_toNat]
    exact append_status (by omega)

/-- An APDU of two packets, to a device that echoes it. -/
theorem hid_framing_round_trip_two_packets :
    let apdu := apduBytes 0xe0 0xd8 0 0 (List.replicate 60 0x61)
    let takes : ℕ → HidAnswer := fun _ => .transferred []
    let echoes : ℕ → HidAnswer := fun i => .transferred ((hidPackets apdu).getD i [])
    let sent := (writeApdu 0xe0 0xd8 0 0 (List.replicate 60 0x61)).run takes (.start ())
    (hidPackets apdu).length = 2 ∧ sent.1 = .ok () ∧
      sent.2.log.map Prod.fst = (hidPackets apdu).map .write ∧
      (readApdu.run echoes (.start ())).1 = .ok (apdu.take 63, 0x6161) ∧
      ∃ body status, (readApdu.run echoes (.start ())).1 = .ok (body, status) ∧
        body ++ bigEndian status = apdu := by
  intro apdu takes echoes sent
  have echoed : ∀ i packet, (hidPackets apdu)[i]? = some packet →
      echoes i = .transferred packet := by
    intro i packet found
    simp only [echoes, List.getD_eq_getElem?_getD, found, Option.getD_some]
  have accepted : ∀ i, takes i ≠ .failed := fun i failed => HidAnswer.noConfusion failed
  have written := (hid_framing_round_trip.1 0xe0 0xd8 0 0 (List.replicate 60 0x61) takes
    (by decide)).2.2 accepted
  have halves : (apdu.take (apdu.length - 2), (apdu.getD (apdu.length - 2) 0).toNat * 256 +
      (apdu.getD (apdu.length - 1) 0).toNat) = (apdu.take 63, 0x6161) := by decide +kernel
  refine ⟨by decide, written.1, written.2,
    halves ▸ hid_framing_round_trip.2.1 apdu echoes (by decide) (by decide) echoed,
    hid_framing_round_trip.2.2 0xe0 0xd8 0 0 _ takes echoes (by decide) accepted ?_⟩
  intro i packet found
  rw [written.2, List.getElem?_map, Option.map_eq_some_iff] at found
  obtain ⟨packet', found, same⟩ := found
  exact HidCall.write.inj same ▸ echoed i packet' found

end Keychain.Rust.Ledger
