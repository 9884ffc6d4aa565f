import Keychain.Lib.Mirror

/-!
Getting a signed transaction on chain through a caller who broadcasts, whichever shape
the signer has.

`handOver` is the machine behind the entry point of every language: a signer that
broadcasts is asked to, any other signs, and what it signed is handed to the caller's
sender. `Promise` is what its callers rely on, over the calls of a run; `handOver_promise`
says that it holds in every run. An entry point is connected to the machine by `Refines`.
-/

namespace Keychain.Handover

open Prog

/-- How a signer is used. -/
inductive Route where
  | broadcast
  | sign
  | modify
  deriving DecidableEq

/-- What the entry point asks of the world. -/
inductive Call (Enc : Type) where
  /-- has the caller given up? -/
  | look
  | signer (route : Route)
  | send (encoded : Enc)
  deriving DecidableEq

/-- What a signer leaves to be broadcast. -/
structure Signing (ε Enc Sig : Type) where
  encoded : Enc
  complete : Bool
  /-- The fee payer's signature when its slot is filled, or what reading the slot raises. -/
  first : Except ε (Option Sig)

/-- The world at one moment, whatever is asked of it. -/
structure Answer (ε Enc Sig : Type) where
  gaveUp : Option ε
  /-- `none` is a missing signature. -/
  broadcast : Except ε (Option Sig)
  /-- `none` is a result that is missing. -/
  signing : Route → Except ε (Option (Signing ε Enc Sig))
  /-- `none` is a sender that returns nothing. -/
  sent : Except ε (Option Sig)

inductive Failure (ε Sig : Type) where
  /-- what the signer, the caller or the language raised -/
  | own (error : ε)
  | refused
  | unconfigured
  | unconfirmed (first : Sig) (cause : ε)

/-- What tells the entry points apart. -/
structure Port (ε : Type) where
  /-- The caller can give up. -/
  looks : Bool
  /-- The failures of a sender that are caught. -/
  catches : ε → Bool

section

variable {ε Enc Sig : Type}

/-- A conversation with the world. -/
abbrev Talk (ε Enc Sig T : Type) := Prog (Call Enc) (Answer ε Enc Sig) Unit (Failure ε Sig) T

def look (port : Port ε) : Talk ε Enc Sig Unit :=
  if port.looks then do
    match (← ask .look).gaveUp with
    | some reason => fail (.own reason)
    | none => pure ()
  else
    pure ()

/-- The provider's broadcast, which the signature of the provider identifies. -/
def broadcast : Talk ε Enc Sig Sig := do
  match (← ask (.signer .broadcast)).broadcast with
  | .error error => fail (.own error)
  | .ok none => fail .refused
  | .ok (some signature) => pure signature

/-- Hand over what was signed. -/
def send (port : Port ε) (encoded : Enc) (first : Sig) : Talk ε Enc Sig Sig := do
  match (← ask (.send encoded)).sent with
  | .ok signature => pure (signature.getD first)
  | .error cause =>
    if port.catches cause then fail (.unconfirmed first cause) else fail (.own cause)

/-- What the signer left is sent when it is complete and can be identified. -/
def sendSigned (port : Port ε) (signing : Signing ε Enc Sig) : Talk ε Enc Sig Sig :=
  if signing.complete then
    match signing.first with
    | .error error => fail (.own error)
    | .ok none => fail .refused
    | .ok (some first) => do
      look port
      send port signing.encoded first
  else
    fail .refused

/-- Sign first, then hand over. -/
def signThenSend (port : Port ε) (route : Route) : Talk ε Enc Sig Sig := do
  match (← ask (.signer route)).signing route with
  | .error error => fail (.own error)
  | .ok none => fail .refused
  | .ok (some signing) => sendSigned port signing

/-- The entry point, for a signer used through a route and a caller with a sender or without. -/
def handOver (port : Port ε) (route : Option Route) (hasSender : Bool) : Talk ε Enc Sig Sig := do
  look port
  match route with
  | some .broadcast => broadcast
  | none => fail .refused
  | some route =>
    if hasSender then signThenSend port route else fail .unconfigured

/-- A caller who cannot give up is not looked at. -/
theorem look_quiet {port : Port ε} (quiet : port.looks = false) :
    (look port : Talk ε Enc Sig Unit) = pure () := by
  unfold look
  rw [quiet]
  rfl

theorem handOver_quiet {port : Port ε} {route : Option Route} {hasSender : Bool}
    (quiet : port.looks = false) :
    (handOver port route hasSender : Talk ε Enc Sig Sig) =
      match route with
      | some .broadcast => broadcast
      | none => fail .refused
      | some route => if hasSender then signThenSend port route else fail .unconfigured := by
  unfold handOver
  rw [look_quiet quiet, pure_bind]

/-! ## The promise -/

section

variable {A : Type}

/-- What the caller's sender was handed, in order. -/
def sends (log : List (Call Enc × A)) : List Enc :=
  log.filterMap fun event =>
    match event.1 with
    | .send encoded => some encoded
    | _ => none

/-- How the signer was used, and the answers. -/
def signers (log : List (Call Enc × A)) : List (Route × A) :=
  log.filterMap fun event =>
    match event.1 with
    | .signer route => some (route, event.2)
    | _ => none

@[simp] theorem sends_append {log more : List (Call Enc × A)} :
    sends (log ++ more) = sends log ++ sends more := List.filterMap_append

@[simp] theorem signers_append {log more : List (Call Enc × A)} :
    signers (log ++ more) = signers log ++ signers more := List.filterMap_append

@[simp] theorem sends_cons {call : Call Enc} {answer : A} {log : List (Call Enc × A)} :
    sends ((call, answer) :: log) = sends [(call, answer)] ++ sends log := by
  rw [← List.singleton_append, sends_append]

end

/-- The signer was used once and left this to be broadcast. -/
def Ready (log : List (Call Enc × Answer ε Enc Sig)) (encoded : Enc) (first : Sig) : Prop :=
  ∃ route answer signing, signers log = [(route, answer)] ∧ route ≠ .broadcast ∧
    answer.signing route = .ok (some signing) ∧ signing.complete ∧ signing.encoded = encoded ∧
    signing.first = .ok (some first)

/-- The log ends with the one send, of what the signer left, and this came of it. -/
def Sent (log : List (Call Enc × Answer ε Enc Sig)) (first : Sig)
    (sent : Except ε (Option Sig)) : Prop :=
  ∃ earlier encoded answer, log = earlier ++ [(.send encoded, answer)] ∧
    sends earlier = [] ∧ Ready earlier encoded first ∧ answer.sent = sent

structure Promise (port : Port ε) (log : List (Call Enc × Answer ε Enc Sig))
    (result : Except (Failure ε Sig) Sig) : Prop where
  /-- The signer is used at most once. -/
  signer : (signers log).length ≤ 1
  /-- The sender is called at most once, as the last call, with what the signer left complete
  and identified. -/
  sender : sends log = [] ∨ ∃ first sent, Sent log first sent
  /-- A failed send is reported under the signature of what was sent, once it is caught. -/
  failed : ∀ first cause, Sent log first (.error cause) →
    result = .error (if port.catches cause then .unconfirmed first cause else .own cause)
  /-- Nothing else is reported as unconfirmed. -/
  honest : ∀ first cause, result = .error (.unconfirmed first cause) → Sent log first (.error cause)
  /-- A signature that is returned is the provider's own, and nothing was sent, or it is the
  sender's or that of what was sent. -/
  returned : ∀ signature, result = .ok signature →
    (∃ answer, signers log = [(.broadcast, answer)] ∧ sends log = [] ∧
      answer.broadcast = .ok (some signature)) ∨
      ∃ first given, Sent log first (.ok given) ∧ signature = given.getD first

/-- What is sent is identified by one signature, and one outcome comes of it. -/
theorem Sent.unique {log : List (Call Enc × Answer ε Enc Sig)} {first first' : Sig}
    {sent sent' : Except ε (Option Sig)} (one : Sent log first sent)
    (other : Sent log first' sent') : first = first' ∧ sent = sent' := by
  rcases one with ⟨earlier, encoded, answer, rfl, -, ready, rfl⟩
  rcases other with ⟨earlier', encoded', answer', same, -, ready', rfl⟩
  have parts := List.append_inj' same rfl
  rcases parts with ⟨rfl, last⟩
  cases last
  rcases ready with ⟨route, used, signing, once, -, signed, -, -, named⟩
  rcases ready' with ⟨route', used', signing', once', -, signed', -, -, named'⟩
  rw [once] at once'
  cases once'
  rw [signed] at signed'
  cases signed'
  rw [named] at named'
  cases named'
  exact ⟨rfl, rfl⟩

/-- What comes of a send. -/
def verdict (port : Port ε) (first : Sig) :
    Except ε (Option Sig) → Except (Failure ε Sig) Sig
  | .ok given => .ok (given.getD first)
  | .error cause =>
    .error (if port.catches cause then .unconfirmed first cause else .own cause)

/-- A failure that says nothing was sent. -/
def Failure.Plain (failure : Failure ε Sig) : Prop :=
  ∀ first cause, failure ≠ .unconfirmed first cause

/-- How a run ends. -/
inductive Ending (port : Port ε) (log : List (Call Enc × Answer ε Enc Sig)) :
    Except (Failure ε Sig) Sig → Prop
  | stopped {failure : Failure ε Sig} : (signers log).length ≤ 1 → sends log = [] →
      failure.Plain → Ending port log (.error failure)
  | landed {answer : Answer ε Enc Sig} {signature : Sig} :
      signers log = [(.broadcast, answer)] → sends log = [] →
      answer.broadcast = .ok (some signature) → Ending port log (.ok signature)
  | sent {first : Sig} {outcome : Except ε (Option Sig)} : Sent log first outcome →
      Ending port log (verdict port first outcome)

variable {port : Port ε} {log : List (Call Enc × Answer ε Enc Sig)}
  {result : Except (Failure ε Sig) Sig} {answers : ℕ → Answer ε Enc Sig}
  {w : World (Call Enc) (Answer ε Enc Sig) Unit}

theorem Sent.not_unsent {first : Sig} {outcome : Except ε (Option Sig)}
    (sent : Sent log first outcome) : sends log ≠ [] := by
  rcases sent with ⟨earlier, encoded, answer, rfl, -⟩
  simp [sends]

theorem Ending.promise (ending : Ending port log result) : Promise port log result := by
  cases ending with
  | stopped few unsent plain =>
    refine {
      signer := few
      sender := .inl unsent
      failed := fun first cause sent => absurd unsent sent.not_unsent
      honest := ?_
      returned := by simp }
    intro first cause same
    cases same
    exact absurd rfl (plain first cause)
  | landed used unsent named =>
    refine {
      signer := by simp [used]
      sender := .inl unsent
      failed := fun first cause sent => absurd unsent sent.not_unsent
      honest := by simp
      returned := ?_ }
    intro signature same
    cases same
    exact .inl ⟨_, used, unsent, named⟩
  | @sent first outcome sent =>
    refine {
      signer := ?_
      sender := .inr ⟨first, outcome, sent⟩
      failed := ?_
      honest := ?_
      returned := ?_ }
    · rcases sent with ⟨earlier, encoded, answer, rfl, -, ⟨route, used, signing, once, -⟩, -⟩
      rw [signers_append, once]
      simp [signers]
    · intro first' cause failed
      rcases failed.unique sent with ⟨rfl, rfl⟩
      rfl
    · intro first' cause reported
      cases outcome with
      | ok given => cases reported
      | error cause' =>
        rw [verdict] at reported
        split at reported
        · cases reported
          exact sent
        · cases reported
    · intro signature same
      cases outcome with
      | error cause => cases same
      | ok given =>
        cases same
        exact .inr ⟨first, given, sent, rfl⟩

/-! ## Every run keeps it -/

/-- Reading or adding nothing but looks. -/
def Idle (w w' : World (Call Enc) (Answer ε Enc Sig) Unit) : Prop :=
  sends w'.log = sends w.log ∧ signers w'.log = signers w.log

theorem look_meets : (look port).Meets answers w (fun _ w' => Idle w w')
    (fun failure w' => Idle w w' ∧ failure.Plain) := by
  unfold look
  split
  · rw [meets_bind, meets_ask]
    have idle : Idle w (w.heard .look (answers w.asked)) := by
      simp [Idle, sends, signers]
    cases (answers w.asked).gaveUp with
    | none => exact idle
    | some reason => exact ⟨idle, fun first cause same => by cases same⟩
  · exact ⟨rfl, rfl⟩

theorem broadcast_meets (unused : signers w.log = []) (unsent : sends w.log = []) :
    (broadcast : Talk ε Enc Sig Sig).Meets answers w
      (fun signature w' => Ending port w'.log (.ok signature))
      (fun failure w' => Ending port w'.log (.error failure)) := by
  have used : signers (w.heard (.signer .broadcast) (answers w.asked)).log =
      [(.broadcast, answers w.asked)] := by
    rw [World.heard_log, signers_append, unused]
    rfl
  have still : sends (w.heard (.signer .broadcast) (answers w.asked)).log = [] := by
    rw [World.heard_log, sends_append, unsent]
    rfl
  have few : (signers (w.heard (.signer .broadcast) (answers w.asked)).log).length ≤ 1 := by
    rw [used]
    exact Nat.le_refl 1
  rw [broadcast, meets_bind, meets_ask]
  split
  · exact .stopped few still fun first cause same => by cases same
  · exact .stopped few still fun first cause same => by cases same
  · next named => exact .landed used still named

theorem send_meets {encoded : Enc} {first : Sig} (ready : Ready w.log encoded first)
    (unsent : sends w.log = []) :
    (send port encoded first).Meets answers w
      (fun signature w' => Ending port w'.log (.ok signature))
      (fun failure w' => Ending port w'.log (.error failure)) := by
  have handed : Sent (w.heard (.send encoded) (answers w.asked)).log first
      (answers w.asked).sent := ⟨w.log, encoded, _, rfl, unsent, ready, rfl⟩
  have ending : Ending port _ (verdict port first (answers w.asked).sent) := .sent handed
  rw [send, meets_bind, meets_ask]
  cases outcome : (answers w.asked).sent with
  | ok given =>
    rw [outcome] at ending
    exact ending
  | error cause =>
    rw [outcome, verdict] at ending
    dsimp only
    split at ending
    · next caught =>
      rw [if_pos caught]
      exact ending
    · next escapes =>
      rw [if_neg escapes]
      exact ending

theorem signThenSend_meets {route : Route} (other : route ≠ .broadcast)
    (unused : signers w.log = []) (unsent : sends w.log = []) :
    (signThenSend port route : Talk ε Enc Sig Sig).Meets answers w
      (fun signature w' => Ending port w'.log (.ok signature))
      (fun failure w' => Ending port w'.log (.error failure)) := by
  have used : signers (w.heard (.signer route) (answers w.asked)).log =
      [(route, answers w.asked)] := by
    rw [World.heard_log, signers_append, unused]
    rfl
  have still : sends (w.heard (.signer route) (answers w.asked)).log = [] := by
    rw [World.heard_log, sends_append, unsent]
    rfl
  have stop : ∀ {failure : Failure ε Sig} {w' : World (Call Enc) (Answer ε Enc Sig) Unit},
      Idle (w.heard (.signer route) (answers w.asked)) w' → failure.Plain →
      Ending port w'.log (.error failure) := by
    intro failure w' idle plain
    refine .stopped ?_ (idle.1.trans still) plain
    rw [idle.2, used]
    exact Nat.le_refl 1
  rw [signThenSend, meets_bind, meets_ask]
  split
  · exact stop ⟨rfl, rfl⟩ fun first cause same => by cases same
  · exact stop ⟨rfl, rfl⟩ fun first cause same => by cases same
  · next signing left =>
    unfold sendSigned
    split
    · next complete =>
      split
      · exact stop ⟨rfl, rfl⟩ fun first cause same => by cases same
      · exact stop ⟨rfl, rfl⟩ fun first cause same => by cases same
      · next first named =>
        rw [meets_bind]
        refine look_meets.mono ?_ fun failure w' gaveUp => stop gaveUp.1 gaveUp.2
        intro _ w' looked
        refine send_meets ⟨route, _, signing, ?_, other, left, complete, rfl, named⟩
          (looked.1.trans still)
        rw [looked.2, used]
    · exact stop ⟨rfl, rfl⟩ fun first cause same => by cases same

/-- Every run of the entry point ends in one of the three ways. -/
theorem handOver_meets {route : Option Route} {hasSender : Bool} :
    (handOver port route hasSender).Meets answers (.start ())
      (fun signature w' => Ending port w'.log (.ok signature))
      (fun failure w' => Ending port w'.log (.error failure)) := by
  have stop : ∀ {failure : Failure ε Sig} {w' : World (Call Enc) (Answer ε Enc Sig) Unit},
      Idle (.start ()) w' → failure.Plain → Ending port w'.log (.error failure) := by
    intro failure w' idle plain
    refine .stopped ?_ idle.1 plain
    rw [idle.2]
    exact Nat.zero_le 1
  have signing : ∀ {route : Route} {w' : World (Call Enc) (Answer ε Enc Sig) Unit},
      Idle (.start ()) w' → route ≠ .broadcast →
      (if hasSender then signThenSend port route
        else fail .unconfigured : Talk ε Enc Sig Sig).Meets answers w'
        (fun signature w' => Ending port w'.log (.ok signature))
        (fun failure w' => Ending port w'.log (.error failure)) := by
    intro route w' idle other
    split
    · exact signThenSend_meets other idle.2 idle.1
    · exact stop idle fun first cause same => by cases same
  unfold handOver
  rw [meets_bind]
  refine look_meets.mono ?_ fun failure w' gaveUp => stop gaveUp.1 gaveUp.2
  intro _ w' idle
  cases route with
  | none => exact stop idle fun first cause same => by cases same
  | some route =>
    cases route with
    | broadcast => exact broadcast_meets idle.2 idle.1
    | sign => exact signing idle (by decide)
    | modify => exact signing idle (by decide)

/-- Every run keeps the promise. -/
theorem handOver_promise {route : Option Route} {hasSender : Bool} :
    Promise port ((handOver port route hasSender).run answers (.start ())).2.log
      ((handOver port route hasSender).run answers (.start ())).1 :=
  (Meets.of_both (P := fun result w' => Ending port w'.log result) handOver_meets).promise

end

/-! ## Entry points -/

section

variable {ε κ δ A Enc Sig : Type}

/-- The error of an entry point: one that it passes on, or a `SignerError` of its own. -/
inductive Raised (ε κ δ Sig : Type) where
  | passed (error : ε)
  | raised (code : κ) (detail : δ) (transactionSignature : Option Sig) (cause : Option ε)

/-- The codes of a language. -/
structure Codes (κ : Type) where
  signingFailed : κ
  configError : κ
  broadcastUnconfirmed : κ

/-- The error says what failed. -/
inductive Says (codes : Codes κ) : Raised ε κ δ Sig → Failure ε Sig → Prop
  | own {error : ε} : Says codes (.passed error) (.own error)
  | refused {detail : δ} : Says codes (.raised codes.signingFailed detail none none) .refused
  | unconfigured {detail : δ} :
    Says codes (.raised codes.configError detail none none) .unconfigured
  | unconfirmed {detail : δ} {first : Sig} {cause : ε} :
    Says codes (.raised codes.broadcastUnconfirmed detail (some first) (some cause))
      (.unconfirmed first cause)

/-- The entry point does what the machine does, on answers seen through `view`. -/
abbrev Refines (codes : Codes κ) (view : A → Answer ε Enc Sig)
    (program : Prog (Call Enc) A Unit (Raised ε κ δ Sig) Sig) (port : Port ε)
    (route : Option Route) (hasSender : Bool) : Prop :=
  program.Mirrors view Eq (Says codes) (handOver port route hasSender)

/-- In every run of an entry point the promise holds of the calls, under a result that the
entry point's own result spells. -/
def Kept (codes : Codes κ) (view : A → Answer ε Enc Sig)
    (program : Prog (Call Enc) A Unit (Raised ε κ δ Sig) Sig) (port : Port ε) : Prop :=
  ∀ answers, ∃ result, Related Eq (Says codes) (program.run answers (.start ())).1 result ∧
    Promise port (seen view (program.run answers (.start ())).2.log) result

theorem Refines.kept {codes : Codes κ} {view : A → Answer ε Enc Sig}
    {program : Prog (Call Enc) A Unit (Raised ε κ δ Sig) Sig} {port : Port ε}
    {route : Option Route} {hasSender : Bool} (refines : Refines codes view program port route
      hasSender) : Kept codes view program port := by
  intro answers
  rcases refines answers (.start ()) (.start ()) rfl with ⟨results, logs⟩
  refine ⟨_, results, ?_⟩
  rw [← logs]
  exact handOver_promise

end

end Keychain.Handover
