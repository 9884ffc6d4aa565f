import Keychain.Lib.Dialogue
import Keychain.TypeScript.Runtime

/-!
Signing a list of items one after the other: `signBatchSequential` of `core/batch.ts`.

A run is a conversation. It looks at the abort signal and learns whether the signal has fired,
and it calls `fn` and learns how the call ended. A pause is the looks before and after it; the
time it takes is not modelled.

`signItem` says what one item adds to the record (`signItem_meets`), and the loop keeps
`Signed`. What is thrown is about the record as well (`batchError_reports`).
-/

namespace Keychain.TypeScript.Batch

open Prog

/-! ## Errors -/

inductive SignerErrorCode where
  | broadcastUnconfirmed
  | configError
  | expectedSolanaSigner
  | httpError
  | invalidPrivateKey
  | invalidPublicKey
  | ioError
  | notAvailable
  | parsingError
  | remoteApiError
  | serializationError
  | signerNotInitialized
  | signingFailed
  deriving DecidableEq

def SignerErrorCode.text : SignerErrorCode → String
  | .broadcastUnconfirmed => "SIGNER_BROADCAST_UNCONFIRMED"
  | .configError => "SIGNER_CONFIG_ERROR"
  | .expectedSolanaSigner => "SIGNER_EXPECTED_SOLANA_SIGNER"
  | .httpError => "SIGNER_HTTP_ERROR"
  | .invalidPrivateKey => "SIGNER_INVALID_PRIVATE_KEY"
  | .invalidPublicKey => "SIGNER_INVALID_PUBLIC_KEY"
  | .ioError => "SIGNER_IO_ERROR"
  | .notAvailable => "SIGNER_NOT_AVAILABLE"
  | .parsingError => "SIGNER_PARSING_ERROR"
  | .remoteApiError => "SIGNER_REMOTE_API_ERROR"
  | .serializationError => "SIGNER_SERIALIZATION_ERROR"
  | .signerNotInitialized => "SIGNER_NOT_INITIALIZED"
  | .signingFailed => "SIGNER_SIGNING_FAILED"

/-- The properties of an object, in the order in which they were set. -/
abbrev Record (V : Type) := List (JsString × V)

namespace Record

variable {V : Type}

def get (record : Record V) (key : JsString) : Option V := record.lookup key

/-- `record[key] = value`. -/
def set (record : Record V) (key : JsString) (value : V) : Record V :=
  match record with
  | [] => [(key, value)]
  | (other, old) :: rest =>
    if other = key then (key, value) :: rest else (other, old) :: set rest key value

theorem get_cons {record : Record V} {key other : JsString} {value : V} :
    get ((other, value) :: record) key = if key = other then some value else record.get key := by
  rw [get, List.lookup_cons]
  by_cases same : key = other
  · rw [if_pos same, same, beq_self_eq_true]
  · rw [if_neg same, beq_eq_false_iff_ne.mpr same]
    rfl

theorem get_set {record : Record V} {key other : JsString} {value : V} :
    (record.set key value).get other = if other = key then some value else record.get other := by
  induction record with
  | nil => rw [set, get_cons]
  | cons entry rest ih =>
    obtain ⟨first, old⟩ := entry
    rw [set]
    by_cases same : first = key
    · rw [if_pos same, get_cons, get_cons, same]
      by_cases here : other = key
      · rw [if_pos here, if_pos here]
      · rw [if_neg here, if_neg here, if_neg here]
    · rw [if_neg same, get_cons, get_cons, ih]
      by_cases here : other = first
      · have apart : other ≠ key := fun also => same (here.symm.trans also)
        rw [if_pos here, if_neg apart, if_pos here]
      · rw [if_neg here, if_neg here]

theorem get_set_self {record : Record V} {key : JsString} {value : V} :
    (record.set key value).get key = some value := by
  rw [get_set, if_pos rfl]

theorem get_set_of_ne {record : Record V} {key other : JsString} {value : V}
    (apart : other ≠ key) : (record.set key value).get other = record.get other := by
  rw [get_set, if_neg apart]

end Record

/-- An error with a cause of a type `V`, `undefined` if it has none. -/
structure SignerError (V : Type) where
  code : SignerErrorCode
  message : JsString
  context : Option (List (JsString × V))
  cause : V

/-- A value of the type `unknown`. -/
inductive Unknown (TResult : Type) where
  | undefined
  | string (text : JsString)
  | number (value : ℕ)
  /-- an array of results -/
  | array (items : List TResult)
  | signerError (error : SignerError (Unknown TResult))
  /-- any other value, by its identity -/
  | other (identity : ℕ)

variable {TItem TResult : Type}

def messageKey : JsString := .ofString "message"

def failedIndexKey : JsString := .ofString "failedIndex"

/-- The constructor of `SignerError`. -/
def createSignerError (code : SignerErrorCode) (context : Option (Record (Unknown TResult)))
    (cause : Unknown TResult) : SignerError (Unknown TResult) where
  code := code
  message :=
    match context.bind fun context => context.get messageKey with
    | some (.string text) =>
      if truthy (some text) then text else .ofString s!"Signer error: {code.text}"
    | _ => .ofString s!"Signer error: {code.text}"
  context := context
  cause := cause

/-! ## The batch -/

/-- What a run waits for: a look at the abort signal, or the call of `fn`. -/
inductive Event (TItem : Type) where
  | look
  | call (item : TItem) (index : ℕ)
  deriving DecidableEq

/-- What a run learns from an event: the reason of a signal that has fired, or how the call
ended. -/
structure Moment (TResult : Type) where
  reason : Option (Unknown TResult)
  outcome : Except (Unknown TResult) TResult

abbrev BatchProg (TItem TResult T : Type) : Type :=
  Prog (Event TItem) (Moment TResult) Unit (Unknown TResult) T

/-- `abortSignal?.throwIfAborted()`. -/
def throwIfAborted (abortSignal : Bool) : BatchProg TItem TResult Unit :=
  if abortSignal then do
    let moment ← ask .look
    match moment.reason with
    | some reason => fail reason
    | none => pure ()
  else
    pure ()

/-- `abortableDelay` for some time. -/
def abortableDelay (abortSignal : Bool) : BatchProg TItem TResult Unit := do
  throwIfAborted abortSignal
  -- either the timer ends or the signal fires
  throwIfAborted abortSignal

/-- The pause before an item, and the last look at the signal. -/
def awaitTurn (delayMs : Rat) (abortSignal : Bool) (index : ℕ) : BatchProg TItem TResult Unit := do
  if 0 < delayMs ∧ 0 < index then
    abortableDelay abortSignal
  throwIfAborted abortSignal

/-- What is tried for one item. -/
def signItem (delayMs : Rat) (abortSignal : Bool) (item : TItem) (index : ℕ) :
    BatchProg TItem TResult TResult := do
  awaitTurn delayMs abortSignal index
  let moment ← ask (.call item index)
  ofExcept moment.outcome

/-- `{ ...context, [completedKey]: [...results], failedIndex: index }`. -/
def batchContext (completedKey : JsString) (results : List TResult) (index : ℕ)
    (context : Record (Unknown TResult)) : Record (Unknown TResult) :=
  (context.set completedKey (.array results)).set failedIndexKey (.number index)

/-- The error that is thrown for what was caught at an item. -/
def batchError (completedKey : JsString) (results : List TResult) (index : ℕ) :
    Unknown TResult → SignerError (Unknown TResult)
  | .signerError error =>
    createSignerError error.code
      (some (batchContext completedKey results index (error.context.getD []))) error.cause
  | error =>
    createSignerError .signingFailed
      (some (batchContext completedKey results index
        [(messageKey, .string (.ofString s!"Batch signing failed at index {index}"))]))
      error

/-- The loop from the item of this index on. -/
def signFrom (delayMs : Rat) (completedKey : JsString) (abortSignal : Bool) (index : ℕ)
    (results : List TResult) : List TItem → BatchProg TItem TResult (List TResult)
  | [] => pure results
  | item :: items => do
    let result ← (signItem delayMs abortSignal item index).mapError fun error =>
      .signerError (batchError completedKey results index error)
    signFrom delayMs completedKey abortSignal (index + 1) (results ++ [result]) items

def signBatchSequential (items : List TItem) (delayMs : Rat) (completedKey : JsString)
    (abortSignal : Bool) : BatchProg TItem TResult (List TResult) := do
  throwIfAborted abortSignal
  signFrom delayMs completedKey abortSignal 0 [] items

/-! ## The record of a run -/

/-- What an event threw. -/
def failure : Event TItem × Moment TResult → Option (Unknown TResult)
  | (.look, moment) => moment.reason
  | (.call _ _, moment) =>
    match moment.outcome with
    | .error error => some error
    | .ok _ => none

/-- What `fn` was called with. -/
def called : Event TItem × Moment TResult → Option (TItem × ℕ)
  | (.look, _) => none
  | (.call item index, _) => some (item, index)

/-- What `fn` resolved to. -/
def signed : Event TItem × Moment TResult → Option TResult
  | (.look, _) => none
  | (.call _ _, moment) => moment.outcome.toOption

/-- Nothing failed, `fn` was called on exactly these items in their order, and these are its
results in the same order. -/
structure Signed (items : List TItem) (log : List (Event TItem × Moment TResult))
    (results : List TResult) : Prop where
  fine : ∀ x ∈ log, failure x = none
  called : log.filterMap called = items.zipIdx
  signed : log.filterMap signed = results

/-- The last event threw, when the items before the index had been signed: a look before the
call for the item of the index, or that call. -/
structure Stopped (items : List TItem) (log : List (Event TItem × Moment TResult)) (index : ℕ)
    (results : List TResult) (thrown : Unknown TResult) : Prop where
  bounded : index < items.length
  last : ∃ before last, log = before ++ [last] ∧ Signed (items.take index) before results ∧
    failure last = some thrown ∧
    (last.1 = .look ∨ ∃ item, items[index]? = some item ∧ last.1 = .call item index)

/-- Right before every call, a look has found the signal unfired. -/
inductive Guarded : List (Event TItem × Moment TResult) → Prop where
  | nil : Guarded []
  | look {log : List (Event TItem × Moment TResult)} {moment : Moment TResult}
      (before : Guarded log) : Guarded (log ++ [(.look, moment)])
  | call {log : List (Event TItem × Moment TResult)} {seen moment : Moment TResult} {item : TItem}
      {index : ℕ} (before : Guarded log) (unfired : seen.reason = none) :
      Guarded (log ++ [(.look, seen)] ++ [(.call item index, moment)])

section

variable {items : List TItem} {log looks : List (Event TItem × Moment TResult)}
  {results : List TResult} {item : TItem} {index : ℕ} {abortSignal : Bool} {delayMs : Rat}

/-- Looks at a signal that had not fired. -/
def Unfired (looks : List (Event TItem × Moment TResult)) : Prop :=
  ∀ x ∈ looks, x.1 = .look ∧ failure x = none

theorem unfired_nil : Unfired ([] : List (Event TItem × Moment TResult)) := List.forall_mem_nil _

theorem Unfired.append {looks' : List (Event TItem × Moment TResult)} (unfired : Unfired looks)
    (unfired' : Unfired looks') : Unfired (looks ++ looks') :=
  List.forall_mem_append.mpr ⟨unfired, unfired'⟩

theorem Guarded.append_looks (guarded : Guarded log) (unfired : Unfired looks) :
    Guarded (log ++ looks) := by
  induction looks generalizing log with
  | nil => rwa [List.append_nil]
  | cons x looks ih =>
    obtain ⟨event, moment⟩ := x
    obtain ⟨here, rest⟩ := List.forall_mem_cons.mp unfired
    obtain rfl : event = .look := here.1
    rw [List.append_cons]
    exact ih guarded.look rest

theorem Guarded.append_call {moment : Moment TResult} (guarded : Guarded log)
    (unfired : Unfired looks) (looked : looks ≠ []) :
    Guarded (log ++ looks ++ [(.call item index, moment)]) := by
  rcases List.eq_nil_or_concat' looks with none | ⟨front, ⟨event, seen⟩, rfl⟩
  · exact absurd none looked
  obtain ⟨before, last⟩ := List.forall_mem_append.mp unfired
  obtain ⟨rfl, fine⟩ := List.forall_mem_singleton.mp last
  rw [← List.append_assoc]
  exact (guarded.append_looks before).call fine

theorem Unfired.filterMap_eq_nil {β : Type} {f : Event TItem × Moment TResult → Option β}
    (unfired : Unfired looks) (silent : ∀ moment, f (.look, moment) = none) :
    looks.filterMap f = [] := by
  rw [List.filterMap_eq_nil_iff]
  intro x member
  obtain ⟨event, moment⟩ := x
  obtain rfl : event = .look := (unfired _ member).1
  exact silent moment

/-- Looks sign nothing. -/
theorem Signed.append_looks (sofar : Signed items log results) (unfired : Unfired looks) :
    Signed items (log ++ looks) results where
  fine := List.forall_mem_append.mpr ⟨sofar.fine, fun x member => (unfired x member).2⟩
  called := by
    rw [List.filterMap_append, unfired.filterMap_eq_nil fun _ => rfl, List.append_nil, sofar.called]
  signed := by
    rw [List.filterMap_append, unfired.filterMap_eq_nil fun _ => rfl, List.append_nil, sofar.signed]

/-- A call that resolves signs the next item. -/
theorem Signed.append_call {moment : Moment TResult} {result : TResult}
    (sofar : Signed items log results) (resolved : moment.outcome = .ok result) :
    Signed (items ++ [item]) (log ++ [(.call item items.length, moment)]) (results ++ [result])
    where
  fine := by
    refine List.forall_mem_append.mpr ⟨sofar.fine, List.forall_mem_singleton.mpr ?_⟩
    rw [failure, resolved]
  called := by
    rw [List.filterMap_append, sofar.called, List.zipIdx_append, Nat.zero_add]
    rfl
  signed := by
    have here : [(Event.call item items.length, moment)].filterMap Batch.signed = [result] := by
      rw [List.filterMap_cons, Batch.signed, resolved]
      rfl
    rw [List.filterMap_append, sofar.signed, here]

/-- Every result is that of a call. -/
theorem Signed.length_eq (sofar : Signed items log results) : results.length = items.length := by
  have counts : (log.filterMap Batch.signed).length = (log.filterMap Batch.called).length := by
    have fine := sofar.fine
    clear sofar
    induction log with
    | nil => rfl
    | cons x log ih =>
      rw [List.forall_mem_cons] at fine
      obtain ⟨event, moment⟩ := x
      cases event with
      | look => exact ih fine.2
      | call item index =>
        cases outcome : moment.outcome with
        | error error =>
          have here := fine.1
          rw [failure, outcome] at here
          cases here
        | ok result =>
          rw [List.filterMap_cons, List.filterMap_cons, Batch.signed, Batch.called, outcome]
          exact congrArg (· + 1) (ih fine.2)
  rw [sofar.signed, sofar.called, List.length_zipIdx] at counts
  exact counts

/-! ## Runs -/

/-- A program that looks at the signal until it has fired or the program is over, at least once
if it is `looking`. -/
def Watches (looking : Prop) (m : BatchProg TItem TResult Unit) : Prop :=
  ∀ answers w, m.Meets answers w
    (fun _ w' => ∃ looks, w'.log = w.log ++ looks ∧ Unfired looks ∧ (looking → looks ≠ []))
    (fun thrown w' => ∃ looks moment, w'.log = w.log ++ looks ++ [(.look, moment)] ∧
      Unfired looks ∧ moment.reason = some thrown)

theorem watches_pure : Watches False (pure () : BatchProg TItem TResult Unit) :=
  fun _ _ => ⟨[], (List.append_nil _).symm, unfired_nil, False.elim⟩

theorem Watches.bind {looking looking' : Prop} {m m' : BatchProg TItem TResult Unit}
    (first : Watches looking m) (next : Watches looking' m') :
    Watches looking' (do m; m') := by
  intro answers w
  rw [meets_bind]
  refine (first answers w).mono (fun _ w' passed => ?_) fun _ _ stopped => stopped
  obtain ⟨looks, logged, unfired, -⟩ := passed
  refine (next answers w').mono (fun _ w'' passed => ?_) (fun thrown w'' stopped => ?_)
  · obtain ⟨looks', logged', unfired', looked⟩ := passed
    refine ⟨looks ++ looks', ?_, unfired.append unfired', fun looking => ?_⟩
    · rw [logged', logged, List.append_assoc]
    · exact List.append_ne_nil_of_right_ne_nil looks (looked looking)
  · obtain ⟨looks', moment, logged', unfired', fired⟩ := stopped
    refine ⟨looks ++ looks', moment, ?_, unfired.append unfired', fired⟩
    rw [logged', logged, List.append_assoc w.log]

/-- A look at a given signal throws the reason of the signal. -/
theorem meets_throwIfAborted {answers : ℕ → Moment TResult}
    {w : World (Event TItem) (Moment TResult) Unit}
    {done : Unit → World (Event TItem) (Moment TResult) Unit → Prop}
    {failed : Unknown TResult → World (Event TItem) (Moment TResult) Unit → Prop} :
    (throwIfAborted true).Meets answers w done failed ↔
      match (answers w.asked).reason with
      | some reason => failed reason (w.heard .look (answers w.asked))
      | none => done () (w.heard .look (answers w.asked)) := by
  rw [throwIfAborted, if_pos rfl, meets_bind, meets_ask]
  cases (answers w.asked).reason <;> rfl

theorem watches_throwIfAborted :
    Watches (abortSignal = true) (throwIfAborted abortSignal : BatchProg TItem TResult Unit) := by
  intro answers w
  cases abortSignal with
  | false =>
    exact ⟨[], (List.append_nil _).symm, unfired_nil, fun given => absurd given (by decide)⟩
  | true =>
    rw [meets_throwIfAborted]
    cases fired : (answers w.asked).reason with
    | none =>
      refine ⟨[(.look, answers w.asked)], rfl, ?_, fun _ => List.cons_ne_nil _ _⟩
      exact List.forall_mem_singleton.mpr ⟨rfl, fired⟩
    | some reason =>
      refine ⟨[], answers w.asked, ?_, unfired_nil, fired⟩
      rw [World.heard_log, List.append_nil]

theorem watches_awaitTurn :
    Watches (abortSignal = true)
      (awaitTurn delayMs abortSignal index : BatchProg TItem TResult Unit) := by
  rw [awaitTurn]
  by_cases paused : 0 < delayMs ∧ 0 < index
  · simp only [if_pos paused]
    exact (watches_throwIfAborted.bind watches_throwIfAborted).bind watches_throwIfAborted
  · simp only [if_neg paused]
    exact watches_pure.bind watches_throwIfAborted

/-- An item adds looks and its call to the record, up to the event that throws. -/
theorem signItem_meets {answers : ℕ → Moment TResult}
    {w : World (Event TItem) (Moment TResult) Unit} :
    (signItem delayMs abortSignal item index).Meets answers w
      (fun result w' => ∃ looks moment, w'.log = w.log ++ looks ++ [(.call item index, moment)] ∧
        Unfired looks ∧ (abortSignal = true → looks ≠ []) ∧ moment.outcome = .ok result)
      (fun thrown w' => ∃ looks last, w'.log = w.log ++ looks ++ [last] ∧ Unfired looks ∧
        failure last = some thrown ∧
        (last.1 = .look ∨ last.1 = .call item index ∧ (abortSignal = true → looks ≠ []))) := by
  rw [signItem, meets_bind]
  refine (watches_awaitTurn answers w).mono (fun _ w' passed => ?_) fun _ _ stopped => ?_
  · obtain ⟨looks, logged, unfired, looked⟩ := passed
    rw [meets_bind, meets_ask, meets_ofExcept]
    constructor
    · intro result resolved
      refine ⟨looks, answers w'.asked, ?_, unfired, looked, resolved⟩
      rw [World.heard_log, logged]
    · intro thrown rejected
      refine ⟨looks, (.call item index, answers w'.asked), ?_, unfired, ?_, .inr ⟨rfl, looked⟩⟩
      · rw [World.heard_log, logged]
      · rw [failure, rejected]
  · obtain ⟨looks, moment, logged, unfired, fired⟩ := stopped
    exact ⟨looks, (.look, moment), logged, unfired, fired, .inl rfl⟩

/-- From a record of the items before, the loop signs all items, or stops at one. -/
theorem signFrom_meets {completedKey : JsString} {done rest : List TItem}
    {answers : ℕ → Moment TResult} {w : World (Event TItem) (Moment TResult) Unit}
    (sofar : Signed done w.log results) (guarded : abortSignal = true → Guarded w.log) :
    (signFrom delayMs completedKey abortSignal done.length results rest).Meets answers w
      (fun results w' => Signed (done ++ rest) w'.log results ∧
        (abortSignal = true → Guarded w'.log))
      (fun thrown w' => ∃ index results caught, Stopped (done ++ rest) w'.log index results caught ∧
        (abortSignal = true → Guarded w'.log) ∧
        thrown = .signerError (batchError completedKey results index caught)) := by
  induction rest generalizing done results w with
  | nil =>
    rw [signFrom, meets_pure, List.append_nil]
    exact ⟨sofar, guarded⟩
  | cons item rest ih =>
    rw [signFrom, meets_bind, meets_mapError]
    refine signItem_meets.mono (fun result w' called => ?_) fun caught w' stopped => ?_
    · obtain ⟨looks, moment, logged, unfired, looked, resolved⟩ := called
      have next : Signed (done ++ [item]) w'.log (results ++ [result]) := by
        rw [logged]
        exact (sofar.append_looks unfired).append_call resolved
      have guarded' (given : abortSignal = true) : Guarded w'.log := by
        rw [logged]
        exact (guarded given).append_call unfired (looked given)
      have tail := ih next guarded'
      rw [List.length_append, List.length_singleton, List.append_assoc, List.singleton_append]
        at tail
      exact tail
    · obtain ⟨looks, ⟨event, moment⟩, logged, unfired, threw, here⟩ := stopped
      refine ⟨done.length, results, caught,
        ⟨?_, w.log ++ looks, (event, moment), logged, ?_, threw, ?_⟩, fun given => ?_, rfl⟩
      · rw [List.length_append, List.length_cons]
        omega
      · rw [List.take_left]
        exact sofar.append_looks unfired
      · refine here.imp_right fun call => ⟨item, ?_, call.1⟩
        rw [List.getElem?_append_right (Nat.le_refl _), Nat.sub_self, List.getElem?_cons_zero]
      · rw [logged]
        rcases here with rfl | ⟨rfl, looked⟩
        · exact ((guarded given).append_looks unfired).look
        · exact (guarded given).append_call unfired (looked given)

end

/-! ## What is thrown -/

/-- `error.context?.[key]`. -/
def SignerError.get (error : SignerError (Unknown TResult)) (key : JsString) :
    Option (Unknown TResult) :=
  error.context.bind fun context => Record.get context key

/-- The thrown error says where the batch stopped and what was signed, and passes on what it
was stopped by. -/
structure Reports (completedKey : JsString) (index : ℕ) (results : List TResult)
    (caught : Unknown TResult) (error : SignerError (Unknown TResult)) : Prop where
  failedIndex : error.get failedIndexKey = some (.number index)
  completed : error.get completedKey = some (.array results)
  passed : match caught with
    | .signerError original => error.code = original.code ∧ error.cause = original.cause ∧
      ∀ key, key ≠ completedKey → key ≠ failedIndexKey → error.get key = original.get key
    | caught => error.code = .signingFailed ∧ error.cause = caught

section

variable {completedKey : JsString} {index : ℕ} {results : List TResult} {key : JsString}
  {context : Record (Unknown TResult)}

theorem get_batchContext_failedIndex :
    (batchContext completedKey results index context).get failedIndexKey =
      some (.number index) :=
  Record.get_set_self

theorem get_batchContext_completed (apart : completedKey ≠ failedIndexKey) :
    (batchContext completedKey results index context).get completedKey =
      some (.array results) := by
  rw [batchContext, Record.get_set_of_ne apart, Record.get_set_self]

theorem get_batchContext_of_ne (other : key ≠ completedKey) (other' : key ≠ failedIndexKey) :
    (batchContext completedKey results index context).get key = context.get key := by
  rw [batchContext, Record.get_set_of_ne other', Record.get_set_of_ne other]

theorem batchError_reports (apart : completedKey ≠ failedIndexKey) (caught : Unknown TResult) :
    Reports completedKey index results caught (batchError completedKey results index caught) := by
  cases caught with
  | signerError original =>
    refine ⟨get_batchContext_failedIndex, get_batchContext_completed apart, rfl, rfl, ?_⟩
    intro key other other'
    refine (get_batchContext_of_ne other other').trans ?_
    cases kept : original.context with
    | none => rw [SignerError.get, kept]; rfl
    | some context => rw [SignerError.get, kept]; rfl
  | _ => exact ⟨get_batchContext_failedIndex, get_batchContext_completed apart, rfl, rfl⟩

end

section

variable {items : List TItem} {log : List (Event TItem × Moment TResult)} {results : List TResult}
  {caught : Unknown TResult} {index : ℕ} {abortSignal : Bool} {answers : ℕ → Moment TResult}

theorem Stopped.length_eq (stopped : Stopped items log index results caught) :
    results.length = index := by
  obtain ⟨before, last, -, sofar, -⟩ := stopped.last
  have bounded := stopped.bounded
  rw [sofar.length_eq, List.length_take]
  omega

/-- A signal that has not fired lets the batch begin. -/
theorem throwIfAborted_start (entered : abortSignal = true → (answers 0).reason = none) :
    (throwIfAborted abortSignal : BatchProg TItem TResult Unit).Meets answers (.start ())
      (fun _ w => Signed [] w.log [] ∧ (abortSignal = true → Guarded w.log))
      (fun _ _ => False) := by
  cases abortSignal with
  | false => exact ⟨⟨List.forall_mem_nil _, rfl, rfl⟩, fun _ => .nil⟩
  | true =>
    have unfired := entered rfl
    rw [meets_throwIfAborted, World.start_asked, unfired]
    exact ⟨⟨List.forall_mem_singleton.mpr unfired, rfl, rfl⟩, fun _ => Guarded.nil.look⟩

/-- A batch whose signal has not fired yet signs its items one after the other and returns
their results, or stops at the first failure and reports it. -/
theorem signBatchSequential_reports (items : List TItem) (delayMs : Rat) (completedKey : JsString)
    (abortSignal : Bool) (answers : ℕ → Moment TResult)
    (apart : completedKey ≠ failedIndexKey)
    (entered : abortSignal = true → (answers 0).reason = none) :
    (signBatchSequential items delayMs completedKey abortSignal).Meets answers (.start ())
      (fun results w => Signed items w.log results ∧ results.length = items.length ∧
        (abortSignal = true → Guarded w.log))
      (fun thrown w => (abortSignal = true → Guarded w.log) ∧
        ∃ index results caught error, Stopped items w.log index results caught ∧
          results.length = index ∧ thrown = .signerError error ∧
          Reports completedKey index results caught error) := by
  rw [signBatchSequential, meets_bind]
  refine (throwIfAborted_start entered).mono (fun _ w begun => ?_) fun _ _ fired => fired.elim
  refine (signFrom_meets begun.1 begun.2).mono (fun results w' all => ?_)
    fun thrown w' stopped => ?_
  · exact ⟨all.1, all.1.length_eq, all.2⟩
  · obtain ⟨index, results, caught, stopped, guarded, rfl⟩ := stopped
    exact ⟨guarded, index, results, caught, _, stopped, stopped.length_eq, rfl,
      batchError_reports apart caught⟩

end

/-! ## A batch that stops -/

section

def completedSignaturesKey : JsString := .ofString "completedSignatures"

/-- The keys that the signers pass. -/
def completedKeys : List JsString := [completedSignaturesKey, .ofString "completedTransactions"]

theorem ne_failedIndexKey_of_mem_completedKeys : ∀ key ∈ completedKeys, key ≠ failedIndexKey := by
  decide +kernel

/-- The provider has the second transaction, but its fate is unknown. -/
def unresolved : Unknown String :=
  .signerError (createSignerError .broadcastUnconfirmed
    (some [(messageKey, .string (.ofString "unresolved")),
      (.ofString "providerTransactionId", .string (.ofString "tx-2"))]) .undefined)

/-- The second call rejects. The calls are the events 2 and 6, behind the looks. -/
def unresolvedAt (n : ℕ) : Moment String where
  reason := none
  outcome := if n = 6 then .error unresolved else .ok "signed-1"

/-- The looks and the calls of the batch. -/
def unresolvedLog : List (Event ℕ × Moment String) :=
  [(.look, unresolvedAt 0), (.look, unresolvedAt 1), (.call 1 0, unresolvedAt 2),
    (.look, unresolvedAt 3), (.look, unresolvedAt 4), (.look, unresolvedAt 5),
    (.call 2 1, unresolvedAt 6)]

/-- The third transaction is not sent, and the first one is reported. -/
theorem unresolved_batch_reports :
    (signBatchSequential [1, 2, 3] 100 completedSignaturesKey true).run unresolvedAt (.start ()) =
        (.error (.signerError (batchError completedSignaturesKey ["signed-1"] 1 unresolved)),
          ⟨(), unresolvedLog⟩) ∧
      Guarded unresolvedLog ∧
      ∃ index results caught, Stopped [1, 2, 3] unresolvedLog index results caught ∧
        Reports completedSignaturesKey index results caught
          (batchError completedSignaturesKey ["signed-1"] 1 unresolved) := by
  have ran : (signBatchSequential [1, 2, 3] 100 completedSignaturesKey true).run unresolvedAt
      (.start ()) =
      (.error (.signerError (batchError completedSignaturesKey ["signed-1"] 1 unresolved)),
        ⟨(), unresolvedLog⟩) := rfl
  refine ⟨ran, ?_⟩
  have reported := signBatchSequential_reports [1, 2, 3] 100 completedSignaturesKey true
    unresolvedAt (ne_failedIndexKey_of_mem_completedKeys _ List.mem_cons_self) fun _ => rfl
  obtain ⟨guarded, index, results, caught, error, stopped, -, same, reports⟩ :=
    reported.of_run_error ran
  cases same
  exact ⟨guarded rfl, index, results, caught, stopped, reports⟩

end

end Keychain.TypeScript.Batch
