import Mathlib.Data.Rat.Defs
import Mathlib.Algebra.Order.Ring.Rat
import Keychain.TypeScript.Batch
import Keychain.TypeScript.Privy

/-!
`core/http.ts` and `core/errors.ts`: from a request to a JSON value, and what is thrown.

A run is a conversation with everything the code waits for: the abort signal, `fetch`, the
clock and the caller's request signer. A response is handed over with all that its body will
yield, so that reading it is a function of the response.

`fetchSignerJson_meets` says what one call adds to the exchanges of a run, and what can be
told from its error.
-/

namespace Keychain.TypeScript

open Prog

namespace JsString

/-- The white space and the line terminators, which `trim` removes and `\s` matches. -/
def isSpace (unit : UInt16) : Bool :=
  let n := unit.toNat
  (9 ≤ n && n ≤ 13) || n = 0x20 || n = 0xA0 || n = 0x1680 || (0x2000 ≤ n && n ≤ 0x200A) ||
    n = 0x2028 || n = 0x2029 || n = 0x202F || n = 0x205F || n = 0x3000 || n = 0xFEFF

/-- `!text.trim()`. -/
def isBlank (text : JsString) : Bool := text.codeUnits.all isSpace

/-- `text.trim()`. -/
def trim (text : JsString) : JsString :=
  ⟨((text.codeUnits.dropWhile isSpace).reverse.dropWhile isSpace).reverse⟩

/-- `text.slice(0, length)`. -/
def take (text : JsString) (length : ℕ) : JsString := ⟨text.codeUnits.take length⟩

end JsString

/-! ## Errors -/

/-- The properties of a `SignerError`'s context, absent when they have another type. -/
structure Context (V : Type) where
  message : Option JsString := none
  cause : Option V := none
  status : Option ℕ := none
  providerTransactionId : Option JsString := none
  providerErrorCode : Option Number := none
  idempotencyKey : Option JsString := none
  response : Option JsString := none
  url : Option JsString := none
  maxResponseBytes : Option ℕ := none
  address : Option JsString := none

/-- What can be thrown. -/
inductive Thrown where
  /-- a `SignerError`, and whether `providerResponseErrors` has it -/
  | signerError (code : Batch.SignerErrorCode) (context : Context Thrown) (recorded : Bool)
  /-- an error of the language or of a package, by its name -/
  | builtin (name : String)
  /-- any other value, by its identity -/
  | other (identity : ℕ)

namespace Thrown

/-- `createSignerError(code, context)`. -/
def create (code : Batch.SignerErrorCode) (context : Context Thrown) : Thrown :=
  .signerError code context false

/-- `throwProviderResponseError(code, context)`. -/
def providerResponseError (code : Batch.SignerErrorCode) (context : Context Thrown) : Thrown :=
  .signerError code context true

/-- `error instanceof SignerError`. -/
def isSignerError : Thrown → Bool
  | .signerError _ _ _ => true
  | _ => false

/-- `error instanceof SignerError ? error.context?.providerTransactionId : undefined`. -/
def providerTransactionId : Thrown → Option JsString
  | .signerError _ context _ => context.providerTransactionId
  | _ => none

/-- The context of a `BROADCAST_UNCONFIRMED`. -/
def unconfirmed? : Thrown → Option (Context Thrown)
  | .signerError .broadcastUnconfirmed context _ => some context
  | _ => none

end Thrown

def providerStatus : Thrown → Option ℕ
  | .signerError _ context true => context.status
  | _ => none

/-- Only a 4xx other than 408 rules a transaction out. -/
def providerMayHaveAccepted (error : Thrown) : Bool :=
  match providerStatus error with
  | none => true
  | some status => decide (status < 400 ∨ 500 ≤ status ∨ status = 408)

theorem providerMayHaveAccepted_recorded {code : Batch.SignerErrorCode} {context : Context Thrown}
    {status : ℕ} (named : context.status = some status) :
    providerMayHaveAccepted (.providerResponseError code context) =
      !Reply.isRejection status := by
  rw [Bool.eq_iff_iff, Bool.not_eq_true', Bool.eq_false_iff, ne_eq, Reply.isRejection_iff]
  simp only [providerMayHaveAccepted, Thrown.providerResponseError, providerStatus, named,
    decide_eq_true_eq]
  omega

def isDisallowedAsciiControl (codePoint : ℕ) : Bool :=
  codePoint ≤ 0x08 || codePoint = 0x0b || codePoint = 0x0c ||
    (0x0e ≤ codePoint && codePoint ≤ 0x1f) || codePoint = 0x7f

/-- A control character is a code unit of its own. -/
def replaceDisallowedControlChars (input : JsString) : JsString :=
  ⟨input.codeUnits.map fun unit => if isDisallowedAsciiControl unit.toNat then 0x20 else unit⟩

/-- `.replace(/\s+/g, ' ')`, after a space or not. -/
def collapseSpaces : Bool → List UInt16 → List UInt16
  | _, [] => []
  | spaced, unit :: rest =>
    if JsString.isSpace unit then
      if spaced then collapseSpaces true rest else 0x20 :: collapseSpaces true rest
    else
      unit :: collapseSpaces false rest

def sanitizeRemoteErrorResponse (responseText : JsString) : JsString :=
  let normalized : JsString := JsString.trim
    ⟨collapseSpaces false (replaceDisallowedControlChars responseText).codeUnits⟩
  if normalized.codeUnits.isEmpty then
    "[empty remote response]"
  else if normalized.codeUnits.length ≤ 256 then
    normalized
  else
    normalized.take 256 ++ " [truncated]"

/-! ## Conversations -/

/-- The readable stream of a response body: its chunks, then its end or what `read` throws. -/
structure BodyReader where
  chunks : List Bytes
  failure : Option Thrown

/-- A response, with what reading its body will yield. -/
structure Response where
  status : ℕ
  contentLength : Option JsString
  body : Option BodyReader
  /-- `response.text()` -/
  text : Except Thrown JsString
  /-- `response.json()` -/
  json : Except Thrown Unknown

structure FetchRequest where
  url : JsString
  method : Method
  headers : List (String × JsString)
  body : Option JsString
  timeoutMs : ℚ
  deriving DecidableEq

inductive Ask where
  /-- a look at the abort signal -/
  | look
  | fetch (request : FetchRequest)
  /-- `requestSigner.signRequest(payload)` -/
  | signRequest (payload : JsString)
  /-- `Date.now()` -/
  | now

/-- What an `Ask` is answered with. -/
structure Moment where
  /-- the reason of a signal that has fired -/
  reason : Option Thrown
  fetched : Except Thrown Response
  signed : Except Thrown JsString
  now : ℕ

abbrev FetchProg := Prog Ask Moment Unit Thrown

/-- The exchanges of a conversation with the provider. -/
def exchanges (log : List (Ask × Moment)) : List (FetchRequest × Except Thrown Response) :=
  log.filterMap fun event =>
    match event.1 with
    | .fetch request => some (request, event.2.fetched)
    | _ => none

@[simp] theorem exchanges_append {log more : List (Ask × Moment)} :
    exchanges (log ++ more) = exchanges log ++ exchanges more := List.filterMap_append

/-- `abortSignal?.throwIfAborted()`. -/
def throwIfAborted (abortSignal : Bool) : FetchProg Unit :=
  if abortSignal then do
    let moment ← ask .look
    match moment.reason with
    | some reason => fail reason
    | none => pure ()
  else
    pure ()

/-- The time a delay takes is not modelled. -/
def abortableDelay (abortSignal : Bool) : FetchProg Unit := do
  throwIfAborted abortSignal
  throwIfAborted abortSignal

/-! ## Bodies -/

/-- What the code takes from its runtime. -/
class Runtime where
  /-- `Number(text)`, when it is finite -/
  number : JsString → Option ℚ
  /-- `new TextDecoder().decode(bytes)` -/
  textDecode : Bytes → JsString
  /-- `JSON.parse(text)`; `none` is the `SyntaxError` -/
  jsonParse : JsString → Option Unknown
  /-- `String(value)` of a number -/
  numberText : Number → JsString

/-- `MAX_RESPONSE_BYTES` -/
def maxResponseBytes : ℕ := 1024 * 1024

def responseTooLarge (providerName : String) (status : ℕ) : Thrown :=
  .providerResponseError .parsingError {
    maxResponseBytes := some maxResponseBytes
    message := some (providerName ++ " response exceeded maximum size" : String)
    status := some status }

/-- The read loop of `readCappedResponseText`, with the bytes read so far. -/
def readChunks (tooLarge : Thrown) (failure : Option Thrown) :
    Bytes → List Bytes → Except Thrown Bytes
  | bytes, [] =>
    match failure with
    | some error => .error error
    | none => .ok bytes
  | bytes, value :: chunks =>
    if maxResponseBytes < (bytes ++ value).length then .error tooLarge
    else readChunks tooLarge failure (bytes ++ value) chunks

section

variable [Runtime]

/-- The header alone exceeds the cap. An absent header counts as 0. -/
def Response.announcesTooMuch (response : Response) : Bool :=
  ((response.contentLength.map Runtime.number).getD (some 0)).any
    fun length => (maxResponseBytes : ℚ) < length

/-- The text of a response that exposes a body. -/
def readCappedResponseText (response : Response) (providerName : String) :
    Except Thrown (Option JsString) :=
  if response.announcesTooMuch then
    .error (responseTooLarge providerName response.status)
  else
    match response.body with
    | none => .ok none
    | some reader => do
      let bytes ← readChunks (responseTooLarge providerName response.status) reader.failure []
        reader.chunks
      pure (some (Runtime.textDecode bytes))

/-- The members of an object in a body; everything else has none. -/
def memberInBody (body : JsString) (key : String) : Option Unknown :=
  (Runtime.jsonParse body).bind fun parsed => parsed.get (key : JsString)

def transactionIdInBody (body : JsString) : Option JsString :=
  match memberInBody body "id" with
  | some (.string transactionId) => if transactionId.isBlank then none else some transactionId
  | _ => none

def errorCodeInBody (body : JsString) : Option Number :=
  match memberInBody body "code" with
  | some (.number (.number errorCode)) => some errorCode
  | _ => none

/-! ## fetchSignerJson -/

/-- `(await readCappedResponseText(response)) ?? (await response.text())`. -/
def bodyText (response : Response) (providerName : String) : Except Thrown JsString := do
  match ← readCappedResponseText response providerName with
  | some text => pure text
  | none => response.text

/-- The text of an error body. Only a `SignerError` keeps it from being replaced. -/
def errorText (response : Response) (providerName : String) : Except Thrown JsString :=
  match bodyText response providerName with
  | .ok text => .ok text
  | .error error =>
    if error.isSignerError then .error error else .ok "Failed to read error response"

/-- The error of a response that is not `ok`. -/
def remoteApiError (providerName : String) (status : ℕ) (errorText : JsString) : Thrown :=
  .providerResponseError .remoteApiError {
    message := some (providerName ++ " API error: " ++ toString status : String)
    providerErrorCode := errorCodeInBody errorText
    providerTransactionId := transactionIdInBody errorText
    response := some (sanitizeRemoteErrorResponse errorText)
    status := some status }

/-- What a response that is not `ok` has thrown. -/
def verdict (providerName : String) (response : Response) : Thrown :=
  match errorText response providerName with
  | .ok text => remoteApiError providerName response.status text
  | .error error => error

/-- `text === undefined ? await response.json() : JSON.parse(text)`. -/
def readJson (providerName : String) (response : Response) : Except Thrown Unknown := do
  match ← readCappedResponseText response providerName with
  | none => response.json
  | some text => okOr (Runtime.jsonParse text) (.builtin "SyntaxError")

/-- `fetchSignerJson`, with a signal or without one. -/
def fetchSignerJson (abortSignal : Bool) (providerName : String) (request : FetchRequest) :
    FetchProg Unknown := do
  throwIfAborted abortSignal
  let moment ← ask (.fetch request)
  match moment.fetched with
  | .error error => do
    throwIfAborted abortSignal
    fail (.create .httpError {
      cause := some error
      message := some (providerName ++ " network request failed" : String)
      url := some request.url })
  | .ok response =>
    if Reply.isSuccess response.status then
      match readJson providerName response with
      | .ok value => pure value
      | .error error =>
        if error.isSignerError then fail error
        else do
          throwIfAborted abortSignal
          fail (.create .parsingError {
            cause := some error
            message := some ("Failed to parse " ++ providerName ++ " response" : String) })
    else
      fail (verdict providerName response)

end

section

variable {R : Ask → Prop} {abortSignal : Bool}

theorem asks_throwIfAborted (look : R .look) : (throwIfAborted abortSignal).Asks R := by
  unfold throwIfAborted
  split
  · refine (asks_ask look).bind fun moment => ?_
    cases moment.reason with
    | some reason => exact asks_fail
    | none => exact asks_pure
  · exact asks_pure

theorem asks_abortableDelay (look : R .look) : (abortableDelay abortSignal).Asks R :=
  (asks_throwIfAborted look).bind fun _ => asks_throwIfAborted look

theorem asks_fetchSignerJson [Runtime] {providerName : String} {request : FetchRequest}
    (look : R .look) (fetches : R (.fetch request)) :
    (fetchSignerJson abortSignal providerName request).Asks R := by
  refine (asks_throwIfAborted look).bind fun _ => (asks_ask fetches).bind fun moment => ?_
  cases moment.fetched with
  | error e => exact (asks_throwIfAborted look).bind fun _ => asks_fail
  | ok response =>
    dsimp only
    split
    · cases readJson providerName response with
      | ok value => exact asks_pure
      | error e =>
        dsimp only
        split
        · exact asks_fail
        · exact (asks_throwIfAborted look).bind fun _ => asks_fail
    · exact asks_fail

end

/-! ## What an error tells -/

/-- Nothing that the reading of a body throws is taken for the verdict of a provider. -/
structure Response.Foreign (response : Response) : Prop where
  body : ∀ reader error, response.body = some reader → reader.failure = some error →
    providerMayHaveAccepted error
  text : ∀ error, response.text = .error error → providerMayHaveAccepted error
  json : ∀ error, response.json = .error error → providerMayHaveAccepted error

/-- Nor is the reason of the abort signal. Only a caller who aborts with an error of an earlier
request breaks this. -/
structure Moment.Foreign (moment : Moment) : Prop where
  reason : ∀ error, moment.reason = some error → providerMayHaveAccepted error
  fetched : ∀ response, moment.fetched = .ok response → response.Foreign

section

variable [Runtime] {answers : ℕ → Moment} {w : World Ask Moment Unit} {providerName : String}
variable {request : FetchRequest} {response : Response} {error : Thrown} {abortSignal : Bool}

omit [Runtime] in
/-- The size of a body that is read by chunks decides before its end does. -/
theorem readChunks_eq {tooLarge : Thrown} {failure : Option Thrown} {bytes : Bytes}
    {chunks : List Bytes} (fits : bytes.length ≤ maxResponseBytes) :
    readChunks tooLarge failure bytes chunks =
      if maxResponseBytes < bytes.length + chunks.flatten.length then .error tooLarge
      else match failure with
        | some error => .error error
        | none => .ok (bytes ++ chunks.flatten) := by
  induction chunks generalizing bytes with
  | nil => simp [readChunks, Nat.not_lt.mpr fits]
  | cons value chunks ih =>
    rw [readChunks]
    by_cases oversize : maxResponseBytes < (bytes ++ value).length
    · have total : maxResponseBytes < bytes.length + (value :: chunks).flatten.length := by
        simp only [List.flatten_cons, List.length_append] at oversize ⊢
        omega
      rw [if_pos oversize, if_pos total]
    · rw [if_neg oversize, ih (Nat.not_lt.mp oversize)]
      simp [Nat.add_assoc]

/-- The body breaks off with this error before it exceeds the cap. -/
def Response.BreaksOff (response : Response) (error : Thrown) : Prop :=
  response.announcesTooMuch = false ∧
    match response.body with
    | some reader => reader.chunks.flatten.length ≤ maxResponseBytes ∧ reader.failure = some error
    | none => response.text = .error error

/-- A response is read through its stream, within the cap and up to what breaks it off. -/
theorem readCappedResponseText_eq (quiet : response.announcesTooMuch = false) {reader : BodyReader}
    (body : response.body = some reader) :
    readCappedResponseText response providerName =
      if maxResponseBytes < reader.chunks.flatten.length then
        .error (responseTooLarge providerName response.status)
      else match reader.failure with
        | some error => .error error
        | none => .ok (some (Runtime.textDecode reader.chunks.flatten)) := by
  unfold readCappedResponseText
  simp only [quiet, body, Bool.false_eq_true, if_false]
  rw [readChunks_eq (Nat.zero_le _)]
  simp only [List.length_nil, Nat.zero_add, List.nil_append]
  split
  · rfl
  · cases reader.failure <;> rfl

theorem readCappedResponseText_eq_error
    (failed : readCappedResponseText response providerName = .error error) :
    error = responseTooLarge providerName response.status ∨ response.BreaksOff error := by
  cases quiet : response.announcesTooMuch with
  | true =>
    rw [readCappedResponseText, if_pos quiet] at failed
    cases failed
    exact .inl rfl
  | false =>
    cases body : response.body with
    | none => simp [readCappedResponseText, quiet, body] at failed
    | some reader =>
      rw [readCappedResponseText_eq quiet body] at failed
      split at failed
      · cases failed
        exact .inl rfl
      · next fits =>
        cases broken : reader.failure with
        | none => simp [broken] at failed
        | some e =>
          rw [broken] at failed
          cases failed
          refine .inr ⟨quiet, ?_⟩
          rw [body]
          exact ⟨Nat.not_lt.mp fits, broken⟩

theorem bodyText_of_breaksOff (breaksOff : response.BreaksOff error) :
    bodyText response providerName = .error error := by
  obtain ⟨quiet, breaks⟩ := breaksOff
  unfold bodyText
  cases body : response.body with
  | none =>
    rw [body] at breaks
    have read : readCappedResponseText response providerName = .ok none := by
      simp [readCappedResponseText, quiet, body]
    rw [read]
    exact breaks
  | some reader =>
    rw [body] at breaks
    rw [readCappedResponseText_eq quiet body, if_neg (Nat.not_lt.mpr breaks.1), breaks.2]
    rfl

theorem bodyText_eq_error (failed : bodyText response providerName = .error error) :
    error = responseTooLarge providerName response.status ∨ response.BreaksOff error := by
  rcases bind_eq_error.mp failed with early | ⟨text, read, late⟩
  · exact readCappedResponseText_eq_error early
  · cases text with
    | some text => cases late
    | none =>
      cases quiet : response.announcesTooMuch with
      | true =>
        rw [readCappedResponseText, if_pos quiet] at read
        cases read
      | false =>
        cases body : response.body with
        | some reader =>
          rw [readCappedResponseText_eq quiet body] at read
          split at read
          · cases read
          · cases broken : reader.failure <;> simp [broken] at read
        | none =>
          refine .inr ⟨quiet, ?_⟩
          rw [body]
          exact late

theorem Response.Foreign.of_breaksOff (foreign : response.Foreign)
    (breaksOff : response.BreaksOff error) : providerMayHaveAccepted error := by
  obtain ⟨-, breaks⟩ := breaksOff
  cases body : response.body with
  | none =>
    rw [body] at breaks
    exact foreign.text _ breaks
  | some reader =>
    rw [body] at breaks
    exact foreign.body _ _ body breaks.2

omit [Runtime] in
theorem providerMayHaveAccepted_responseTooLarge {status : ℕ} :
    providerMayHaveAccepted (responseTooLarge providerName status) = !Reply.isRejection status :=
  providerMayHaveAccepted_recorded rfl

theorem providerMayHaveAccepted_remoteApiError {status : ℕ} {text : JsString} :
    providerMayHaveAccepted (remoteApiError providerName status text) =
      !Reply.isRejection status :=
  providerMayHaveAccepted_recorded rfl

/-- What is thrown for a response that is not `ok` rules the transaction out only if its status
does, and reports that status. -/
theorem isRejection_of_verdict (foreign : response.Foreign)
    (refused : providerMayHaveAccepted (verdict providerName response) = false) :
    Reply.isRejection response.status ∧ (verdict providerName response).unconfirmed? = none ∧
      providerStatus (verdict providerName response) = some response.status := by
  unfold verdict at refused ⊢
  split at refused
  · rw [providerMayHaveAccepted_remoteApiError] at refused
    exact ⟨by simpa using refused, rfl, rfl⟩
  · next e unread =>
    unfold errorText at unread
    split at unread
    · cases unread
    · next read =>
      split at unread
      · cases unread
        rcases bodyText_eq_error read with rfl | breaksOff
        · rw [providerMayHaveAccepted_responseTooLarge] at refused
          exact ⟨by simpa using refused, rfl, rfl⟩
        · rw [foreign.of_breaksOff breaksOff] at refused
          cases refused
      · cases unread

variable (providerName) in
/-- Only a `SignerError` that breaks the body off takes the place of the verdict on a rejection. -/
theorem providerMayHaveAccepted_verdict_iff (foreign : response.Foreign)
    (rejected : Reply.isRejection response.status) :
    providerMayHaveAccepted (verdict providerName response) ↔
      ∃ e, response.BreaksOff e ∧ e.isSignerError := by
  unfold verdict errorText
  constructor
  · intro possible
    cases read : bodyText response providerName with
    | ok text => simp [read, providerMayHaveAccepted_remoteApiError, rejected] at possible
    | error e =>
      cases signer : e.isSignerError with
      | false =>
        simp [read, signer, providerMayHaveAccepted_remoteApiError, rejected] at possible
      | true =>
        rcases bodyText_eq_error read with rfl | breaksOff
        · simp [read, signer, providerMayHaveAccepted_responseTooLarge, rejected] at possible
        · exact ⟨e, breaksOff, signer⟩
  · intro broken
    obtain ⟨e, breaksOff, signer⟩ := broken
    simp only [bodyText_of_breaksOff breaksOff, signer, if_true]
    exact foreign.of_breaksOff breaksOff

/-- What keeps the value of a successful response from being read rules nothing out. -/
theorem providerMayHaveAccepted_of_readJson (foreign : response.Foreign)
    (success : Reply.isSuccess response.status)
    (unread : readJson providerName response = .error error) : providerMayHaveAccepted error := by
  have fine : Reply.isRejection response.status = false := by
    rw [Bool.eq_false_iff]
    intro rejected
    rw [Reply.not_isSuccess_of_isRejection rejected] at success
    cases success
  rcases bind_eq_error.mp unread with early | ⟨text, -, late⟩
  · rcases readCappedResponseText_eq_error early with rfl | breaksOff
    · rw [providerMayHaveAccepted_responseTooLarge, fine]
      rfl
    · exact foreign.of_breaksOff breaksOff
  · cases text with
    | none => exact foreign.json _ late
    | some text =>
      dsimp only at late
      cases parsed : Runtime.jsonParse text with
      | some value => simp [parsed, okOr] at late
      | none =>
        simp only [parsed, okOr] at late
        cases late
        rfl

/-! ## Calls -/

/-- The abort signal fires for this reason. -/
def Aborts (answers : ℕ → Moment) (reason : Thrown) : Prop := ∃ i, (answers i).reason = some reason

/-- No value is read from what `fetch` ended with, although no verdict is. -/
def Unreadable (providerName : String) : Except Thrown Response → Prop
  | .error _ => True
  | .ok response => Reply.isSuccess response.status ∧ ∃ e, readJson providerName response = .error e

/-- What can be thrown for a request, by what `fetch` ended with. -/
inductive Failed (answers : ℕ → Moment) (providerName : String) :
    Except Thrown Response → Thrown → Prop
  | refused {response : Response} : Reply.isSuccess response.status = false →
    Failed answers providerName (.ok response) (verdict providerName response)
  | unread {response : Response} {error : Thrown} : Reply.isSuccess response.status →
    readJson providerName response = .error error → Failed answers providerName (.ok response) error
  | aborted {fetched : Except Thrown Response} {reason : Thrown} : Unreadable providerName fetched →
    Aborts answers reason → Failed answers providerName fetched reason
  | created {fetched : Except Thrown Response} {code : Batch.SignerErrorCode}
      {context : Context Thrown} : Unreadable providerName fetched →
    Failed answers providerName fetched (.create code context)

/-- An error that rules the transaction out was thrown for a response that does. -/
theorem Failed.isRejection (foreign : ∀ i, (answers i).Foreign) {i : ℕ}
    (failed : Failed answers providerName (answers i).fetched error)
    (refused : providerMayHaveAccepted error = false) :
    (∃ response, (answers i).fetched = .ok response ∧ Reply.isRejection response.status) ∧
      error.unconfirmed? = none := by
  generalize fetched : (answers i).fetched = outcome at failed
  cases failed with
  | refused =>
    obtain ⟨rejected, plain, -⟩ := isRejection_of_verdict ((foreign i).fetched _ fetched) refused
    exact ⟨⟨_, rfl, rejected⟩, plain⟩
  | unread success unread =>
    have whole := (foreign i).fetched _ fetched
    rw [providerMayHaveAccepted_of_readJson whole success unread] at refused
    cases refused
  | aborted _ aborts =>
    obtain ⟨j, fired⟩ := aborts
    rw [(foreign j).reason _ fired] at refused
    cases refused
  | created => cases refused

/-- The value of a successful response is returned. -/
theorem Failed.readJson_ne_ok {value : Unknown}
    (failed : Failed answers providerName (.ok response) error)
    (success : Reply.isSuccess response.status) : readJson providerName response ≠ .ok value := by
  intro read
  cases failed with
  | refused unsuccessful =>
    rw [success] at unsuccessful
    cases unsuccessful
  | unread _ unread => cases read.symm.trans unread
  | aborted unreadable =>
    obtain ⟨-, e, unread⟩ := unreadable
    cases read.symm.trans unread
  | created unreadable =>
    obtain ⟨-, e, unread⟩ := unreadable
    cases read.symm.trans unread

/-- The error of a response that is not `ok` is the verdict on it. -/
theorem Failed.eq_verdict (failed : Failed answers providerName (.ok response) error)
    (unsuccessful : Reply.isSuccess response.status = false) :
    error = verdict providerName response := by
  have absurd : Reply.isSuccess response.status = true → False := by
    intro success
    rw [success] at unsuccessful
    cases unsuccessful
  cases failed with
  | refused => rfl
  | unread success => exact (absurd success).elim
  | aborted unreadable => exact (absurd unreadable.1).elim
  | created unreadable => exact (absurd unreadable.1).elim

section

variable {failed : Thrown → World Ask Moment Unit → Prop}

omit [Runtime] in
theorem throwIfAborted_meets {done : Unit → World Ask Moment Unit → Prop}
    (goesOn : ∀ w', exchanges w'.log = exchanges w.log → done () w')
    (aborts : ∀ w' reason, exchanges w'.log = exchanges w.log → Aborts answers reason →
      failed reason w') :
    (throwIfAborted abortSignal).Meets answers w done failed := by
  have silent : exchanges (w.heard .look (answers w.asked)).log = exchanges w.log := by
    simp [exchanges]
  unfold throwIfAborted
  split
  · rw [meets_bind, meets_ask]
    cases fired : (answers w.asked).reason with
    | some reason => exact aborts _ _ silent ⟨_, fired⟩
    | none => exact goesOn _ silent
  · exact goesOn _ rfl

/-- A call makes at most one request and hands back its value, or throws what `Failed` allows. -/
theorem fetchSignerJson_meets {done : Unknown → World Ask Moment Unit → Prop}
    (returns : ∀ w' response value,
      exchanges w'.log = exchanges w.log ++ [(request, .ok response)] →
      Reply.isSuccess response.status → readJson providerName response = .ok value →
      done value w')
    (unsent : ∀ w' reason, exchanges w'.log = exchanges w.log → Aborts answers reason →
      failed reason w')
    (fails : ∀ w' i error, exchanges w'.log = exchanges w.log ++ [(request, (answers i).fetched)] →
      Failed answers providerName (answers i).fetched error → failed error w') :
    (fetchSignerJson abortSignal providerName request).Meets answers w done failed := by
  rw [fetchSignerJson, meets_bind]
  refine throwIfAborted_meets ?_ unsent
  intro w₁ before
  rw [meets_bind, meets_ask]
  have sent : exchanges (w₁.heard (.fetch request) (answers w₁.asked)).log =
      exchanges w.log ++ [(request, (answers w₁.asked).fetched)] := by
    rw [World.heard_log, exchanges_append, before]
    rfl
  -- What is thrown when no verdict was reached: the reason of the signal, else an own error.
  have raises : ∀ code context, Unreadable providerName (answers w₁.asked).fetched →
      (throwIfAborted abortSignal >>= fun _ =>
        fail (.create code context) : FetchProg Unknown).Meets
        answers (w₁.heard (.fetch request) (answers w₁.asked)) done failed := by
    intro code context unreadable
    rw [meets_bind]
    refine throwIfAborted_meets ?_ ?_
    · intro w₂ silent
      exact fails w₂ w₁.asked _ (silent.trans sent) (.created unreadable)
    · intro w₂ reason silent aborts
      exact fails w₂ w₁.asked reason (silent.trans sent) (.aborted unreadable aborts)
  have failing := fails (w₁.heard (.fetch request) (answers w₁.asked)) w₁.asked
  cases fetched : (answers w₁.asked).fetched with
  | error e =>
    rw [fetched] at raises
    exact raises _ _ trivial
  | ok response =>
    rw [fetched] at raises sent failing
    dsimp only
    split
    · next success =>
      cases read : readJson providerName response with
      | ok value => exact returns _ response value sent success read
      | error e =>
        dsimp only
        split
        · exact failing e sent (.unread success read)
        · exact raises _ _ ⟨success, e, read⟩
    · next unsuccessful =>
      exact failing _ sent (.refused (Bool.eq_false_iff.mpr unsuccessful))

end

end

end Keychain.TypeScript
