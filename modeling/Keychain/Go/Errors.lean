import Keychain.Broadcast

/-!
`core/errors.go`: the error type of every Go signer, the classification of a
failed create, and the cleaning of remote text before it enters a detail.

A Go `error` is known to the signers by its text and by the first `*SignerError`
that `errors.As` finds in its chain; `Error` keeps these two. The wrapped cause of
a `SignerError` is never read again and is left out.
-/

namespace Keychain.Go

inductive Code where
  | configError
  | expectedSolanaSigner
  | httpError
  | invalidPrivateKey
  | invalidPublicKey
  | ioError
  | notAvailable
  | parsingError
  | remoteAPIError
  | serializationError
  | notInitialized
  | signingFailed
  | broadcastUnconfirmed
  | other
  deriving DecidableEq

/-- The fixed message of a code; a detail never enters it. -/
def Code.message : Code → String
  | .configError => "Configuration error"
  | .expectedSolanaSigner => "Expected a Solana signer"
  | .httpError => "HTTP request failed"
  | .invalidPrivateKey => "Invalid private key format"
  | .invalidPublicKey => "Invalid public key"
  | .ioError => "IO error"
  | .notAvailable => "Signer not available"
  | .parsingError => "Parsing error"
  | .remoteAPIError => "Remote API error"
  | .serializationError => "Serialization error"
  | .notInitialized => "Signer not initialized"
  | .signingFailed => "Signing failed"
  | .broadcastUnconfirmed =>
    "Broadcast unconfirmed; the provider may have executed the transaction"
  | .other => "Signer error"

/-- The fields the sending signers set; an unset text is empty and an unset
status is zero. -/
structure SignerError where
  code : Code
  providerTxID : String
  providerStatus : ℕ
  idempotencyKey : String
  detail : String
  deriving DecidableEq

namespace SignerError

def error (e : SignerError) : String :=
  if e.providerTxID ≠ "" then
    e.code.message ++ " (provider transaction id: " ++ e.providerTxID ++ ")"
  else
    e.code.message

end SignerError

/-- A Go `error`. -/
structure Error where
  text : String
  /-- What `errors.As` finds for a `*SignerError`. -/
  asSignerError : Option SignerError
  deriving DecidableEq

/-- A `*SignerError` as an `error`. -/
def SignerError.toError (e : SignerError) : Error := ⟨e.error, some e⟩

/-- `NewSignerError`; `WrapSignerError` differs in the cause only. -/
def newSignerError (code : Code) (detail : String) : Error :=
  SignerError.toError ⟨code, "", 0, "", detail⟩

def newBroadcastUnconfirmedError (providerTxID detail : String) : SignerError :=
  ⟨.broadcastUnconfirmed, providerTxID, 0, "", detail⟩

namespace Error

/-- The detail of a signer error, and the text of any other. -/
def detail (err : Error) : String :=
  match err.asSignerError with
  | some se => se.detail
  | none => err.text

/-- `CodeOf`. -/
def codeOf (err : Error) : Option Code := err.asSignerError.map SignerError.code

/-- The empty text stands for an absent one. -/
def present (text : String) : Option String := if text = "" then none else some text

theorem present_of_ne {text : String} (named : text ≠ "") : present text = some text :=
  if_neg named

/-- The outcome an error of code `broadcastUnconfirmed` reports. -/
def unconfirmed? (err : Error) : Option Broadcast.Outcome :=
  (err.asSignerError.filter (·.code = .broadcastUnconfirmed)).map fun se =>
    ⟨present se.providerTxID, present se.idempotencyKey⟩

theorem unconfirmed?_toError_of_ne {se : SignerError} (other : se.code ≠ .broadcastUnconfirmed) :
    se.toError.unconfirmed? = none := by
  simp [unconfirmed?, SignerError.toError, Option.filter, other]

@[simp] theorem unconfirmed?_newSignerError {code : Code} {detail : String}
    (other : code ≠ .broadcastUnconfirmed) : (newSignerError code detail).unconfirmed? = none :=
  unconfirmed?_toError_of_ne other

end Error

/-- Reports a failed create as unconfirmed unless a 4xx other than 408 rules the
transaction out; `status` is 0 when no response arrived. -/
def unconfirmedUnlessRejected (status : ℕ) (providerTxID idempotencyKey : String) (err : Error) :
    Error :=
  if 400 ≤ status ∧ status < 500 ∧ status ≠ 408 then
    err
  else
    SignerError.toError {
      code := .broadcastUnconfirmed
      providerTxID
      providerStatus := if 400 ≤ status then status else 0
      idempotencyKey
      detail := err.detail }

def newNotInitializedError (backend : String) : Error :=
  newSignerError .notInitialized (backend ++ " signer is not initialized")

section

variable {status : ℕ} {providerTxID idempotencyKey : String} {err : Error}

theorem unconfirmedUnlessRejected_of_isRejection (rejected : Reply.isRejection status) :
    unconfirmedUnlessRejected status providerTxID idempotencyKey err = err := by
  have guard : 400 ≤ status ∧ status < 500 ∧ status ≠ 408 := by
    simpa [Reply.isRejection, and_assoc] using rejected
  rw [unconfirmedUnlessRejected, if_pos guard]

theorem unconfirmedUnlessRejected_of_not_isRejection
    (unresolved : Reply.isRejection status = false) :
    unconfirmedUnlessRejected status providerTxID idempotencyKey err =
      SignerError.toError ⟨.broadcastUnconfirmed, providerTxID,
        if 400 ≤ status then status else 0, idempotencyKey, err.detail⟩ := by
  have guard : ¬ (400 ≤ status ∧ status < 500 ∧ status ≠ 408) := by
    intro inRange
    have rejected : Reply.isRejection status = true := by
      simpa [Reply.isRejection, and_assoc] using inRange
    rw [unresolved] at rejected
    cases rejected
  rw [unconfirmedUnlessRejected, if_neg guard]

/-- A create that was not rejected is unconfirmed under the key it was sent with. -/
theorem unconfirmed?_of_not_isRejection (unresolved : Reply.isRejection status = false) :
    (unconfirmedUnlessRejected status providerTxID idempotencyKey err).unconfirmed? =
      some ⟨Error.present providerTxID, Error.present idempotencyKey⟩ := by
  rw [unconfirmedUnlessRejected_of_not_isRejection unresolved]
  rfl

/-- A classified failure is unconfirmed under the key of the create, as long as a
rejection is not itself unconfirmed. -/
theorem key_of_unconfirmedUnlessRejected {outcome : Broadcast.Outcome}
    (unconfirmed : (unconfirmedUnlessRejected status providerTxID idempotencyKey err).unconfirmed? =
      some outcome)
    (plain : Reply.isRejection status → err.unconfirmed? = none) (named : idempotencyKey ≠ "") :
    outcome.idempotencyKey = some idempotencyKey := by
  cases rejected : Reply.isRejection status with
  | true =>
    rw [unconfirmedUnlessRejected_of_isRejection rejected, plain rejected] at unconfirmed
    cases unconfirmed
  | false =>
    rw [unconfirmed?_of_not_isRejection rejected] at unconfirmed
    cases unconfirmed
    exact Error.present_of_ne named

end

/-! ## Computations that report no broadcast -/

section

variable {α β : Type}

/-- The computation does not fail as an unconfirmed broadcast. -/
def Plain (x : Except Error α) : Prop := ∀ err, x = .error err → err.unconfirmed? = none

theorem plain_ok {a : α} : Plain (.ok a) := by
  intro err failed
  cases failed

theorem plain_error {err : Error} (plain : err.unconfirmed? = none) :
    Plain (.error err : Except Error α) := by
  intro err' failed
  cases failed
  exact plain

theorem Plain.bind {x : Except Error α} {f : α → Except Error β} (first : Plain x)
    (next : ∀ a, Plain (f a)) : Plain (x >>= f) := by
  intro err failed
  rcases bind_eq_error.mp failed with early | ⟨a, -, late⟩
  · exact first err early
  · exact next a err late

theorem plain_require {p : Prop} [Decidable p] {err : Error} (plain : err.unconfirmed? = none) :
    Plain (require p err) := by
  intro err' failed
  obtain ⟨-, rfl⟩ := require_eq_error.mp failed
  exact plain

theorem plain_mapError {ε : Type} {x : Except ε α} {f : ε → Error}
    (plain : ∀ e, (f e).unconfirmed? = none) : Plain (x.mapError f) := by
  intro err failed
  obtain ⟨e, -, rfl⟩ := mapError_eq_error.mp failed
  exact plain e

end

/-! ## Remote text -/

/-- The runes that a `range` over these bytes yields: a byte that starts no
well-formed sequence reads as U+FFFD. -/
def runesFrom (bytes : ByteArray) : ℕ → ℕ → List Char
  | 0, _ => []
  | fuel + 1, i =>
    if i < bytes.size then
      match bytes.utf8DecodeChar? i with
      | some c => c :: runesFrom bytes fuel (i + c.utf8Size)
      | none => Char.ofNat 0xFFFD :: runesFrom bytes fuel (i + 1)
    else
      []

def runes (bytes : Bytes) : List Char := runesFrom ⟨bytes.toArray⟩ bytes.length 0

def isDisallowedASCIIControl (r : Char) : Bool :=
  let n := r.toNat
  n ≤ 0x08 || n = 0x0b || n = 0x0c || (0x0e ≤ n && n ≤ 0x1f) || n = 0x7f

/-- The characters of `whitespaceRun`: `\s`, `\p{Zs}`, U+2028, U+2029 and U+FEFF. -/
def inWhitespaceRun (r : Char) : Bool :=
  let n := r.toNat
  n = 0x09 || n = 0x0a || n = 0x0c || n = 0x0d || n = 0x20 || n = 0xA0 || n = 0x1680 ||
    (0x2000 ≤ n && n ≤ 0x200A) || n = 0x202F || n = 0x205F || n = 0x3000 ||
    n = 0x2028 || n = 0x2029 || n = 0xFEFF

/-- Every run of whitespace becomes one space. -/
def collapseWhitespace : Bool → List Char → List Char
  | _, [] => []
  | inRun, r :: rest =>
    if inWhitespaceRun r then
      if inRun then collapseWhitespace true rest else ' ' :: collapseWhitespace true rest
    else
      r :: collapseWhitespace false rest

def sanitizeRemoteResponseN (responseText : List Char) (maxLength : ℕ) : String :=
  let printable := responseText.map fun r => if isDisallowedASCIIControl r then ' ' else r
  let normalized := trimSpace (String.ofList (collapseWhitespace false printable))
  if normalized = "" then
    "[empty remote response]"
  else if normalized.length ≤ maxLength then
    normalized
  else
    String.ofList (normalized.toList.take maxLength) ++ " [truncated]"

/-- `defaultRemoteErrorResponseMaxLength` is 256. -/
def sanitizeRemoteResponse (responseText : List Char) : String :=
  sanitizeRemoteResponseN responseText 256

end Keychain.Go
