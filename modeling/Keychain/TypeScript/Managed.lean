import Keychain.Solana
import Keychain.TypeScript.Crossmint
import Keychain.TypeScript.Http

/-!
What the sending signers in TypeScript share: reading values of unknown shape, the helpers of
`core/utils.ts`, and the two catch blocks around a create and around what follows it.

`Kept` is what such a signer promises about one transaction, over the exchanges of a run.
`broadcastManaged_kept` reduces it to the function that judges the value of a create and to
the requests that follow.
-/

namespace Keychain.TypeScript

open Prog

/-! ## Values of unknown shape -/

def undefined : Unknown := .number .undefined

/-- `value?.key`. The keys of the providers are no inherited properties. -/
def optionalProperty (value : Unknown) (key : String) : Unknown :=
  (value.get (key : JsString)).getD undefined

/-- `value.key`. -/
def property (value : Unknown) (key : String) : Except Thrown Unknown :=
  match value with
  | .null => .error (.builtin "TypeError")
  | .number .undefined => .error (.builtin "TypeError")
  | value => .ok (optionalProperty value key)

theorem property_eq_ok {value read : Unknown} {key : String}
    (given : property value key = .ok read) :
    optionalProperty value key = read := by
  unfold property at given
  split at given
  · cases given
  · cases given
  · cases given
    rfl

theorem property_eq_error {value : Unknown} {key : String} {error : Thrown}
    (failed : property value key = .error error) : optionalProperty value key = undefined := by
  unfold property at failed
  split at failed
  · rfl
  · rfl
  · cases failed

theorem providerMayHaveAccepted_of_property {value : Unknown} {key : String} {error : Thrown}
    (failed : property value key = .error error) : providerMayHaveAccepted error := by
  unfold property at failed
  split at failed
  · cases failed
    rfl
  · cases failed
    rfl
  · cases failed

/-- `!!value`. No `NaN` is parsed from JSON. -/
def isTruthy : Unknown → Bool
  | .null => false
  | .bool value => value
  | .string value => !value.codeUnits.isEmpty
  | .number (.number (.safe value)) => value != 0
  | .number .undefined => false
  | _ => true

mutual

/-- `JSON.stringify(value)`; `none` is `undefined`. -/
def jsonStringify : Unknown → Option JsString
  | .null => some "null"
  | .bool value => some (if value then "true" else "false")
  | .string value => some (stringifyString value)
  | .number (.number value) => some (stringifyNumber value)
  | .number _ => none
  | .array value => some ("[" ++ JsString.join "," (jsonStringifyItems value) ++ "]")
  | .object value => some ("\x7b" ++ JsString.join "," (jsonStringifyMembers value) ++ "\x7d")

def jsonStringifyItems : List Unknown → List JsString
  | [] => []
  | item :: items => (jsonStringify item).getD "null" :: jsonStringifyItems items

/-- A member without a text is left out. -/
def jsonStringifyMembers : List (JsString × Unknown) → List JsString
  | [] => []
  | (key, value) :: members =>
    match jsonStringify value with
    | some text => (stringifyString key ++ ":" ++ text) :: jsonStringifyMembers members
    | none => jsonStringifyMembers members

end

/-- The text of a value that has one. -/
def stringified (value : Unknown) : JsString := (jsonStringify value).getD "undefined"

/-- A surrogate without its partner is a `URIError`. -/
def encodeURIComponent (text : JsString) : Except Thrown JsString :=
  if JsString.ofString text.toWellFormed = text then
    .ok (percentEncode "-_.!~*'()" (textEncode text))
  else
    .error (.builtin "URIError")

/-! ## Kit -/

structure Transaction where
  messageBytes : Bytes
  /-- the signatures by address, `null` where one is missing -/
  signatures : List (JsString × Option Bytes)

structure CompiledTransactionMessage where
  numSignerAccounts : ℕ
  staticAccounts : List JsString

/-- What the code takes from kit, `@noble/curves` and `node:crypto`. -/
class Kit where
  sha256 : Bytes → { digest : Bytes // digest.length = 32 }
  /-- `getBase64Encoder().encode` -/
  base64Encode : JsString → Except Thrown Bytes
  /-- `getBase64Decoder().decode` -/
  base64Decode : Bytes → JsString
  getAddressEncoder : JsString → Except Thrown Bytes
  /-- `ed25519.verify(signature, message, publicKey)` -/
  verify : Bytes → Bytes → Bytes → Except Thrown Bool
  getBase64EncodedWireTransaction : Transaction → Except Thrown JsString
  /-- `getTransactionDecoder().decode` -/
  decodeTransaction : Bytes → Except Thrown Transaction
  /-- `getCompiledTransactionMessageDecoder().decode` -/
  decodeMessage : Bytes → Except Thrown CompiledTransactionMessage
  getSignatureFromTransaction : Transaction → Except Thrown JsString

section

variable [Kit]

/-- A UUID derived from the SHA-256 of the message bytes. -/
def idempotencyKeyFromMessage (messageBytes : Bytes) : JsString :=
  let digest := (Kit.sha256 messageBytes).val.take 16
  let digest := digest.modify 6 fun byte => (byte &&& 0x0f) ||| 0x40
  let digest := digest.modify 8 fun byte => (byte &&& 0x3f) ||| 0x80
  let hex := digest.flatMap hexDigits
  let slice (first last : ℕ) : String := String.ofList ((hex.take last).drop first)
  (slice 0 8 ++ "-" ++ slice 8 12 ++ "-" ++ slice 12 16 ++ "-" ++ slice 16 20 ++ "-" ++
    slice 20 32 : String)

def assertSignatureValid (data signature : Bytes) (signerAddress : JsString) :
    Except Thrown Unit := do
  let addressBytes ← Kit.getAddressEncoder signerAddress
  match Kit.verify signature data addressBytes with
  | .error error => .error (.create .signingFailed {
      address := some signerAddress
      cause := some error
      message := some "Signature verification threw unexpectedly: " })
  | .ok false => .error (.create .signingFailed {
      address := some signerAddress
      message := some ("Signature verification failed: returned signature does not match " ++
        "public key and signed data" : String) })
  | .ok true => .ok ()

/-- `getBase64Encoder().encode(value)`, which asks its argument for the methods of a string. -/
def base64Bytes : Unknown → Except Thrown Bytes
  | .string value => Kit.base64Encode value
  | _ => .error (.builtin "TypeError")

end

/-! ## Classification -/

/-- The id of a value, when it is a string that is not blank. -/
def providerTransactionIdOf (payload : Unknown) : Option JsString :=
  match optionalProperty payload "id" with
  | .string id => if id.isBlank then none else some id
  | _ => none

/-- The catch block around a create. -/
def unconfirmedCreate (started : String) (idempotencyKey : JsString) (error : Thrown) : Thrown :=
  if providerMayHaveAccepted error then
    .create .broadcastUnconfirmed {
      cause := some error
      idempotencyKey := some idempotencyKey
      message := some (match error.providerTransactionId with
        | some id => (started ++ " the transaction, but the outcome could not be confirmed " ++
          "(provider transaction id: " : String) ++ id ++ ")"
        | none => (started ++ " the transaction, but no transaction id was returned" : String))
      status := providerStatus error
      providerTransactionId := error.providerTransactionId }
  else
    error

/-- The catch block around what follows an accepted create. -/
def unconfirmedFinish (providerName : String) (idempotencyKey id : JsString) (error : Thrown) :
    Thrown :=
  .create .broadcastUnconfirmed {
    cause := some error
    idempotencyKey := some idempotencyKey
    message := some ((providerName ++ " may have executed the transaction, but the outcome " ++
      "could not be confirmed (provider transaction id: " : String) ++ id ++ ")")
    providerTransactionId := some id }

section

variable [Runtime]

/-- A create: form the request, fetch its value and judge it. -/
def submission {ι : Type} (abortSignal : Bool) (providerName : String)
    (form : Except Thrown FetchRequest) (parse : Unknown → Except Thrown ι) : FetchProg ι := do
  let request ← ofExcept form
  let value ← fetchSignerJson abortSignal providerName request
  ofExcept (parse value)

end

/-- A create and what follows it, each in its catch block. -/
def broadcastManaged {ι : Type} (providerName started : String) (idempotencyKey : JsString)
    (idOf : ι → JsString) (create : FetchProg ι) (finish : ι → FetchProg Bytes) :
    FetchProg Bytes := do
  let created ← create.mapError (unconfirmedCreate started idempotencyKey)
  (finish created).mapError (unconfirmedFinish providerName idempotencyKey (idOf created))

/-! ## The promise -/

section

variable [Runtime]

/-- The id under which a response to a create leaves a transaction behind, as far as it names
one: that of its value, or of the body of a failure which rules nothing out. -/
def acceptedId (providerName : String) (response : Response) : Option JsString :=
  if Reply.isSuccess response.status then
    (readJson providerName response).toOption.bind providerTransactionIdOf
  else if Reply.isRejection response.status then
    none
  else
    (errorText response providerName).toOption.bind transactionIdInBody

/-- What a sending signer promises about one transaction. -/
structure Kept (providerName : String) (isCreate : FetchRequest → Bool) (header : String)
    (made : List (FetchRequest × Except Thrown Response)) (result : Except Thrown Bytes) :
    Prop where
  /-- A run creates at most one transaction. -/
  single : (made.filter fun exchange => isCreate exchange.1).length ≤ 1
  /-- An error that is no `BROADCAST_UNCONFIRMED` is definite. -/
  definite : ∀ error, result = .error error → error.unconfirmed? = none →
    (∀ exchange ∈ made, isCreate exchange.1 = false) ∨
      ∃ request response, (request, .ok response) ∈ made ∧ isCreate request ∧
        Reply.isRejection response.status
  /-- After an accepted create every error names the accepted transaction. -/
  accepted : ∀ request response id, (request, .ok response) ∈ made → isCreate request →
    acceptedId providerName response = some id → ∀ error, result = .error error →
    ∃ context, error.unconfirmed? = some context ∧ context.providerTransactionId = some id
  /-- A `BROADCAST_UNCONFIRMED` carries the key its create went out under. -/
  keyed : ∀ request fetched, (request, fetched) ∈ made → isCreate request →
    ∀ error context, result = .error error → error.unconfirmed? = some context →
    ∃ key, request.headers.lookup header = some key ∧ context.idempotencyKey = some key

/-- A rejected create is reported as such, with its status, whatever its body: only a body that
breaks off with a `SignerError` hides it. -/
def RejectionsReported (isCreate : FetchRequest → Bool)
    (made : List (FetchRequest × Except Thrown Response)) (result : Except Thrown Bytes) : Prop :=
  ∀ request response, (request, .ok response) ∈ made → isCreate request →
    Reply.isRejection response.status →
    ((∃ error, result = .error error ∧ error.unconfirmed? = none ∧
      providerStatus error = some response.status) ↔
      ¬ ∃ e, response.BreaksOff e ∧ e.isSignerError)

section

variable {answers : ℕ → Moment} {providerName header : String} {isCreate : FetchRequest → Bool}
variable {made : List (FetchRequest × Except Thrown Response)} {result : Except Thrown Bytes}
variable {fetched : Except Thrown Response} {error : Thrown}

theorem Kept.of_unsent (unsent : ∀ exchange ∈ made, isCreate exchange.1 = false) :
    Kept providerName isCreate header made result := by
  have never : ∀ {request fetched}, (request, fetched) ∈ made → isCreate request → False := by
    intro request fetched member create
    rw [unsent _ member] at create
    cases create
  refine ⟨?_, fun _ _ _ => .inl unsent, ?_, ?_⟩
  · have none : made.filter (fun exchange => isCreate exchange.1) = [] := by
      simpa [List.filter_eq_nil_iff] using unsent
    simp [none]
  · exact fun _ _ _ member create => (never member create).elim
  · exact fun _ _ member create => (never member create).elim

/-- A run whose one create comes first is judged by what the create ended with. -/
theorem Kept.of_create {request : FetchRequest}
    {rest : List (FetchRequest × Except Thrown Response)} (create : isCreate request)
    (followUps : ∀ exchange ∈ rest, isCreate exchange.1 = false)
    (definite : ∀ error, result = .error error → error.unconfirmed? = none →
      ∃ response, fetched = .ok response ∧ Reply.isRejection response.status)
    (accepted : ∀ response id, fetched = .ok response → acceptedId providerName response = some id →
      ∀ error, result = .error error →
      ∃ context, error.unconfirmed? = some context ∧ context.providerTransactionId = some id)
    (keyed : ∀ error context, result = .error error → error.unconfirmed? = some context →
      ∃ key, request.headers.lookup header = some key ∧ context.idempotencyKey = some key) :
    Kept providerName isCreate header ((request, fetched) :: rest) result := by
  have first : ∀ {request' fetched'}, (request', fetched') ∈ (request, fetched) :: rest →
      isCreate request' → request' = request ∧ fetched' = fetched := by
    intro request' fetched' member create'
    rcases List.mem_cons.mp member with same | later
    · exact Prod.mk.inj same
    · rw [followUps _ later] at create'
      cases create'
  refine ⟨?_, ?_, ?_, ?_⟩
  · have none : rest.filter (fun exchange => isCreate exchange.1) = [] := by
      simpa [List.filter_eq_nil_iff] using followUps
    simp [create, none]
  · intro error failed plain
    obtain ⟨response, answered, rejected⟩ := definite error failed plain
    rw [answered]
    exact .inr ⟨request, response, List.mem_cons_self, create, rejected⟩
  · intro request' response id member create' acceptedAs error failed
    obtain ⟨-, same⟩ := first member create'
    exact accepted response id same.symm acceptedAs error failed
  · intro request' fetched' member create' error context failed unconfirmed
    obtain ⟨rfl, -⟩ := first member create'
    exact keyed error context failed unconfirmed

/-- The same for the report of a rejection. -/
theorem RejectionsReported.of_create (providerName : String) {request : FetchRequest}
    {rest : List (FetchRequest × Except Thrown Response)}
    (followUps : ∀ exchange ∈ rest, isCreate exchange.1 = false)
    (refused : ∀ response, fetched = .ok response → Reply.isSuccess response.status = false →
      response.Foreign ∧ ∃ started key,
        result = .error (unconfirmedCreate started key (verdict providerName response))) :
    RejectionsReported isCreate ((request, fetched) :: rest) result := by
  intro request' response member create rejected
  rcases List.mem_cons.mp member with same | later
  · cases same
    obtain ⟨foreign, started, key, failed⟩ :=
      refused response rfl (Reply.not_isSuccess_of_isRejection rejected)
    rw [failed,
      ← providerMayHaveAccepted_verdict_iff providerName foreign rejected]
    cases possible : providerMayHaveAccepted (verdict providerName response) with
    | true => simp [unconfirmedCreate, possible, Thrown.unconfirmed?, Thrown.create]
    | false =>
      obtain ⟨-, plain, status⟩ := isRejection_of_verdict foreign possible
      simp [unconfirmedCreate, possible, plain, status]
  · rw [followUps _ later] at create
    cases create

theorem RejectionsReported.of_unsent (unsent : ∀ exchange ∈ made, isCreate exchange.1 = false) :
    RejectionsReported isCreate made result := by
  intro request response member create
  rw [unsent _ member] at create
  cases create

/-! ## Creates -/

/-- What the error of a create says of it. -/
structure Classified (providerName : String) (fetched : Except Thrown Response) (error : Thrown) :
    Prop where
  rejected : providerMayHaveAccepted error = false →
    (∃ response, fetched = .ok response ∧ Reply.isRejection response.status) ∧
      error.unconfirmed? = none
  named : ∀ response id, fetched = .ok response → acceptedId providerName response = some id →
    providerMayHaveAccepted error ∧ error.providerTransactionId = some id
  refused : ∀ response, fetched = .ok response → Reply.isSuccess response.status = false →
    response.Foreign ∧ error = verdict providerName response

/-- An error of the package itself that names the id of the value it is about. -/
structure Judges {ι : Type} (parse : Unknown → Except Thrown ι) (idOf : ι → JsString) : Prop where
  accepted : ∀ value created, parse value = .ok created →
    providerTransactionIdOf value = some (idOf created)
  refused : ∀ value error, parse value = .error error → providerMayHaveAccepted error ∧
    ∀ id, providerTransactionIdOf value = some id → error.providerTransactionId = some id

theorem acceptedId_of_readJson {response : Response} {value : Unknown}
    (success : Reply.isSuccess response.status)
    (read : readJson providerName response = .ok value) :
    acceptedId providerName response = providerTransactionIdOf value := by
  rw [acceptedId, if_pos success, read]
  rfl

/-- What a call throws for a create names the id of the response. -/
theorem Failed.classified (foreign : ∀ i, (answers i).Foreign) {i : ℕ}
    (failed : Failed answers providerName (answers i).fetched error) :
    Classified providerName (answers i).fetched error where
  rejected := failed.isRejection foreign
  named := by
    intro response id answered named
    rw [answered] at failed
    unfold acceptedId at named
    split at named
    · next success =>
      cases read : readJson providerName response with
      | ok value => exact (failed.readJson_ne_ok success read).elim
      | error e =>
        rw [read] at named
        cases named
    · next unsuccessful =>
      split at named
      · cases named
      · next unrejected =>
        have same := failed.eq_verdict (Bool.eq_false_iff.mpr unsuccessful)
        cases read : errorText response providerName with
        | error e =>
          rw [read] at named
          cases named
        | ok text =>
          rw [read] at named
          rw [same, verdict, read]
          refine ⟨?_, named⟩
          rw [providerMayHaveAccepted_remoteApiError, Bool.eq_false_iff.mpr unrejected]
          rfl
  refused := by
    intro response answered unsuccessful
    refine ⟨(foreign i).fetched response answered, ?_⟩
    rw [answered] at failed
    exact failed.eq_verdict unsuccessful

omit [Runtime] in
/-- The errors of the catch block around a create. -/
theorem unconfirmedCreate_cases (started : String) (key : JsString) (error : Thrown) :
    (providerMayHaveAccepted error = false ∧ unconfirmedCreate started key error = error) ∨
      providerMayHaveAccepted error ∧
        ∃ context, (unconfirmedCreate started key error).unconfirmed? = some context ∧
          context.idempotencyKey = some key ∧
          context.providerTransactionId = error.providerTransactionId := by
  cases possible : providerMayHaveAccepted error with
  | false => exact .inl ⟨rfl, by simp [unconfirmedCreate, possible]⟩
  | true =>
    refine .inr ⟨rfl, ?_⟩
    rw [unconfirmedCreate, if_pos possible]
    exact ⟨_, rfl, rfl, rfl⟩

/-- No follow-up is a create. -/
def FollowsUp (isCreate : FetchRequest → Bool) : Ask → Prop
  | .fetch request => isCreate request = false
  | _ => True

omit [Runtime] in
theorem unsent_exchanges {log : List (Ask × Moment)}
    (followUps : ∀ event ∈ log, FollowsUp isCreate event.1) :
    ∀ exchange ∈ exchanges log, isCreate exchange.1 = false := by
  intro exchange member
  obtain ⟨⟨asked, moment⟩, logged, same⟩ := List.mem_filterMap.mp member
  have allowed := followUps _ logged
  cases asked with
  | fetch request =>
    cases same
    exact allowed
  | look => cases same
  | signRequest _ => cases same
  | now => cases same

variable {ι : Type} {form : Except Thrown FetchRequest} {parse : Unknown → Except Thrown ι}
variable {idOf : ι → JsString} {abortSignal : Bool} {w : World Ask Moment Unit}

theorem submission_meets (foreign : ∀ i, (answers i).Foreign) (judges : Judges parse idOf) :
    (submission abortSignal providerName form parse).Meets answers w
      (fun created w' => ∃ request response, form = .ok request ∧
        exchanges w'.log = exchanges w.log ++ [(request, .ok response)] ∧
        Reply.isSuccess response.status ∧ acceptedId providerName response = some (idOf created))
      (fun error w' => exchanges w'.log = exchanges w.log ∨
        ∃ request fetched, form = .ok request ∧
          exchanges w'.log = exchanges w.log ++ [(request, fetched)] ∧
          Classified providerName fetched error) := by
  rw [submission, meets_bind]
  cases formed : form with
  | error e => exact .inl rfl
  | ok request =>
    rw [meets_ofExcept_ok, meets_bind]
    refine fetchSignerJson_meets ?_ ?_ ?_
    · intro w' response value made success read
      have accepts : acceptedId providerName response = providerTransactionIdOf value :=
        acceptedId_of_readJson success read
      refine meets_ofExcept.mpr ⟨?_, ?_⟩
      · intro created judged
        exact ⟨request, response, rfl, made, success,
          accepts.trans (judges.accepted value created judged)⟩
      · intro error judged
        obtain ⟨possible, names⟩ := judges.refused value error judged
        refine .inr ⟨request, .ok response, rfl, made, ?_, ?_, ?_⟩
        · intro refused
          rw [possible] at refused
          cases refused
        · intro response' id same named
          cases same
          exact ⟨possible, names id (accepts.symm.trans named)⟩
        · intro response' same unsuccessful
          cases same
          rw [success] at unsuccessful
          cases unsuccessful
    · intro w' reason silent _
      exact .inl silent
    · intro w' i error made failed
      exact .inr ⟨request, _, rfl, made, failed.classified foreign⟩

/-- What is promised of a run, by its result. -/
abbrev Promised (providerName : String) (isCreate : FetchRequest → Bool) (header : String)
    (result : Except Thrown Bytes) (w : World Ask Moment Unit) : Prop :=
  Kept providerName isCreate header (exchanges w.log) result ∧
    RejectionsReported isCreate (exchanges w.log) result

theorem Promised.of_silent (silent : exchanges w.log = []) :
    Promised providerName isCreate header result w := by
  have unsent : ∀ exchange ∈ exchanges w.log, isCreate exchange.1 = false := by simp [silent]
  exact ⟨.of_unsent unsent, .of_unsent unsent⟩

/-- The promise, by what is formed, how the value of a create is judged and what follows. -/
theorem broadcastManaged_promised {started : String} {key : JsString}
    {finish : ι → FetchProg Bytes} (foreign : ∀ i, (answers i).Foreign)
    (judges : Judges parse idOf)
    (formed : ∀ request, form = .ok request →
      isCreate request ∧ request.headers.lookup header = some key)
    (followUps : ∀ created, (finish created).Asks (FollowsUp isCreate))
    (fresh : exchanges w.log = []) :
    (broadcastManaged providerName started key idOf
      (submission abortSignal providerName form parse) finish).Meets answers w
      (fun signature => Promised providerName isCreate header (.ok signature))
      (fun error => Promised providerName isCreate header (.error error)) := by
  rw [broadcastManaged, meets_bind, meets_mapError]
  refine (submission_meets foreign judges).mono ?_ ?_
  · intro created w₁ accepted
    obtain ⟨request, response, prepared, made, success, accepts⟩ := accepted
    obtain ⟨create, carried⟩ := formed request prepared
    obtain ⟨rest, log, allowed⟩ := followUps created answers w₁
    have later := unsent_exchanges allowed
    rw [fresh, List.nil_append] at made
    have all : exchanges ((finish created).run answers w₁).2.log =
        (request, .ok response) :: exchanges rest := by
      rw [log, exchanges_append, made]
      rfl
    -- The one create was answered with a success, so there is no rejection to report.
    have reported : ∀ result, RejectionsReported isCreate
        ((request, .ok response) :: exchanges rest) result := by
      intro result
      refine .of_create providerName later ?_
      intro response' same unsuccessful
      cases same
      rw [success] at unsuccessful
      cases unsuccessful
    rw [meets_mapError]
    refine meets_of_run ?_ ?_
    · intro signature w₂ ran
      rw [ran] at all
      unfold Promised
      rw [all]
      refine ⟨.of_create create later ?_ ?_ ?_, reported _⟩
      · exact fun _ failed => by cases failed
      · exact fun _ _ _ _ _ failed => by cases failed
      · exact fun _ _ failed => by cases failed
    · intro error w₂ ran
      rw [ran] at all
      unfold Promised
      rw [all]
      refine ⟨.of_create create later ?_ ?_ ?_, reported _⟩
      · intro e same plain
        cases same
        cases plain
      · intro response' id same acceptedAs e failed
        cases same
        cases failed
        exact ⟨_, rfl, accepts.symm.trans acceptedAs⟩
      · intro e context failed unconfirmed
        cases failed
        cases unconfirmed
        exact ⟨key, carried, rfl⟩
  · intro error w₁ failed
    rcases failed with silent | ⟨request, fetched, prepared, made, classified⟩
    · exact .of_silent (silent.trans fresh)
    · obtain ⟨create, carried⟩ := formed request prepared
      unfold Promised
      rw [made, fresh, List.nil_append]
      have classes := unconfirmedCreate_cases started key error
      refine ⟨.of_create create (by simp) ?_ ?_ ?_,
        .of_create providerName (by simp) ?_⟩
      · intro e same plain
        cases same
        rcases classes with ⟨refused, -⟩ | ⟨-, context, unconfirmed, -⟩
        · exact (classified.rejected refused).1
        · rw [plain] at unconfirmed
          cases unconfirmed
      · intro response id answered acceptedAs e same
        cases same
        obtain ⟨possible, names⟩ := classified.named response id answered acceptedAs
        rcases classes with ⟨refused, -⟩ | ⟨-, context, unconfirmed, -, named⟩
        · rw [possible] at refused
          cases refused
        · exact ⟨context, unconfirmed, named.trans names⟩
      · intro e context same unconfirmed
        cases same
        rcases classes with ⟨refused, raw⟩ | ⟨-, context', unconfirmed', carries, -⟩
        · rw [raw, (classified.rejected refused).2] at unconfirmed
          cases unconfirmed
        · rw [unconfirmed'] at unconfirmed
          cases unconfirmed
          exact ⟨key, carried, carries⟩
      · intro response answered unsuccessful
        obtain ⟨foreign', same⟩ := classified.refused response answered unsuccessful
        rw [same]
        exact ⟨foreign', started, key, rfl⟩

end

end

/-! ## A rejected create -/

def badRequestText : JsString := "\x7b\"message\":\"bad request\"\x7d"

/-- A response with status 400, whose stream yields the text in one chunk. -/
def badRequest : Response where
  status := 400
  contentLength := none
  body := some ⟨[textEncode badRequestText], none⟩
  text := .error (.builtin "TypeError")
  json := .error (.builtin "TypeError")

/-- Every request is answered so, the request signer signs, and the signal does not fire. -/
def refusing (_ : ℕ) : Moment where
  reason := none
  fetched := .ok badRequest
  signed := .ok "c2lnbmF0dXJl"
  now := 1767225600000

theorem refusing_foreign (i : ℕ) : (refusing i).Foreign where
  reason _ fired := by cases fired
  fetched response same := by
    cases same
    refine ⟨?_, ?_, ?_⟩
    · intro reader error body broken
      cases body
      cases broken
    · intro error failed
      cases failed
      rfl
    · intro error failed
      cases failed
      rfl

/-- The runtime of a run that reads this one body. -/
@[reducible] def Runtime.refusing : Runtime where
  number _ := none
  textDecode bytes := ⟨bytes.map fun byte => byte.toUInt16⟩
  jsonParse text :=
    if text = badRequestText then some (.object [("message", .string "bad request")]) else none
  numberText _ := ""

/-- The packages of a run that signs nothing. -/
@[reducible] def Packages.unsigning : Packages where
  base58Encode _ := none
  base58Decode bytes := Keychain.base58Encode bytes
  cryptoSign _ _ := []

/-- The transaction of nothing, as kit hands it over before it is signed. -/
def emptyTransaction : Transaction where
  messageBytes := legacyMessage Keychain.emptyTransaction.message
  signatures := [(base58Encode emptyPayer.bytes, none)]

/-- Kit in a run that creates this transaction, by the digest of the preimage of its key. -/
@[reducible] def Kit.linked (digest : { digest : Bytes // digest.length = 32 }) : Kit where
  sha256 _ := digest
  base64Encode _ := .ok (legacyWire Keychain.emptyTransaction)
  base64Decode bytes := Keychain.base64Encode bytes
  getAddressEncoder _ := .ok emptyPayer.bytes
  verify _ _ _ := .ok false
  getBase64EncodedWireTransaction _ :=
    .ok (Keychain.base64Encode (legacyWire Keychain.emptyTransaction))
  decodeTransaction _ := .ok emptyTransaction
  decodeMessage _ := .ok ⟨1, [base58Encode emptyPayer.bytes,
    base58Encode (List.replicate 32 0)]⟩
  getSignatureFromTransaction _ := .error (.builtin "SolanaError")

end Keychain.TypeScript
