import Keychain.Broadcast

/-!
What the Python signers are written in: texts of code points, JSON values as
`json.loads` builds them, exceptions, and the modules they import.

A `str` may hold surrogates, which JSON texts can spell and UTF-8 cannot, so `Str`
is not Lean's `String`. `SignerError` is the one exception the signers convert;
every other one passes through them.
-/

namespace Keychain.Python

/-! ## Texts -/

/-- A `str`: code points, surrogates included. -/
structure Str where
  points : List (Fin 0x110000)
  deriving DecidableEq

namespace Str

def ofString (text : String) : Str :=
  ⟨text.toList.map fun c => ⟨c.toNat, by
    rcases c.valid with low | high
    · exact Nat.lt_trans low (by decide)
    · exact high.2⟩⟩

instance : Coe String Str := ⟨ofString⟩

instance : Append Str := ⟨fun a b => ⟨a.points ++ b.points⟩⟩

/-- The character of a code point that is no surrogate. -/
def toChar? (n : Fin 0x110000) : Option Char :=
  if valid : n.val.isValidChar then some (Char.ofNatAux n.val valid) else none

/-- The text when it holds no surrogate, which is what UTF-8 can encode. -/
def toString? (text : Str) : Option String := (text.points.mapM toChar?).map String.ofList

/-- The code point of the space character. -/
def space : Fin 0x110000 := 0x20

/-- `str.isspace` of one code point. -/
def isSpace (n : Fin 0x110000) : Bool :=
  let n := n.val
  (9 ≤ n && n ≤ 13) || (0x1C ≤ n && n ≤ 0x20) || n = 0x85 || n = 0xA0 || n = 0x1680 ||
    (0x2000 ≤ n && n ≤ 0x200A) || n = 0x2028 || n = 0x2029 || n = 0x202F || n = 0x205F ||
    n = 0x3000

/-- `not text.strip()`. -/
def isBlank (text : Str) : Bool := text.points.all isSpace

/-- `" ".join(text.split())`, with whether a word came before. -/
def joinWords : Bool → Bool → List (Fin 0x110000) → List (Fin 0x110000)
  | _, _, [] => []
  | begun, gap, n :: rest =>
    if isSpace n then joinWords begun true rest
    else (if begun && gap then [space] else []) ++ n :: joinWords true false rest

end Str

/-! ## Values -/

inductive Number where
  | int (value : Int)
  | float (text : String)
  deriving DecidableEq

abbrev Value := Json Str Number

/-- The members of a `dict`. -/
abbrev Dict := List (Str × Value)

/-- `d.get(name)`, where an absent member reads as `None`. -/
def Dict.get (members : Dict) (name : String) : Value :=
  (members.lookup (Str.ofString name)).getD .null

/-! ## Exceptions -/

inductive SignerErrorCode where
  | broadcastUnconfirmed
  | configError
  | expectedSolanaSigner
  | httpError
  | invalidPrivateKey
  | invalidPublicKey
  | ioError
  | notAvailable
  | notInitialized
  | other
  | parsingError
  | remoteApiError
  | serializationError
  | signingFailed
  deriving DecidableEq

/-- The fields the sending signers set. -/
structure SignerError where
  code : SignerErrorCode
  detail : Str
  providerTransactionId : Option Str := none
  providerErrorCode : Option Int := none
  statusCode : Option ℕ := none
  idempotencyKey : Option String := none
  deriving DecidableEq

/-- The other subclasses of `Exception`, as far as a handler tells them apart. -/
inductive Exc where
  /-- `ValueError` and its subclasses -/
  | valueError (text : String)
  | typeError (text : String)
  | other (name text : String)
  deriving DecidableEq

inductive Raised where
  | signerError (error : SignerError)
  | exception (error : Exc)
  deriving DecidableEq

/-- `raise SignerError(code, detail)`. -/
def raiseSignerError {α : Type} (code : SignerErrorCode) (detail : Str) : Except Raised α :=
  .error (.signerError { code, detail })

/-- A computation that raises no `SignerError`. -/
def uncaught {α : Type} (x : Except Exc α) : Except Raised α := x.mapError .exception

namespace Raised

/-- The outcome a `BROADCAST_UNCONFIRMED` reports. -/
def unconfirmed? : Raised → Option SignerError
  | .signerError error => if error.code = .broadcastUnconfirmed then some error else none
  | .exception _ => none

end Raised

/-! ## Exceptions that are no `SignerError` -/

section

variable {α β : Type}

/-- The computation raises an exception that no handler of the signers catches. -/
def Throws (x : Except Raised α) : Prop := ∃ e, x = .error (.exception e)

@[simp] theorem throws_ok {a : α} : ¬ Throws (.ok a) := by
  intro given
  rcases given with ⟨e, raised⟩
  cases raised

@[simp] theorem throws_signerError {error : SignerError} :
    ¬ Throws (.error (.signerError error) : Except Raised α) := by
  intro given
  rcases given with ⟨e, raised⟩
  cases raised

@[simp] theorem throws_raiseSignerError {code : SignerErrorCode} {detail : Str} :
    ¬ Throws (raiseSignerError code detail : Except Raised α) := throws_signerError

@[simp] theorem throws_exception {e : Exc} : Throws (.error (.exception e) : Except Raised α) :=
  ⟨e, rfl⟩

@[simp] theorem throws_uncaught {x : Except Exc α} : Throws (uncaught x) ↔ ∃ e, x = .error e := by
  cases x <;> simp [Throws, uncaught]

theorem throws_bind {x : Except Raised α} {f : α → Except Raised β} :
    Throws (x >>= f) ↔ Throws x ∨ ∃ a, x = .ok a ∧ Throws (f a) := by
  cases x with
  | error e => simp [Throws, bind, Except.bind]
  | ok a => simp [Throws, bind, Except.bind]

/-- A computation whose steps throw nothing. -/
theorem not_throws_bind {x : Except Raised α} {f : α → Except Raised β} (first : ¬ Throws x)
    (next : ∀ a, ¬ Throws (f a)) : ¬ Throws (x >>= f) := by
  rw [throws_bind]
  intro given
  rcases given with early | ⟨a, -, late⟩
  · exact first early
  · exact next a late

end

/-! ## Imports -/

/-- The standard and third-party modules the signers import. -/
class Modules where
  /-- `json.loads` -/
  jsonLoads : Bytes → Except Exc Value
  /-- `json.dumps` with the default separators -/
  jsonDumps : Value → Except Exc String
  /-- `json.dumps(value, separators=(",", ":"))` -/
  jsonDumpsCompact : Value → Except Exc String
  /-- the body `client.build_request` makes of `json=value` -/
  jsonBody : Value → Except Exc String
  /-- `repr` of a number, a `list` or a `dict` -/
  repr : Value → Except Exc Str
  /-- `body.decode(response.encoding or "utf-8", errors="replace")`, by the charset
  of the response -/
  decode : Option String → Bytes → Except Exc Str
  /-- what `client.build_request` raises for a request it cannot form -/
  buildRequestError : Request → Option Exc
  /-- `base64.b64decode(text, validate=True)`, unless it raises -/
  b64decode : Str → Option Bytes
  b64encode : Bytes → String
  /-- `base58.b58decode`, unless it raises a `ValueError` -/
  b58decode : Str → Option Bytes
  b58encode : Bytes → String
  sha256 : Bytes → { digest : Bytes // digest.length = 32 }
  /-- `VersionedTransaction.from_bytes`, unless it raises -/
  transactionFromBytes : Bytes → Option VersionedTransaction
  /-- `bytes(transaction)` -/
  transactionBytes : VersionedTransaction → Bytes
  /-- `to_bytes_versioned` -/
  toBytesVersioned : VersionedMessage → Bytes
  /-- `signature.verify(public_key, message)` -/
  verify : Signature → Pubkey → Bytes → Bool
  /-- the base58 text of `keypair.sign_message(message)`, by the key -/
  signMessage : Bytes → Bytes → String
  /-- `str(pubkey)` -/
  showPubkey : Pubkey → String
  /-- `int(time.time() * 1000)` -/
  timestampMs : Int

/-- The modules of a run that creates one small legacy transaction, by the digest it
takes, the bodies it loads and the create it dumps. It verifies and signs nothing. -/
@[reducible] def Modules.linked (digest : { digest : Bytes // digest.length = 32 })
    (loads : Bytes → Except Exc Value) (create : String) : Modules where
  jsonLoads := loads
  jsonDumps _ := .ok ""
  jsonDumpsCompact _ := .ok create
  jsonBody _ := .ok create
  repr _ := .ok ""
  decode _ _ := .ok ""
  buildRequestError _ := none
  b64decode _ := none
  b64encode _ := emptyMessageBase64
  b58decode _ := none
  b58encode := base58Encode
  sha256 _ := digest
  transactionFromBytes _ := none
  transactionBytes := legacyWire
  toBytesVersioned := legacyMessage
  verify _ _ _ := false
  signMessage _ _ := ""
  showPubkey publicKey := base58Encode publicKey.bytes
  timestampMs := 1767225600000

section

variable [Modules]

/-- `str(value)`. -/
def str : Value → Except Exc Str
  | .null => .ok "None"
  | .bool true => .ok "True"
  | .bool false => .ok "False"
  | .string s => .ok s
  | value => Modules.repr value

/-- `text.encode()`, which rejects surrogates. -/
def encode (text : Str) : Except Exc Bytes :=
  match text.toString? with
  | some text => .ok (utf8 text)
  | none => .error (.valueError "surrogates not allowed")

/-- `urllib.parse.quote(text, safe=safe)`. -/
def quote (safe : String) (text : Str) : Except Exc String := do
  let bytes ← encode text
  pure (percentEncode ("_.-~" ++ safe) bytes)

end

end Keychain.Python
