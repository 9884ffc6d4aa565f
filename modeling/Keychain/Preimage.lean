import Keychain.Go.Crossmint
import Keychain.Lib.Delimited
import Keychain.Python.Crossmint
import Keychain.Rust.Crossmint.Signer
import Keychain.TypeScript.Crossmint

/-!
The bytes a Crossmint create's `x-idempotency-key` is hashed from: the signer
locator behind its own length, and the message.

The length is written in decimal and closed by a colon. Digits are no colons, so
the length can be read back whatever the locator holds, and the length says where
the locator ends. The four ports build the same bytes: each of them counts the
bytes of the encoded locator.
-/

namespace Keychain.Crossmint

open Delimited

/-! ## Decimal numbers as bytes -/

theorem toNat_of_isDigit {c : Char} (digit : c.isDigit = true) :
    48 ≤ c.toNat ∧ c.toNat ≤ 57 := by
  simpa [Char.isDigit, UInt32.le_iff_toNat_le] using digit

/-- A digit is one byte. -/
theorem utf8EncodeChar_of_isDigit {c : Char} (digit : c.isDigit = true) :
    String.utf8EncodeChar c = [c.toNat.toUInt8] := by
  have range := toNat_of_isDigit digit
  exact utf8EncodeChar_of_ascii (by omega)

theorem isDigit_of_mem_decimal {n : ℕ} {c : Char} (mem : c ∈ (toString n).toList) :
    c.isDigit = true := by
  rw [Nat.toString_eq_repr, Nat.toList_repr] at mem
  exact Nat.isDigit_of_mem_toDigits (by omega) (by omega) mem

theorem decimal_injective : Function.Injective fun n : ℕ => utf8 (toString n) := by
  intro m n same
  have texts : toString m = toString n := utf8_injective same
  have digits : (toString m).toList = (toString n).toList := by rw [texts]
  rw [Nat.toString_eq_repr, Nat.toString_eq_repr, Nat.toList_repr, Nat.toList_repr] at digits
  have read := congrArg (fun digits => Nat.ofDigitChars 10 digits 0) digits
  simpa using read

theorem colon_notMem_decimal (n : ℕ) : 0x3a ∉ utf8 (toString n) := by
  rw [utf8_eq_flatMap, List.mem_flatMap]
  intro occurs
  rcases occurs with ⟨c, mem, colon⟩
  have digit := isDigit_of_mem_decimal mem
  have range := toNat_of_isDigit digit
  rw [utf8EncodeChar_of_isDigit digit, List.mem_singleton] at colon
  have value : (0x3a : UInt8).toNat = c.toNat.toUInt8.toNat := by rw [← colon]
  have literal : (0x3a : UInt8).toNat = 58 := rfl
  have small : c.toNat.toUInt8.toNat = c.toNat := by
    rw [Nat.toUInt8_eq, UInt8.toNat_ofNat']
    exact Nat.mod_eq_of_lt (by omega)
  omega

/-- A length with its closing colon. -/
def lengthCode (n : ℕ) : Bytes := utf8 (toString n) ++ [0x3a]

theorem uncut_lengthCode : Uncut lengthCode :=
  uncut_append_stop decimal_injective colon_notMem_decimal

/-! ## The preimage -/

/-- The preimage as a function of the locator's bytes and the message. -/
def keyPreimage (locator messageBytes : Bytes) : Bytes :=
  utf8 "crossmint:solana:" ++ (lengthCode locator.length ++ (locator ++ (0x3a :: messageBytes)))

/-- Locator and message can be read back. -/
theorem keyPreimage_inj {locator locator' messageBytes messageBytes' : Bytes}
    (same : keyPreimage locator messageBytes = keyPreimage locator' messageBytes') :
    locator = locator' ∧ messageBytes = messageBytes' := by
  have coded := List.append_cancel_left same
  rcases uncut_lengthCode.append_inj coded with ⟨lengths, rest⟩
  rcases List.append_inj rest lengths with ⟨locators, closed⟩
  exact ⟨locators, List.tail_eq_of_cons_eq closed⟩

theorem keyPreimage_utf8 {locator : String} {messageBytes : Bytes} :
    keyPreimage (utf8 locator) messageBytes =
      utf8 ("crossmint:solana:" ++ toString (utf8 locator).length ++ ":" ++ locator ++ ":") ++
        messageBytes := by
  have colon : utf8 ":" = [0x3a] := by decide
  simp only [keyPreimage, lengthCode, utf8_append, colon, List.append_assoc, List.cons_append,
    List.nil_append]

/-! ## The four ports -/

theorem rust_namespacedKeyInput {signer : Rust.Crossmint.CrossmintSigner} {messageBytes : Bytes} :
    signer.namespacedKeyInput messageBytes =
      keyPreimage (utf8 (signer.signer.getD "")) messageBytes := by
  rw [keyPreimage_utf8, Rust.Crossmint.CrossmintSigner.namespacedKeyInput]
  simp only [String.append_assoc]
  rfl

theorem go_namespacedKeyInput {signer : Go.Crossmint.Signer} {messageBytes : Bytes} :
    signer.namespacedKeyInput messageBytes =
      keyPreimage (utf8 signer.signerLocator) messageBytes := by
  rw [keyPreimage_utf8, Go.Crossmint.Signer.namespacedKeyInput]

theorem python_namespacedKeyInput {signer : Python.Crossmint.CrossmintSigner}
    {messageBytes : Bytes} :
    signer.namespacedKeyInput messageBytes =
      keyPreimage (utf8 (signer.signer.getD "")) messageBytes := by
  rw [keyPreimage_utf8, Python.Crossmint.CrossmintSigner.namespacedKeyInput]

/-- On a locator made of scalar values. -/
theorem typeScript_namespacedKeyInput {signer : TypeScript.CrossmintSigner} {locator : String}
    {messageBytes : Bytes} (well : signer.signer.getD (.ofString "") = .ofString locator) :
    signer.namespacedKeyInput messageBytes =
      some (keyPreimage (utf8 locator) messageBytes) := by
  have encoded : TypeScript.textEncode (signer.signer.getD (.ofString "")) = utf8 locator := by
    rw [well, TypeScript.textEncode_ofString]
  rw [TypeScript.CrossmintSigner.namespacedKeyInput_eq encoded
    (TypeScript.textEncode_ofString _), keyPreimage_utf8]
  have colon : utf8 ":" = [0x3a] := by decide
  simp only [utf8_append, colon, List.append_assoc]
  rfl

/-- Locator and message are determined by the preimage, and the ports agree on it:
a locator is any text, and an absent one is the empty text. -/
theorem namespacedKeyInput_injective_and_shared :
    (∀ (signer signer' : Rust.Crossmint.CrossmintSigner) (messageBytes messageBytes' : Bytes),
      signer.namespacedKeyInput messageBytes = signer'.namespacedKeyInput messageBytes' →
      signer.signer.getD "" = signer'.signer.getD "" ∧ messageBytes = messageBytes') ∧
    ∀ (locator : String) (messageBytes : Bytes) (rust : Rust.Crossmint.CrossmintSigner)
      (typeScript : TypeScript.CrossmintSigner) (go : Go.Crossmint.Signer)
      (python : Python.Crossmint.CrossmintSigner),
      rust.signer.getD "" = locator →
      typeScript.signer.getD (.ofString "") = .ofString locator →
      go.signerLocator = locator →
      python.signer.getD "" = locator →
      typeScript.namespacedKeyInput messageBytes = some (rust.namespacedKeyInput messageBytes) ∧
      go.namespacedKeyInput messageBytes = rust.namespacedKeyInput messageBytes ∧
      python.namespacedKeyInput messageBytes = rust.namespacedKeyInput messageBytes := by
  refine ⟨fun signer signer' messageBytes messageBytes' same => ?_, ?_⟩
  · rw [rust_namespacedKeyInput, rust_namespacedKeyInput] at same
    rcases keyPreimage_inj same with ⟨locators, messages⟩
    exact ⟨utf8_injective locators, messages⟩
  · intro locator messageBytes rust typeScript go python ofRust ofTypeScript ofGo ofPython
    rw [rust_namespacedKeyInput, ofRust]
    refine ⟨typeScript_namespacedKeyInput ofTypeScript, ?_, ?_⟩
    · rw [go_namespacedKeyInput, ofGo]
    · rw [python_namespacedKeyInput, ofPython]

/-! ## A locator with colons and letters of several bytes -/

def rustLocated : Rust.Crossmint.CrossmintSigner where
  apiKey := "sk_staging_1"
  walletLocator := "wallet"
  signer := some "7:é:𐍈"
  apiBaseUrl := "https://www.crossmint.com/api"
  publicKey := none
  maxPollAttempts := defaultMaxPollAttempts
  signingKey := none
  pendingTransactionId := false
  maxPollAttempts_pos := defaultMaxPollAttempts_pos

def typeScriptLocated : TypeScript.CrossmintSigner where
  apiKey := .ofString "sk_staging_1"
  walletLocator := .ofString "wallet"
  apiBaseUrl := .ofString "https://www.crossmint.com/api"
  maxPollAttempts := defaultMaxPollAttempts
  signer := some ⟨[0x37, 0x3a, 0xe9, 0x3a, 0xd800, 0xdf48]⟩
  signerSeed := none
  maxPollAttempts_pos := defaultMaxPollAttempts_pos

def goLocated : Go.Crossmint.Signer where
  apiKey := "sk_staging_1"
  walletLocator := "wallet"
  signerLocator := "7:é:𐍈"
  apiBaseURL := "https://www.crossmint.com/api"
  publicKey := emptyPayer
  maxPollAttempts := defaultMaxPollAttempts
  signingKey := none
  maxPollAttempts_pos := defaultMaxPollAttempts_pos

def pythonLocated : Python.Crossmint.CrossmintSigner where
  apiKey := "sk_staging_1"
  walletLocator := "wallet"
  apiBaseUrl := "https://www.crossmint.com/api"
  maxPollAttempts := defaultMaxPollAttempts
  pendingTransactionId := false
  publicKey := none
  signingKey := none
  signer := some "7:é:𐍈"
  apiKey_ne := by decide
  walletLocator_ne := by decide
  maxPollAttempts_pos := defaultMaxPollAttempts_pos

theorem located_shared :
    rustLocated.namespacedKeyInput [1] =
      utf8 "crossmint:solana:9:7:é:𐍈:" ++ [1] ∧
    typeScriptLocated.namespacedKeyInput [1] = some (rustLocated.namespacedKeyInput [1]) ∧
    goLocated.namespacedKeyInput [1] = rustLocated.namespacedKeyInput [1] ∧
    pythonLocated.namespacedKeyInput [1] = rustLocated.namespacedKeyInput [1] :=
  ⟨by decide, namespacedKeyInput_injective_and_shared.2 "7:é:𐍈" [1] rustLocated typeScriptLocated
    goLocated pythonLocated rfl (by decide) rfl rfl⟩

end Keychain.Crossmint
