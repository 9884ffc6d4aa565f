import Keychain.Lib.Delimited
import Keychain.Rust.Fordefi.Core

/-!
The namespace of a native create's `x-idempotence-id`: the bytes that are hashed
join push mode, chain, vault and fee with separators that may also occur inside
them, and end in the message bytes.

`namespacedKeyInput_separates_iff` says for which terms the bytes still determine
all of them: push mode and chain always do their part, and the two texts
`vault:fee:` must not be the beginning of one another.
-/

namespace Keychain.Rust.Fordefi.FordefiCore

open Delimited

def pushCode (pushMode : FordefiPushMode) : Bytes := utf8 (pushMode.asStr ++ ":")

def chainCode (chain : SolanaChainUniqueId) : Bytes := utf8 (chain.asStr ++ ":")

/-- The free-form part of the namespace. -/
def vaultAndFee (vaultId : String) (fee : Option FordefiSolanaFee) : Bytes :=
  utf8 (vaultId ++ ":" ++ canonicalFee fee ++ ":")

theorem uncut_pushCode : Uncut pushCode := by
  intro i j cut
  cases i <;> cases j
  · rfl
  · exact absurd cut (by decide)
  · exact absurd cut (by decide)
  · rfl

theorem uncut_chainCode : Uncut chainCode := by
  intro i j cut
  cases i <;> cases j
  · rfl
  · exact absurd cut (by decide)
  · exact absurd cut (by decide)
  · rfl

theorem namespacedKeyInput_eq {core : FordefiCore} {chain : SolanaChainUniqueId}
    {fee : Option FordefiSolanaFee} {pushMode : FordefiPushMode} {dataBytes : Bytes} :
    core.namespacedKeyInput chain fee pushMode dataBytes =
      utf8 "fordefi:solana:" ++
        (pushCode pushMode ++
          (chainCode chain ++ (vaultAndFee core.vaultId fee ++ dataBytes))) := by
  have texts :
      s!"fordefi:solana:{pushMode.asStr}:{chain.asStr}:{core.vaultId}:{canonicalFee fee}:" =
      "fordefi:solana:" ++ (pushMode.asStr ++ ":") ++ (chain.asStr ++ ":") ++
        (core.vaultId ++ ":" ++ canonicalFee fee ++ ":") := by
    simp only [String.append_assoc]
    rfl
  rw [namespacedKeyInput, texts]
  simp only [utf8_append, pushCode, chainCode, vaultAndFee, List.append_assoc]

/-- The terms of two creates: push mode, chain, vault and fee. -/
def SameTerms (core core' : FordefiCore) (chain chain' : SolanaChainUniqueId)
    (fee fee' : Option FordefiSolanaFee) (pushMode pushMode' : FordefiPushMode) : Prop :=
  pushMode = pushMode' ∧ chain = chain' ∧ core.vaultId = core'.vaultId ∧ fee = fee'

/-- Two creates under given terms never share a preimage, unless terms and message
are the same, exactly when terms that agree on push mode and chain and whose texts
`vault:fee:` are comparable also agree on vault and fee. -/
theorem namespacedKeyInput_separates_iff (core core' : FordefiCore)
    (chain chain' : SolanaChainUniqueId) (fee fee' : Option FordefiSolanaFee)
    (pushMode pushMode' : FordefiPushMode) :
    (∀ message message' : Bytes,
      core.namespacedKeyInput chain fee pushMode message =
        core'.namespacedKeyInput chain' fee' pushMode' message' →
      SameTerms core core' chain chain' fee fee' pushMode pushMode' ∧ message = message') ↔
    (pushMode = pushMode' → chain = chain' →
      Comparable (vaultAndFee core.vaultId fee) (vaultAndFee core'.vaultId fee') →
      core.vaultId = core'.vaultId ∧ fee = fee') := by
  simp only [namespacedKeyInput_eq]
  refine ⟨fun separates push chains comparable => ?_, fun determined message message' same => ?_⟩
  · rcases exists_append_eq_append_iff.mpr comparable with ⟨s, t, same⟩
    rcases separates s t (by rw [push, chains, same]) with ⟨terms, -⟩
    exact terms.2.2
  · rcases uncut_pushCode.append_inj (List.append_cancel_left same) with ⟨push, same⟩
    rcases uncut_chainCode.append_inj same with ⟨chains, same⟩
    have comparable := exists_append_eq_append_iff.mp ⟨message, message', same⟩
    rcases determined push chains comparable with ⟨vault, fees⟩
    rw [vault, fees] at same
    exact ⟨⟨push, chains, vault, fees⟩, List.append_cancel_left same⟩

def vaultOne : FordefiCore where
  accessToken := "token"
  vaultId := "vault-1"
  requestSigner _ := .ok "signature"
  apiBaseUrl := "https://api.fordefi.com"
  publicKey := ⟨List.replicate 32 1, rfl⟩
  maxPollAttempts := 50
  accessToken_ne := by decide
  vaultId_ne := by decide
  maxPollAttempts_pos := by decide

/-- The separators of a custom fee may be moved into its strings. -/
theorem namespacedKeyInput_collides :
    ¬ ∀ (core core' : FordefiCore) (chain chain' : SolanaChainUniqueId)
      (fee fee' : Option FordefiSolanaFee) (pushMode pushMode' : FordefiPushMode)
      (message message' : Bytes),
      core.namespacedKeyInput chain fee pushMode message =
        core'.namespacedKeyInput chain' fee' pushMode' message' →
      SameTerms core core' chain chain' fee fee' pushMode pushMode' ∧ message = message' := by
  intro injective
  have collision := injective vaultOne vaultOne .solanaMainnet .solanaMainnet
    (some (.custom (some "1|2") (some "3"))) (some (.custom (some "1") (some "2|3"))) .auto .auto
    [] [] (by decide)
  exact absurd collision.1.2.2.2 (by decide)

end Keychain.Rust.Fordefi.FordefiCore
