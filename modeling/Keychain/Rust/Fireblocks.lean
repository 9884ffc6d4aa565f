import Mathlib.Data.List.Nodup
import Mathlib.Data.Set.Insert
import Keychain.Rust.Polled

/-!
`init` of the Fireblocks signer: the vault address the signer is bound to.

`select_vault_address` goes once through the provider's entries and collects the
addresses it could use. `candidates` is the set of them, and the selection depends on
nothing else (`selectVaultAddress_congr`).
-/

namespace Keychain.Rust

open Prog

namespace Fireblocks

structure VaultAddress where
  address : String
  assetId : Option String
  deriving DecidableEq

structure VaultAddressesResponse where
  addresses : List VaultAddress

/-- An entry that names another asset than the configured one. -/
def VaultAddress.ofOtherAsset (entry : VaultAddress) (assetId : String) : Bool :=
  entry.assetId.any fun named => named ≠ "" && named ≠ assetId

end Fireblocks

namespace FireblocksSigner

open Fireblocks

/-- One entry of the provider's list: its address is added when it is new. -/
def collectAddress (signer : FireblocksSigner) (unique : List String) (entry : VaultAddress) :
    List String :=
  if entry.address = "" then unique
  else if entry.ofOtherAsset signer.assetId then unique
  else if unique.contains entry.address then unique
  else unique ++ [entry.address]

/-- The addresses for the configured asset, each once. -/
def uniqueAddresses (signer : FireblocksSigner) (addresses : List VaultAddress) : List String :=
  addresses.foldl signer.collectAddress []

/-- Pick the address for the configured asset, failing on an empty or ambiguous
response. -/
def selectVaultAddress (signer : FireblocksSigner) (addresses : List VaultAddress) :
    Except SignerError String :=
  match signer.uniqueAddresses addresses with
  | [address] => .ok address
  | [] => .error (.invalidPublicKey
      s!"Fireblocks returned no address for vault account {signer.vaultAccountId} asset {signer.assetId}")
  | unique => .error (.invalidPublicKey
      s!"Fireblocks returned {unique.length} addresses for vault account {signer.vaultAccountId} asset {signer.assetId}; cannot choose a signing identity")

/-! ## Candidates -/

/-- The address of the entry could be the signer's. -/
structure Eligible (signer : FireblocksSigner) (entry : VaultAddress) : Prop where
  nonempty : entry.address ≠ ""
  asset : entry.assetId = none ∨ entry.assetId = some "" ∨ entry.assetId = some signer.assetId

/-- The addresses that could be the signer's. -/
def candidates (signer : FireblocksSigner) (addresses : List VaultAddress) : Set String :=
  {address | ∃ entry ∈ addresses, signer.Eligible entry ∧ entry.address = address}

section

variable {signer : FireblocksSigner} {entry : VaultAddress} {unique : List String}
  {addresses addresses' : List VaultAddress} {address : String}

theorem eligible_iff :
    signer.Eligible entry ↔ entry.address ≠ "" ∧ entry.ofOtherAsset signer.assetId = false := by
  have asset : entry.ofOtherAsset signer.assetId = false ↔
      entry.assetId = none ∨ entry.assetId = some "" ∨ entry.assetId = some signer.assetId := by
    rw [VaultAddress.ofOtherAsset]
    cases entry.assetId with
    | none => simp
    | some named =>
      by_cases blank : named = ""
      · simp [blank]
      · simp [blank]
  rw [asset]
  exact ⟨fun h => ⟨h.nonempty, h.asset⟩, fun h => ⟨h.1, h.2⟩⟩

/-- An entry that is not eligible is passed over. -/
theorem collectAddress_of_not_eligible (other : ¬ signer.Eligible entry) :
    signer.collectAddress unique entry = unique := by
  rw [eligible_iff, not_and, Bool.not_eq_false] at other
  rw [collectAddress]
  by_cases blank : entry.address = ""
  · rw [if_pos blank]
  · rw [if_neg blank, if_pos (other blank)]

theorem collectAddress_of_eligible (eligible : signer.Eligible entry) :
    signer.collectAddress unique entry =
      if entry.address ∈ unique then unique else unique ++ [entry.address] := by
  obtain ⟨nonempty, asset⟩ := eligible_iff.mp eligible
  rw [collectAddress, if_neg nonempty, asset, if_neg Bool.false_ne_true]
  simp only [List.contains_iff_mem]

theorem mem_collectAddress :
    address ∈ signer.collectAddress unique entry ↔
      address ∈ unique ∨ signer.Eligible entry ∧ entry.address = address := by
  by_cases eligible : signer.Eligible entry
  · rw [collectAddress_of_eligible eligible]
    by_cases known : entry.address ∈ unique
    · rw [if_pos known]
      constructor
      · exact .inl
      · intro h
        rcases h with member | ⟨-, rfl⟩
        · exact member
        · exact known
    · rw [if_neg known, List.mem_append, List.mem_singleton]
      simp only [eligible, true_and, eq_comm]
  · rw [collectAddress_of_not_eligible eligible]
    simp only [eligible, false_and, or_false]

theorem nodup_collectAddress (distinct : unique.Nodup) :
    (signer.collectAddress unique entry).Nodup := by
  by_cases eligible : signer.Eligible entry
  · rw [collectAddress_of_eligible eligible]
    split
    · exact distinct
    · next new => exact List.nodup_append.mpr ⟨distinct, List.nodup_singleton _, by grind⟩
  · rwa [collectAddress_of_not_eligible eligible]

/-- From what is collected on, the loop adds the candidates of the rest. -/
theorem mem_foldl_collectAddress :
    address ∈ addresses.foldl signer.collectAddress unique ↔
      address ∈ unique ∨ address ∈ signer.candidates addresses := by
  induction addresses generalizing unique with
  | nil => simp [candidates]
  | cons entry addresses ih =>
    rw [List.foldl_cons, ih, mem_collectAddress, or_assoc]
    simp only [candidates, List.mem_cons, Set.mem_ofPred_eq]
    grind

theorem nodup_foldl_collectAddress (distinct : unique.Nodup) :
    (addresses.foldl signer.collectAddress unique).Nodup := by
  induction addresses generalizing unique with
  | nil => exact distinct
  | cons entry addresses ih => exact ih (nodup_collectAddress distinct)

theorem mem_uniqueAddresses :
    address ∈ signer.uniqueAddresses addresses ↔ address ∈ signer.candidates addresses := by
  rw [uniqueAddresses, mem_foldl_collectAddress]
  simp only [List.not_mem_nil, false_or]

theorem nodup_uniqueAddresses : (signer.uniqueAddresses addresses).Nodup :=
  nodup_foldl_collectAddress List.nodup_nil

/-! ## The selection -/

theorem selectVaultAddress_eq_ok :
    signer.selectVaultAddress addresses = .ok address ↔
      signer.uniqueAddresses addresses = [address] := by
  rw [selectVaultAddress]
  split
  · next only => simp [only]
  · next none => simp [none]
  · next several notOne _ =>
    simp only [reduceCtorEq, false_iff]
    exact notOne address

/-- A list without duplicates has one member exactly when it is that member alone. -/
theorem eq_singleton_iff_members {α : Type} {a : α} {l : List α} (distinct : l.Nodup) :
    l = [a] ↔ {b | b ∈ l} = {a} := by
  constructor
  · intro only
    ext b
    simp [only]
  · intro only
    have perm : l.Perm [a] := by
      rw [List.perm_ext_iff_of_nodup distinct (List.nodup_singleton a)]
      intro b
      rw [List.mem_singleton, ← Set.mem_singleton_iff, ← only, Set.mem_ofPred_eq]
    exact List.perm_singleton.mp perm

theorem selectVaultAddress_eq_ok_iff :
    signer.selectVaultAddress addresses = .ok address ↔
      signer.candidates addresses = {address} := by
  have members : {b | b ∈ signer.uniqueAddresses addresses} = signer.candidates addresses := by
    ext b
    exact mem_uniqueAddresses
  rw [selectVaultAddress_eq_ok, eq_singleton_iff_members nodup_uniqueAddresses, members]

/-- The selection looks at the candidates alone, also for the text of its errors. -/
theorem selectVaultAddress_congr
    (same : signer.candidates addresses = signer.candidates addresses') :
    signer.selectVaultAddress addresses = signer.selectVaultAddress addresses' := by
  have perm : (signer.uniqueAddresses addresses).Perm (signer.uniqueAddresses addresses') := by
    rw [List.perm_ext_iff_of_nodup nodup_uniqueAddresses nodup_uniqueAddresses]
    intro b
    rw [mem_uniqueAddresses, mem_uniqueAddresses, same]
  rw [selectVaultAddress, selectVaultAddress]
  match signer.uniqueAddresses addresses, signer.uniqueAddresses addresses', perm with
  | [], unique, perm => rw [perm.nil_eq]
  | [address], unique, perm => rw [List.singleton_perm.mp perm]
  | a :: b :: rest, [], perm => exact absurd perm.length_eq (by simp)
  | a :: b :: rest, [address], perm => exact absurd perm.length_eq (by simp)
  | a :: b :: rest, a' :: b' :: rest', perm => simp only [perm.length_eq]

theorem candidates_perm (perm : addresses.Perm addresses') :
    signer.candidates addresses = signer.candidates addresses' := by
  ext address
  simp only [candidates, Set.mem_ofPred_eq, perm.mem_iff]

/-- An entry adds nothing when it stands in the list already or is not eligible. -/
theorem candidates_insert {before after : List VaultAddress}
    (idle : entry ∈ before ++ after ∨ ¬ signer.Eligible entry) :
    signer.candidates (before ++ entry :: after) = signer.candidates (before ++ after) := by
  ext address
  simp only [candidates, Set.mem_ofPred_eq, List.mem_append, List.mem_cons] at idle ⊢
  grind

/-- The signer is bound to an address exactly when that is the only candidate. So the
order of the entries, repeated entries and entries of no use make no difference. -/
theorem selectVaultAddress_ok_iff_only_candidate (signer : FireblocksSigner) :
    (∀ addresses address, signer.selectVaultAddress addresses = .ok address ↔
      signer.candidates addresses = {address}) ∧
    (∀ addresses addresses', addresses.Perm addresses' →
      signer.selectVaultAddress addresses = signer.selectVaultAddress addresses') ∧
    (∀ before after entry, entry ∈ before ++ after ∨ ¬ signer.Eligible entry →
      signer.selectVaultAddress (before ++ entry :: after) =
        signer.selectVaultAddress (before ++ after)) := by
  refine ⟨?_, ?_, ?_⟩
  · intro addresses address
    exact selectVaultAddress_eq_ok_iff
  · intro addresses addresses' perm
    exact selectVaultAddress_congr (candidates_perm perm)
  · intro before after entry idle
    exact selectVaultAddress_congr (candidates_insert idle)

/-- A signer for the vault account 7 with the asset `SOL`. -/
def solVault : FireblocksSigner where
  apiKey := "key"
  signingKey := []
  vaultAccountId := "7"
  assetId := "SOL"
  publicKey := none
  apiBaseUrl := "https://api.fireblocks.io"
  maxPollAttempts := 1
  useProgramCall := false

/-- One address in two entries, between an empty one and one of another asset. -/
theorem solVault_selects_repeated_address :
    let payer : VaultAddress := ⟨"payer", some "SOL"⟩
    let listed : List VaultAddress := [⟨"", none⟩, ⟨"other", some "SOL_TEST"⟩, payer]
    solVault.selectVaultAddress (payer :: listed) = .ok "payer" ∧
      solVault.candidates (payer :: listed) = {"payer"} ∧
      solVault.selectVaultAddress (payer :: listed) = solVault.selectVaultAddress listed ∧
      solVault.selectVaultAddress listed.reverse = solVault.selectVaultAddress listed := by
  intro payer listed
  have selection := selectVaultAddress_ok_iff_only_candidate solVault
  have selected : solVault.selectVaultAddress (payer :: listed) = .ok "payer" := by rfl
  have repeated : payer ∈ ([] : List VaultAddress) ++ listed := by simp [listed]
  exact ⟨selected, (selection.1 _ _).mp selected,
    selection.2.2 [] listed payer (.inl repeated),
    selection.2.1 _ _ (List.reverse_perm listed)⟩

end

/-! ## Initialization -/

section

variable {σ : Type} [Crates] [FromSlice VaultAddressesResponse]

/-- The request for the addresses of the vault account. -/
def addressesUri (signer : FireblocksSigner) : String :=
  s!"/v1/vault/accounts/{signer.vaultAccountId}/{signer.assetId}/addresses_paginated"

/-- The key of the selected address, by `Pubkey::from_str`. -/
def pubkeyOfAddresses (signer : FireblocksSigner) (fromStr : String → Option Pubkey)
    (response : Response) : Except SignerError Pubkey := do
  let addressesResponse : VaultAddressesResponse ←
    parseJsonResponse response "Fireblocks API fetch_public_key"
  let address ← signer.selectVaultAddress addressesResponse.addresses
  okOr (fromStr address) (.invalidPublicKey "Invalid public key from Fireblocks")

def fetchPublicKey (signer : FireblocksSigner) (fromStr : String → Option Pubkey) :
    HttpProg σ SignerError Pubkey := do
  let token ← signer.createAuthToken signer.addressesUri ""
  exchange
    (.ok {
      method := .get
      url := signer.apiBaseUrl ++ signer.addressesUri
      headers := [("X-API-Key", signer.apiKey), ("Authorization", s!"Bearer {token}")]
      body := "" })
    (signer.pubkeyOfAddresses fromStr)

/-- Fetch the public key; the signer that has it can sign. -/
def init (signer : FireblocksSigner) (fromStr : String → Option Pubkey) :
    HttpProg σ SignerError FireblocksSigner := do
  let publicKey ← signer.fetchPublicKey fromStr
  pure { signer with publicKey := some publicKey }

omit [Crates] in
/-- The key belongs to the only candidate of the response. -/
theorem pubkeyOfAddresses_eq_ok {signer : FireblocksSigner} {fromStr : String → Option Pubkey}
    {response : Response} {publicKey : Pubkey} :
    signer.pubkeyOfAddresses fromStr response = .ok publicKey ↔
      ∃ listed address, parseJsonResponse response "Fireblocks API fetch_public_key" =
          .ok (⟨listed⟩ : VaultAddressesResponse) ∧
        signer.candidates listed = {address} ∧ fromStr address = some publicKey := by
  rw [pubkeyOfAddresses, bind_eq_ok]
  constructor
  · intro given
    obtain ⟨⟨listed⟩, parsed, rest⟩ := given
    obtain ⟨address, selected, named⟩ := bind_eq_ok.mp rest
    exact ⟨listed, address, parsed, selectVaultAddress_eq_ok_iff.mp selected,
      okOr_eq_ok.mp named⟩
  · intro given
    obtain ⟨listed, address, parsed, only, named⟩ := given
    exact ⟨⟨listed⟩, parsed, bind_eq_ok.mpr ⟨address, selectVaultAddress_eq_ok_iff.mpr only,
      okOr_eq_ok.mpr named⟩⟩

omit [FromSlice VaultAddressesResponse] in
/-- A token is made without asking anyone. -/
theorem createAuthToken_run {signer : FireblocksSigner} {uri body : String}
    {answers : ℕ → Reply} {w : World Request Reply σ} :
    (signer.createAuthToken uri body).run answers w =
      (createJwt signer.apiKey signer.signingKey (Crates.utcMillis w.asked / 1000)
        (Crates.uuidV4 w.asked) uri body, w) := rfl

/-- The outcome of a fetch that returns is made of one reply. -/
theorem fetchPublicKey_run_ok {signer : FireblocksSigner} {fromStr : String → Option Pubkey}
    {answers : ℕ → Reply} {w w' : World Request Reply σ} {publicKey : Pubkey}
    (ran : (signer.fetchPublicKey fromStr).run answers w = (.ok publicKey, w')) :
    ∃ request reply response, w' = w.heard request reply ∧ received reply = .ok response ∧
      signer.pubkeyOfAddresses fromStr response = .ok publicKey := by
  rw [fetchPublicKey, run_bind, createAuthToken_run] at ran
  cases made : createJwt signer.apiKey signer.signingKey (Crates.utcMillis w.asked / 1000)
      (Crates.uuidV4 w.asked) signer.addressesUri "" with
  | error e =>
    rw [made] at ran
    cases ran
  | ok token =>
    rw [made] at ran
    obtain ⟨reply, heard, judged⟩ := exchange_meets.of_run_ok ran
    obtain ⟨response, arrived, named⟩ := bind_eq_ok.mp judged
    exact ⟨_, reply, response, heard, arrived, named⟩

/-- An initialized signer is bound to the only candidate of the provider's answer. -/
theorem init_binds_only_candidate {signer initialized : FireblocksSigner}
    {fromStr : String → Option Pubkey} {answers : ℕ → Reply} {w w' : World Request Reply σ}
    (ran : (signer.init fromStr).run answers w = (.ok initialized, w')) :
    ∃ request reply response listed address publicKey,
      w' = w.heard request reply ∧ received reply = .ok response ∧
      parseJsonResponse response "Fireblocks API fetch_public_key" =
        .ok (⟨listed⟩ : VaultAddressesResponse) ∧
      signer.candidates listed = {address} ∧ fromStr address = some publicKey ∧
      initialized = { signer with publicKey := some publicKey } := by
  rw [init, run_bind] at ran
  rcases fetched : (signer.fetchPublicKey fromStr).run answers w with ⟨e | publicKey, w''⟩
  · rw [fetched] at ran
    cases ran
  · rw [fetched] at ran
    obtain ⟨request, reply, response, heard, arrived, named⟩ := fetchPublicKey_run_ok fetched
    obtain ⟨listed, address, parsed, only, parses⟩ := pubkeyOfAddresses_eq_ok.mp named
    cases ran
    exact ⟨request, reply, response, listed, address, publicKey, heard, arrived, parsed, only,
      parses, rfl⟩

end

end FireblocksSigner

end Keychain.Rust
