import Keychain.Go.Polling
import Keychain.Rust.Crossmint.Polling

/-!
What the Crossmint polling loops of the Rust and the Go signer promise, in terms of the
conversation alone: the requests that were sent and the replies they got.
-/

namespace Keychain.Crossmint

/-- A poll of at most `attempts` follow-ups, of which at most one approves. The responses
are the created one and what is read from each reply; a request is about the response
before it, and the one returned is the last of them. -/
def PollsWithin {R : Type} (attempts : ℕ) (status : R → String) (approves : R → Request → Prop)
    (read : Reply → Option R) (created : R) (log : List (Request × Reply))
    (result : Option R) : Prop :=
  let responses := some created :: log.map fun exchange => read exchange.2
  log.length ≤ attempts ∧
  log.countP (fun exchange => exchange.1.method = .post) ≤ 1 ∧
  (∀ (k : ℕ) request reply, log[k]? = some (request, reply) →
    ∃ response, responses[k]? = some (some response) ∧ status response ≠ "failed" ∧
      (request.method = .post → status response = "awaiting-approval" ∧
        approves response request)) ∧
  ∀ final, result = some final →
    status final = "success" ∧ responses.getLast? = some (some final)

theorem pollsWithin_of_follows {R σ ε : Type} {rules : Polling Request Reply R} {attempts : ℕ}
    {status : R → String} {approves : R → Request → Prop} {created : R}
    {m : HttpProg σ ε R} (follows : rules.Follows attempts false created m)
    (once : ∀ request, rules.once request = decide (request.method = .post))
    (sends : ∀ response request, rules.sends response request → status response ≠ "failed" ∧
      (request.method = .post → status response = "awaiting-approval" ∧
        approves response request))
    (done : ∀ response, rules.done response → status response = "success")
    (answers : ℕ → Reply) (s : σ) :
    PollsWithin attempts status approves rules.read created
      (m.run answers (.start s)).2.log (m.run answers (.start s)).1.toOption := by
  obtain ⟨log, appended, polls⟩ := follows answers (.start s)
  rw [World.start_log, List.nil_append] at appended
  rw [appended]
  refine ⟨polls.length_le, ?_, ?_, ?_⟩
  · simpa [once] using polls.countP_once_le
  · intro k request reply at_k
    obtain ⟨response, before, sent⟩ := polls.sent at_k
    exact ⟨response, before, sends response request sent⟩
  · intro final returned
    obtain ⟨finished, last⟩ := polls.last_of_done returned
    exact ⟨done final finished, last⟩

/-- Both loops poll within their attempts, whatever the provider answers. -/
theorem pollTransaction_within :
    (∀ [Rust.Crates] (σ : Type) (signer : Rust.Crossmint.CrossmintSigner)
      (created : Rust.Crossmint.TransactionResponse) (answers : ℕ → Reply) (s : σ),
      let run := (signer.pollTransaction created).run answers (.start s)
      PollsWithin signer.maxPollAttempts (·.status) signer.Approves
        Rust.Crossmint.CrossmintSigner.responseOf created run.2.log run.1.toOption) ∧
    (∀ [Go.Packages] [Go.Unmarshal String] [Go.Unmarshal Go.Crossmint.MessageObject]
      [Go.Unmarshal Go.Crossmint.RawObject] [Go.Unmarshal Go.Crossmint.TransactionResponse]
      (signer : Go.Crossmint.Signer) (created : Go.Crossmint.TransactionResponse)
      (answers : ℕ → Reply) (ctx : Go.Context),
      let run := (signer.pollTransaction created).run answers (.start ctx)
      PollsWithin signer.maxPollAttempts (·.status) signer.Approves
        Go.Crossmint.Signer.responseOf created run.2.log run.1.toOption) := by
  refine ⟨?_, ?_⟩
  · intro _ σ signer created answers s
    refine pollsWithin_of_follows Rust.Crossmint.CrossmintSigner.pollLoop_follows
      (fun _ => rfl) ?_ (fun _ success => success) answers s
    intro response request sent
    obtain ⟨-, failed, ⟨get, -⟩ | ⟨-, approved⟩⟩ := sent
    · exact ⟨failed, fun post => by simp [get] at post⟩
    · exact ⟨failed, fun _ => approved⟩
  · intro _ _ _ _ _ signer created answers ctx
    refine pollsWithin_of_follows Go.Crossmint.Signer.pollLoop_follows
      (fun _ => rfl) ?_ (fun _ success => success) answers ctx
    intro response request sent
    obtain ⟨-, failed, ⟨get, -⟩ | ⟨-, approved⟩⟩ := sent
    · exact ⟨failed, fun post => by simp [get] at post⟩
    · exact ⟨failed, fun _ => approved⟩

end Keychain.Crossmint
