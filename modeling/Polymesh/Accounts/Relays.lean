import Polymesh.Accounts.Steps

/-!
# Relayed calls

A call that an account has signed is relayed with the nonce of that account, which is advanced before
the call is run and stays advanced when the call fails. What a failed call has done is undone, with
the calls that it has relayed in turn. So the calls that were relayed for an account, and were not
undone, have the nonces `0, 1, 2, …`, and the nonce of the account is the number of them.
-/

namespace Polymesh

open Transactional Tx TransitionSystem

namespace Accounts

variable {hashes : Hashes} {effect : Effect} {s s' s'' : Storage}

/-- What is relayed between two states: for every account, calls with successive nonces, each of them
signed for. -/
def Relayed (hashes : Hashes) (s s' : Storage) : Prop :=
  ∀ target, ∃ calls : List Relay,
    s'.relays target = s.relays target ++ calls ∧
    s'.nonces target = s.nonces target + calls.length ∧
    calls.map Relay.nonce = List.range' (s.nonces target) calls.length ∧
    ∀ r ∈ calls, hashes.verify r.signature r.nonce r.call target

theorem Relayed.unchanged (hrelays : s'.relays = s.relays) (hnonces : s'.nonces = s.nonces) :
    Relayed hashes s s' := by
  intro target
  exact ⟨[], by rw [hrelays, List.append_nil], by rw [hnonces]; rfl, rfl, by simp⟩

instance : Std.Refl (Relayed hashes) := ⟨fun _ => .unchanged rfl rfl⟩

instance : IsTrans Storage (Relayed hashes) where
  trans s s' s'' h h' target := by
    obtain ⟨calls, hrelays, hnonces, hsuccessive, hsigned⟩ := h target
    obtain ⟨calls', hrelays', hnonces', hsuccessive', hsigned'⟩ := h' target
    refine ⟨calls ++ calls', ?_, ?_, ?_, fun r hr => ?_⟩
    · rw [hrelays', hrelays, List.append_assoc]
    · rw [hnonces', hnonces, List.length_append, Nat.add_assoc]
    · rw [List.map_append, List.length_append, hsuccessive, hsuccessive', hnonces,
        ← List.range'_append_1]
    · rcases List.mem_append.mp hr with hr | hr
      · exact hsigned r hr
      · exact hsigned' r hr

/-- **Every effect relays at most one call**, with the nonce of its account. -/
theorem Occurs.relayed (h : Occurs hashes effect s s') : Relayed hashes s s' := by
  by_cases hrelay : effect = .relay
  · subst hrelay
    cases h with
    | @relay target signature nonce call s hnonce hverify =>
      intro target'
      by_cases heq : target' = target
      · subst heq
        exact ⟨[⟨signature, nonce, call⟩], by simp [noteRelayed], by simp [noteRelayed, hnonce],
          by simp [hnonce], by simpa using hverify⟩
      · exact ⟨[], by simp [noteRelayed, heq], by simp [noteRelayed, heq], rfl, by simp⟩
  · exact .unchanged (h.relays_eq hrelay).1 (h.relays_eq hrelay).2

/-! ## Relayed once -/

theorem Effects.relayed (h : Effects hashes (fun _ => True) s s') : Relayed hashes s s' :=
  h.rel _ fun _ _ _ _ he => he.relayed

theorem run_relayed (s : Storage) (as : List Action) : Relayed hashes s (run (step hashes) s as) :=
  run_rel (fun _ => True) (Relayed hashes) (fun _ _ _ _ => trivial)
    (fun s a _ _ => (step_anyEffects a s).relayed) trivial (along_true s as)

theorem dispatch_relayTx_ok {envs : Envs} {target : AccountId} {signature : Signature}
    {nonce : ℕ} {call : Call} {origin : Origin} {u : Unit}
    (h : dispatch hashes envs (.relayTx target signature nonce call) origin s = (.ok u, s')) :
    s.nonces target = nonce ∧ hashes.verify signature nonce call target ∧
      s' = (Tx.transaction (dispatch hashes (envs.inner 0) call (.signed target))
        (noteRelayed target signature nonce call s)).2 := by
  rw [dispatch, dispatchWith] at h
  simp only [↓run_ok, bind_ok, attempt_ok, ensureRelayed, except_bind_eq_ok, ensure_eq_ok] at h
  obtain ⟨_, ⟨_, -, _, -, _, hnonce, _, hverify, -⟩, res, s₁, hrun, -, rfl⟩ := h
  exact ⟨hnonce, hverify, by rw [dispatch, hrun]⟩

/-- **A relayed call runs at most once.** The calls that were relayed for an account and not undone
have successive nonces from zero, and each is signed for. Between a state and any later one the nonce
of an account grows by one for each such call. A call is relayed only with the stored nonce and a
signature of that nonce and that call, and runs with the nonce advanced, which its failure does not
undo. -/
theorem relayed_once {identities : List GenesisIdentity}
    (hs : Reachable (step hashes) (genesis identities) s) :
    (∀ target, (s.relays target).map Relay.nonce = List.range (s.nonces target)) ∧
      (∀ target, ((s.relays target).map Relay.nonce).Nodup) ∧
      (∀ target, ∀ r ∈ s.relays target, hashes.verify r.signature r.nonce r.call target) ∧
      (∀ as target, ∃ calls, (run (step hashes) s as).relays target = s.relays target ++ calls ∧
        (run (step hashes) s as).nonces target = s.nonces target + calls.length) ∧
      ∀ envs origin target signature nonce call s',
        dispatch hashes envs (.relayTx target signature nonce call) origin s = (.ok (), s') →
        s.nonces target = nonce ∧ hashes.verify signature nonce call target ∧
          nonce < s'.nonces target ∧
          s' = (Tx.transaction (dispatch hashes (envs.inner 0) call (.signed target))
            (noteRelayed target signature nonce call s)).2 := by
  have hrelayed : Relayed hashes emptyStorage s :=
    Reachable.of_effects (Relayed hashes emptyStorage) (refl _)
      (fun _ _ _ he h => IsTrans.trans _ _ _ h he.relayed) hs
  have hall : ∀ target, (s.relays target).map Relay.nonce = List.range (s.nonces target) ∧
      ∀ r ∈ s.relays target, hashes.verify r.signature r.nonce r.call target := by
    intro target
    obtain ⟨calls, hcalls, hnonces, hsuccessive, hsigned⟩ := hrelayed target
    rw [hcalls, hnonces, List.range_eq_range']
    exact ⟨by simpa [emptyStorage] using hsuccessive, hsigned⟩
  refine ⟨fun target => (hall target).1, fun target => (hall target).1 ▸ List.nodup_range,
    fun target => (hall target).2, fun as target => ?_, ?_⟩
  · obtain ⟨calls, hcalls, hnonces, -⟩ := run_relayed s as target
    exact ⟨calls, hcalls, hnonces⟩
  · intro envs origin target signature nonce call s' h
    obtain ⟨hnonce, hverify, rfl⟩ := dispatch_relayTx_ok h
    refine ⟨hnonce, hverify, ?_, rfl⟩
    -- what the call itself does only advances nonces
    have hcall : Respects (Relayed hashes) (dispatch hashes (envs.inner 0) call (.signed target)) :=
      fun _ _ _ h => (dispatch_anyEffects _ call _ h).relayed
    obtain ⟨calls, -, hnonces, -⟩ :=
      (Atomic.transaction _).rel_run (.transaction hcall)
        (noteRelayed target signature nonce call s) target
    rw [hnonces]
    have hadvanced : (noteRelayed target signature nonce call s).nonces target = nonce + 1 := by
      simp [noteRelayed]
    omega

/-- A call is relayed with a call in it that is relayed in turn, and both are relayed again. -/
def relayedTwice : List Action :=
  let inner : Call := .relayTx ⟨1⟩ ⟨0⟩ 1 .freezeSecondaryKeys
  [.calls 0 (.relayTx ⟨1⟩ ⟨0⟩ 0 inner), .calls 0 (.relayTx ⟨1⟩ ⟨0⟩ 0 inner), .calls 0 inner]

/-- Two identities at the start. -/
def relayers : List GenesisIdentity := [⟨⟨0⟩, ⟨0⟩, []⟩, ⟨⟨1⟩, ⟨1⟩, []⟩]

/-- Both calls have run, and neither has run again. -/
theorem relayed_once_twice :
    ((run (step .numbers) (genesis relayers) relayedTwice).relays ⟨1⟩).map Relay.nonce = [0, 1] := by
  have hreachable : Reachable (step .numbers) (genesis relayers)
      (run (step .numbers) (genesis relayers) relayedTwice) := ⟨relayedTwice, rfl⟩
  have hnonce : (run (step .numbers) (genesis relayers) relayedTwice).nonces ⟨1⟩ = 2 := by
    decide +kernel
  rw [(relayed_once hreachable).1, hnonce]
  rfl

end Accounts

end Polymesh
