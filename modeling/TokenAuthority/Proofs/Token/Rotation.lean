import TokenAuthority.Proofs.Keys.History
import TokenAuthority.Proofs.Token.NamedKey

/-!
# Verification over the history of a registry

No rotation makes a difference to verification. A reload makes one only to tokens whose key it registers, takes out or
replaces, and a token whose key is not registered is refused for that alone. Main statement:
`Authority.verify_over_history`.
-/

namespace TokenAuthority

namespace Authority

open SharedRegistry

variable {authority : Authority} {token : String} {now : Instant} {shared : SharedRegistry}

theorem verify_step_rotate (authority : Authority) (shared : SharedRegistry) (kid token : String) (now : Instant) :
    authority.verify (shared.step (.rotate kid)).current token now = authority.verify shared.current token now := by
  refine verify_congr fun kid' _ => ?_
  rw [Registry.publicKey?, Registry.publicKey?, keys_step_rotate]

/-- Only the publication of a reload makes a difference, by the key that the token names. -/
theorem exists_publish_of_verify_step_ne {event : KeyEvent}
    (h : authority.verify (shared.step event).current token now ≠ authority.verify shared.current token now) :
    ∃ place kid, event = .publish place ∧ Names token kid ∧
      (shared.step event).current.publicKey? kid ≠ shared.current.publicKey? kid := by
  cases event with
  | rotate kid => exact absurd (verify_step_rotate authority shared kid token now) h
  | read reading kid? => exact absurd (by rw [current_step_read]) h
  | publish place =>
      by_contra hnone
      refine h (verify_congr fun kid hnames => ?_)
      by_contra hkey
      exact hnone ⟨place, kid, rfl, hnames, hkey⟩

theorem exists_publish_of_verify_run_ne {events : List KeyEvent}
    (h : authority.verify (shared.run events).current token now ≠ authority.verify shared.current token now) :
    ∃ earlier place later kid, events = earlier ++ .publish place :: later ∧ Names token kid ∧
      ((shared.run earlier).step (.publish place)).current.publicKey? kid ≠
        (shared.run earlier).current.publicKey? kid := by
  induction events generalizing shared with
  | nil => exact absurd rfl h
  | cons event events ih =>
      -- The event looked for is the first that changes the outcome.
      by_cases hstep : authority.verify (shared.step event).current token now =
          authority.verify shared.current token now
      · rw [← hstep] at h
        obtain ⟨earlier, place, later, kid, rfl, hnames, hkey⟩ := ih h
        exact ⟨event :: earlier, place, later, kid, rfl, hnames, hkey⟩
      · obtain ⟨place, kid, rfl, hnames, hkey⟩ := exists_publish_of_verify_step_ne hstep
        exact ⟨[], place, events, kid, rfl, hnames, hkey⟩

/-- Verification depends on nothing of a registry but the public key under the key id that the token names. So over
any history a rotation changes no outcome, an outcome that changes does so where a reload is published that changes
this key, and while no such key is registered the token is refused for it. -/
theorem verify_over_history (authority : Authority) (token : String) (now : Instant) :
    (∀ registry registry', (∀ kid, Names token kid → registry.publicKey? kid = registry'.publicKey? kid) →
      authority.verify registry token now = authority.verify registry' token now) ∧
    (∀ shared kid, authority.verify (SharedRegistry.step shared (.rotate kid)).current token now =
      authority.verify shared.current token now) ∧
    (∀ shared events, authority.verify (SharedRegistry.run shared events).current token now ≠
        authority.verify shared.current token now →
      ∃ earlier place later kid, events = earlier ++ .publish place :: later ∧ Names token kid ∧
        ((shared.run earlier).step (.publish place)).current.publicKey? kid ≠
          (shared.run earlier).current.publicKey? kid) ∧
    (∀ registry kid, Names token kid → (∀ pair ∈ registry.keys.pairs, pair.kid ≠ kid) →
      authority.verify registry token now = .error (.keyNotFound (.unknown kid))) := by
  refine ⟨fun registry registry' hsame => ?_, fun shared kid => ?_, fun shared events hne => ?_,
    fun registry kid hnames hnone => ?_⟩
  · exact verify_congr hsame
  · exact verify_step_rotate authority shared kid token now
  · exact exists_publish_of_verify_run_ne hne
  · obtain ⟨s, hcomposed, hnamed⟩ := hnames
    exact verify_of_unregistered hcomposed hnamed (Registry.publicKey?_eq_none_iff.2 hnone)

/-! ## A sample -/

/-- A token whose key a reload takes out is accepted before it and refused after it. -/
theorem verify_over_history_sample : ∃ token now,
    sampleAuthority.verify sampleStart token now = .ok sampleClaims ∧
    sampleAuthority.verify sampleShared.current token now = .error (.keyNotFound (.unknown sampleKid)) ∧
    ∃ earlier place later, sampleEvents = earlier ++ .publish place :: later ∧
      (((start sampleStart).run earlier).step (.publish place)).current.publicKey? sampleKid ≠
        ((start sampleStart).run earlier).current.publicKey? sampleKid := by
  obtain ⟨token, hissue⟩ := exists_issue_sample
  obtain ⟨s, pair, haccepted⟩ : ∃ s pair, Accepted sampleAuthority (sampleRegistry sampleKid) token
      sampleClaims.issuedAt sampleClaims s pair :=
    accepted_of_issue rfl rfl rfl (by decide) hissue (by decide)
  have hnames : Names token sampleKid := by
    have hpair : pair = samplePair sampleKid := List.mem_singleton.1 haccepted.registered
    subst hpair
    exact ⟨s, haccepted.composed, haccepted.named⟩
  obtain ⟨hsame, _, hruns, hunregistered⟩ := verify_over_history sampleAuthority token sampleClaims.issuedAt
  have hbefore : sampleAuthority.verify sampleStart token sampleClaims.issuedAt = .ok sampleClaims :=
    (hsame sampleStart (sampleRegistry sampleKid) fun _ _ => rfl).trans (verify_of_accepted haccepted)
  have hafter : sampleAuthority.verify sampleShared.current token sampleClaims.issuedAt =
      .error (.keyNotFound (.unknown sampleKid)) := by
    refine hunregistered _ _ hnames fun other hother => ?_
    rw [keys_sampleShared] at hother
    rw [List.mem_singleton.1 hother]
    decide
  have hne : sampleAuthority.verify ((start sampleStart).run sampleEvents).current token sampleClaims.issuedAt ≠
      sampleAuthority.verify (start sampleStart).current token sampleClaims.issuedAt := by
    intro h
    cases hafter.symm.trans (h.trans hbefore)
  obtain ⟨earlier, place, later, kid, hevents, hkid, hkey⟩ := hruns (start sampleStart) sampleEvents hne
  have hsameKid : kid = sampleKid := hkid.eq hnames
  subst hsameKid
  exact ⟨token, sampleClaims.issuedAt, hbefore, hafter, earlier, place, later, hevents, hkey⟩

end Authority

end TokenAuthority
