import TokenAuthority.Proofs.Time.Instants
import TokenAuthority.Proofs.Token.Issuance
import TokenAuthority.Settings.Basic

/-!
# Minted tokens

A minted token says what the claims stamped for it say, up to the fractions of a second, and a token minted for a
lifetime of whole seconds expires at a whole second. Main statements: `Authority.said_of_mint`,
`Authority.expiresAt_of_mint`.
-/

namespace TokenAuthority

namespace Authority

variable {authority : Authority} {registry : Registry} {user : UserId} {roles : RoleSet} {now : Instant}
  {token : String} {claims : Claims}

theorem stamp?_of_mint (h : authority.mint registry user roles now = .ok (token, claims)) :
    Claims.stamp? user roles authority.issuer now authority.lifetime = some claims ∧
      issue registry claims = .ok token := by
  unfold mint at h
  split at h
  · cases h
  · rename_i stamped hstamp
    obtain ⟨issued, hissue, heq⟩ := Outcome.map_eq_ok.1 h
    cases heq
    exact ⟨hstamp, hissue⟩

theorem subject_roles_of_mint (h : authority.mint registry user roles now = .ok (token, claims)) :
    claims.subject = user ∧ claims.roles = roles := by
  obtain ⟨expiresAt, _, rfl⟩ := Option.map_eq_some_iff.1 (stamp?_of_mint h).1
  exact ⟨rfl, rfl⟩

/-- A minted token says its claims as they are sent. -/
theorem said_of_mint (h : authority.mint registry user roles now = .ok (token, claims)) :
    ∃ s, Segments.Compose token s ∧ s.Says claims.onWire := by
  obtain ⟨pair, _, _, hsign⟩ := exists_pair_of_issue (stamp?_of_mint h).2
  obtain ⟨s, hcomposed, hsegments⟩ := exists_issued_of_signWith hsign
  exact ⟨s, hcomposed, hsegments.said⟩

/-- The expiry of a token that holds as long as some settings say comes back from the token. -/
theorem expiresAt_of_mint {settings : Settings} (hlifetime : authority.lifetime = settings.lifetime)
    (h : authority.mint registry user roles now = .ok (token, claims)) :
    claims.onWire.expiresAt = claims.expiresAt := by
  obtain ⟨expiresAt, hadd, rfl⟩ := Option.map_eq_some_iff.1 (stamp?_of_mint h).1
  rw [hlifetime] at hadd
  exact Instant.wholeSecond_of_nanoseconds (Instant.nanoseconds_of_add? settings.lifetime_pos rfl hadd)

end Authority

end TokenAuthority
