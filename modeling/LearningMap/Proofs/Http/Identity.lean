import LearningMap.Proofs.Http.Admission
import LearningMap.Proofs.Token.Acceptance

/-!
# Whom a token stands for

Whoever bears a token is taken for the member that it was issued to, in the role that it was issued
for, whatever the role is called. It cannot be got any other way: what is accepted has been signed.
-/

namespace LearningMap

/-- Tokens stand for identities, and for nothing that was not signed. Under one secret, and by a clock
that counts from zero, whoever bears a token is known by the member and the role that it was issued
to, from then on until it expires; and every token that is accepted, at any time, is genuine. -/
theorem Token.bearer_identified_and_accepted_genuine (secret : String) :
    (∀ (minutes now : Int) (tokenId : String) (member : Id) (role : String),
      Id.fits member = true → 0 ≤ now → Id.fits now = true →
      0 ≤ now + 60 * minutes → Id.fits (now + 60 * minutes) = true →
        ∃ token, issue secret minutes now tokenId member role = .ok token ∧
          ∀ (r : Request) (second : Int), now ≤ second → second ≤ now + 60 * minutes →
            r.headers.value? "authorization" = some ("Bearer " ++ token) →
              r.caller secret second = .ok ⟨member, role⟩) ∧
    ∀ (second : Int) (token : String) (c : Claims), validate secret second token = .ok c →
      ∃ first payload signature, Text.pieces '.' token.toList = [first, payload, signature] ∧
        Genuine secret second c first payload signature := by
  refine ⟨?issued, fun second token c accepted => genuine_of_validate accepted⟩
  intro minutes now tokenId member role member_fits clock clock_fits nonneg fits
  refine ⟨_, issue_eq_ok secret tokenId member role clock clock_fits nonneg fits, ?_⟩
  intro r second _ unexpired borne
  have current : second - Validity.leeway ≤ now + 60 * minutes := by
    have : (0 : Int) ≤ Validity.leeway := by decide
    omega
  have accepted : validate secret second
      (ofClaims secret ⟨member, role, now + 60 * minutes, now, tokenId⟩) =
        .ok ⟨member, role, now + 60 * minutes, now, tokenId⟩ :=
    validate_ofClaims_eq_ok member_fits fits clock_fits nonneg current
  exact (Request.bears_ofClaims borne accepted).caller_eq

/-- The claims of a member with the least identifier, whose role is not easily written, until the
last second that there is. -/
def oddClaims : Claims := ⟨Id.least, "ad\"min\\ \u0000\u00e9\u2028", Id.greatest, 7, "a"⟩

def oddRequest : Request :=
  ⟨"GET", ⟨['/'], []⟩, [("Authorization", "Bearer " ++ Token.ofClaims "secret" oddClaims)], ""⟩

theorem Token.bearer_identified_and_accepted_genuine_for_odd :
    issue "secret" 153722867280912930 7 "a" Id.least oddClaims.role =
        .ok (ofClaims "secret" oddClaims) ∧
      oddRequest.caller "secret" Id.greatest = .ok ⟨Id.least, oddClaims.role⟩ ∧
      validate "secret" Id.greatest (ofClaims "secret" oddClaims) = .ok oddClaims ∧
      ∃ first payload signature,
        Text.pieces '.' (ofClaims "secret" oddClaims).toList = [first, payload, signature] ∧
          Genuine "secret" Id.greatest oddClaims first payload signature := by
  obtain ⟨identified, genuine⟩ := Token.bearer_identified_and_accepted_genuine "secret"
  obtain ⟨token, issued, known⟩ := identified 153722867280912930 7 "a" Id.least oddClaims.role
    (by decide) (by decide) (by decide) (by decide) (by decide)
  have made : issue "secret" 153722867280912930 7 "a" Id.least oddClaims.role =
      .ok (ofClaims "secret" oddClaims) :=
    issue_eq_ok "secret" "a" Id.least oddClaims.role (by decide) (by decide) (by decide)
      (by decide)
  obtain rfl := Except.ok.inj (issued.symm.trans made)
  have accepted : validate "secret" Id.greatest (ofClaims "secret" oddClaims) = .ok oddClaims :=
    validate_ofClaims_eq_ok (by decide) (by decide) (by decide) (by decide) (by decide)
  refine ⟨made, known oddRequest Id.greatest (by decide) (by decide) ?_, accepted,
    genuine Id.greatest _ oddClaims accepted⟩
  exact Headers.value?_cons_of_toLower (by cbv)

end LearningMap
