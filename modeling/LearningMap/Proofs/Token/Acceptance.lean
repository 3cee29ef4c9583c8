import LearningMap.Proofs.Token.Claims
import LearningMap.Proofs.Token.Signing

/-!
# Which tokens are accepted

A token that is made of claims in words is accepted under its secret until its claims have expired:
its payload is read back as it was written. And nothing else than a genuine token is ever accepted,
where genuine is said of the three segments alone.
-/

namespace LearningMap

namespace Token

theorem point_not_mem_of_open? {α : Type} {read : Json.Reader α} {cs : List Char} {a : α}
    (opened : open? read cs = .ok a) : '.' ∉ cs := by
  obtain ⟨bytes, -, decoded, -⟩ := open?_eq_ok_iff.mp opened
  exact Base64.point_not_mem_of_decode decoded

theorem validate_ofClaims_eq_ok {secret : String} {second : Int} {c : Claims}
    (subject : Id.fits c.subject = true) (expiry : Id.fits c.expiry = true)
    (issued : Id.fits c.issued = true) (nonneg : 0 ≤ c.expiry)
    (current : second - Validity.leeway ≤ c.expiry) :
    validate secret second (ofClaims secret c) = .ok c := by
  have plain := Claims.plain_toJson subject expiry issued
  have valid : (Validity.mk (some c.expiry) false).check second = .ok () := by
    simp only [Validity.check, if_neg (Int.not_lt.mpr current), Bool.false_eq_true, if_false]
  rw [validate_ofClaims, open?_segment plain (Claims.reader_toDraft subject expiry issued),
    open?_segment plain (Validity.reader_toDraft nonneg)]
  simp only [bind, Except.bind, valid]
  rfl

/-- A token can be made if its expiry is neither before all clocks nor too late for a word: then no
word is too small for the time in between. -/
theorem issue_eq_ok (secret : String) {minutes now : Int} (tokenId : String) (member : Id)
    (role : String) (clock : 0 ≤ now) (clock_fits : Id.fits now = true)
    (nonneg : 0 ≤ now + 60 * minutes) (fits : Id.fits (now + 60 * minutes) = true) :
    issue secret minutes now tokenId member role =
      .ok (ofClaims secret ⟨member, role, now + 60 * minutes, now, tokenId⟩) := by
  rw [Id.fits_iff] at clock_fits fits
  have span : Word.mul minutes 60 = .ok (60 * minutes) := by
    rw [Word.mul, Word.hold_eq_ok_iff, Id.fits_iff]
    omega
  have expiry : Word.add now (60 * minutes) = .ok (now + 60 * minutes) := by
    rw [Word.add, Word.hold_eq_ok_iff, Id.fits_iff]
    exact ⟨rfl, fits⟩
  rw [issue, span]
  simp only [bind, Except.bind, expiry]
  rfl

/-- What three segments are in a token that makes claims at a second. -/
structure Genuine (secret : String) (second : Int) (c : Claims)
    (first payload signature : List Char) : Prop where
  algorithm : ∃ h, open? TokenHeader.reader first = .ok h ∧ h.algorithm = "HS256"
  signed : signature = Base64.encode
    (Hmac.sha256 (Text.bytes secret.toList) (Text.bytes (first ++ '.' :: payload)))
  told : ∃ bytes members, Base64.decode payload = some bytes ∧
    Json.Draft.ofSymbols (Text.symbols bytes) = (.obj members true, true) ∧ c.ToldBy members
  current : second - 60 ≤ c.expiry

theorem genuine_of_validate {secret : String} {second : Int} {token : String} {c : Claims}
    (accepted : validate secret second token = .ok c) :
    ∃ first payload signature, Text.pieces '.' token.toList = [first, payload, signature] ∧
      Genuine secret second c first payload signature := by
  unfold validate at accepted
  split at accepted
  · cases accepted
  next message signature outer =>
  split at accepted
  · cases accepted
  next first payload inner =>
  obtain ⟨h, header, accepted⟩ := exists_of_bind_eq_ok accepted
  by_cases algorithm : h.algorithm ≠ TokenHeader.standard.algorithm
  · rw [if_pos algorithm] at accepted
    cases accepted
  rw [if_neg algorithm] at accepted
  by_cases signed : signature ≠ sign secret message
  · rw [if_pos signed] at accepted
    cases accepted
  rw [if_neg signed] at accepted
  obtain ⟨claims, read, accepted⟩ := exists_of_bind_eq_ok accepted
  obtain ⟨validity, checked, accepted⟩ := exists_of_bind_eq_ok accepted
  obtain ⟨⟨⟩, valid, accepted⟩ := exists_of_bind_eq_ok accepted
  obtain rfl := Except.ok.inj accepted
  obtain ⟨bytes, d, decoded, whole, draft⟩ := open?_eq_ok_iff.mp read
  obtain ⟨bytes', d', decoded', whole', draft'⟩ := open?_eq_ok_iff.mp checked
  -- Both readers have read the same draft of the payload.
  obtain rfl := Option.some.inj (decoded.symm.trans decoded')
  obtain rfl := (Prod.mk.inj (whole.symm.trans whole')).1
  obtain ⟨members, rfl, told, current⟩ := Validity.toldBy_of_accepted draft draft' valid
  obtain ⟨apart, no_point⟩ := splitLast_eq_some outer
  obtain ⟨rfl, no_point'⟩ := splitLast_eq_some inner
  refine ⟨first, payload, signature, ?_, ?_⟩
  · rw [apart, List.append_assoc, List.cons_append,
      Text.pieces_append (point_not_mem_of_open? header), Text.pieces_append no_point',
      Text.pieces_of_not_mem no_point]
  · exact
      { algorithm := ⟨h, header, Decidable.not_not.mp algorithm⟩
        signed := Decidable.not_not.mp signed
        told := ⟨bytes, members, decoded, whole, told⟩
        current := current }

end Token

end LearningMap
