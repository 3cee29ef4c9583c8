import LearningMap.Proofs.Json.Reading
import LearningMap.Proofs.Json.Record
import LearningMap.Token.Claims
import LearningMap.Token.Validity

/-!
# Claims in a payload

The payload of a token is read twice: for the claims, and for what decides whether the token is
accepted. Both readers look for an expiry, each in its own way, and a payload may be an object or a
list. They mean the same one all the same. An object names its expiry once. A list that has all
claims in order has its last one where the second reader looks for those whom the token is meant
for, so no list is accepted.
-/

namespace LearningMap

open Json (Draft Reader)

namespace Claims

theorem plain_toJson {c : Claims} (subject : Id.fits c.subject = true)
    (expiry : Id.fits c.expiry = true) (issued : Id.fits c.issued = true) : c.toJson.Plain := by
  refine .obj ?_
  simp only [List.forall_mem_cons, List.not_mem_nil, false_imp_iff, implies_true, and_true]
  exact ⟨.whole (Json.isWord_of_fits subject), .str _, .whole (Json.isWord_of_fits expiry),
    .whole (Json.isWord_of_fits issued), .str _⟩

theorem reader_toDraft {c : Claims} (subject : Id.fits c.subject = true)
    (expiry : Id.fits c.expiry = true) (issued : Id.fits c.issued = true) :
    reader c.toJson.toDraft = .ok c := by
  simp [reader, toJson, Json.toDraft, Json.toDraft.memberDrafts, Reader.record, Reader.members,
    Reader.field, Reader.id, Reader.text, Json.int, subject, expiry, issued]
  rfl

def fields : List (Reader.Field Partial) :=
  open Json.Reader in
  [field "sub" id fun v p => { p with subject := some v },
    field "role" text fun v p => { p with role := some v },
    field "exp" id fun v p => { p with expiry := some v },
    field "iat" id fun v p => { p with issued := some v },
    field "jti" text fun v p => { p with tokenId := some v }]

theorem tells_subject : Reader.Tells fields "sub" Reader.id Partial.subject some where
  own := ⟨_, rfl, fun _ _ => rfl⟩
  others := by simp [fields, Reader.leaves_field]

theorem tells_role : Reader.Tells fields "role" Reader.text Partial.role some where
  own := ⟨_, rfl, fun _ _ => rfl⟩
  others := by simp [fields, Reader.leaves_field]

theorem tells_expiry : Reader.Tells fields "exp" Reader.id Partial.expiry some where
  own := ⟨_, rfl, fun _ _ => rfl⟩
  others := by simp [fields, Reader.leaves_field]

theorem tells_issued : Reader.Tells fields "iat" Reader.id Partial.issued some where
  own := ⟨_, rfl, fun _ _ => rfl⟩
  others := by simp [fields, Reader.leaves_field]

theorem tells_tokenId : Reader.Tells fields "jti" Reader.text Partial.tokenId some where
  own := ⟨_, rfl, fun _ _ => rfl⟩
  others := by simp [fields, Reader.leaves_field]

/-- The members of an object tell claims: each claim is the value of one member, and is of its
type. -/
structure ToldBy (c : Claims) (members : List (Option String × Draft)) : Prop where
  subject : Json.named "sub" members = [.num (.ok (.whole c.subject))]
  role : Json.named "role" members = [.str (.ok c.role)]
  expiry : Json.named "exp" members = [.num (.ok (.whole c.expiry))]
  issued : Json.named "iat" members = [.num (.ok (.whole c.issued))]
  tokenId : Json.named "jti" members = [.str (.ok c.tokenId)]
  subject_fits : Id.fits c.subject = true
  expiry_fits : Id.fits c.expiry = true
  issued_fits : Id.fits c.issued = true

section Members

variable {name : String} {p : Partial} {members : List (Option String × Draft)}
  (read : Reader.members fields [] {} members = .ok p)
include read

theorem named_id {view : Partial → Option Id} {n : Id}
    (tells : Reader.Tells fields name Reader.id view some) (nothing : view {} = none)
    (told : view p = some n) :
    Json.named name members = [.num (.ok (.whole n))] ∧ Id.fits n = true := by
  obtain ⟨d, v, once, value, same⟩ := Reader.named_of_tells tells nothing read told
  obtain ⟨rfl, fits⟩ := Reader.id_eq_ok value
  obtain rfl := Option.some.inj same
  exact ⟨once, fits⟩

theorem named_text {view : Partial → Option String} {s : String}
    (tells : Reader.Tells fields name Reader.text view some) (nothing : view {} = none)
    (told : view p = some s) : Json.named name members = [.str (.ok s)] := by
  obtain ⟨d, v, once, value, same⟩ := Reader.named_of_tells tells nothing read told
  obtain rfl := Reader.text_eq_ok value
  obtain rfl := Option.some.inj same
  exact once

end Members

/-- Claims have been read from an object that tells them, or from a list that ends in a text. -/
theorem reader_eq_ok {d : Draft} {c : Claims} (read : reader d = .ok c) :
    (∃ members, d = .obj members true ∧ c.ToldBy members) ∨
      ∃ ds text, d = .arr ds true ∧ ds.getLast? = some (.str (.ok text)) := by
  obtain ⟨p, told, source⟩ := Reader.record_eq_ok read
  rcases source with ⟨members, rfl, done⟩ | ⟨ds, rfl, five, done⟩
  · refine .inl ⟨members, rfl, ?_⟩
    simp only [Option.bind_eq_bind, Option.bind_eq_some_iff, Option.pure_def,
      Option.some.injEq] at told
    obtain ⟨subject, hs, role, hr, expiry, he, issued, hi, tokenId, ht, rfl⟩ := told
    obtain ⟨subject_once, subject_fits⟩ := named_id done tells_subject rfl hs
    obtain ⟨expiry_once, expiry_fits⟩ := named_id done tells_expiry rfl he
    obtain ⟨issued_once, issued_fits⟩ := named_id done tells_issued rfl hi
    exact ⟨subject_once, named_text done tells_role rfl hr, expiry_once, issued_once,
      named_text done tells_tokenId rfl ht, subject_fits, expiry_fits, issued_fits⟩
  · cases last : ds.getLast? with
    | none =>
      rw [List.getLast?_eq_none_iff.mp last] at five
      cases five
    | some fifth =>
      obtain ⟨u, final⟩ := Reader.read_last_of_items done five rfl last
      obtain ⟨text, value, -⟩ := Reader.read_field_eq_ok final
      exact .inr ⟨ds, text, rfl, last.trans (congrArg some (Reader.text_eq_ok value))⟩

end Claims

namespace Validity

def fields : List (Reader.Field Validity) :=
  open Json.Reader in
  [field "exp" count fun v p => { p with expiry := v },
    field "nbf" passNumber fun _ p => p,
    field "sub" pass fun _ p => p,
    field "iss" pass fun _ p => p,
    field "aud" address fun v p => { p with addressed := v }]

theorem tells_expiry : Reader.Tells fields "exp" count Validity.expiry (fun v => v) where
  own := ⟨_, rfl, fun _ _ => rfl⟩
  others := by simp [fields, Reader.leaves_field]

/-- What is written of claims tells their expiry, and is meant for nobody in particular. -/
theorem reader_toDraft {c : Claims} (nonneg : 0 ≤ c.expiry) :
    reader c.toJson.toDraft = .ok ⟨some c.expiry, false⟩ := by
  simp [reader, Claims.toJson, Json.toDraft, Json.toDraft.memberDrafts, Reader.record,
    Reader.members, Reader.field, Json.int, count, pass, Draft.passage, Json.Passage.ofLeaf, nonneg]
  rfl

/-- A list that ends in a text is meant for somebody. -/
theorem addressed_of_list {ds : List Draft} {text : String}
    (last : ds.getLast? = some (.str (.ok text))) {v : Validity} (read : reader (.arr ds true) = .ok v) : v.addressed = true := by
  obtain ⟨p, told, source⟩ := Reader.record_eq_ok read
  obtain rfl := Option.some.inj told
  rcases source with ⟨members, ⟨⟩, -⟩ | ⟨ds, ⟨⟩, five, done⟩
  obtain ⟨u, final⟩ := Reader.read_last_of_items done five rfl last
  obtain ⟨addressed, value, rfl⟩ := Reader.read_field_eq_ok final
  exact (Except.ok.inj value).symm

theorem check_eq_ok {v : Validity} {now : Int} (accepted : v.check now = .ok ()) :
    ∃ expiry, v.expiry = some expiry ∧ now - leeway ≤ expiry ∧ v.addressed = false := by
  unfold check at accepted
  split at accepted
  · cases accepted
  next expiry told =>
    split at accepted
    · cases accepted
    split at accepted
    · cases accepted
    next current unaddressed => exact ⟨expiry, told, by omega, by simpa using unaddressed⟩

/-- Where both readers accept a payload, it is an object that tells the claims, and the expiry among
them is the one that is checked. -/
theorem toldBy_of_accepted {d : Draft} {c : Claims} {v : Validity} {now : Int}
    (claims : Claims.reader d = .ok c) (validity : reader d = .ok v)
    (accepted : v.check now = .ok ()) :
    ∃ members, d = .obj members true ∧ c.ToldBy members ∧ now - leeway ≤ c.expiry := by
  obtain ⟨expiry, told, current, unaddressed⟩ := check_eq_ok accepted
  rcases Claims.reader_eq_ok claims with ⟨members, rfl, tells⟩ | ⟨ds, text, rfl, last⟩
  · refine ⟨members, rfl, tells, ?_⟩
    obtain ⟨p, finished, source⟩ := Reader.record_eq_ok validity
    obtain rfl := Option.some.inj finished
    rcases source with ⟨_, ⟨⟩, done⟩ | ⟨_, ⟨⟩, -, -⟩
    rcases Reader.members_tell tells_expiry done with ⟨none, -⟩ | ⟨-, d, n, once, counted, same⟩
    · rw [tells.expiry] at none
      cases none
    · rw [tells.expiry] at once
      obtain rfl := List.singleton_inj.mp once
      rw [told, ← Except.ok.inj counted] at same
      split at same
      · rwa [← Option.some.inj same]
      · cases same
  · rw [addressed_of_list last validity] at unaddressed
    cases unaddressed

end Validity

end LearningMap
