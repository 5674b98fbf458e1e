import Countersign.Proofs.Canonical.Multiplicity
import Countersign.Proofs.Responses.Verification

/-!
# Responses that hold are as they were signed

A response that holds still holds after a change exactly if the change is one that the
signature does not see (`Countersign.KeyRing.altered_response_noticed`): the body has the
same bytes, and every listed name the same values, up to the blanks around them. What is not
listed may come, go and change, and so may the status.

A listed name that does not occur is passed over and not refused, and a list may give a
name twice, in one spelling or in two. Neither makes room for a change, since the list
stays what it is: it stands in the field that is left alone. With one list on both sides
the lines say of each of its names what its values are, how many, and in which order
(`Countersign.Canonical.covered_eq_iff`), and that of an absent name there are none.

No clock is asked. A response that holds does so forever.
-/

namespace Countersign

open Http

/-! ### What a response signs -/

namespace Canonical.Response

/-- Canonical responses of HTTP responses are well-formed. -/
theorem wellFormed_of (names : List Text) (fields : Fields) (body : Bytes) :
    (Response.of names fields body).WellFormed where
  lines _ hl := wellFormed_of_mem_covered hl
  digest := isDigest_ofBytes body

/-- **What a canonical response determines**: the values of every listed name, and the body as far
as the hash tells the two bodies apart. -/
theorem of_eq_iff {names : List Text} {fields fields' : Fields} {body body' : Bytes}
    (hash : Sha256.hash body = Sha256.hash body' → body = body') :
    Response.of names fields body = Response.of names fields' body' ↔
      body = body' ∧ ∀ n ∈ names, signedValues fields n = signedValues fields' n := by
  rw [Response.of, Response.of, Response.mk.injEq, covered_eq_iff, and_comm]
  refine and_congr_left fun _ => ⟨Digest.eq_of_ofBytes_eq hash, fun h => ?_⟩
  rw [h]

end Canonical.Response

theorem Canonical.Message.wellFormed_response (names : List Text) (fields : Fields) (body : Bytes) :
    (Message.response (.of names fields body)).WellFormed :=
  Response.wellFormed_of names fields body

/-- The text that credentials on a response are the signature of. -/
def Credentials.responseText (c : Credentials) (fields : Fields) (body : Bytes) : Text :=
  (Canonical.Message.response (.of c.signedNames fields body)).signedText (c.timestamp.getD 0)

/-! ### What a check looks at -/

namespace KeyRing

variable {ring : KeyRing} {status status' : Status} {fields fields' : Fields} {body body' : Bytes}
  {c : Credentials}

/-- **Where one response holds**, the check of any other with its credentials is one of the
signature. -/
theorem checkResponse_of_accepted (haccepted : ring.checkResponse status fields body = .ok c)
    (hvalue : Carrier.signedResponse.values fields' = Carrier.signedResponse.values fields) :
    ring.checkResponse status' fields' body' =
      (c.check ring (.response (.of c.signedNames fields' body'))).map fun _ => c := by
  obtain ⟨v, hv, hread, hmissing, -⟩ := checkResponse_eq_ok_iff.mp haccepted
  exact checkResponse_of_read (hvalue.trans hv) hread hmissing

/-- **Tampering with a response is noticed, and nothing else is.** Let a response hold, and let
another one have its credentials. If the keyed hash tells the two signed texts apart and the hash
the two bodies, then the other one holds exactly if it has the same body and the same values of
every listed name; otherwise it has a wrong signature. In any case its status and the fields that
are not listed do not matter. -/
theorem altered_response_noticed (ring : KeyRing) (status : Status) (fields : Fields) (body : Bytes)
    (c : Credentials) (haccepted : ring.checkResponse status fields body = .ok c)
    (partner key : Text) (secret : Bytes) (hpartner : c.partner = some partner)
    (hkey : c.key = some key) (hsecret : ring.find? ⟨partner, key⟩ = some secret)
    (status' : Status) (fields' : Fields) (body' : Bytes)
    (hvalue : Carrier.signedResponse.values fields' = Carrier.signedResponse.values fields) :
    ((Hmac.mac secret (Utf8.encode (c.responseText fields body)) =
          Hmac.mac secret (Utf8.encode (c.responseText fields' body')) →
        c.responseText fields body = c.responseText fields' body') →
      (Sha256.hash body = Sha256.hash body' → body = body') →
      ring.checkResponse status' fields' body' =
        if body = body' ∧ ∀ n ∈ c.signedNames,
            Canonical.signedValues fields n = Canonical.signedValues fields' n
          then .ok c else .error .badSignature) ∧
    ∀ (status'' : Status) (fields'' : Fields),
      Carrier.signedResponse.values fields'' = Carrier.signedResponse.values fields →
      (∀ n ∈ c.signedNames,
        Canonical.signedValues fields' n = Canonical.signedValues fields'' n) →
      ring.checkResponse status'' fields'' body' = ring.checkResponse status' fields' body' := by
  constructor
  · intro hmac hash
    obtain ⟨-, -, -, -, hcheck⟩ := checkResponse_eq_ok_iff.mp haccepted
    have hsame : Canonical.Message.response (.of c.signedNames fields body) =
          .response (.of c.signedNames fields' body') ↔
        body = body' ∧ ∀ n ∈ c.signedNames,
          Canonical.signedValues fields n = Canonical.signedValues fields' n := by
      rw [Canonical.Message.response.injEq, Canonical.Response.of_eq_iff hash]
    rw [checkResponse_of_accepted haccepted hvalue,
      Credentials.check_eq_ite (Canonical.Message.wellFormed_response _ _ _)
        (Canonical.Message.wellFormed_response _ _ _) hcheck hpartner hkey hsecret hmac,
      apply_ite (Except.map fun _ => c)]
    exact if_congr hsame rfl rfl
  · intro status'' fields'' hvalue'' hlisted
    rw [checkResponse_of_accepted haccepted hvalue, checkResponse_of_accepted haccepted hvalue'',
      (Canonical.Response.of_eq_iff fun _ => rfl).mpr ⟨rfl, hlisted⟩]

/-- A field that is listed in two spellings and occurs twice, and a listed name that does not occur.
With blanks around a value, one more field and another status the response still holds; with the
two values merged into one it does not. -/
theorem altered_response_noticed_of_merged :
    let ring := KeyRing.ofList [(⟨"bob".toList, "1".toList⟩, [0x6B])]
    let c := Credentials.complete "bob".toList "1".toList ["A".toList, "a".toList, "B".toList] 5
      "f837b7fc38a09f545ca04484155c60b28177d05c6425d8bdfe076ca42f3fef7e".toList
    let carried : FieldName × FieldValue := (Carrier.signedResponse.fieldName,
      ⟨Utf8.encode c.text, List.all_eq_true.mp (by decide +kernel)⟩)
    let a : FieldName := ⟨"a".toList, by decide, by decide⟩
    let fields : Fields := [carried, (a, ⟨[0x31], List.all_eq_true.mp (by decide)⟩),
      (a, ⟨[0x32], List.all_eq_true.mp (by decide)⟩)]
    let blanks : Fields := [(a, ⟨[0x20, 0x31], List.all_eq_true.mp (by decide)⟩), carried,
      (FieldName.contentType, ⟨[0xFF], List.all_eq_true.mp (by decide)⟩),
      (a, ⟨[0x32, 0x09], List.all_eq_true.mp (by decide)⟩)]
    let merged : Fields := [carried, (a, ⟨[0x31, 0x2C, 0x32], List.all_eq_true.mp (by decide)⟩)]
    ring.checkResponse ⟨200⟩ fields [1, 2] = .ok c ∧
      ring.checkResponse ⟨500⟩ blanks [1, 2] = .ok c ∧
      ring.checkResponse ⟨200⟩ merged [1, 2] = .error .badSignature := by
  intro ring c carried a fields blanks merged
  have haccepted : ring.checkResponse ⟨200⟩ fields [1, 2] = .ok c := by decide +kernel
  have hnoticed := altered_response_noticed ring ⟨200⟩ fields [1, 2] c haccepted "bob".toList
    "1".toList [0x6B] rfl rfl (by decide)
  refine ⟨haccepted, ?_, ?_⟩
  · have hsame : ∀ n ∈ c.signedNames,
        Canonical.signedValues fields n = Canonical.signedValues blanks n := by decide +kernel
    have htext : c.responseText fields [1, 2] = c.responseText blanks [1, 2] := by decide +kernel
    have hblanks := (hnoticed ⟨500⟩ blanks [1, 2] (by decide +kernel)).1 (fun _ => htext)
      fun _ => rfl
    rwa [if_pos ⟨rfl, hsame⟩] at hblanks
  · have hother : ¬∀ n ∈ c.signedNames,
        Canonical.signedValues fields n = Canonical.signedValues merged n := by decide +kernel
    have hmac : Hmac.mac [0x6B] (Utf8.encode (c.responseText fields [1, 2])) ≠
        Hmac.mac [0x6B] (Utf8.encode (c.responseText merged [1, 2])) := by decide +kernel
    have hmerged := (hnoticed ⟨200⟩ merged [1, 2] (by decide +kernel)).1 (fun h => absurd h hmac)
      fun _ => rfl
    rwa [if_neg fun h => hother h.2] at hmerged

end KeyRing

end Countersign
