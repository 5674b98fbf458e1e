import Countersign.Proofs.Canonical.Coverage
import Countersign.Proofs.Serving.Admission
import Countersign.Serving.Program

/-!
# The verdict on a request

Who is admitted, as a function of the head of a request and the bytes of its body
(`Countersign.Serving.Policy.verdict`), and what it takes to be admitted: complete
credentials, a time in the window, a known key, every covered field, and the signature
of what is covered (`Countersign.Serving.Policy.verdict_eq_ok_iff`).
-/

namespace Countersign.Serving

open Http

/-- What checking a request comes to when all of its body is known. -/
def Policy.verdict (policy : Policy) (now : Int64) (head : Head) (body : Bytes) :
    Except Fault Admitted := do
  let c ← Credentials.ofRequest head.fields
  let r ← Canonical.Request.received head c.signedNames (Digest.ofBytes body)
  admission policy.ring policy.window now c r

/-- **Who is admitted**: credentials that can be read, whose covered fields all occur, and that
pass admission. -/
theorem Policy.verdict_eq_ok_iff {policy : Policy} {now : Int64} {head : Head} {body : Bytes}
    {a : Admitted} :
    policy.verdict now head body = .ok a ↔
      Credentials.ofRequest head.fields = .ok a.credentials ∧
        (∀ n ∈ a.credentials.signedNames, head.fields.has n = true) ∧
        admission policy.ring policy.window now a.credentials
          (.of head a.credentials.signedNames (Digest.ofBytes body)) = .ok a := by
  rw [verdict, bind_eq_ok_iff]
  constructor
  · rintro ⟨c, hc, h⟩
    rw [bind_eq_ok_iff] at h
    obtain ⟨r, hr, hadmission⟩ := h
    obtain ⟨hhas, rfl⟩ := Canonical.Request.received_eq_ok_iff.mp hr
    -- Who is admitted is admitted with the credentials that were read.
    obtain ⟨partner, key, time, secret, rfl, -⟩ := admission_eq_ok_iff.mp hadmission
    exact ⟨hc, hhas, hadmission⟩
  · rintro ⟨hc, hhas, hadmission⟩
    refine ⟨a.credentials, hc, bind_eq_ok_iff.mpr ⟨_, ?_, hadmission⟩⟩
    exact Canonical.Request.received_eq_ok_iff.mpr ⟨hhas, rfl⟩

end Countersign.Serving
