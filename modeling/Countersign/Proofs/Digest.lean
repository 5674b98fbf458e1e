import Countersign.Digest
import Countersign.Proofs.Text.Numerals

/-!
# What a digest stands for

Two sides compute the digest of a body: one has all of it in hand
(`Countersign.Digest.ofBytes`), the other keeps an account while the body arrives.
The account agrees with the body as it stood when the digest was taken, however it
was portioned (`Countersign.Digest.Tally.digest_of_holds`), and a digest determines
its body as far as the hash does (`Countersign.Digest.eq_of_ofBytes_eq`).
-/

namespace Countersign.Digest

/-! ### Digests of bodies -/

theorem ofBytes_eq_some_iff {b : Bytes} {d : Text} :
    ofBytes b = some d ↔ b ≠ [] ∧ d = Hex.encode (Sha256.hash b) := by
  by_cases hb : b = [] <;> simp [ofBytes, hb, eq_comm]

theorem length_of_ofBytes_eq_some {b : Bytes} {d : Text} (h : ofBytes b = some d) :
    d.length = 64 := by
  obtain ⟨-, rfl⟩ := ofBytes_eq_some_iff.mp h
  rw [Hex.length_encode, Sha256.length_hash]

/-- **Equal digests mean equal bodies**, as far as the hash tells the two bodies apart. That
a digest is absent says that the body is empty. -/
theorem eq_of_ofBytes_eq {a b : Bytes} (hash : Sha256.hash a = Sha256.hash b → a = b)
    (h : ofBytes a = ofBytes b) : a = b := by
  by_cases ha : a = []
  · by_cases hb : b = []
    · rw [ha, hb]
    · simp [ofBytes, ha, hb] at h
  · by_cases hb : b = []
    · simp [ofBytes, ha, hb] at h
    · rw [ofBytes, ofBytes, if_neg ha, if_neg hb] at h
      exact hash (Hex.encode_injective (Option.some.inj h))

/-! ### Accounts -/

namespace Tally

/-- The account has been fed exactly these bytes, in whatever portions, and its digest has not
been taken. -/
def Holds (b : Bytes) : Tally → Prop
  | untouched => b = []
  | running h n => h = Sha256.Hasher.start.update b ∧ n = b.length
  | taken _ => False

theorem holds_untouched : Holds [] untouched := rfl

/-- **One more portion** is added to the bytes that the account holds. -/
theorem holds_feed {t : Tally} {b : Bytes} (h : t.Holds b) (data : Bytes) :
    (t.feed data).Holds (b ++ data) := by
  cases t with
  | untouched =>
    obtain rfl : b = [] := h
    exact ⟨rfl, rfl⟩
  | running hasher n =>
    obtain ⟨rfl, rfl⟩ := h
    exact ⟨(Sha256.Hasher.update_append _ b data).symm, (List.length_append).symm⟩
  | taken d => exact h.elim

/-- **The digest of an account is that of the bytes it holds.** -/
theorem digest_of_holds {t : Tally} {b : Bytes} (h : t.Holds b) : t.digest = ofBytes b := by
  cases t with
  | untouched =>
    obtain rfl : b = [] := h
    rfl
  | running hasher n =>
    obtain ⟨rfl, rfl⟩ := h
    by_cases hb : b = []
    · simp [digest, ofBytes, hb]
    · have hlen : b.length ≠ 0 := fun hl => hb (List.eq_nil_of_length_eq_zero hl)
      rw [digest, if_neg hlen, ofBytes, if_neg hb, Sha256.hash]
  | taken d => exact h.elim

end Tally

end Countersign.Digest
