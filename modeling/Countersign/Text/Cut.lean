import Countersign.Text.Blank

/-!
# Cutting a text

`Countersign.Text.cut p` divides a text at its first character with the property
`p`; that character belongs to neither part. Cutting at *every* occurrence of a
separator is `List.splitOn`, which keeps empty pieces, and putting pieces
together again is `Countersign.Text.join`.
-/

namespace Countersign.Text

/-- The parts before and after the first character with property `p`, if there is one. -/
def cut (p : Char → Bool) : Text → Option (Text × Text)
  | [] => none
  | c :: r => if p c then some ([], r) else (cut p r).map fun (a, b) => (c :: a, b)

/-- The pieces in order, with `sep` between each two. -/
def join (sep : Text) (pieces : List Text) : Text := sep.intercalate pieces

/-- The pieces of a comma list: trimmed, the empty ones left out. -/
def commaPieces (t : Text) : List Text :=
  ((t.splitOn ',').map trim).filter fun p => !p.isEmpty

/-- Replace the first occurrence of `old` in a text, if there is one. The empty text occurs
at the very beginning. -/
def replaceFirst (old new : Text) : Text → Text
  | [] => if old.isEmpty then new else []
  | c :: r =>
    if old.isPrefixOf (c :: r) then new ++ (c :: r).drop old.length
    else c :: replaceFirst old new r

theorem cut_eq_none_iff {p : Char → Bool} {t : Text} :
    cut p t = none ↔ ∀ c ∈ t, p c = false := by
  induction t with
  | nil => simp [cut]
  | cons c r ih => by_cases h : p c <;> simp [cut, h, ih]

theorem cut_append {p : Char → Bool} {a : Text} {c : Char} (b : Text)
    (ha : ∀ x ∈ a, p x = false) (hc : p c = true) : cut p (a ++ c :: b) = some (a, b) := by
  induction a with
  | nil => simp [cut, hc]
  | cons x a ih =>
    have hx : p x = false := ha x (by simp)
    simp [cut, hx, ih fun y hy => ha y (by simp [hy])]

theorem eq_of_cut {p : Char → Bool} {t a b : Text} (h : cut p t = some (a, b)) :
    ∃ c, p c = true ∧ t = a ++ c :: b ∧ ∀ x ∈ a, p x = false := by
  induction t generalizing a with
  | nil => simp [cut] at h
  | cons x r ih =>
    by_cases hx : p x
    · simp [cut, hx] at h
      obtain ⟨rfl, rfl⟩ := h
      exact ⟨x, hx, by simp, by simp⟩
    · simp [cut, hx] at h
      obtain ⟨a', hcut, rfl⟩ := h
      obtain ⟨c, hc, rfl, hfree⟩ := ih hcut
      refine ⟨c, hc, by simp, fun y hy => ?_⟩
      rcases List.mem_cons.1 hy with rfl | hy
      · simpa using hx
      · exact hfree y hy

end Countersign.Text
