import Mathlib.Data.List.Forall2
import Mathlib.Logic.Basic
import Mathlib.Tactic.ByContra

/-!
# Steps that can fail

A computation of several steps succeeds exactly if each of its steps does. This is how
such computations are taken apart, without a case for every failure. Where it matters
which step failed, it is the first of them (`Countersign.exists_first`,
`Countersign.mapM_eq_error`).

Two runs of one computation on inputs that are hard to tell apart are *alike*
(`Countersign.Alike`) if they fail in the same way or both succeed. Computations that are
alike step by step are alike as a whole.
-/

namespace Countersign

variable {ε α β : Type}

theorem ok_bind (a : α) (f : α → Except ε β) : (.ok a : Except ε α) >>= f = f a := rfl

/-- **Two steps in a row** succeed if the first does and then the second. -/
theorem bind_eq_ok_iff {x : Except ε α} {f : α → Except ε β} {b : β} :
    x >>= f = .ok b ↔ ∃ a, x = .ok a ∧ f a = .ok b := by
  cases x with
  | error e =>
    refine ⟨fun h => absurd h (by simp [bind, Except.bind]), ?_⟩
    rintro ⟨a, ha, -⟩
    exact absurd ha (by simp)
  | ok a =>
    refine ⟨fun h => ⟨a, rfl, h⟩, ?_⟩
    rintro ⟨a', ha, h⟩
    obtain rfl := Except.ok.inj ha
    exact h

theorem throw_bind_ne_ok {e : ε} {f : α → Except ε β} {b : β} :
    (throw e : Except ε α) >>= f ≠ .ok b := by
  rw [Ne, bind_eq_ok_iff]
  rintro ⟨a, ha, -⟩
  exact absurd ha (by simp [throw, throwThe, MonadExceptOf.throw])

/-- Of several things in order, if not all of them are so, there is a first one that is not. -/
theorem exists_first {α : Type} (place : α → Nat) {p : α → Prop} (h : ¬∀ a, p a) :
    ∃ a, ¬p a ∧ ∀ b, place b < place a → p b := by
  by_contra hnone
  refine h fun a => ?_
  induction hplace : place a using Nat.strongRecOn generalizing a with
  | ind n ih =>
    by_contra ha
    exact hnone ⟨a, ha, fun b hb => ih (place b) (hplace ▸ hb) b rfl⟩

/-! ### The same step for each of a list -/

section Each

variable {f : α → Except ε β}

theorem mapM_cons_of_ok {x : α} {b : β} (hx : f x = .ok b) (xs : List α) :
    (x :: xs).mapM f = (xs.mapM f).map (b :: ·) := by
  rw [List.mapM_cons, hx]
  rfl

/-- If the step succeeds each time, what comes of it is collected. -/
theorem mapM_eq_ok {g : α → β} {xs : List α} (h : ∀ x ∈ xs, f x = .ok (g x)) :
    xs.mapM f = .ok (xs.map g) := by
  induction xs with
  | nil => rfl
  | cons x xs ih =>
    rw [mapM_cons_of_ok (h x List.mem_cons_self), ih fun y hy => h y (List.mem_cons_of_mem x hy)]
    rfl

/-- The first time the step fails decides. -/
theorem mapM_eq_error {before after : List α} {x : α} {e : ε}
    (hbefore : ∀ y ∈ before, ∃ b, f y = .ok b) (hx : f x = .error e) :
    (before ++ x :: after).mapM f = .error e := by
  induction before with
  | nil =>
    rw [List.nil_append, List.mapM_cons, hx]
    rfl
  | cons y before ih =>
    obtain ⟨b, hb⟩ := hbefore y List.mem_cons_self
    rw [List.cons_append, mapM_cons_of_ok hb, ih fun z hz => hbefore z (List.mem_cons_of_mem y hz)]
    rfl

end Each

/-! ### Two runs -/

/-- Two outcomes that differ in nothing but what came of success, and there by a relation. -/
inductive Alike (R : β → β → Prop) : Except ε β → Except ε β → Prop
  | error (e : ε) : Alike R (.error e) (.error e)
  | ok {b b' : β} (h : R b b') : Alike R (.ok b) (.ok b')

section Alike

variable {γ : Type} {R : β → β → Prop} {S : γ → γ → Prop}

theorem Alike.bind {x x' : Except ε β} {f f' : β → Except ε γ} (h : Alike R x x')
    (hf : ∀ b b', R b b' → Alike S (f b) (f' b')) : Alike S (x >>= f) (x' >>= f') := by
  cases h with
  | error e => exact .error e
  | ok h => exact hf _ _ h

theorem Alike.imp {R' : β → β → Prop} {x x' : Except ε β} (h : Alike R x x')
    (hR : ∀ b b', R b b' → R' b b') : Alike R' x x' := by
  cases h with
  | error e => exact .error e
  | ok h => exact .ok (hR _ _ h)

theorem Alike.map {x x' : Except ε β} {f : β → γ} (h : Alike R x x')
    (hf : ∀ b b', R b b' → S (f b) (f b')) : Alike S (x.map f) (x'.map f) := by
  cases h with
  | error e => exact .error e
  | ok h => exact .ok (hf _ _ h)

/-- **Two lists that are alike item by item** are gone through alike. -/
theorem Alike.mapM {f : α → Except ε β} {P : α → α → Prop}
    (hf : ∀ x x', P x x' → Alike R (f x) (f x')) {xs xs' : List α} (h : List.Forall₂ P xs xs') :
    Alike (List.Forall₂ R) (xs.mapM f) (xs'.mapM f) := by
  induction h with
  | nil => exact .ok .nil
  | cons hx _ ih =>
    rw [List.mapM_cons, List.mapM_cons]
    exact (hf _ _ hx).bind fun b b' hb => ih.bind fun bs bs' hbs => .ok (.cons hb hbs)

end Alike

end Countersign
