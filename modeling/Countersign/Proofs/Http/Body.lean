import Countersign.Http.Body

/-!
# Bodies without failures

A body that no failure interrupts is **sound** (`Countersign.Http.Body.IsSound`); it
may still come in any number of frames, with trailers and with moments at which
nothing is ready. What is collected of it is the data of all its frames
(`Countersign.Http.Body.exists_collect_eq`). Collecting any other body ends with its first
failure (`Countersign.Http.Body.collect_eq_error_iff`), and what comes after that does not matter
(`Countersign.Http.Body.collect_upToFailure`).
-/

namespace Countersign.Http.Body

/-- No frame is a failure. -/
def IsSound (b : Body) : Prop := ∀ m, Frame.piece (.failure m) ∉ b

theorem IsSound.tail {f : Frame} {b : Body} (h : IsSound (f :: b)) : IsSound b :=
  fun m hm => h m (List.mem_cons_of_mem _ hm)

@[simp] theorem bytes_cons (f : Frame) (b : Body) : bytes (f :: b) = f.bytes ++ bytes b :=
  List.flatMap_cons

@[simp] theorem bytes_ofBytes (b : Bytes) : (ofBytes b).bytes = b := by
  simp [ofBytes, bytes, Frame.bytes, Piece.bytes]

theorem isSound_ofBytes (b : Bytes) : (ofBytes b).IsSound := fun m hm => by simp [ofBytes] at hm

/-- **A sound body can be collected**, and gives the data of its frames. -/
theorem exists_collect_eq {b : Body} (h : b.IsSound) : ∃ t, b.collect = .ok (b.bytes, t) := by
  induction b with
  | nil => exact ⟨none, rfl⟩
  | cons f b ih =>
    obtain ⟨t, ht⟩ := ih h.tail
    rw [bytes_cons]
    cases f with
    | pending => exact ⟨t, ht⟩
    | piece p =>
      cases p with
      | data bytes => exact ⟨t, by rw [collect, ht]; rfl⟩
      | trailers fields => exact ⟨_, by rw [collect, ht]; rfl⟩
      | failure m => exact absurd List.mem_cons_self (h m)

/-- The first failure of a body has the given message. -/
def FailsWith (m : Text) (b : Body) : Prop :=
  ∃ before after, b = before ++ .piece (.failure m) :: after ∧ IsSound before

theorem FailsWith.not_isSound {m : Text} {b : Body} (h : FailsWith m b) : ¬b.IsSound := by
  obtain ⟨before, after, rfl, -⟩ := h
  exact fun hsound => hsound m (List.mem_append_right _ List.mem_cons_self)

theorem failsWith_cons_iff {f : Frame} {b : Body} {m : Text} (hf : ∀ k, f ≠ .piece (.failure k)) :
    FailsWith m (f :: b) ↔ FailsWith m b := by
  constructor
  · rintro ⟨before, after, hsplit, hsound⟩
    cases before with
    | nil => exact absurd (List.cons.inj hsplit).1 (hf m)
    | cons first before =>
      obtain ⟨rfl, rfl⟩ := List.cons.inj hsplit
      exact ⟨before, after, rfl, hsound.tail⟩
  · rintro ⟨before, after, rfl, hsound⟩
    refine ⟨f :: before, after, rfl, fun k hk => ?_⟩
    rcases List.mem_cons.mp hk with hhead | hrest
    · exact hf k hhead.symm
    · exact hsound k hrest

/-- **Collecting fails with the first failure** of a body, and with nothing else. -/
theorem collect_eq_error_iff {b : Body} {m : Text} : b.collect = .error m ↔ b.FailsWith m := by
  have hmap : ∀ {β : Type} {x : Except Text (Bytes × Option Fields)} {g : _ → β},
      x.map g = .error m ↔ x = .error m := by
    rintro β (e | a) g
    · simp [Except.map]
    · simp [Except.map]
  induction b with
  | nil =>
    refine ⟨fun h => absurd h (by simp [collect]), ?_⟩
    rintro ⟨before, after, hsplit, -⟩
    exact absurd hsplit (by simp)
  | cons f b ih =>
    cases f with
    | pending => exact ih.trans (failsWith_cons_iff (by simp)).symm
    | piece p =>
      cases p with
      | data bytes => exact (hmap.trans ih).trans (failsWith_cons_iff (by simp)).symm
      | trailers fields => exact (hmap.trans ih).trans (failsWith_cons_iff (by simp)).symm
      | failure k =>
        constructor
        · intro h
          obtain rfl := Except.error.inj h
          exact ⟨[], b, rfl, fun _ => List.not_mem_nil⟩
        · rintro ⟨before, after, hsplit, hsound⟩
          cases before with
          | nil =>
            obtain ⟨hk, -⟩ := List.cons.inj hsplit
            obtain rfl := Piece.failure.inj (Frame.piece.inj hk)
            rfl
          | cons first before =>
            obtain ⟨rfl, -⟩ := List.cons.inj hsplit
            exact absurd List.mem_cons_self (hsound k)

/-- A body that can be collected is sound. -/
theorem isSound_of_collect_eq_ok {b : Body} {x : Bytes × Option Fields}
    (h : b.collect = .ok x) : b.IsSound := by
  induction b generalizing x with
  | nil => exact fun m => List.not_mem_nil
  | cons f b ih =>
    -- What can be collected begins with something other than a failure, and so does what follows.
    have hstep : (∀ m, f ≠ .piece (.failure m)) ∧ ∃ y, collect b = .ok y := by
      cases f with
      | pending => exact ⟨by simp, x, h⟩
      | piece p =>
        cases p with
        | failure m => exact absurd h (by simp [collect])
        | data bytes =>
          cases hb : collect b with
          | error m => simp [collect, hb, Except.map] at h
          | ok y => exact ⟨by simp, y, rfl⟩
        | trailers fields =>
          cases hb : collect b with
          | error m => simp [collect, hb, Except.map] at h
          | ok y => exact ⟨by simp, y, rfl⟩
    obtain ⟨hf, y, hy⟩ := hstep
    intro m hm
    rcases List.mem_cons.mp hm with hhead | hrest
    · exact hf m hhead.symm
    · exact ih hy m hrest

/-- The frames of a body, up to and with the first failure. -/
def upToFailure : Body → Body
  | [] => []
  | .piece (.failure m) :: _ => [.piece (.failure m)]
  | f :: r => f :: upToFailure r

/-- **What comes after the first failure** makes no difference to collecting. -/
theorem collect_upToFailure (b : Body) : b.upToFailure.collect = b.collect := by
  induction b with
  | nil => rfl
  | cons f r ih =>
    cases f with
    | pending => exact ih
    | piece p =>
      cases p with
      | data bytes => simp only [upToFailure, collect, ih]
      | trailers fields => simp only [upToFailure, collect, ih]
      | failure m => rfl

theorem failsWith_upToFailure_iff {b : Body} {m : Text} :
    b.upToFailure.FailsWith m ↔ b.FailsWith m := by
  rw [← collect_eq_error_iff, ← collect_eq_error_iff, collect_upToFailure]

end Countersign.Http.Body
