import Countersign.Proofs.Serving.Slot

/-!
# Guards, and whose context they close

A guard stands for the opening that it was handed out for, and whoever holds it expects the
context of that opening to be in the slot until it is given back. But giving it back empties
the slot whatever it holds. So a guard whose context was replaced closes the context that
replaced it, under the hands of whoever holds the guard of that one
(`Countersign.Serving.Desk.guard_closes_context_of_another`).

What is kept (`Countersign.Serving.Desk.guards_close_their_own_in_turn`):

* **Always**, the context of an opening is given out until the next opening or the next
  closing, whichever guard is given back then.
* **In turn**, that is, if the guard that was handed out last is the first to be given back
  (`Countersign.Serving.Desk.InTurn`), no guard closes the context of another opening, and the
  context of an opening is given out as long as its guard is held and nothing else is opened.

Guards that live in nested blocks of a program are given back in turn
(`Countersign.Serving.Desk.obeys_inTurn_of_two_openings`).
-/

namespace Countersign.Serving.Desk

/-! ### The opening in force -/

/-- The latest move that is no question is the opening of that context, for which that guard was
handed out. -/
def InForce (moves : List Move) (guard : Nat) (c : Context) : Prop :=
  ∃ before between, moves = before ++ .install c :: between ∧ openings before = guard ∧
    ∀ m ∈ between, m = .get

theorem exists_inForce_of_standing {moves : List Move} {c : Context} (h : standing moves = some c) :
    ∃ g, InForce moves g c := by
  induction moves using List.reverseRecOn with
  | nil => exact absurd h (by simp [standing, latest])
  | append_singleton moves m ih =>
    rw [standing_concat] at h
    cases m with
    | install c' =>
      obtain rfl := Option.some.inj h
      exact ⟨openings moves, moves, [], rfl, rfl, by simp⟩
    | get =>
      obtain ⟨g, before, between, rfl, hg, hbetween⟩ := ih h
      refine ⟨g, before, between ++ [.get], by simp, hg, fun m hm => ?_⟩
      rcases List.mem_append.mp hm with hm | hm
      · exact hbetween m hm
      · exact List.mem_singleton.mp hm
    | release g => exact absurd h (by simp [Move.leaves])
    | close => exact absurd h (by simp [Move.leaves])

/-- After an opening and no further one, its guard is the one that was handed out last. -/
theorem openings_append_install (before : List Move) (c : Context) {between : List Move}
    (h : ∀ m ∈ between, m.isOpening = false) :
    openings (before ++ .install c :: between) = openings before + 1 := by
  have hnone : between.countP Move.isOpening = 0 := List.countP_eq_zero.mpr fun m hm => by
    simp [h m hm]
  rw [openings, List.countP_append, List.countP_cons_of_pos rfl, hnone, openings]

/-- **The guard of the opening in force** is the one that was handed out last, and it is held. -/
theorem InForce.isHeld {moves : List Move} {g : Nat} {c : Context} (h : InForce moves g c)
    (hguards : Obeys ByGuard moves) : openings moves = g + 1 ∧ IsHeld moves g := by
  obtain ⟨before, between, rfl, rfl, hbetween⟩ := h
  have hopenings := openings_append_install before c fun m hm => by
    rw [hbetween m hm]
    rfl
  refine ⟨hopenings, by rw [hopenings]; exact Nat.lt_succ_self _, fun hmem => ?_⟩
  rcases List.mem_append.mp hmem with hbefore | hrest
  · have hlt := lt_openings_of_release_mem (hguards.initial (List.prefix_append _ _)) hbefore
    exact absurd hlt (Nat.lt_irrefl _)
  · rcases List.mem_cons.mp hrest with heq | hmem
    · exact absurd heq (by simp)
    · exact absurd (hbetween _ hmem) (by simp)

/-- After an opening and no further one, its context stands until something is closed. -/
theorem standing_append_install (before : List Move) (c : Context) {between : List Move}
    (h : ∀ m ∈ between, m.isOpening = false) :
    standing (before ++ .install c :: between) =
      if between.any Move.isClosing then none else some c := by
  induction between using List.reverseRecOn with
  | nil => exact standing_concat before (.install c)
  | append_singleton between m ih =>
    rw [show before ++ .install c :: (between ++ [m]) = (before ++ .install c :: between) ++ [m] by
      simp, standing_concat, ih fun m' hm' => h m' (List.mem_append_left _ hm'), List.any_append]
    cases m with
    | install c' =>
      have hopens := h (.install c') (by simp)
      exact absurd hopens (by simp [Move.isOpening])
    | _ => simp [Move.leaves, Move.isClosing]

/-- Asking gives out the context that stands. -/
theorem get_afterAll {s : Desk} (h : s.slot = .vacant) (moves : List Move) :
    (s.afterAll moves).get.1 = (standing moves).elim (.error .noContext) .ok := by
  rw [get, slot_afterAll h]
  cases standing moves <;> rfl

/-! ### Guards given back in turn -/

/-- **In turn**: who closes gives back the guard that was handed out last of those that are held. -/
def InTurn : Rule
  | before, .release g => IsHeld before g ∧ ∀ g', IsHeld before g' → g' ≤ g
  | before, m => ByGuard before m

instance (before : List Move) (m : Move) : Decidable (InTurn before m) :=
  match m with
  | .release g =>
    decidable_of_iff (IsHeld before g ∧ ∀ g' < openings before, IsHeld before g' → g' ≤ g)
      (and_congr_right fun _ => ⟨fun h g' hg' => h g' hg'.1 hg', fun h g' _ => h g'⟩)
  | .install c => inferInstanceAs (Decidable (ByGuard before (.install c)))
  | .get => inferInstanceAs (Decidable (ByGuard before .get))
  | .close => inferInstanceAs (Decidable (ByGuard before .close))

theorem InTurn.byGuard {before : List Move} {m : Move} (h : InTurn before m) : ByGuard before m := by
  cases m with
  | release g => exact h.1
  | _ => exact h

/-- **Whoever gives back guards in turn closes no context but their own.** -/
theorem inForce_of_inTurn {before : List Move} {g : Nat} {c : Context}
    (h : Obeys InTurn (before ++ [.release g])) (hstanding : standing before = some c) :
    InForce before g c := by
  obtain ⟨hbefore, hheld, hlast⟩ := obeys_concat_iff.mp h
  obtain ⟨g', hforce⟩ := exists_inForce_of_standing hstanding
  obtain ⟨hopenings, hheld'⟩ := hforce.isHeld (hbefore.mono fun _ _ => InTurn.byGuard)
  -- The guard in force was handed out last, and is not held after this one.
  have hle : g' ≤ g := hlast g' hheld'
  have hge : g ≤ g' := Nat.lt_succ_iff.mp (hheld.1.trans_eq hopenings)
  obtain rfl := Nat.le_antisymm hle hge
  exact hforce

/-- As long as a guard is held and nothing else is opened, guards that are given back in turn close
nothing. -/
theorem any_isClosing_of_inTurn {before between : List Move} {c : Context}
    (h : Obeys InTurn (before ++ .install c :: between))
    (hopening : ∀ m ∈ between, m.isOpening = false)
    (hheld : IsHeld (before ++ .install c :: between) (openings before)) :
    between.any Move.isClosing = false := by
  refine List.any_eq_false.mpr fun m hm hclosing => ?_
  obtain ⟨earlier, later, rfl⟩ := List.append_of_mem hm
  have hrule : InTurn (before ++ .install c :: earlier) m := h _ _ ⟨later, by simp⟩
  cases m with
  | install c' => exact Bool.noConfusion hclosing
  | get => exact Bool.noConfusion hclosing
  | close => exact hrule
  | release g =>
    obtain ⟨hg, hlast⟩ := hrule
    have hopenings := openings_append_install before c fun m' hm' =>
      hopening m' (List.mem_append_left _ hm')
    -- Both guards are held before the move, so this one is the other.
    have hother : IsHeld (before ++ .install c :: earlier) (openings before) :=
      ⟨(Nat.lt_succ_self _).trans_eq hopenings.symm, fun hmem => hheld.2 (by
        rw [← List.cons_append, ← List.append_assoc]
        exact List.mem_append_left _ hmem)⟩
    have hle : openings before ≤ g := hlast _ hother
    have hge : g ≤ openings before := Nat.lt_succ_iff.mp (hg.1.trans_eq hopenings)
    obtain rfl := Nat.le_antisymm hle hge
    exact hheld.2 (by simp)

/-- **Whose context a guard closes.** After an opening and no further one, its context is given out
until something is closed, whichever guard is given back. If guards are given back in turn, then a
guard that is given back takes no context out of the slot but that of its own opening, and the
context of an opening is given out as long as its guard is held and nothing else is opened. -/
theorem guards_close_their_own_in_turn (d : Desk) (moves : List Move) :
    let s : Desk := { d with slot := .vacant }
    (∀ before c between, moves = before ++ .install c :: between →
      (∀ m ∈ between, m.isOpening = false) →
      (s.afterAll moves).get.1 =
        if between.any Move.isClosing then .error .noContext else .ok c) ∧
      (Obeys InTurn moves →
        (∀ before g later, moves = before ++ .release g :: later →
          ∀ c, (s.afterAll before).slot = .holding c → InForce before g c) ∧
        ∀ before c between, moves = before ++ .install c :: between →
          (∀ m ∈ between, m.isOpening = false) → IsHeld moves (openings before) →
          (s.afterAll moves).get.1 = .ok c) := by
  intro s
  have hs : s.slot = .vacant := rfl
  have hget : ∀ before c between, moves = before ++ .install c :: between →
      (∀ m ∈ between, m.isOpening = false) →
      (s.afterAll moves).get.1 =
        if between.any Move.isClosing then .error .noContext else .ok c := by
    rintro before c between rfl hopening
    rw [get_afterAll hs, standing_append_install before c hopening]
    split <;> rfl
  refine ⟨hget, fun hturn => ⟨?_, ?_⟩⟩
  · rintro before g later rfl c hslot
    have hstanding : standing before = some c := by
      rw [slot_afterAll hs] at hslot
      cases hstanding : standing before with
      | none =>
        rw [hstanding] at hslot
        exact Slot.noConfusion hslot
      | some c' =>
        rw [hstanding] at hslot
        exact congrArg some (Slot.holding.inj hslot)
    exact inForce_of_inTurn (hturn.initial ⟨later, by simp⟩) hstanding
  · rintro before c between rfl hopening hheld
    rw [hget before c between rfl hopening, any_isClosing_of_inTurn hturn hopening hheld]
    rfl

/-- **Two guards held at once.** The guard of the second opening is given back before that of the
first, so both are given back in turn, and the context of the second is given out until then. The
other way around it is not in turn. -/
theorem obeys_inTurn_of_two_openings :
    let context (n : Nat) : Context := ⟨n, ⟨⟨"GET".toList, by decide⟩,
      ⟨[], "/a".toList, none, by decide, by decide⟩, []⟩, none⟩
    let before : List Move := [.install (context 0), .install (context 1)]
    let s : Desk := { start with slot := .vacant }
    Obeys InTurn (before ++ [.release 1, .release 0]) ∧ IsHeld before 0 ∧ IsHeld before 1 ∧
      (s.afterAll before).get.1 = .ok (context 1) ∧
      (s.afterAll (before ++ [.release 1])).get.1 = .error .noContext ∧
      ¬Obeys InTurn (before ++ [.release 0, .release 1]) := by
  intro context before s
  exact ⟨by decide, by decide, by decide, rfl, rfl, by decide⟩

/-- **A guard that closes the context of another opening.** Two contexts are opened, and the guard of
the first is given back, once and by its holder. It empties the slot of the second, whose guard is
held still, and nothing else was opened. -/
theorem guard_closes_context_of_another :
    let context (n : Nat) : Context := ⟨n, ⟨⟨"GET".toList, by decide⟩,
      ⟨[], "/a".toList, none, by decide, by decide⟩, []⟩, none⟩
    let before : List Move := [.install (context 0), .install (context 1)]
    let moves : List Move := before ++ [.release 0]
    let s : Desk := { start with slot := .vacant }
    Obeys ByGuard moves ∧ InForce before 1 (context 1) ∧ IsHeld moves 1 ∧
      (s.afterAll before).slot = .holding (context 1) ∧ (s.afterAll moves).slot = .vacant ∧
      (s.afterAll moves).get.1 = .error .noContext := by
  intro context before moves s
  refine ⟨by decide, ⟨[.install (context 0)], [], rfl, rfl, by simp⟩, by decide, rfl, rfl, rfl⟩

end Countersign.Serving.Desk
