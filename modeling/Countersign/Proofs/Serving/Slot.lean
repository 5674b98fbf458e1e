import Countersign.Serving.Desk
import Mathlib.Data.List.Induction
import Mathlib.Data.List.Infix

/-!
# The slot over time

Contexts are opened, asked for and closed again, by giving back a guard or without one, in
any order and as often as one likes (`Countersign.Serving.Desk.Move`). Whatever the order,
the slot holds what the record of the moves says: the context of the latest opening, unless
something was closed since (`Countersign.Serving.Desk.standing`). From this follows what
every move is answered and what it has logged (`Countersign.Serving.Desk.entry_eq_record`),
and the books balance (`Countersign.Serving.Desk.slot_bookkeeping`):

* **the count of a context** goes up with every time it is given out, and at no other time;
* **every opening** is accounted for once: its context was replaced, with a warning, or
  closed, without one, or is in the slot still.

Guards are numbered as they are handed out, and one is *held* from then on until it is
given back (`Countersign.Serving.Desk.IsHeld`). That nobody gives back a guard twice, or one
of somebody else's making, is no business of the slot, nor is the order in which guards are
given back. A **rule** says which moves somebody makes who has made certain moves before
(`Countersign.Serving.Desk.Obeys`); who gives back every guard before the next opening never
has anything logged.
-/

namespace Countersign.Serving

/-- Whether there is a context in the slot. -/
def Slot.isHolding : Slot → Bool
  | .holding _ => true
  | _ => false

/-- The slot of a scope with the given context in it, if there is one. -/
def Slot.ofContext? : Option Context → Slot
  | some c => .holding c
  | none => .vacant

namespace Desk

/-! ### Moves and their record -/

/-- What can be done with the slot. -/
inductive Move where
  /-- Open a context. A guard is handed out for it. -/
  | install (c : Context)
  /-- Give back the guard of that number. -/
  | release (guard : Nat)
  /-- Ask for the context. -/
  | get
  /-- Empty the slot without a guard. -/
  | close

namespace Move

/-- Whether a context is opened. -/
def isOpening : Move → Bool
  | install _ => true
  | _ => false

/-- Whether the slot is emptied. -/
def isClosing : Move → Bool
  | release _ | close => true
  | _ => false

/-- Whether a guard is given back. -/
def returns (guard : Nat) : Move → Bool
  | release g => g == guard
  | _ => false

/-- Make a move: the context that is given out, if one was asked for, or a fault. -/
def perform (d : Desk) : Move → Except Fault (Option Context) × Desk
  | install c => ((d.install c).1.map fun _ => none, (d.install c).2)
  | get => (d.get.1.map some, d.get.2)
  | release _ | close => (.ok none, d.close)

/-- The desk after a move. -/
def after (d : Desk) (m : Move) : Desk := (m.perform d).2

end Move

/-- A move, with what it was answered and what was logged. -/
structure Entry where
  move : Move
  answer : Except Fault (Option Context)
  events : List Event

namespace Entry

/-- Whether a context was opened. -/
def opened (e : Entry) : Bool := e.move.isOpening && e.answer.isOk

/-- Whether the slot was emptied and nothing was logged. -/
def closedQuietly (e : Entry) : Bool := e.move.isClosing && e.events.isEmpty

/-- Whether the context of that number was given out. -/
def gaveOut (n : Nat) (e : Entry) : Bool :=
  match e.answer with
  | .ok (some c) => c.number == n
  | _ => false

end Entry

/-- What the record shows of a move. -/
def Move.entry (d : Desk) (m : Move) : Entry :=
  ⟨m, (m.perform d).1, (m.after d).log.drop d.log.length⟩

/-- The desk after some moves. -/
def afterAll (d : Desk) (moves : List Move) : Desk := moves.foldl Move.after d

/-- The record of some moves, one after the other. -/
def trace : Desk → List Move → List Entry
  | _, [] => []
  | d, m :: rest => m.entry d :: trace (m.after d) rest

@[simp] theorem afterAll_nil (d : Desk) : d.afterAll [] = d := rfl

theorem afterAll_concat (d : Desk) (moves : List Move) (m : Move) :
    d.afterAll (moves ++ [m]) = m.after (d.afterAll moves) := by
  simp [afterAll]

theorem trace_append (d : Desk) (moves more : List Move) :
    d.trace (moves ++ more) = d.trace moves ++ (d.afterAll moves).trace more := by
  induction moves generalizing d with
  | nil => rfl
  | cons m moves ih =>
    rw [List.cons_append, trace, ih, trace]
    rfl

theorem trace_concat (d : Desk) (moves : List Move) (m : Move) :
    d.trace (moves ++ [m]) = d.trace moves ++ [m.entry (d.afterAll moves)] := trace_append d moves [m]

@[simp] theorem length_trace (d : Desk) (moves : List Move) :
    (d.trace moves).length = moves.length := by
  induction moves generalizing d with
  | nil => rfl
  | cons m moves ih => rw [trace, List.length_cons, ih, List.length_cons]

/-! ### What every move does, with any slot -/

/-- The log only grows, by what the record shows. -/
theorem log_after (d : Desk) (m : Move) : (m.after d).log = d.log ++ (m.entry d).events := by
  have hgrows : d.log <+: (m.after d).log := by
    obtain ⟨slot, accesses, accounts, log⟩ := d
    cases m <;> cases slot <;> simp [Move.after, Move.perform, install, get, close, note]
  exact (List.prefix_iff_eq_append.mp hgrows).symm

/-- **The log of a run** is the log of its record. -/
theorem log_afterAll (d : Desk) (moves : List Move) :
    (d.afterAll moves).log = d.log ++ (d.trace moves).flatMap Entry.events := by
  induction moves using List.reverseRecOn with
  | nil => simp [trace]
  | append_singleton moves m ih =>
    rw [afterAll_concat, log_after, ih, trace_concat, List.flatMap_append, List.append_assoc,
      List.flatMap_singleton]

/-- A context is counted when it is given out. -/
theorem accesses_after (d : Desk) (m : Move) (n : Nat) :
    (m.after d).accesses n = d.accesses n + if (m.entry d).gaveOut n then 1 else 0 := by
  obtain ⟨slot, accesses, accounts, log⟩ := d
  cases m with
  | get =>
    cases slot with
    | holding c =>
      by_cases hn : n = c.number
      · simp [Move.after, Move.entry, Move.perform, get, Entry.gaveOut, Except.map, hn]
      · simp [Move.after, Move.entry, Move.perform, get, Entry.gaveOut, Except.map, hn, Ne.symm hn]
    | _ => rfl
  | install c => cases slot <;> rfl
  | release g => cases slot <;> rfl
  | close => cases slot <;> rfl

/-- **The count of a context** over a run. -/
theorem accesses_afterAll (d : Desk) (moves : List Move) (n : Nat) :
    (d.afterAll moves).accesses n = d.accesses n + (d.trace moves).countP (Entry.gaveOut n) := by
  induction moves using List.reverseRecOn with
  | nil => rfl
  | append_singleton moves m ih =>
    rw [afterAll_concat, accesses_after, ih, trace_concat, List.countP_append, List.countP_singleton,
      Nat.add_assoc]

/-! ### What the record has the slot hold -/

/-- The latest move that is no question. -/
def latest (moves : List Move) : Option Move :=
  (moves.filter fun m => m.isOpening || m.isClosing).getLast?

/-- The context of the latest opening, if nothing was closed since. -/
def standing (moves : List Move) : Option Context :=
  match latest moves with
  | some (.install c) => some c
  | _ => none

theorem standing_eq_some_iff {moves : List Move} {c : Context} :
    standing moves = some c ↔ latest moves = some (.install c) := by
  rw [standing]
  split
  next c' h => simp [h]
  next h => exact ⟨fun hc => absurd hc (by simp), fun hc => absurd hc (h c)⟩

/-- What a move leaves in the slot, if it holds a given context or none. -/
def Move.leaves (held : Option Context) : Move → Option Context
  | install c => some c
  | get => held
  | release _ | close => none

theorem standing_concat (moves : List Move) (m : Move) :
    standing (moves ++ [m]) = m.leaves (standing moves) := by
  cases m <;> simp [standing, latest, Move.isOpening, Move.isClosing, Move.leaves]

/-- What a move is answered and has logged, if the slot holds a given context or none. -/
def Move.record (held : Option Context) : Move → Entry
  | install c => ⟨install c, .ok none, if held.isSome then [.contextReplaced] else []⟩
  | get => ⟨get, held.elim (.error .noContext) fun c => .ok (some c), []⟩
  | release g => ⟨release g, .ok none, if held.isSome then [] else [.contextNotOpen]⟩
  | close => ⟨close, .ok none, if held.isSome then [] else [.contextNotOpen]⟩

@[simp] theorem Move.move_record (held : Option Context) (m : Move) : (m.record held).move = m := by
  cases m <;> rfl

/-- Who closes has nothing logged, or that there was nothing to close. -/
theorem Move.events_record_of_isClosing (held : Option Context) {m : Move}
    (h : m.isClosing = true) :
    (m.record held).events = [] ∨ (m.record held).events = [.contextNotOpen] := by
  have hcases : (m.record held).events = if held.isSome then [] else [.contextNotOpen] := by
    cases m with
    | release g => rfl
    | close => rfl
    | _ => exact Bool.noConfusion h
  rw [hcases]
  exact ite_eq_or_eq _ _ _

section Scope

variable {d : Desk} {held : Option Context}

/-- **What a move is answered and has logged** is what the record says. -/
theorem Move.entry_eq_record (h : d.slot = .ofContext? held) (m : Move) :
    m.entry d = m.record held := by
  obtain ⟨slot, accesses, accounts, log⟩ := d
  obtain rfl : slot = .ofContext? held := h
  cases held <;> cases m <;>
    simp [entry, record, Slot.ofContext?, after, perform, Desk.install, Desk.get, Desk.close, note,
      Except.map]

/-- **What a move leaves in the slot** is what the record says. -/
theorem Move.slot_after (h : d.slot = .ofContext? held) (m : Move) :
    (m.after d).slot = .ofContext? (m.leaves held) := by
  obtain ⟨slot, accesses, accounts, log⟩ := d
  obtain rfl : slot = .ofContext? held := h
  cases held <;> cases m <;> rfl

end Scope

section Run

variable {s : Desk} (h : s.slot = .vacant)

include h

/-- **The slot of a scope**, from when it is entered, holds what the record says. -/
theorem slot_afterAll (moves : List Move) :
    (s.afterAll moves).slot = .ofContext? (standing moves) := by
  induction moves using List.reverseRecOn with
  | nil => exact h
  | append_singleton moves m ih =>
    rw [afterAll_concat, standing_concat]
    exact m.slot_after ih

theorem trace_concat_eq_record (moves : List Move) (m : Move) :
    s.trace (moves ++ [m]) = s.trace moves ++ [m.record (standing moves)] := by
  rw [trace_concat, m.entry_eq_record (slot_afterAll h moves)]

/-- **Every line of the record** is what the moves before it make of the move. -/
theorem getElem?_trace (before later : List Move) (m : Move) :
    (s.trace (before ++ m :: later))[before.length]? = some (m.record (standing before)) := by
  rw [trace_append, List.getElem?_append_right (by simp), length_trace, Nat.sub_self, trace,
    List.getElem?_cons_zero, m.entry_eq_record (slot_afterAll h before)]

theorem exists_of_mem_trace {moves : List Move} {e : Entry} (he : e ∈ s.trace moves) :
    ∃ (held : Option Context) (m : Move), e = m.record held := by
  induction moves using List.reverseRecOn with
  | nil => exact absurd he List.not_mem_nil
  | append_singleton moves m ih =>
    rw [trace_concat_eq_record h] at he
    rcases List.mem_append.mp he with hbefore | hlast
    · exact ih hbefore
    · exact ⟨standing moves, m, List.mem_singleton.mp hlast⟩

/-- **Every opening is accounted for**: its context was replaced, or closed, or is in the slot. -/
theorem countP_opened (moves : List Move) :
    (s.trace moves).countP Entry.opened =
      ((s.trace moves).flatMap Entry.events).count .contextReplaced +
        (s.trace moves).countP Entry.closedQuietly +
        if (s.afterAll moves).slot.isHolding then 1 else 0 := by
  rw [slot_afterAll h]
  induction moves using List.reverseRecOn with
  | nil => rfl
  | append_singleton moves m ih =>
    rw [trace_concat_eq_record h, standing_concat, List.countP_append, List.countP_append,
      List.flatMap_append, List.count_append, ih]
    -- One thing changes at a time: the slot, or one of the counts.
    cases standing moves <;> cases m <;>
      simp [Move.record, Move.leaves, Entry.opened, Entry.closedQuietly, Move.isOpening,
        Move.isClosing, Slot.ofContext?, Slot.isHolding, Except.isOk, Except.toBool] <;> omega

end Run

/-! ### Outside of every scope -/

/-- What a move is answered and has logged outside of every scope. -/
def Move.recordOutside : Move → Entry
  | install c => ⟨install c, .error .openedOutsideScope, []⟩
  | get => ⟨get, .error .noContext, []⟩
  | release g => ⟨release g, .ok none, [.contextOutsideScope]⟩
  | close => ⟨close, .ok none, [.contextOutsideScope]⟩

theorem Move.entry_outside {d : Desk} (h : d.slot = .outside) (m : Move) :
    m.entry d = m.recordOutside ∧ (m.after d).slot = .outside := by
  obtain ⟨slot, accesses, accounts, log⟩ := d
  obtain rfl : slot = .outside := h
  cases m <;>
    simp [entry, recordOutside, after, perform, Desk.install, Desk.get, Desk.close, note,
      Except.map]

theorem trace_outside {d : Desk} (h : d.slot = .outside) (moves : List Move) :
    d.trace moves = moves.map Move.recordOutside := by
  induction moves generalizing d with
  | nil => rfl
  | cons m moves ih =>
    obtain ⟨hentry, hafter⟩ := m.entry_outside h
    rw [trace, hentry, ih hafter, List.map_cons]

/-- **Outside of every scope** nothing changes but the log. -/
theorem afterAll_outside {d : Desk} (h : d.slot = .outside) (moves : List Move) :
    d.afterAll moves = { d with log := d.log ++ (d.trace moves).flatMap Entry.events } := by
  induction moves generalizing d with
  | nil => simp [trace]
  | cons m moves ih =>
    have hafter : m.after d = { d with log := d.log ++ (m.entry d).events } := by
      rw [← log_after]
      obtain ⟨slot, accesses, accounts, log⟩ := d
      obtain rfl : slot = .outside := h
      cases m <;> rfl
    show (m.after d).afterAll moves = _
    rw [ih (m.entry_outside h).2, trace, List.flatMap_cons, ← List.append_assoc, ← log_after,
      hafter]

/-! ### Guards -/

/-- How many guards have been handed out. -/
def openings (moves : List Move) : Nat := moves.countP Move.isOpening

/-- A guard is held from when it is handed out until it is given back. -/
def IsHeld (moves : List Move) (guard : Nat) : Prop :=
  guard < openings moves ∧ Move.release guard ∉ moves

instance (moves : List Move) (guard : Nat) : Decidable (IsHeld moves guard) :=
  decidable_of_iff (guard < openings moves ∧ moves.all (fun m => !m.returns guard) = true) (by
    refine and_congr_right fun _ => ?_
    rw [List.all_eq_true]
    constructor
    · intro h hmem
      simpa [Move.returns] using h _ hmem
    · intro h m hm
      cases m with
      | release g => simpa [Move.returns] using fun heq : g = guard => h (heq ▸ hm)
      | _ => rfl)

theorem openings_concat (moves : List Move) (m : Move) :
    openings (moves ++ [m]) = openings moves + if m.isOpening then 1 else 0 := by
  rw [openings, List.countP_append, List.countP_singleton]
  rfl

theorem openings_mono {before moves : List Move} (h : before <+: moves) :
    openings before ≤ openings moves := h.sublist.countP_le

/-- Where a context stands, a guard has been handed out. -/
theorem openings_pos_of_standing {moves : List Move} {c : Context} (h : standing moves = some c) :
    0 < openings moves := by
  have hmem := List.mem_of_getLast? (standing_eq_some_iff.mp h)
  exact List.countP_pos_iff.mpr ⟨_, (List.mem_filter.mp hmem).1, rfl⟩

/-- A rule says which move may follow certain others. -/
abbrev Rule := List Move → Move → Prop

/-- Every move is one that the rule allows after those before it. -/
def Obeys (rule : Rule) (moves : List Move) : Prop :=
  ∀ before m, before ++ [m] <+: moves → rule before m

theorem obeys_concat_iff {rule : Rule} {moves : List Move} {m : Move} :
    Obeys rule (moves ++ [m]) ↔ Obeys rule moves ∧ rule moves m := by
  constructor
  · intro h
    exact ⟨fun before m' hm' => h before m' (hm'.trans (List.prefix_append _ _)),
      h moves m List.prefix_rfl⟩
  · rintro ⟨hmoves, hm⟩ before m' hm'
    rcases List.prefix_concat_iff.mp hm' with heq | hinitial
    · obtain ⟨rfl, hlast⟩ := List.append_inj' heq rfl
      obtain rfl := List.singleton_injective hlast
      exact hm
    · exact hmoves before m' hinitial

theorem Obeys.initial {rule : Rule} {before moves : List Move} (h : Obeys rule moves)
    (hbefore : before <+: moves) : Obeys rule before :=
  fun earlier m hm => h earlier m (hm.trans hbefore)

theorem obeys_iff_forall_take {rule : Rule} {moves : List Move} :
    Obeys rule moves ↔ ∀ (i : Nat) (h : i < moves.length), rule (moves.take i) moves[i] := by
  constructor
  · intro h i hi
    refine h _ _ ?_
    rw [List.take_append_getElem hi]
    exact List.take_prefix _ _
  · rintro h before m ⟨later, rfl⟩
    simpa using h before.length (by simp)

instance (rule : Rule) [∀ before m, Decidable (rule before m)] (moves : List Move) :
    Decidable (Obeys rule moves) :=
  decidable_of_iff _ obeys_iff_forall_take.symm

theorem Obeys.mono {rule rule' : Rule} (hrule : ∀ before m, rule before m → rule' before m)
    {moves : List Move} (h : Obeys rule moves) : Obeys rule' moves :=
  fun before m hm => hrule before m (h before m hm)

/-- **By guard**: who closes gives back a guard, and one that is held. -/
def ByGuard : Rule
  | before, .release g => IsHeld before g
  | _, .close => False
  | _, _ => True

/-- **One at a time**: no guard is held when a context is opened. -/
def OneAtATime : Rule
  | before, .install _ => ∀ g, ¬IsHeld before g
  | before, m => ByGuard before m

instance (before : List Move) (m : Move) : Decidable (ByGuard before m) :=
  match m with
  | .release g => inferInstanceAs (Decidable (IsHeld before g))
  | .close => inferInstanceAs (Decidable False)
  | .install _ | .get => inferInstanceAs (Decidable True)

instance (before : List Move) (m : Move) : Decidable (OneAtATime before m) :=
  match m with
  | .install _ => decidable_of_iff (∀ g < openings before, ¬IsHeld before g)
      ⟨fun h g hg => h g hg.1 hg, fun h g _ => h g⟩
  | .release g => inferInstanceAs (Decidable (ByGuard before (.release g)))
  | .get => inferInstanceAs (Decidable (ByGuard before .get))
  | .close => inferInstanceAs (Decidable (ByGuard before .close))

theorem OneAtATime.byGuard {before : List Move} {m : Move} (h : OneAtATime before m) :
    ByGuard before m := by
  cases m with
  | install c => trivial
  | _ => exact h

/-- Only guards that have been handed out are given back. -/
theorem lt_openings_of_release_mem {moves : List Move} (h : Obeys ByGuard moves) {g : Nat}
    (hg : .release g ∈ moves) : g < openings moves := by
  obtain ⟨before, later, rfl⟩ := List.append_of_mem hg
  have hinitial : before ++ [.release g] <+: before ++ .release g :: later := ⟨later, by simp⟩
  have hheld : IsHeld before g := h before (.release g) hinitial
  exact hheld.1.trans_le (openings_mono (List.prefix_append _ _))

/-- The guard that is handed out next is held from then on. -/
theorem isHeld_concat_install {moves : List Move} (h : Obeys ByGuard moves) (c : Context) {g : Nat} :
    IsHeld (moves ++ [.install c]) g ↔ IsHeld moves g ∨ g = openings moves := by
  have hnew : Move.release (openings moves) ∉ moves := fun hmem =>
    absurd (lt_openings_of_release_mem h hmem) (Nat.lt_irrefl _)
  simp only [IsHeld, openings_concat, Move.isOpening, if_true, List.mem_append, List.mem_singleton,
    reduceCtorEq, or_false]
  constructor
  · rintro ⟨hlt, hmem⟩
    rcases Nat.lt_succ_iff_lt_or_eq.mp hlt with hlt | rfl
    · exact Or.inl ⟨hlt, hmem⟩
    · exact Or.inr rfl
  · rintro (⟨hlt, hmem⟩ | rfl)
    · exact ⟨hlt.trans (Nat.lt_succ_self _), hmem⟩
    · exact ⟨Nat.lt_succ_self _, hnew⟩

theorem isHeld_concat_get {moves : List Move} {g : Nat} :
    IsHeld (moves ++ [.get]) g ↔ IsHeld moves g := by
  simp [IsHeld, openings_concat, Move.isOpening]

theorem isHeld_concat_release {moves : List Move} {g g' : Nat} :
    IsHeld (moves ++ [.release g']) g ↔ IsHeld moves g ∧ g ≠ g' := by
  simp [IsHeld, openings_concat, Move.isOpening, and_assoc]

/-- **One guard at a time**: a guard is held exactly while a context stands, and it is the one that
was handed out last. -/
theorem isHeld_iff_of_oneAtATime {moves : List Move} (h : Obeys OneAtATime moves) (g : Nat) :
    IsHeld moves g ↔ (standing moves).isSome ∧ g + 1 = openings moves := by
  induction moves using List.reverseRecOn generalizing g with
  | nil => simp [IsHeld, openings, standing, latest]
  | append_singleton moves m ih =>
    obtain ⟨hmoves, hm⟩ := obeys_concat_iff.mp h
    have hguards := hmoves.mono fun _ _ => OneAtATime.byGuard
    rw [standing_concat, openings_concat]
    cases m with
    | install c =>
      have hnone : ¬IsHeld moves g := hm g
      simp [isHeld_concat_install hguards, hnone, Move.leaves, Move.isOpening]
    | get => simpa [isHeld_concat_get, Move.leaves, Move.isOpening] using ih hmoves g
    | release g' =>
      have hlast : g' + 1 = openings moves := ((ih hmoves g').mp hm).2
      rw [isHeld_concat_release, ih hmoves g]
      simp [Move.leaves, ← hlast]
    | close => exact hm.elim

theorem exists_isHeld_of_standing {moves : List Move} {c : Context} (h : Obeys OneAtATime moves)
    (hstanding : standing moves = some c) : ∃ g, IsHeld moves g := by
  refine ⟨openings moves - 1, (isHeld_iff_of_oneAtATime h _).mpr ⟨?_, ?_⟩⟩
  · rw [hstanding]
    rfl
  · exact Nat.sub_add_cancel (openings_pos_of_standing hstanding)

/-- Who gives back every guard before the next opening has nothing logged. -/
theorem events_of_oneAtATime {moves : List Move} {m : Move} (h : Obeys OneAtATime (moves ++ [m])) :
    (m.record (standing moves)).events = [] := by
  obtain ⟨hmoves, hm⟩ := obeys_concat_iff.mp h
  cases m with
  | install c =>
    cases hstanding : standing moves with
    | none => rfl
    | some c' =>
      obtain ⟨g, hg⟩ := exists_isHeld_of_standing hmoves hstanding
      exact absurd hg (hm g)
  | get => rfl
  | release g =>
    obtain ⟨hstanding, -⟩ := (isHeld_iff_of_oneAtATime hmoves g).mp hm
    exact if_pos hstanding
  | close => exact hm.elim

/-- **Who gives back every guard before the next opening** never has anything logged, and leaves the
slot empty whenever no guard is held. -/
theorem quiet_of_oneAtATime {s : Desk} (hs : s.slot = .vacant) {moves : List Move}
    (h : Obeys OneAtATime moves) :
    (s.afterAll moves).log = s.log ∧
      ((∀ g, ¬IsHeld moves g) → (s.afterAll moves).slot = .vacant) := by
  constructor
  · induction moves using List.reverseRecOn with
    | nil => rfl
    | append_singleton moves m ih =>
      rw [afterAll_concat, log_after, m.entry_eq_record (slot_afterAll hs moves),
        events_of_oneAtATime h, List.append_nil]
      exact ih (obeys_concat_iff.mp h).1
  · intro hnone
    rw [slot_afterAll hs]
    cases hstanding : standing moves with
    | none => rfl
    | some c =>
      obtain ⟨g, hg⟩ := exists_isHeld_of_standing h hstanding
      exact absurd hg (hnone g)

/-! ### The books -/

/-- **The slot keeps its books**, whatever moves are made and in whatever order. In a scope, from
when it is entered:

* who asks is given the context of the latest opening, and nothing if something was closed since;
* the count of every context goes up by the number of times that it was given out;
* as many contexts were opened as were replaced, with a warning, or closed, without one, or are in
  the slot, and any other closing has logged that there was nothing to close;
* if every guard is given back before the next opening, and nothing is closed without one, then
  nothing is logged at any time, and the slot is empty whenever no guard is held.

Outside of every scope opening and asking are faults of the program, closing is logged, and that is
all that changes: nothing is counted. -/
theorem slot_bookkeeping (d : Desk) (moves : List Move) :
    let s : Desk := { d with slot := .vacant }
    let o : Desk := { d with slot := .outside }
    let logged := (s.trace moves).flatMap Entry.events
    (∀ before later, moves = before ++ .get :: later →
      (s.trace moves)[before.length]? = some ⟨.get, match latest before with
        | some (.install c) => .ok (some c)
        | _ => .error .noContext, []⟩) ∧
      (∀ n, (s.afterAll moves).accesses n =
        d.accesses n + (s.trace moves).countP (Entry.gaveOut n)) ∧
      (s.trace moves).countP Entry.opened =
        logged.count .contextReplaced + (s.trace moves).countP Entry.closedQuietly +
          (if (s.afterAll moves).slot.isHolding then 1 else 0) ∧
      (∀ e ∈ s.trace moves, e.move.isClosing = true →
        e.events = [] ∨ e.events = [.contextNotOpen]) ∧
      (s.afterAll moves).log = d.log ++ logged ∧
      (Obeys OneAtATime moves → ∀ before, before <+: moves →
        (s.afterAll before).log = d.log ∧
          ((∀ g, ¬IsHeld before g) → (s.afterAll before).slot = .vacant)) ∧
      o.afterAll moves = { o with log := d.log ++ (o.trace moves).flatMap Entry.events } ∧
      ∀ e ∈ o.trace moves,
        if e.move.isClosing then e.answer = .ok none ∧ e.events = [.contextOutsideScope]
        else (∃ f : Fault, e.answer = .error f ∧ f.kind = .programmer) ∧ e.events = [] := by
  intro s o logged
  have hs : s.slot = .vacant := rfl
  have ho : o.slot = .outside := rfl
  refine ⟨?_, accesses_afterAll s moves, countP_opened hs moves, ?_, log_afterAll s moves, ?_,
    afterAll_outside ho moves, ?_⟩
  · rintro before later rfl
    rw [getElem?_trace hs, Move.record, standing]
    split <;> rfl
  · intro e he hclosing
    obtain ⟨held, m, rfl⟩ := exists_of_mem_trace hs he
    rw [Move.move_record] at hclosing
    exact Move.events_record_of_isClosing held hclosing
  · intro hone before hbefore
    exact quiet_of_oneAtATime hs (hone.initial hbefore)
  · rw [trace_outside ho]
    intro e he
    obtain ⟨m, -, rfl⟩ := List.mem_map.mp he
    cases m with
    | install c => exact ⟨⟨_, rfl, rfl⟩, rfl⟩
    | get => exact ⟨⟨_, rfl, rfl⟩, rfl⟩
    | release g => exact ⟨rfl, rfl⟩
    | close => exact ⟨rfl, rfl⟩

/-- One request after the other: nothing is logged, and the slot is empty in the end. -/
theorem slot_bookkeeping_of_two_requests :
    let context (n : Nat) : Context := ⟨n, ⟨⟨"GET".toList, by decide⟩,
      ⟨[], "/a".toList, none, by decide, by decide⟩, []⟩, none⟩
    let moves : List Move :=
      [.install (context 0), .get, .release 0, .get, .install (context 1), .release 1]
    let s : Desk := { start with slot := .vacant }
    Obeys OneAtATime moves ∧ (∀ g, ¬IsHeld moves g) ∧
      (s.afterAll moves).log = [] ∧ (s.afterAll moves).slot = .vacant := by
  intro context moves s
  have hone : Obeys OneAtATime moves := by decide
  have hnone : ∀ g, ¬IsHeld moves g := fun g hg =>
    (show ∀ g < openings moves, ¬IsHeld moves g by decide) g hg.1 hg
  obtain ⟨-, -, -, -, -, hquiet, -, -⟩ := slot_bookkeeping start moves
  obtain ⟨hlog, hslot⟩ := hquiet hone moves List.prefix_rfl
  exact ⟨hone, hnone, hlog, hslot hnone⟩

end Desk

end Countersign.Serving
