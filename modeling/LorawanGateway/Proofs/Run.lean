import Mathlib.Data.List.Basic

/-!
Runs of a state machine, and what their events yield. A run is a fold of the step over the events;
each event yields some items in the state that it meets. What holds of the items of one event is
carried over to those of a whole run here, once for all machines.
-/

namespace LorawanGateway

variable {State Event Item : Type} {step : State → Event → State} {state : State}
variable {yield : State → Event → List Item} {events : List Event} {item : Item}

/-- All items that the events of a run yield, in their order. -/
def gather (step : State → Event → State) (yield : State → Event → List Item) :
    State → List Event → List Item
  | _, [] => []
  | state, event :: rest => yield state event ++ gather step yield (step state event) rest

theorem gather_append (step : State → Event → State) (yield : State → Event → List Item)
    (state : State) (first second : List Event) :
    gather step yield state (first ++ second) =
      gather step yield state first ++ gather step yield (first.foldl step state) second := by
  induction first generalizing state with
  | nil => rfl
  | cons event rest induction =>
      simp only [List.cons_append, gather, List.foldl_cons, induction, List.append_assoc]

theorem gather_concat (step : State → Event → State) (yield : State → Event → List Item)
    (state : State) (events : List Event) (event : Event) :
    gather step yield state (events ++ [event]) =
      gather step yield state events ++ yield (events.foldl step state) event := by
  simp only [gather_append, gather, List.append_nil]

/-- An item of a run is one of an event in the state that the events before it lead to. -/
theorem mem_gather : item ∈ gather step yield state events ↔
    ∃ before event after, events = before ++ event :: after ∧
      item ∈ yield (before.foldl step state) event := by
  induction events generalizing state with
  | nil => simp [gather]
  | cons event rest induction =>
      rw [gather, List.mem_append, induction]
      constructor
      · rintro (here | ⟨before, later, after, split, there⟩)
        · exact ⟨[], event, rest, rfl, here⟩
        · exact ⟨event :: before, later, after, congrArg (event :: ·) split, there⟩
      · rintro ⟨before, later, after, split, found⟩
        cases before with
        | nil =>
            cases split
            exact .inl found
        | cons first before =>
            cases split
            exact .inr ⟨before, later, after, rfl, found⟩

theorem filter_gather (kept : Item → Bool) (state : State) (events : List Event) :
    (gather step yield state events).filter kept =
      gather step (fun state event => (yield state event).filter kept) state events := by
  induction events generalizing state with
  | nil => rfl
  | cons event rest induction => simp only [gather, List.filter_append, induction]

/-- Events that leave the state as it is and yield nothing can be left out of a run. -/
theorem run_filter {heeded : Event → Bool}
    (still : ∀ state event, heeded event = false → step state event = state)
    (silent : ∀ state event, heeded event = false → yield state event = [])
    (state : State) (events : List Event) :
    (events.filter heeded).foldl step state = events.foldl step state ∧
      gather step yield state (events.filter heeded) = gather step yield state events := by
  induction events generalizing state with
  | nil => exact ⟨rfl, rfl⟩
  | cons event rest induction =>
      obtain ⟨same, yielded⟩ := induction (step state event)
      cases kept : heeded event with
      | true =>
          rw [List.filter_cons_of_pos kept]
          exact ⟨same, congrArg (yield state event ++ ·) yielded⟩
      | false =>
          rw [List.filter_cons_of_neg (Bool.not_eq_true _ ▸ kept), List.foldl_cons, gather,
            silent state event kept, List.nil_append]
          rw [still state event kept] at same yielded ⊢
          exact ⟨same, yielded⟩

/-- Books that balance at each event balance over a run: what came in and what was held before is
what is held at the end, what was given out and what was thrown away. -/
theorem gather_balance [DecidableEq Item] (held : State → List Item)
    {gain loss waste : State → Event → List Item}
    (balanced : ∀ state event, (gain state event ++ held state).Perm
      (held (step state event) ++ loss state event ++ waste state event))
    (state : State) (events : List Event) :
    (gather step gain state events ++ held state).Perm
      (held (events.foldl step state) ++ gather step loss state events ++
        gather step waste state events) := by
  induction events generalizing state with
  | nil => simp [gather]
  | cons event rest induction =>
      refine List.perm_iff_count.mpr fun item => ?_
      have here := (balanced state event).count_eq item
      have there := (induction (step state event)).count_eq item
      simp only [gather, List.foldl_cons, List.count_append] at here there ⊢
      omega

end LorawanGateway
