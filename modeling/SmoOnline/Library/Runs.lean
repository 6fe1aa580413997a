import Mathlib.Data.List.Basic

/-! Runs of a labelled transition function and the rules for reasoning about them.
A run may restrict the events it takes by a condition on the state before each of them.
-/

namespace Runs

variable {State Event : Type} (step : State → Event → Option State)
  (Allowed : State → Event → Prop)

/-- The states reached from `start` by allowed events, with the events in order. -/
inductive Run (start : State) : List Event → State → Prop
  | nil : Run start [] start
  | snoc {events state event next} (before : Run start events state)
    (allowed : Allowed state event) (taken : step state event = some next)
    : Run start (events ++ [event]) next

/-- The states reached from `start` without any restriction on events. -/
abbrev AnyRun : State → List Event → State → Prop := Run step (fun _ _ => True)

/-- Execute events in order; a refused event refuses the whole run. -/
def execute (start : State) : List Event → Option State
  | [] => some start
  | event :: rest =>
      match step start event with
      | some next => execute next rest
      | none => none

variable {step Allowed}

/-- A property that holds at the start and is kept by every allowed step holds in every
state a run reaches.
-/
theorem Run.invariant {start : State} {Holds : State → Prop} (base : Holds start)
    (keep
      : ∀ {state event next},
          Holds state → Allowed state event → step state event = some next → Holds next)
    {events : List Event} {state : State} (run : Run step Allowed start events state)
    : Holds state := by
  induction run with
  | nil => exact base
  | snoc _ allowed taken ih => exact keep ih allowed taken

/-- Like `Run.invariant`, where the step may use a property known of every state. -/
theorem Run.invariant_using {start : State} {Known Holds : State → Prop}
    (known : ∀ {events state}, Run step Allowed start events state → Known state)
    (base : Holds start)
    (keep
      : ∀ {state event next},
          Known state → Holds state → Allowed state event → step state event = some next
          → Holds next)
    {events : List Event} {state : State} (run : Run step Allowed start events state)
    : Holds state := by
  induction run with
  | nil => exact base
  | snoc before allowed taken ih => exact keep (known before) ih allowed taken

/-- Runs under a condition are runs under a weaker one. -/
theorem Run.mono {Weaker : State → Event → Prop} {start : State}
    (weaken : ∀ {state event}, Allowed state event → Weaker state event)
    {events : List Event} {state : State} (run : Run step Allowed start events state)
    : Run step Weaker start events state := by
  induction run with
  | nil => exact .nil
  | snoc _ allowed taken ih => exact ih.snoc (weaken allowed) taken

/-- Where the states reached have a property under which two conditions on steps come to the
same, the runs under the one are the runs under the other.
-/
theorem Run.congr {First Second : State → Event → Prop} {start state : State}
    {events : List Event} (Known : State → Prop) (base : Known start)
    (keep
      : ∀ {state event next},
          Known state → First state event → step state event = some next → Known next)
    (same
      : ∀ {state event next},
          Known state → step state event = some next → (First state event ↔ Second state event))
    : Run step First start events state ↔ Run step Second start events state := by
  have known_run {events state} (run : Run step First start events state) : Known state :=
    run.invariant base keep
  constructor
  · intro run
    induction run with
    | nil => exact .nil
    | snoc before allowed taken ih =>
        exact ih.snoc ((same (known_run before) taken).mp allowed) taken
  · intro run
    induction run with
    | nil => exact .nil
    | snoc _ allowed taken ih =>
        exact ih.snoc ((same (known_run ih) taken).mpr allowed) taken

/-- Runs under a condition are runs under one that follows from what is known of the states. -/
theorem Run.mono_using {First Second : State → Event → Prop} {start state : State}
    {events : List Event} {Known : State → Prop} (base : Known start)
    (keep
      : ∀ {state event next},
          Known state → First state event → step state event = some next → Known next)
    (weaken
      : ∀ {state event next},
          Known state → First state event → step state event = some next → Second state event)
    (run : Run step First start events state)
    : Run step Second start events state := by
  induction run with
  | nil => exact .nil
  | snoc before allowed taken ih =>
      exact ih.snoc (weaken (before.invariant base keep) allowed taken) taken

/-- A map of states that takes steps to steps takes runs to runs. -/
theorem Run.simulate {Other : Type} {onto : Other → Event → Option Other}
    {Meets : Other → Event → Prop} (image : State → Other)
    (meets : ∀ {state event}, Allowed state event → Meets (image state) event)
    (steps
      : ∀ {state event next},
          Allowed state event → step state event = some next
          → onto (image state) event = some (image next))
    {start state : State} {events : List Event} (run : Run step Allowed start events state)
    : Run onto Meets (image start) events (image state) := by
  induction run with
  | nil => exact .nil
  | snoc _ allowed taken ih => exact ih.snoc (meets allowed) (steps allowed taken)

/-- The event leads to a state with a property. -/
def Into (step : State → Event → Option State) (Holds : State → Prop) (state : State)
    (event : Event)
    : Prop :=
  ∀ next, step state event = some next → Holds next

/-- A run of events that all have a property is a run under that property. -/
theorem Run.of_events {Holds : Event → Prop} {start state : State} {events : List Event}
    (run : AnyRun step start events state) (holds : ∀ event ∈ events, Holds event)
    : Run step (fun _ event => Holds event) start events state := by
  induction run with
  | nil => exact .nil
  | snoc _ _ taken ih =>
      exact (ih fun event member => holds event (List.mem_append_left _ member)).snoc
        (holds _ (List.mem_append_right _ (List.mem_singleton_self _))) taken

/-- Where a condition is exactly what it takes for a step to keep a property, it is exactly what
it takes for a run to have the property in every state; what is known of every state may be used.
-/
theorem Run.into_iff_using {Known Holds : State → Prop} {start state : State}
    {events : List Event} (known : Known start) (base : Holds start)
    (keep
      : ∀ {state event next},
          Known state → Holds state → Allowed state event → step state event = some next
          → Known next)
    (exact
      : ∀ {state event next},
          Known state → Holds state → step state event = some next
          → (Allowed state event ↔ Holds next))
    : Run step Allowed start events state ↔ Run step (Into step Holds) start events state := by
  apply Run.congr (fun state => Known state ∧ Holds state) ⟨known, base⟩
  · rintro state event next ⟨known, holds⟩ allowed taken
    exact ⟨keep known holds allowed taken, (exact known holds taken).mp allowed⟩
  · rintro state event next ⟨known, holds⟩ taken
    constructor
    · intro allowed other again
      obtain rfl := Option.some.inj (taken.symm.trans again)
      exact (exact known holds taken).mp allowed
    · intro into
      exact (exact known holds taken).mpr (into next taken)

/-- `Run.into_iff_using` where nothing else is known. -/
theorem Run.into_iff {Holds : State → Prop} {start state : State} {events : List Event}
    (base : Holds start)
    (exact
      : ∀ {state event next},
          Holds state → step state event = some next → (Allowed state event ↔ Holds next))
    : Run step Allowed start events state ↔ Run step (Into step Holds) start events state :=
  @Run.into_iff_using _ _ step Allowed (fun _ => True) Holds start state events trivial base
    (fun _ _ _ _ => trivial) fun _ holds taken => exact holds taken

/-- One run continues another. -/
theorem Run.trans {start middle state : State} {first later : List Event}
    (before : Run step Allowed start first middle)
    (after : Run step Allowed middle later state)
    : Run step Allowed start (first ++ later) state := by
  induction after with
  | nil => simpa using before
  | snoc _ allowed taken ih =>
      rw [← List.append_assoc]
      exact ih.snoc allowed taken

/-- One allowed step is a run. -/
theorem Run.single {state next : State} {event : Event} (allowed : Allowed state event)
    (taken : step state event = some next)
    : Run step Allowed state [event] next :=
  Run.nil.snoc allowed taken

/-- The event of a run of one step was allowed at its start. -/
theorem Run.allowed_of_single {state next : State} {event : Event}
    (run : Run step Allowed state [event] next)
    : Allowed state event := by
  generalize only : [event] = events at run
  cases run with
  | nil => cases only
  | snoc before allowed _ =>
      obtain ⟨none, last⟩ := @List.append_inj' _ [] [event] _ _ only rfl
      obtain rfl := List.singleton_inj.mp last
      cases before with
      | nil => exact allowed
      | snoc _ _ _ => simp at none

-----------------------------------------------------------------------------------------
-- Notes on runs
-----------------------------------------------------------------------------------------

/-- The steps of `step`, each of which adds to the notes that were taken before it. -/
def recording {Note : Type} (step : State → Event → Option State)
    (notes : State → Event → State → List Note) (recorded : State × List Note) (event : Event)
    : Option (State × List Note) :=
  (step recorded.1 event).map fun next =>
    (next, recorded.2 ++ notes recorded.1 event next)

theorem recording_cases {Note : Type} {notes : State → Event → State → List Note}
    {recorded after : State × List Note} {event : Event}
    (taken : recording step notes recorded event = some after)
    : step recorded.1 event = some after.1
      ∧ after.2 = recorded.2 ++ notes recorded.1 event after.1 := by
  obtain ⟨next, stepped, rfl⟩ := Option.map_eq_some_iff.mp taken
  exact ⟨stepped, rfl⟩

/-- A run with its notes is a run. -/
theorem Run.forget {Note : Type} {notes : State → Event → State → List Note}
    {Allowed : State × List Note → Event → Prop} {start after : State × List Note}
    {events : List Event} (run : Run (recording step notes) Allowed start events after)
    : AnyRun step start.1 events after.1 := by
  induction run with
  | nil => exact .nil
  | snoc _ _ taken ih => exact ih.snoc trivial (recording_cases taken).1

/-- Notes can be taken of every run. -/
theorem Run.recorded {Note : Type} (notes : State → Event → State → List Note)
    {start state : State} {events : List Event} (run : Run step Allowed start events state)
    : ∃ taken,
        Run (recording step notes) (fun recorded event => Allowed recorded.1 event) (start, [])
          events (state, taken) := by
  induction run with
  | nil => exact ⟨[], .nil⟩
  | @snoc events state event next before allowed taken ih =>
      obtain ⟨earlier, run⟩ := ih
      refine ⟨earlier ++ notes state event next, run.snoc allowed ?_⟩
      rw [recording, taken]
      rfl

/-- Where all notes of a run have a property, each step was one whose notes have it. -/
theorem Run.of_notes {Note : Type} {notes : State → Event → State → List Note}
    {Allowed : State × List Note → Event → Prop} {Holds : Note → Prop}
    {start state : State} {all : List Note} {events : List Event}
    (run : Run (recording step notes) Allowed (start, []) events (state, all))
    (holds : ∀ note ∈ all, Holds note)
    : Run step
        (fun state event =>
          ∀ next, step state event = some next → ∀ note ∈ notes state event next, Holds note)
        start events state := by
  suffices known : ∀ recorded : State × List Note,
      Run (recording step notes) Allowed (start, []) events recorded
      → (∀ note ∈ recorded.2, Holds note)
      → Run step
          (fun state event =>
            ∀ next, step state event = some next → ∀ note ∈ notes state event next, Holds note)
          start events recorded.1 from
    known (state, all) run holds
  clear run holds
  intro recorded run
  induction run with
  | nil => exact fun _ => .nil
  | @snoc events recorded event after before allowed taken ih =>
      intro holds
      obtain ⟨stepped, same⟩ := recording_cases taken
      rw [same] at holds
      refine (ih fun note member => holds note (List.mem_append_left _ member)).snoc ?_ stepped
      intro next again note member
      obtain rfl := Option.some.inj (stepped.symm.trans again)
      exact holds note (List.mem_append_right _ member)

-----------------------------------------------------------------------------------------
-- Executions
-----------------------------------------------------------------------------------------

/-- An executed list of events is a run. -/
theorem execute_run {start state : State} {events : List Event}
    (executed : execute step start events = some state)
    : AnyRun step start events state := by
  induction events generalizing start with
  | nil =>
      obtain rfl := Option.some.inj executed
      exact .nil
  | cons event rest ih =>
      cases taken : step start event with
      | none => simp [execute, taken] at executed
      | some next =>
          have rest_executed : execute step next rest = some state := by
            simpa [execute, taken] using executed
          exact (Run.single trivial taken).trans (ih rest_executed)

/-- Executing one list of events after another. -/
theorem execute_append (start : State) (first later : List Event)
    : execute step start (first ++ later)
      = (execute step start first).bind fun middle => execute step middle later := by
  induction first generalizing start with
  | nil => rfl
  | cons event rest ih =>
      cases taken : step start event with
      | none => simp [execute, taken]
      | some next => simpa [execute, taken] using ih next

/-- A run leads to where its events do. -/
theorem Run.execute_eq {start state : State} {events : List Event}
    (run : Run step Allowed start events state)
    : execute step start events = some state := by
  induction run with
  | nil => rfl
  | snoc _ _ taken ih =>
      rw [execute_append, ih, Option.bind_some]
      simp [execute, taken]

/-- The states between the events of an execution. -/
theorem execute_cons_eq_some {start state : State} {event : Event} {rest : List Event}
    (executed : execute step start (event :: rest) = some state)
    : ∃ next, step start event = some next ∧ execute step next rest = some state := by
  rw [execute] at executed
  split at executed
  · next next taken => exact ⟨next, taken, executed⟩
  · cases executed

/-- A property found to hold where an execution leads to holds of the state it leads to. -/
theorem execute_holds {start state : State} {events : List Event} (Holds : State → Prop)
    [DecidablePred Holds] (executed : execute step start events = some state)
    (checked : (execute step start events).any (fun last => decide (Holds last)) = true)
    : Holds state := by
  rw [executed] at checked
  simpa using checked

/-- What an execution leads to is reached by a run. -/
theorem execute_get_run {start : State} {events : List Event}
    (executes : (execute step start events).isSome = true)
    : AnyRun step start events ((execute step start events).get executes) :=
  execute_run (Option.some_get executes).symm

/-- A run to a state where a property was found to hold. -/
theorem exists_run {start : State} {events : List Event} (Holds : State → Prop)
    [DecidablePred Holds]
    (found : (execute step start events).any (fun last => decide (Holds last)) = true)
    : ∃ state, AnyRun step start events state ∧ Holds state := by
  obtain ⟨state, executed, holds⟩ := (Option.any_eq_true _ _).mp found
  exact ⟨state, execute_run executed, of_decide_eq_true holds⟩

/-- A run and one step more, between whose states a relation was found to hold. -/
theorem exists_run_step {start : State} {events : List Event} {event : Event}
    (Holds : State → State → Prop) [∀ before after, Decidable (Holds before after)]
    (found
      : (execute step start events).any (fun before =>
          (step before event).any fun after => decide (Holds before after)) = true)
    : ∃ before after,
        AnyRun step start events before ∧ step before event = some after ∧ Holds before after := by
  obtain ⟨before, executed, steps⟩ := (Option.any_eq_true _ _).mp found
  obtain ⟨after, taken, holds⟩ := (Option.any_eq_true _ _).mp steps
  exact ⟨before, after, execute_run executed, taken, of_decide_eq_true holds⟩

/-- Execute events in order, each of which must pass a check. -/
def executeChecked (step : State → Event → Option State) (check : State → Event → Bool)
    (start : State) (events : List Event)
    : Option State :=
  execute (fun state event => if check state event then step state event else none) start events

/-- What is executed under a sound check is reached by a run of allowed events. -/
theorem executeChecked_run {check : State → Event → Bool}
    (sound : ∀ state event, check state event = true → Allowed state event)
    {start state : State} {events : List Event}
    (executed : executeChecked step check start events = some state)
    : Run step Allowed start events state := by
  have run := execute_run executed
  clear executed
  induction run with
  | nil => exact .nil
  | snoc _ _ taken ih =>
      split_ifs at taken with checked
      exact ih.snoc (sound _ _ checked) taken

end Runs
