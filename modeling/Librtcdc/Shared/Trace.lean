import Mathlib.Data.List.Basic
import Mathlib.Tactic.SplitIfs

set_option autoImplicit false

namespace Systems

universe u v w

variable {State : Type u} {Action : Type v} {Event : Type w}

-- A step refuses an action that is not enabled in the state.
abbrev Step (State : Type u) (Action : Type v) (Event : Type w) :=
  State → Action → Option (State × List Event)

/-- Runs whose steps all meet `ok`, with the actions taken and the events emitted so far. -/
inductive RunIf (ok : State → Action → Prop) (step : Step State Action Event) (start : State) :
    List Action → State → List Event → Prop
  | refl : RunIf ok step start [] start []
  | snoc {actions : List Action} {s next : State} {events emitted : List Event} {action : Action}
      (run : RunIf ok step start actions s events) (allowed : ok s action)
      (taken : step s action = some (next, emitted)) :
      RunIf ok step start (actions ++ [action]) next (events ++ emitted)

abbrev Run (step : Step State Action Event) := RunIf (fun _ _ => True) step

variable {ok : State → Action → Prop} {step : Step State Action Event} {start s : State}
  {actions : List Action} {events : List Event}

theorem RunIf.invariant (inv : State → List Event → Prop) (initial : inv start [])
    (preserved : ∀ s events action next emitted, inv s events → ok s action →
      step s action = some (next, emitted) → inv next (events ++ emitted))
    (run : RunIf ok step start actions s events) : inv s events := by
  induction run with
  | refl => exact initial
  | snoc _ allowed taken ih => exact preserved _ _ _ _ _ ih allowed taken

theorem RunIf.ranked (inv : State → List Event → Prop) (rank : State → Nat)
    (counted : Action → Bool) (initial : inv start [])
    (preserved : ∀ s events action next emitted, inv s events → ok s action →
      step s action = some (next, emitted) → inv next (events ++ emitted))
    (falls : ∀ s events action next emitted, inv s events → ok s action →
      step s action = some (next, emitted) →
        rank next + (if counted action then 1 else 0) ≤ rank s)
    (run : RunIf ok step start actions s events) :
    actions.countP counted + rank s ≤ rank start := by
  induction run with
  | refl => simp
  | snoc run allowed taken ih =>
      have kept := run.invariant inv initial preserved
      have lower := falls _ _ _ _ _ kept allowed taken
      rw [List.countP_append, List.countP_singleton]
      omega

theorem RunIf.weaken {ok' : State → Action → Prop} (weaker : ∀ s action, ok s action → ok' s action)
    (run : RunIf ok step start actions s events) : RunIf ok' step start actions s events := by
  induction run with
  | refl => exact .refl
  | snoc _ allowed taken ih => exact .snoc ih (weaker _ _ allowed) taken

theorem RunIf.run (run : RunIf ok step start actions s events) :
    Run step start actions s events :=
  run.weaken fun _ _ _ => trivial

theorem RunIf.imp {ok' : State → Action → Prop} (inv : State → List Event → Prop)
    (initial : inv start [])
    (preserved : ∀ s events action next emitted, inv s events → ok s action →
      step s action = some (next, emitted) → inv next (events ++ emitted))
    (imp : ∀ s events action, inv s events → ok s action → ok' s action)
    (run : RunIf ok step start actions s events) : RunIf ok' step start actions s events := by
  induction run with
  | refl => exact .refl
  | snoc run allowed taken ih =>
      have kept := run.invariant inv initial preserved
      exact .snoc ih (imp _ _ _ kept allowed) taken

/-- Runs of which every state, with the events so far, is good. -/
inductive Always (good : State → List Event → Prop) (step : Step State Action Event)
    (start : State) : List Action → State → List Event → Prop
  | refl (here : good start []) : Always good step start [] start []
  | snoc {actions : List Action} {s next : State} {events emitted : List Event} {action : Action}
      (run : Always good step start actions s events)
      (taken : step s action = some (next, emitted)) (here : good next (events ++ emitted)) :
      Always good step start (actions ++ [action]) next (events ++ emitted)

theorem runIf_iff_always {good : State → List Event → Prop} (inv : State → List Event → Prop)
    (initial : inv start [])
    (preserved : ∀ s events action next emitted, inv s events → ok s action →
      step s action = some (next, emitted) → inv next (events ++ emitted))
    (enough : ∀ s events, inv s events → good s events)
    (tight : ∀ s events action next emitted, inv s events →
      step s action = some (next, emitted) → good next (events ++ emitted) → ok s action) :
    RunIf ok step start actions s events ↔ Always good step start actions s events := by
  constructor
  · intro run
    induction run with
    | refl => exact .refl (enough _ _ initial)
    | snoc run allowed taken ih =>
        have kept := preserved _ _ _ _ _ (run.invariant inv initial preserved) allowed taken
        exact .snoc ih taken (enough _ _ kept)
  · intro always
    induction always with
    | refl => exact .refl
    | snoc _ taken here ih =>
        have kept := ih.invariant inv initial preserved
        exact .snoc ih (tight _ _ _ _ _ kept taken here) taken

theorem RunIf.append {actions' : List Action} {t : State} {events' : List Event}
    (first : RunIf ok step start actions s events) (second : RunIf ok step s actions' t events') :
    RunIf ok step start (actions ++ actions') t (events ++ events') := by
  induction second with
  | refl => simpa using first
  | snoc _ allowed taken ih =>
      rw [← List.append_assoc, ← List.append_assoc]
      exact .snoc ih allowed taken

def exec (step : Step State Action Event) : State → List Action → Option (State × List Event)
  | s, [] => some (s, [])
  | s, action :: rest =>
      match step s action with
      | none => none
      | some (next, emitted) =>
          (exec step next rest).map fun last => (last.1, emitted ++ last.2)

theorem exec_run (taken : exec step start actions = some (s, events)) :
    Run step start actions s events := by
  induction actions generalizing start events with
  | nil =>
      obtain ⟨rfl, rfl⟩ : start = s ∧ [] = events := by simpa [exec] using taken
      exact .refl
  | cons action rest ih =>
      cases first : step start action with
      | none => simp [exec, first] at taken
      | some result =>
          obtain ⟨next, emitted⟩ := result
          simp only [exec, first, Option.map_eq_some_iff, Prod.mk.injEq, Prod.exists] at taken
          obtain ⟨_, later, tail, rfl, rfl⟩ := taken
          have head : Run step start [action] next emitted := .snoc .refl trivial first
          exact head.append (ih tail)

theorem exec_snoc (taken : exec step start actions = some (s, events)) {action : Action}
    {next : State} {emitted : List Event} (moved : step s action = some (next, emitted)) :
    exec step start (actions ++ [action]) = some (next, events ++ emitted) := by
  induction actions generalizing start events with
  | nil =>
      obtain ⟨rfl, rfl⟩ : start = s ∧ [] = events := by simpa [exec] using taken
      simp [exec, moved]
  | cons first rest ih =>
      simp only [exec] at taken
      split at taken
      · cases taken
      · rename_i middle earlier here
        obtain ⟨⟨_, later⟩, tail, same⟩ := Option.map_eq_some_iff.mp taken
        obtain ⟨rfl, rfl⟩ := Prod.mk.inj same
        simp [exec, here, ih tail]

theorem RunIf.exec (run : RunIf ok step start actions s events) :
    exec step start actions = some (s, events) := by
  induction run with
  | refl => rfl
  | snoc _ _ taken ih => exact exec_snoc ih taken

theorem RunIf.last {action : Action} (run : RunIf ok step start (actions ++ [action]) s events) :
    ∃ before earlier, RunIf ok step start actions before earlier ∧ ok before action := by
  generalize whole : actions ++ [action] = all at run
  cases run with
  | refl => simp at whole
  | snoc run allowed _ =>
      obtain ⟨rfl, same⟩ := List.append_inj' whole rfl
      obtain rfl := List.singleton_inj.mp same
      exact ⟨_, _, run, allowed⟩

theorem exec_events (emitted : (exec step start actions).map Prod.snd = some events) :
    ∃ last, Run step start actions last events := by
  obtain ⟨⟨last, _⟩, taken, rfl⟩ := Option.map_eq_some_iff.mp emitted
  exact ⟨last, exec_run taken⟩

def execIf (ok : State → Action → Prop) [∀ s action, Decidable (ok s action)]
    (step : Step State Action Event) : State → List Action → Option (State × List Event) :=
  exec fun s action => if ok s action then step s action else none

theorem execIf_runIf [∀ s action, Decidable (ok s action)]
    (taken : execIf ok step start actions = some (s, events)) :
    RunIf ok step start actions s events := by
  have run := exec_run taken
  clear taken
  induction run with
  | refl => exact .refl
  | snoc _ _ moved ih =>
      split_ifs at moved with allowed
      exact .snoc ih allowed moved

end Systems
