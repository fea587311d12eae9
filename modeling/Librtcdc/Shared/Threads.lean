import Mathlib.Logic.Function.Basic
import Librtcdc.Shared.Trace

set_option autoImplicit false

namespace Systems

universe u v w x y

-- Threads with a shared state, each at some point of its program.
structure Threads (Shared : Type u) {Thread : Type v} (Point : Thread → Type w) where
  shared : Shared
  point : (t : Thread) → Point t

-- The atomic step of a thread at a point, given what its surroundings answer.
abbrev Program (Shared : Type u) {Thread : Type v} (Point : Thread → Type w) (Answer : Type x)
    (Event : Type y) :=
  (t : Thread) → Shared → Point t → Answer → Option (Shared × Point t × List Event)

variable {Shared : Type u} {Thread : Type v} [DecidableEq Thread] {Point : Thread → Type w}
  {Answer : Type x} {Event : Type y}

def Program.step (program : Program Shared Point Answer Event) :
    Step (Threads Shared Point) (Thread × Answer) Event :=
  fun s (t, answer) =>
    (program t s.shared (s.point t) answer).map fun (shared, point, emitted) =>
      (⟨shared, Function.update s.point t point⟩, emitted)

variable {program : Program Shared Point Answer Event}

theorem Program.step_cases {s next : Threads Shared Point} {t : Thread} {answer : Answer}
    {emitted : List Event} (moved : program.step s (t, answer) = some (next, emitted)) :
    program t s.shared (s.point t) answer = some (next.shared, next.point t, emitted) ∧
      ∀ other ≠ t, next.point other = s.point other := by
  obtain ⟨⟨shared, point, emitted'⟩, taken, equal⟩ := Option.map_eq_some_iff.mp moved
  obtain ⟨rfl, rfl⟩ := Prod.mk.inj equal
  constructor
  · dsimp only
    rw [Function.update_self]
    exact taken
  · intro other elsewhere
    exact Function.update_of_ne elsewhere ..

/-- An invariant of the shared state, what a thread relies on at each of its points, and what every
step guarantees to the other threads. -/
structure Outline (program : Program Shared Point Answer Event) where
  inv : Shared → Prop
  asserts : (t : Thread) → Shared → Point t → Prop
  guarantees : Shared → Shared → Prop
  emits : Shared → Event → Prop
  stable : ∀ t shared shared' point, asserts t shared point → guarantees shared shared' →
    asserts t shared' point
  sound : ∀ t shared point answer shared' point' emitted, inv shared → asserts t shared point →
    program t shared point answer = some (shared', point', emitted) →
      inv shared' ∧ asserts t shared' point' ∧ guarantees shared shared' ∧
        ∀ event ∈ emitted, emits shared event

namespace Outline

variable {outline : Outline program} {start s next : Threads Shared Point}
  {actions : List (Thread × Answer)} {action : Thread × Answer} {events emitted : List Event}

structure Holds (outline : Outline program) (s : Threads Shared Point) : Prop where
  inv : outline.inv s.shared
  asserts : ∀ t, outline.asserts t s.shared (s.point t)

theorem Holds.step (holds : outline.Holds s) (moved : program.step s action = some (next, emitted)) :
    outline.Holds next ∧ outline.guarantees s.shared next.shared ∧
      ∀ event ∈ emitted, outline.emits s.shared event := by
  obtain ⟨t, answer⟩ := action
  obtain ⟨taken, others⟩ := Program.step_cases moved
  obtain ⟨inv, own, guaranteed, emits⟩ :=
    outline.sound t _ _ _ _ _ _ holds.inv (holds.asserts t) taken
  refine ⟨⟨inv, fun other => ?_⟩, guaranteed, emits⟩
  by_cases same : other = t
  · subst same
    exact own
  · rw [others other same]
    exact outline.stable other _ _ _ (holds.asserts other) guaranteed

theorem Holds.run (holds : outline.Holds start)
    (run : Run program.step start actions s events) : outline.Holds s :=
  run.invariant (fun s _ => outline.Holds s) holds fun _ _ _ _ _ before _ moved =>
    (before.step moved).1

end Outline

end Systems
