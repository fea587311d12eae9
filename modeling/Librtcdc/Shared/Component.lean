import Librtcdc.Shared.Trace

set_option autoImplicit false

namespace Systems

universe u v w u' v' w'

variable {State : Type u} {Action : Type v} {Event : Type w}
variable {Part : Type u'} {Move : Type v'} {Seen : Type w'}

/-- A system with a part that moves only by steps of its own: each step of the system is a run of
the part, and the part's events are those of the system that `view` lets through. -/
structure Component (step : Step State Action Event) (inner : Step Part Move Seen) where
  part : State → Part
  view : Event → Option Seen
  simulates : ∀ {s action next emitted}, step s action = some (next, emitted) →
    ∃ moves, Run inner (part s) moves (part next) (emitted.filterMap view)

variable {ok : State → Action → Prop} {step : Step State Action Event}
  {inner : Step Part Move Seen} {start s next : State} {action : Action} {actions : List Action}
  {events emitted : List Event}

theorem Component.run (component : Component step inner)
    (run : RunIf ok step start actions s events) :
    ∃ moves, Run inner (component.part start) moves (component.part s)
      (events.filterMap component.view) := by
  induction run with
  | refl => exact ⟨[], .refl⟩
  | snoc _ _ taken ih =>
      obtain ⟨earlier, first⟩ := ih
      obtain ⟨later, second⟩ := component.simulates taken
      rw [List.filterMap_append]
      exact ⟨earlier ++ later, first.append second⟩

theorem Component.still (inner : Step Part Move Seen) (part : Part) :
    ∃ moves, Run inner part moves part [] :=
  ⟨[], .refl⟩

theorem Component.moved {part after : Part} {move : Move} {seen : List Seen}
    (taken : inner part move = some (after, seen)) : ∃ moves, Run inner part moves after seen :=
  ⟨[move], .snoc .refl trivial taken⟩

end Systems
