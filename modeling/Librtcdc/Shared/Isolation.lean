import Librtcdc.Shared.Trace

set_option autoImplicit false

namespace Systems

universe u v w

variable {State : Type u} {Action : Type v} {Event : Type w}

/-- What one observer can tell: the actions that concern it, the events it sees, and the states that
are alike to it. No other action changes its view, and its own do the same in alike states. -/
structure Observer (ok : State → Action → Prop) (step : Step State Action Event) where
  concerns : Action → Bool
  sees : Event → Bool
  alike : State → State → Prop
  same : ∀ s, alike s s
  allowed : ∀ {s t action}, alike s t → ok s action → ok t action
  others : ∀ {s t next action emitted}, alike s t → ok s action → concerns action = false →
    step s action = some (next, emitted) → alike next t ∧ emitted.filter sees = []
  own : ∀ {s t next action emitted}, alike s t → ok s action → concerns action = true →
    step s action = some (next, emitted) → ∃ t' emitted', step t action = some (t', emitted') ∧
      alike next t' ∧ emitted'.filter sees = emitted.filter sees

variable {ok : State → Action → Prop} {step : Step State Action Event} {start s : State}
  {actions : List Action} {events : List Event}

theorem Observer.alone (observer : Observer ok step)
    (run : RunIf ok step start actions s events) :
    ∃ t seen, RunIf ok step start (actions.filter observer.concerns) t seen ∧
      observer.alike s t ∧ seen.filter observer.sees = events.filter observer.sees := by
  induction run with
  | refl => exact ⟨start, [], .refl, observer.same start, rfl⟩
  | @snoc actions s next events emitted action _ permitted taken ih =>
      obtain ⟨t, seen, earlier, alike, views⟩ := ih
      cases concerned : observer.concerns action with
      | false =>
          obtain ⟨still, silent⟩ := observer.others alike permitted concerned taken
          refine ⟨t, seen, ?_, still, ?_⟩
          · simpa [List.filter_append, concerned] using earlier
          · rw [List.filter_append, silent, List.append_nil, views]
      | true =>
          obtain ⟨t', emitted', moved, alike', views'⟩ :=
            observer.own alike permitted concerned taken
          refine ⟨t', seen ++ emitted', ?_, alike', ?_⟩
          · rw [List.filter_append, List.filter_cons_of_pos concerned, List.filter_nil]
            exact .snoc earlier (observer.allowed alike permitted) moved
          · rw [List.filter_append, List.filter_append, views, views']

variable {ε α β γ δ : Type} {R : α → β → Prop} {Q : γ → δ → Prop} {x : Except ε α} {y : Except ε β}
  {f : α → Except ε γ} {g : β → Except ε δ}

def Together (R : α → β → Prop) (x : Except ε α) (y : Except ε β) : Prop :=
  match x, y with
  | .ok a, .ok b => R a b
  | .error e, .error e' => e = e'
  | _, _ => False

theorem Together.value {a : α} {b : β} (related : R a b) :
    Together R (pure a : Except ε α) (pure b) := related

theorem Together.refl (x : Except ε α) : Together (· = ·) x x := by
  cases x <;> rfl

theorem Together.bind (first : Together R x y) (next : ∀ a b, R a b → Together Q (f a) (g b)) :
    Together Q (x >>= f) (y >>= g) := by
  cases x with
  | ok a =>
      cases y with
      | ok b => exact next a b first
      | error e => exact first.elim
  | error e =>
      cases y with
      | ok b => exact first.elim
      | error e' => exact first

theorem Together.after {x : Except ε α} {f : α → Except ε γ} {g : α → Except ε δ}
    (next : ∀ a, x = .ok a → Together Q (f a) (g a)) : Together Q (x >>= f) (x >>= g) := by
  cases x with
  | ok a => exact next a rfl
  | error e => rfl

theorem Together.result {a : α} (both : Together R x y) (returned : x = .ok a) :
    ∃ b, y = .ok b ∧ R a b := by
  cases y with
  | ok b =>
      rw [returned] at both
      exact ⟨b, rfl, both⟩
  | error e =>
      rw [returned] at both
      exact both.elim

end Systems
