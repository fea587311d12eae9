import Mathlib.Data.List.Forall2

set_option autoImplicit false

namespace Systems

variable {ε α β : Type} {excused : ε → Prop} {x : Except ε α} {f : α → Except ε β} {a : α}
  {post : α → Prop} {last : β → Prop}

/-- The computation returns a value with the property, or stops with an error that is excused. -/
def Returns (excused : ε → Prop) (x : Except ε α) (post : α → Prop) : Prop :=
  match x with
  | .ok a => post a
  | .error e => excused e

theorem Returns.value (holds : post a) : Returns excused (pure a) post := holds

theorem Returns.of_ok (returned : x = .ok a) (holds : post a) : Returns excused x post := by
  rw [returned]
  exact holds

theorem Returns.bind (first : Returns excused x post)
    (next : ∀ a, post a → Returns excused (f a) last) : Returns excused (x >>= f) last := by
  cases x with
  | error e => exact first
  | ok a => exact next a first

theorem Returns.weaken {weaker : α → Prop} (returns : Returns excused x post)
    (implied : ∀ a, post a → weaker a) : Returns excused x weaker := by
  cases x with
  | error e => exact returns
  | ok a => exact implied a returns

theorem Returns.mapM {R : α → β → Prop} {values : List α}
    (each : ∀ a ∈ values, Returns excused (f a) (R a)) :
    Returns excused (values.mapM f) (List.Forall₂ R values) := by
  induction values with
  | nil => exact .nil
  | cons a rest ih =>
      rw [List.mapM_cons]
      refine (each a List.mem_cons_self).bind fun b here => ?_
      refine (ih fun a member => each a (List.mem_cons_of_mem _ member)).bind fun bs later => ?_
      exact .value (.cons here later)

theorem Returns.mapM_eq {g : α → β} {values : List α}
    (each : ∀ a ∈ values, Returns excused (f a) (· = g a)) :
    Returns excused (values.mapM f) (· = values.map g) := by
  refine (Returns.mapM each).weaken fun results related => ?_
  induction related with
  | nil => rfl
  | cons same _ ih => rw [same, ih fun a member => each a (List.mem_cons_of_mem _ member),
      List.map_cons]

theorem Returns.ok (returns : Returns excused x post) (returned : x = .ok a) : post a := by
  rw [returned] at returns
  exact returns

theorem Returns.result (returns : Returns excused x post)
    (unexcused : ∀ e, excused e → x ≠ .error e) : ∃ a, x = .ok a ∧ post a := by
  cases x with
  | error e => exact absurd rfl (unexcused e returns)
  | ok a => exact ⟨a, rfl, returns⟩

/-- Where the condition holds the computation returns a value with the property, and elsewhere it
stops with the fault. -/
structure ReturnsIff (fault : ε) (fits : Prop) (x : Except ε α) (post : α → Prop) : Prop where
  returns : fits → ∃ a, x = .ok a ∧ post a
  stops : ¬ fits → x = .error fault

variable {fault : ε} {fits first later : Prop}

theorem ReturnsIff.value (holds : post a) : ReturnsIff fault True (pure a) post where
  returns _ := ⟨a, rfl, holds⟩
  stops unfit := absurd trivial unfit

theorem ReturnsIff.of_ok (returned : x = .ok a) (holds : post a) :
    ReturnsIff fault True x post where
  returns _ := ⟨a, returned, holds⟩
  stops unfit := absurd trivial unfit

theorem ReturnsIff.bind (here : ReturnsIff fault first x post)
    (next : ∀ a, post a → ReturnsIff fault later (f a) last) :
    ReturnsIff fault (first ∧ later) (x >>= f) last := by
  by_cases fit : first
  · obtain ⟨a, rfl, holds⟩ := here.returns fit
    refine ⟨fun both => (next a holds).returns both.2, fun unfit => ?_⟩
    exact (next a holds).stops fun rest => unfit ⟨fit, rest⟩
  · rw [here.stops fit]
    exact ⟨fun both => absurd both.1 fit, fun _ => rfl⟩

theorem ReturnsIff.then {g : α → β} (here : ReturnsIff fault fits x post)
    (holds : ∀ a, post a → last (g a)) :
    ReturnsIff fault fits (x >>= fun a => pure (g a)) last where
  returns fit := by
    obtain ⟨a, rfl, property⟩ := here.returns fit
    exact ⟨g a, rfl, holds a property⟩
  stops unfit := by
    rw [here.stops unfit]
    rfl

theorem ReturnsIff.weaken {weaker : α → Prop} (here : ReturnsIff fault fits x post)
    (implied : ∀ a, post a → weaker a) : ReturnsIff fault fits x weaker where
  returns fit := by
    obtain ⟨a, returned, holds⟩ := here.returns fit
    exact ⟨a, returned, implied a holds⟩
  stops := here.stops

theorem ReturnsIff.congr {other : Prop} (here : ReturnsIff fault fits x post)
    (same : fits ↔ other) : ReturnsIff fault other x post :=
  propext same ▸ here

theorem ReturnsIff.mapM_eq {g : α → β} {holds : α → Prop} {values : List α}
    (each : ∀ a ∈ values, ReturnsIff fault (holds a) (f a) (· = g a)) :
    ReturnsIff fault (∀ a ∈ values, holds a) (values.mapM f) (· = values.map g) := by
  induction values with
  | nil =>
      have nothing : True ↔ ∀ a ∈ ([] : List α), holds a := by simp
      apply ReturnsIff.congr _ nothing
      exact .of_ok rfl rfl
  | cons a rest ih =>
      have both : holds a ∧ (∀ a ∈ rest, holds a) ∧ True ↔ ∀ b ∈ a :: rest, holds b := by simp
      rw [List.mapM_cons]
      refine ReturnsIff.congr ?_ both
      refine (each a List.mem_cons_self).bind fun b here => ?_
      refine (ih fun a member => each a (List.mem_cons_of_mem _ member)).bind fun bs later => ?_
      apply ReturnsIff.value
      rw [here, later, List.map_cons]

theorem ReturnsIff.ok_iff (here : ReturnsIff fault fits x post) :
    (∃ a, x = .ok a ∧ post a) ↔ fits := by
  refine ⟨?_, here.returns⟩
  rintro ⟨a, returned, _⟩
  by_contra unfit
  rw [here.stops unfit] at returned
  cases returned

theorem ReturnsIff.eq_ok_iff {value : α} (here : ReturnsIff fault fits x (· = value)) :
    x = .ok a ↔ fits ∧ a = value := by
  constructor
  · intro returned
    by_cases fit : fits
    · obtain ⟨other, again, same⟩ := here.returns fit
      exact ⟨fit, (Except.ok.inj (returned.symm.trans again)).trans same⟩
    · rw [here.stops fit] at returned
      cases returned
  · rintro ⟨fit, rfl⟩
    obtain ⟨_, returned, rfl⟩ := here.returns fit
    exact returned

theorem ReturnsIff.error_iff (here : ReturnsIff fault fits x post) :
    x = .error fault ↔ ¬ fits := by
  refine ⟨fun stopped fit => ?_, here.stops⟩
  obtain ⟨a, returned, _⟩ := here.returns fit
  rw [returned] at stopped
  cases stopped

theorem ReturnsIff.remember (here : ReturnsIff fault fits x post) :
    ReturnsIff fault fits x fun a => x = .ok a ∧ post a where
  returns fit := by
    obtain ⟨a, returned, holds⟩ := here.returns fit
    exact ⟨a, returned, returned, holds⟩
  stops := here.stops

theorem Returns.toReturnsIff (here : Returns (· = fault) x post) :
    ReturnsIff fault (∃ a, x = .ok a) x post := by
  cases x with
  | error e =>
      obtain rfl : e = fault := here
      exact ⟨nofun, fun _ => rfl⟩
  | ok a => exact ⟨fun _ => ⟨a, rfl, here⟩, fun unfit => absurd ⟨a, rfl⟩ unfit⟩

theorem ReturnsIff.toReturns (here : ReturnsIff fault fits x post) :
    Returns (· = fault) x post := by
  by_cases fit : fits
  · obtain ⟨a, returned, holds⟩ := here.returns fit
    exact .of_ok returned holds
  · rw [here.stops fit]
    exact rfl

end Systems
