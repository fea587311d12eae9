import Mathlib.Data.List.Induction
import Mathlib.Logic.Function.Basic

set_option autoImplicit false

namespace Systems

universe u v w

/-- The directory of a hub, and that of each of its clients. -/
structure Hub (Client : Type u) (Name : Type v) (Content : Type w) where
  central : Name → Option Content
  locals : Client → Name → Option Content

namespace Hub

variable {Client : Type u} {Name : Type v} {Content : Type w}

def overlay (first second : Name → Option Content) : Name → Option Content :=
  fun name => (first name).or (second name)

inductive Move (Client : Type u) where
  | push (client : Client)
  | pull (client : Client)
  deriving DecidableEq

variable [DecidableEq Client] {h : Hub Client Name Content} {move : Move Client}
  {moves early late : List (Move Client)} {client : Client} {name : Name} {content : Content}

def after (h : Hub Client Name Content) : Move Client → Hub Client Name Content
  | .push client => { h with central := overlay (h.locals client) h.central }
  | .pull client =>
      { h with locals := Function.update h.locals client (overlay h.central (h.locals client)) }

def afterAll (h : Hub Client Name Content) (moves : List (Move Client)) :
    Hub Client Name Content :=
  moves.foldl after h

theorem afterAll_append : h.afterAll (early ++ late) = (h.afterAll early).afterAll late :=
  List.foldl_append

theorem afterAll_concat : h.afterAll (moves ++ [move]) = (h.afterAll moves).after move :=
  afterAll_append

@[simp] theorem push_central :
    (h.after (.push client)).central = overlay (h.locals client) h.central := rfl

@[simp] theorem push_locals : (h.after (.push client)).locals = h.locals := rfl

@[simp] theorem pull_central : (h.after (.pull client)).central = h.central := rfl

@[simp] theorem pull_own :
    (h.after (.pull client)).locals client = overlay h.central (h.locals client) :=
  Function.update_self ..

theorem pull_other {other : Client} (different : client ≠ other) :
    (h.after (.pull other)).locals client = h.locals client :=
  Function.update_of_ne different ..

omit [DecidableEq Client] in
theorem overlay_some {first second : Name → Option Content} (there : first name = some content) :
    overlay first second name = some content := by
  rw [overlay, there, Option.some_or]

omit [DecidableEq Client] in
theorem overlay_absorbs {first second : Name → Option Content}
    (covered : ∀ name, (second name).isSome → (first name).isSome) :
    overlay first second = first := by
  funext name
  cases here : first name with
  | some content => exact overlay_some here
  | none =>
      have nothing : second name = none := by
        by_contra something
        have there := covered name (Option.isSome_iff_ne_none.mpr something)
        rw [here] at there
        cases there
      rw [overlay, here, nothing, Option.none_or]

structure Within (stock : Name → Content → Prop) (h : Hub Client Name Content) : Prop where
  central : ∀ name content, h.central name = some content → stock name content
  locals : ∀ client name content, h.locals client name = some content → stock name content

omit [DecidableEq Client] in
theorem overlay_within {stock : Name → Content → Prop} {first second : Name → Option Content}
    (one : ∀ name content, first name = some content → stock name content)
    (two : ∀ name content, second name = some content → stock name content) :
    ∀ name content, overlay first second name = some content → stock name content := by
  intro name content there
  rcases Option.or_eq_some_iff.mp there with here | ⟨_, here⟩
  · exact one name content here
  · exact two name content here

theorem Within.after {stock : Name → Content → Prop} (within : Within stock h) :
    Within stock (h.after move) := by
  cases move with
  | push client => exact ⟨overlay_within (within.locals client) within.central, within.locals⟩
  | pull client =>
      refine ⟨within.central, fun other name content there => ?_⟩
      by_cases here : other = client
      · subst here
        rw [pull_own] at there
        exact overlay_within within.central (within.locals other) name content there
      · rw [pull_other here] at there
        exact within.locals other name content there

theorem Within.afterAll {stock : Name → Content → Prop} (within : Within stock h) :
    Within stock (h.afterAll moves) := by
  induction moves using List.reverseRecOn with
  | nil => exact within
  | append_singleton moves move ih =>
      rw [afterAll_concat]
      exact ih.after

def Covers (h : Hub Client Name Content) (client : Client) : Prop :=
  ∀ name, (h.locals client name).isSome → (h.central name).isSome

theorem push_covers : (h.after (.push client)).Covers client := by
  intro name there
  obtain ⟨content, here⟩ := Option.isSome_iff_exists.mp there
  exact Option.isSome_iff_exists.mpr ⟨content, overlay_some here⟩

theorem Covers.after (covers : h.Covers client) : (h.after move).Covers client := by
  cases move with
  | push other =>
      intro name there
      rw [push_central, overlay, Option.isSome_or, covers name there, Bool.or_true]
  | pull other =>
      by_cases here : client = other
      · subst here
        intro name there
        rw [pull_own, overlay, Option.isSome_or, Bool.or_eq_true] at there
        exact there.elim id (covers name)
      · intro name there
        rw [pull_other here] at there
        exact covers name there

theorem Covers.afterAll (covers : h.Covers client) : (h.afterAll moves).Covers client := by
  induction moves using List.reverseRecOn with
  | nil => exact covers
  | append_singleton moves move ih =>
      rw [afterAll_concat]
      exact ih.after

theorem pushed_covers (pushed : .push client ∈ moves) : (h.afterAll moves).Covers client := by
  obtain ⟨early, late, rfl⟩ := List.append_of_mem pushed
  rw [afterAll_append]
  exact push_covers.afterAll

theorem central_quiet (quiet : ∀ client, .push client ∉ moves) :
    (h.afterAll moves).central = h.central := by
  induction moves using List.reverseRecOn with
  | nil => rfl
  | append_singleton moves move ih =>
      rw [afterAll_concat, ← ih fun client member => quiet client (List.mem_append_left _ member)]
      cases move with
      | push client => exact absurd (by simp) (quiet client)
      | pull client => rfl

theorem quiet_pull (covers : h.Covers client) (quiet : ∀ client, .push client ∉ moves)
    (pulled : .pull client ∈ moves) : (h.afterAll moves).locals client = h.central := by
  induction moves using List.reverseRecOn with
  | nil => cases pulled
  | append_singleton moves move ih =>
      have before : ∀ client, .push client ∉ moves :=
        fun client member => quiet client (List.mem_append_left _ member)
      have central := central_quiet (h := h) before
      rw [afterAll_concat]
      cases move with
      | push other => exact absurd (by simp) (quiet other)
      | pull other =>
          by_cases here : client = other
          · subst here
            rw [pull_own, overlay_absorbs covers.afterAll, central]
          · rw [pull_other here]
            exact ih before ((List.mem_append.mp pulled).resolve_right (by simpa using here))

theorem client_agrees (pushed : .push client ∈ early) (pulled : .pull client ∈ late)
    (quiet : ∀ other, .push other ∉ late) :
    (h.afterAll (early ++ late)).locals client = (h.afterAll (early ++ late)).central := by
  rw [afterAll_append, central_quiet quiet]
  exact quiet_pull (pushed_covers pushed) quiet pulled

theorem push_reaches {receiver : Client} (there : h.locals client name = some content)
    (alone : ∀ other, .push other ∈ moves → other = client) :
    (h.afterAll (.push client :: moves ++ [.pull receiver])).locals receiver name =
      some content := by
  have both : ((h.after (.push client)).afterAll moves).central name = some content ∧
      ((h.after (.push client)).afterAll moves).locals client name = some content := by
    induction moves using List.reverseRecOn with
    | nil => exact ⟨overlay_some there, there⟩
    | append_singleton moves move ih =>
        obtain ⟨central, own⟩ := ih fun other member => alone other (List.mem_append_left _ member)
        rw [afterAll_concat]
        cases move with
        | push other =>
            obtain rfl := alone other (by simp)
            exact ⟨overlay_some own, own⟩
        | pull other =>
            refine ⟨central, ?_⟩
            by_cases here : client = other
            · subst here
              rw [pull_own]
              exact overlay_some central
            · rw [pull_other here]
              exact own
  have last : h.afterAll (.push client :: moves ++ [.pull receiver]) =
      ((h.after (.push client)).afterAll moves).after (.pull receiver) := afterAll_concat
  rw [last, pull_own]
  exact overlay_some both.1

end Hub

end Systems
