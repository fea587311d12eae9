import Mathlib.Data.Finset.Card
import Mathlib.Data.List.Basic
import Mathlib.Tactic.SplitIfs

set_option autoImplicit false

namespace Systems

universe u v

-- Items of several senders in the order of their arrival.
abbrev Arrivals (ι : Type u) (α : Type v) := List (ι × α)

-- An item opens a section of its sender, belongs to it or closes it.
inductive Mark where
  | opens | inside | closes
  deriving DecidableEq, Repr

variable {ι : Type u} {α : Type v} [DecidableEq ι]

def sentBy (i : ι) : Arrivals ι α → List α
  | [] => []
  | (j, a) :: rest => if j = i then a :: sentBy i rest else sentBy i rest

theorem sentBy_self (i : ι) (a : α) (rest : Arrivals ι α) :
    sentBy i ((i, a) :: rest) = a :: sentBy i rest := by
  simp [sentBy]

theorem sentBy_other {i j : ι} (other : j ≠ i) (a : α) (rest : Arrivals ι α) :
    sentBy i ((j, a) :: rest) = sentBy i rest := by
  simp [sentBy, other]

theorem sentBy_append (i : ι) (first second : Arrivals ι α) :
    sentBy i (first ++ second) = sentBy i first ++ sentBy i second := by
  induction first with
  | nil => rfl
  | cons arrival rest ih =>
      obtain ⟨j, a⟩ := arrival
      rw [List.cons_append, sentBy, sentBy]
      split_ifs
      · rw [ih, List.cons_append]
      · exact ih

theorem sentBy_none {i j : ι} (other : j ≠ i) (items : List α) :
    sentBy i (items.map fun a => (j, a)) = [] := by
  induction items with
  | nil => rfl
  | cons a rest ih => rw [List.map_cons, sentBy_other other, ih]

inductive Sections (mark : α → Mark) : Bool → List α → Prop
  | done : Sections mark false []
  | opens {a : α} {rest : List α} (here : mark a = .opens) (later : Sections mark true rest) :
      Sections mark false (a :: rest)
  | inside {a : α} {rest : List α} (here : mark a = .inside) (later : Sections mark true rest) :
      Sections mark true (a :: rest)
  | closes {a : α} {rest : List α} (here : mark a = .closes) (later : Sections mark false rest) :
      Sections mark true (a :: rest)

def Mark.after (i : ι) (holder : Option ι) : Mark → Option ι
  | .opens => some i
  | .inside => holder
  | .closes => none

/-- No item of another sender arrives while a section is open. -/
def Exclusive (mark : α → Mark) : Option ι → Arrivals ι α → Prop
  | _, [] => True
  | holder, (i, a) :: rest =>
      (∀ j ∈ holder, j = i) ∧ Exclusive mark ((mark a).after i holder) rest

def decideExclusive (mark : α → Mark) :
    (holder : Option ι) → (arrivals : Arrivals ι α) → Decidable (Exclusive mark holder arrivals)
  | _, [] => isTrue trivial
  | holder, (i, a) :: rest =>
      letI := decideExclusive mark ((mark a).after i holder) rest
      inferInstanceAs (Decidable (_ ∧ _))

instance (mark : α → Mark) (holder : Option ι) (arrivals : Arrivals ι α) :
    Decidable (Exclusive mark holder arrivals) :=
  decideExclusive mark holder arrivals

def marked (mark : α → Mark) (m : Mark) (arrivals : Arrivals ι α) : Nat :=
  arrivals.countP fun arrival => mark arrival.2 = m

variable {mark : α → Mark} {i : ι} {arrivals : Arrivals ι α}

omit [DecidableEq ι] in
theorem marked_cons (m : Mark) (a : α) :
    marked mark m ((i, a) :: arrivals) = marked mark m arrivals + if mark a = m then 1 else 0 := by
  simp [marked, List.countP_cons]

theorem marked_closes {held : Finset ι}
    (rests : ∀ i, Sections mark (decide (i ∈ held)) (sentBy i arrivals)) :
    marked mark .closes arrivals = marked mark .opens arrivals + held.card := by
  induction arrivals generalizing held with
  | nil =>
      have nobody : held = ∅ := by
        refine Finset.eq_empty_of_forall_notMem fun i member => ?_
        have rest := rests i
        rw [decide_eq_true member] at rest
        cases rest
      simp [marked, nobody]
  | cons arrival rest ih =>
      obtain ⟨j, a⟩ := arrival
      have own := rests j
      rw [sentBy_self] at own
      have all (held' : Finset ι) (elsewhere : ∀ i ≠ j, (i ∈ held' ↔ i ∈ held))
          (here : Sections mark (decide (j ∈ held')) (sentBy j rest)) (i : ι) :
          Sections mark (decide (i ∈ held')) (sentBy i rest) := by
        by_cases same : i = j
        · rw [same]
          exact here
        · have there := rests i
          rw [sentBy_other (Ne.symm same)] at there
          simpa [elsewhere i same] using there
      generalize member : decide (j ∈ held) = open' at own
      cases own with
      | opens here later =>
          have fresh : j ∉ held := of_decide_eq_false member
          have counted := ih (all (insert j held) (by simp +contextual) (by simpa using later))
          rw [Finset.card_insert_of_notMem fresh] at counted
          rw [marked_cons, marked_cons, here, if_neg (by decide), if_pos rfl]
          omega
      | inside here later =>
          have counted := ih (all held (fun _ _ => Iff.rfl) (by simpa [member] using later))
          rw [marked_cons, marked_cons, here, if_neg (by decide), if_neg (by decide)]
          exact counted
      | closes here later =>
          have present : j ∈ held := of_decide_eq_true member
          have counted := ih (all (held.erase j) (by simp +contextual) (by simpa using later))
          have some_held := Finset.card_erase_add_one present
          rw [marked_cons, marked_cons, here, if_pos rfl, if_neg (by decide)]
          omega

def Held (mark : α → Mark) (holder : Option ι) (arrivals : Arrivals ι α) : Prop :=
  ∀ i, Sections mark (decide (holder = some i)) (sentBy i arrivals)

theorem Held.next {a : α} {holder : Option ι} (held : Held mark holder ((i, a) :: arrivals))
    (mine : ∀ j ∈ holder, j = i) : Held mark ((mark a).after i holder) arrivals := by
  intro j
  have here := held i
  rw [sentBy_self] at here
  by_cases same : j = i
  · subst same
    generalize known : decide (holder = some j) = open' at here
    cases here with
    | opens here later => simpa [here, Mark.after] using later
    | inside here later => simpa [here, Mark.after, known] using later
    | closes here later => simpa [here, Mark.after] using later
  · have there := held j
    rw [sentBy_other (Ne.symm same)] at there
    have free : holder ≠ some j := fun theirs => same (mine j theirs)
    have free' : (mark a).after i holder ≠ some j := by
      cases mark a with
      | opens => exact fun equal => same (Option.some.inj equal).symm
      | inside => exact free
      | closes => exact nofun
    rw [decide_eq_false free] at there
    rw [decide_eq_false free']
    exact there

theorem Held.intruder {a : α} {j : ι} (held : Held mark (some i) ((j, a) :: arrivals))
    (other : j ≠ i) :
    mark a = .opens ∧ marked mark .closes arrivals = marked mark .opens arrivals + 2 := by
  have theirs := held j
  have free : some i ≠ some j := fun same => other (Option.some.inj same).symm
  rw [sentBy_self, decide_eq_false free] at theirs
  have opens : mark a = .opens := by
    cases theirs with
    | opens here _ => exact here
  have one (k : ι) : Sections mark (decide (k ∈ ({i} : Finset ι))) (sentBy k ((j, a) :: arrivals)) := by
    have there := held k
    simpa [eq_comm] using there
  have counted := marked_closes one
  rw [marked_cons, marked_cons, opens, if_neg (by decide), if_pos rfl,
    Finset.card_singleton] at counted
  exact ⟨opens, by omega⟩

theorem Exclusive.head {a : α} {own : List α} (exclusive : Exclusive mark (some i) arrivals)
    (next : sentBy i arrivals = a :: own) :
    ∃ rest, arrivals = (i, a) :: rest ∧ Exclusive mark ((mark a).after i (some i)) rest ∧
      sentBy i rest = own := by
  cases arrivals with
  | nil => cases next
  | cons arrival rest =>
      obtain ⟨j, b⟩ := arrival
      obtain rfl : i = j := exclusive.1 i rfl
      rw [sentBy_self] at next
      obtain ⟨rfl, rest_own⟩ := List.cons.inj next
      exact ⟨rest, rfl, exclusive.2, rest_own⟩

theorem Exclusive.piece {body more : List α} {last : α}
    (exclusive : Exclusive mark (some i) arrivals)
    (own : sentBy i arrivals = body ++ last :: more) (inside : ∀ a ∈ body, mark a = .inside)
    (closes : mark last = .closes) :
    ∃ later, arrivals = (body ++ [last]).map (fun a => (i, a)) ++ later ∧
      Exclusive mark none later ∧ sentBy i later = more := by
  induction body generalizing arrivals with
  | nil =>
      obtain ⟨rest, rfl, later, rest_own⟩ := exclusive.head own
      rw [closes] at later
      exact ⟨rest, rfl, later, rest_own⟩
  | cons first body ih =>
      obtain ⟨rest, rfl, next, rest_own⟩ := exclusive.head own
      rw [inside first List.mem_cons_self] at next
      obtain ⟨later, pieces, exclusive', more_own⟩ :=
        ih next rest_own fun b member => inside b (List.mem_cons_of_mem _ member)
      exact ⟨later, by rw [pieces]; rfl, exclusive', more_own⟩

end Systems
