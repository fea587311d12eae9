import Mathlib.Logic.Function.Basic

set_option autoImplicit false

namespace Systems

variable {β : Type}

-- Cells told apart by their numbers, and the values stored into them one after the other.

def storeAll (memory : Nat → β) (stores : List (Nat × β)) : Nat → β :=
  stores.foldl (fun memory store => Function.update memory store.1 store.2) memory

def load (memory : Nat → β) (start count : Nat) : List β :=
  (List.range' start count).map memory

def storesAt : Nat → List β → List (Nat × β)
  | _, [] => []
  | start, value :: rest => (start, value) :: storesAt (start + 1) rest

@[simp] theorem storeAll_nil (memory : Nat → β) : storeAll memory [] = memory := rfl

@[simp] theorem storeAll_cons (memory : Nat → β) (store : Nat × β) (rest : List (Nat × β)) :
    storeAll memory (store :: rest) = storeAll (Function.update memory store.1 store.2) rest := rfl

theorem storeAll_append (memory : Nat → β) (first later : List (Nat × β)) :
    storeAll memory (first ++ later) = storeAll (storeAll memory first) later :=
  List.foldl_append

theorem storeAll_other {memory : Nat → β} {stores : List (Nat × β)} {cell : Nat}
    (other : ∀ store ∈ stores, store.1 ≠ cell) : storeAll memory stores cell = memory cell := by
  induction stores generalizing memory with
  | nil => rfl
  | cons store rest ih =>
      have first : cell ≠ store.1 := (other store List.mem_cons_self).symm
      rw [storeAll_cons, ih fun store member => other store (List.mem_cons_of_mem _ member)]
      exact Function.update_of_ne first _ _

theorem storesAt_cells {start : Nat} {values : List β} :
    (storesAt start values).map Prod.fst = List.range' start values.length := by
  induction values generalizing start with
  | nil => rfl
  | cons value rest ih => simp [storesAt, ih, List.range'_succ]

theorem mem_storesAt {start : Nat} {values : List β} {store : Nat × β}
    (member : store ∈ storesAt start values) :
    start ≤ store.1 ∧ store.1 < start + values.length := by
  have cell : store.1 ∈ (storesAt start values).map Prod.fst := List.mem_map_of_mem member
  rw [storesAt_cells, List.mem_range'_1] at cell
  exact cell

theorem load_append (memory : Nat → β) (start first later : Nat) :
    load memory start (first + later) =
      load memory start first ++ load memory (start + first) later := by
  unfold load
  rw [← List.range'_append_1, List.map_append]

theorem load_succ (memory : Nat → β) (start count : Nat) :
    load memory start (count + 1) = memory start :: load memory (start + 1) count := by
  unfold load
  rw [List.range'_succ, List.map_cons]

theorem load_congr {memory memory' : Nat → β} {start count : Nat}
    (same : ∀ cell, start ≤ cell → cell < start + count → memory cell = memory' cell) :
    load memory start count = load memory' start count := by
  apply List.map_congr_left
  intro cell member
  obtain ⟨above, below⟩ := List.mem_range'_1.mp member
  exact same cell above below

theorem load_storesAt (memory : Nat → β) (start : Nat) (values : List β) :
    load (storeAll memory (storesAt start values)) start values.length = values := by
  induction values generalizing memory start with
  | nil => rfl
  | cons value rest ih =>
      have first : storeAll memory (storesAt start (value :: rest)) start = value := by
        rw [storesAt, storeAll_cons, storeAll_other, Function.update_self]
        intro store member
        exact Nat.ne_of_gt (mem_storesAt member).1
      rw [List.length_cons, load_succ, first, storesAt, storeAll_cons, ih]

theorem load_before (memory : Nat → β) {start count cell : Nat} (values : List β)
    (before : start + count ≤ cell) :
    load (storeAll memory (storesAt cell values)) start count = load memory start count := by
  apply load_congr
  intro cell' above below
  apply storeAll_other
  intro store member
  have bound := (mem_storesAt member).1
  omega

end Systems
