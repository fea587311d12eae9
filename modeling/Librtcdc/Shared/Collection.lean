import Mathlib.Data.List.Basic
import Mathlib.Tactic.SplitIfs

set_option autoImplicit false

namespace Systems

universe u v

variable {α : Type u} {κ : Type v} [DecidableEq κ]

-- A collection of rows; each operation acts on the first row with the key it is given.

def findOne (key : α → κ) (k : κ) (rows : List α) : Option α :=
  rows.find? fun row => decide (key row = k)

def updateOne (key : α → κ) (k : κ) (f : α → α) : List α → List α
  | [] => []
  | row :: rest => if key row = k then f row :: rest else row :: updateOne key k f rest

def removeOne (key : α → κ) (k : κ) (rows : List α) : List α :=
  rows.eraseP fun row => decide (key row = k)

variable {key : α → κ} {k other : κ} {f : α → α} {row : α} {rows : List α}

@[simp] theorem findOne_nil : findOne key k [] = none := rfl

theorem findOne_cons :
    findOne key k (row :: rows) = if key row = k then some row else findOne key k rows := by
  by_cases here : key row = k <;> simp [findOne, here]

theorem findOne_key (found : findOne key k rows = some row) : key row = k := by
  simpa using List.find?_some found

theorem findOne_mem (found : findOne key k rows = some row) : row ∈ rows :=
  List.mem_of_find?_eq_some found

theorem findOne_eq_none : findOne key k rows = none ↔ k ∉ rows.map key := by
  simp [findOne]

theorem findOne_append_other (different : key row ≠ k) :
    findOne key k (rows ++ [row]) = findOne key k rows := by
  simp [findOne, different]

theorem findOne_append_found (found : findOne key k rows = some row) (more : List α) :
    findOne key k (rows ++ more) = some row := by
  rw [findOne] at found
  rw [findOne, List.find?_append, found]
  rfl

theorem findOne_append_fresh (fresh : findOne key (key row) rows = none) :
    findOne key (key row) (rows ++ [row]) = some row := by
  rw [findOne, List.find?_append]
  rw [findOne] at fresh
  simp [fresh]

theorem findOne_append_own (key : α → κ) (rows : List α) (row : α) :
    findOne key (key row) (rows ++ [row]) = some ((findOne key (key row) rows).getD row) := by
  cases found : findOne key (key row) rows with
  | none => exact findOne_append_fresh found
  | some first =>
      rw [findOne] at found ⊢
      simp [found]

theorem findOne_updateOne_same (keeps : ∀ r, key (f r) = key r) :
    findOne key k (updateOne key k f rows) = (findOne key k rows).map f := by
  induction rows with
  | nil => rfl
  | cons row rest ih =>
      by_cases here : key row = k
      · simp [updateOne, findOne_cons, here, keeps]
      · simp [updateOne, findOne_cons, here, ih]

theorem findOne_updateOne_other (keeps : ∀ r, key (f r) = key r) (different : other ≠ k) :
    findOne key other (updateOne key k f rows) = findOne key other rows := by
  induction rows with
  | nil => rfl
  | cons row rest ih =>
      by_cases here : key row = k
      · have elsewhere : key row ≠ other := fun same => different (same.symm.trans here)
        simp [updateOne, findOne_cons, here, keeps, different.symm]
      · simp [updateOne, findOne_cons, here, ih]

theorem keys_updateOne (keeps : ∀ r, key (f r) = key r) :
    (updateOne key k f rows).map key = rows.map key := by
  induction rows with
  | nil => rfl
  | cons row rest ih =>
      rw [updateOne]
      split_ifs <;> simp [keeps, ih]

theorem updateOne_updateOne {g : α → α} (keeps : ∀ r, key (f r) = key r) :
    updateOne key k g (updateOne key k f rows) = updateOne key k (fun r => g (f r)) rows := by
  induction rows with
  | nil => rfl
  | cons row rest ih =>
      by_cases here : key row = k <;> simp [updateOne, here, keeps, ih]

theorem findOne_removeOne_other (different : other ≠ k) :
    findOne key other (removeOne key k rows) = findOne key other rows := by
  induction rows with
  | nil => rfl
  | cons row rest ih =>
      by_cases here : key row = k
      · simp [removeOne, findOne_cons, here, different.symm]
      · have later : findOne key other (removeOne key k rest) = findOne key other rest := ih
        have kept : removeOne key k (row :: rest) = row :: removeOne key k rest := by
          simp [removeOne, here]
        rw [kept, findOne_cons, findOne_cons, later]

theorem keys_removeOne : (removeOne key k rows).map key = (rows.map key).erase k := by
  induction rows with
  | nil => rfl
  | cons row rest ih =>
      unfold removeOne at ih ⊢
      by_cases here : key row = k
      · simp [here]
      · simp [here, ih]

theorem nodup_removeOne (unique : (rows.map key).Nodup) : ((removeOne key k rows).map key).Nodup :=
  unique.sublist ((List.eraseP_sublist ..).map key)

theorem findOne_removeOne_same (unique : (rows.map key).Nodup) :
    findOne key k (removeOne key k rows) = none := by
  induction rows with
  | nil => rfl
  | cons row rest ih =>
      rw [List.map_cons, List.nodup_cons] at unique
      by_cases here : key row = k
      · have gone : removeOne key k (row :: rest) = rest := by simp [removeOne, here]
        rw [gone, findOne_eq_none, ← here]
        exact unique.1
      · have kept : removeOne key k (row :: rest) = row :: removeOne key k rest := by
          simp [removeOne, here]
        rw [kept, findOne_cons, if_neg here]
        exact ih unique.2

theorem updateOne_append_fresh (row : α) (fresh : findOne key (key row) rows = none) :
    updateOne key (key row) f (rows ++ [row]) = rows ++ [f row] := by
  induction rows with
  | nil => simp [updateOne]
  | cons first rest ih =>
      rw [findOne_cons] at fresh
      split_ifs at fresh with here
      rw [List.cons_append, updateOne, if_neg here, ih fresh, List.cons_append]

theorem removeOne_append_fresh (row : α) (fresh : findOne key (key row) rows = none) :
    removeOne key (key row) (rows ++ [row]) = rows := by
  induction rows with
  | nil => simp [removeOne]
  | cons first rest ih =>
      rw [findOne_cons] at fresh
      split_ifs at fresh with here
      have kept : removeOne key (key row) (first :: (rest ++ [row])) =
          first :: removeOne key (key row) (rest ++ [row]) := by simp [removeOne, here]
      rw [List.cons_append, kept, ih fresh]

theorem removeOne_updateOne (keeps : ∀ r, key (f r) = key r) :
    removeOne key k (updateOne key k f rows) = removeOne key k rows := by
  induction rows with
  | nil => rfl
  | cons first rest ih =>
      unfold removeOne at ih ⊢
      by_cases here : key first = k
      · simp [updateOne, here, keeps]
      · simp [updateOne, here, ih]

theorem findOne_filter : findOne key k (rows.filter fun row => decide (key row = k)) =
    findOne key k rows := by
  simp [findOne]

theorem filter_updateOne_same (keeps : ∀ r, key (f r) = key r) :
    (updateOne key k f rows).filter (fun row => decide (key row = k)) =
      updateOne key k f (rows.filter fun row => decide (key row = k)) := by
  induction rows with
  | nil => rfl
  | cons row rest ih =>
      by_cases here : key row = k
      · simp [updateOne, here, keeps]
      · simp [updateOne, here, ih]

theorem filter_updateOne_other (keeps : ∀ r, key (f r) = key r) (different : other ≠ k) :
    (updateOne key k f rows).filter (fun row => decide (key row = other)) =
      rows.filter fun row => decide (key row = other) := by
  induction rows with
  | nil => rfl
  | cons row rest ih =>
      by_cases here : key row = k
      · have elsewhere : key row ≠ other := fun same => different (same.symm.trans here)
        simp [updateOne, here, keeps, different.symm]
      · simp [updateOne, here, List.filter_cons, ih]

theorem filter_removeOne_same :
    (removeOne key k rows).filter (fun row => decide (key row = k)) =
      removeOne key k (rows.filter fun row => decide (key row = k)) := by
  induction rows with
  | nil => rfl
  | cons row rest ih =>
      unfold removeOne at ih ⊢
      by_cases here : key row = k
      · simp [here]
      · simp [here, ih]

theorem filter_removeOne_other (different : other ≠ k) :
    (removeOne key k rows).filter (fun row => decide (key row = other)) =
      rows.filter fun row => decide (key row = other) := by
  induction rows with
  | nil => rfl
  | cons row rest ih =>
      unfold removeOne at ih ⊢
      by_cases here : key row = k
      · simp [here, different.symm]
      · simp [here, List.filter_cons, ih]

/-- What a database does to the rows of a collection: a new row comes last, and every other operation
takes the first row that matches. -/
structure Engine (α : Type u) where
  insert : α → List α → List α
  find : (α → Bool) → List α → Option α
  update : (α → Bool) → (α → α) → List α → List α
  remove : (α → Bool) → List α → List α
  insert_last : ∀ row rows, insert row rows = rows ++ [row]
  find_first : ∀ {p before row after}, (∀ r ∈ before, p r = false) → p row = true →
    find p (before ++ row :: after) = some row
  find_absent : ∀ {p rows}, (∀ r ∈ rows, p r = false) → find p rows = none
  update_first : ∀ {p f before row after}, (∀ r ∈ before, p r = false) → p row = true →
    update p f (before ++ row :: after) = before ++ f row :: after
  update_absent : ∀ {p f rows}, (∀ r ∈ rows, p r = false) → update p f rows = rows
  remove_first : ∀ {p before row after}, (∀ r ∈ before, p r = false) → p row = true →
    remove p (before ++ row :: after) = before ++ after
  remove_absent : ∀ {p rows}, (∀ r ∈ rows, p r = false) → remove p rows = rows

theorem first_match (p : α → Bool) (rows : List α) :
    (∀ r ∈ rows, p r = false) ∨
      ∃ before row after, rows = before ++ row :: after ∧ (∀ r ∈ before, p r = false) ∧
        p row = true := by
  induction rows with
  | nil => exact .inl nofun
  | cons first rest ih =>
      cases here : p first with
      | true => exact .inr ⟨[], first, rest, rfl, nofun, here⟩
      | false =>
          rcases ih with absent | ⟨before, row, after, rfl, earlier, found⟩
          · exact .inl (List.forall_mem_cons.mpr ⟨here, absent⟩)
          · exact .inr ⟨first :: before, row, after, rfl, List.forall_mem_cons.mpr ⟨here, earlier⟩,
              found⟩

section FirstMatch

variable {before after : List α}

theorem findOne_first (earlier : ∀ r ∈ before, decide (key r = k) = false)
    (found : decide (key row = k) = true) : findOne key k (before ++ row :: after) = some row := by
  have skipped : before.find? (fun r => decide (key r = k)) = none :=
    List.find?_eq_none.mpr fun r member => by simp [earlier r member]
  simp [findOne, List.find?_append, skipped, found]

theorem findOne_absent (absent : ∀ r ∈ rows, decide (key r = k) = false) :
    findOne key k rows = none :=
  List.find?_eq_none.mpr fun r member => by simp [absent r member]

theorem updateOne_first (earlier : ∀ r ∈ before, decide (key r = k) = false)
    (found : decide (key row = k) = true) :
    updateOne key k f (before ++ row :: after) = before ++ f row :: after := by
  induction before with
  | nil => simp [updateOne, of_decide_eq_true found]
  | cons first rest ih =>
      obtain ⟨here, later⟩ := List.forall_mem_cons.mp earlier
      rw [List.cons_append, updateOne, if_neg (of_decide_eq_false here), ih later, List.cons_append]

theorem updateOne_absent (absent : ∀ r ∈ rows, decide (key r = k) = false) :
    updateOne key k f rows = rows := by
  induction rows with
  | nil => rfl
  | cons first rest ih =>
      obtain ⟨here, later⟩ := List.forall_mem_cons.mp absent
      rw [updateOne, if_neg (of_decide_eq_false here), ih later]

theorem removeOne_first (earlier : ∀ r ∈ before, decide (key r = k) = false)
    (found : decide (key row = k) = true) :
    removeOne key k (before ++ row :: after) = before ++ after := by
  rw [removeOne, List.eraseP_append_right,
    List.eraseP_cons_of_pos (p := fun r => decide (key r = k)) found]
  intro r member
  simp [earlier r member]

theorem removeOne_absent (absent : ∀ r ∈ rows, decide (key r = k) = false) :
    removeOne key k rows = rows :=
  List.eraseP_of_forall_not fun r member => by simp [absent r member]

end FirstMatch

theorem Engine.find_eq (engine : Engine α) (key : α → κ) (k : κ) (rows : List α) :
    engine.find (fun row => decide (key row = k)) rows = findOne key k rows := by
  rcases first_match (fun row => decide (key row = k)) rows with
    absent | ⟨before, row, after, rfl, earlier, found⟩
  · rw [engine.find_absent absent, findOne_absent absent]
  · rw [engine.find_first earlier found, findOne_first earlier found]

theorem Engine.update_eq (engine : Engine α) (key : α → κ) (k : κ) (f : α → α) (rows : List α) :
    engine.update (fun row => decide (key row = k)) f rows = updateOne key k f rows := by
  rcases first_match (fun row => decide (key row = k)) rows with
    absent | ⟨before, row, after, rfl, earlier, found⟩
  · rw [engine.update_absent absent, updateOne_absent absent]
  · rw [engine.update_first earlier found, updateOne_first earlier found]

theorem Engine.remove_eq (engine : Engine α) (key : α → κ) (k : κ) (rows : List α) :
    engine.remove (fun row => decide (key row = k)) rows = removeOne key k rows := by
  rcases first_match (fun row => decide (key row = k)) rows with
    absent | ⟨before, row, after, rfl, earlier, found⟩
  · rw [engine.remove_absent absent, removeOne_absent absent]
  · rw [engine.remove_first earlier found, removeOne_first earlier found]

def Engine.inOrder : Engine α where
  insert row rows := rows ++ [row]
  find p rows := findOne p true rows
  update p f rows := updateOne p true f rows
  remove p rows := removeOne p true rows
  insert_last _ _ := rfl
  find_first earlier found := findOne_first (by simpa using earlier) (by simpa using found)
  find_absent absent := findOne_absent (by simpa using absent)
  update_first earlier found := updateOne_first (by simpa using earlier) (by simpa using found)
  update_absent absent := updateOne_absent (by simpa using absent)
  remove_first earlier found := removeOne_first (by simpa using earlier) (by simpa using found)
  remove_absent absent := removeOne_absent (by simpa using absent)

theorem lookup_eq_some_mem {ν : Type v} [BEq ν] [LawfulBEq ν] {rows : List (ν × α)} {k : ν}
    {value : α}
    (distinct : (rows.map Prod.fst).Nodup) : rows.lookup k = some value ↔ (k, value) ∈ rows := by
  induction rows with
  | nil => simp
  | cons row rest ih =>
      obtain ⟨other, old⟩ := row
      rw [List.map_cons, List.nodup_cons] at distinct
      rw [List.lookup_cons]
      by_cases same : k = other
      · subst same
        have absent : (k, value) ∉ rest := fun member =>
          distinct.1 (List.mem_map.mpr ⟨_, member, rfl⟩)
        simp [absent, eq_comm]
      · have different : (k == other) = false := by simpa using same
        simp [different, ih distinct.2, same]

end Systems
