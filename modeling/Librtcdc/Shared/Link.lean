import Mathlib.Data.List.Basic
import Mathlib.Tactic.SplitIfs

set_option autoImplicit false

namespace Systems

universe u v

variable {α : Type u} {κ : Type v} [DecidableEq κ]

-- A link keeps the order of the messages of one key and may reorder those of different keys.

def onKey (key : α → κ) (k : κ) (messages : List α) : List α :=
  messages.filter fun m => decide (key m = k)

-- The message at a position, if no message before it has its key, and the others.
def takeAt (key : α → κ) : List α → Nat → Option (α × List α)
  | [], _ => none
  | m :: rest, 0 => some (m, rest)
  | m :: rest, position + 1 =>
      match takeAt key rest position with
      | none => none
      | some (found, left) => if key found = key m then none else some (found, m :: left)

variable {key : α → κ} {k : κ} {m : α} {sent delivered wire rest : List α}

@[simp] theorem onKey_nil : onKey key k [] = [] := rfl

@[simp] theorem onKey_append (first second : List α) :
    onKey key k (first ++ second) = onKey key k first ++ onKey key k second :=
  List.filter_append ..

theorem onKey_cons_same (same : key m = k) : onKey key k (m :: rest) = m :: onKey key k rest := by
  simp [onKey, same]

theorem onKey_cons_other (other : key m ≠ k) : onKey key k (m :: rest) = onKey key k rest := by
  simp [onKey, other]

theorem onKey_all (same : ∀ m ∈ sent, key m = k) : onKey key k sent = sent := by
  simpa [onKey] using same

theorem onKey_none (other : ∀ m ∈ sent, key m ≠ k) : onKey key k sent = [] := by
  simpa [onKey] using other

theorem takeAt_split {position : Nat} (taken : takeAt key wire position = some (m, rest)) :
    ∃ before after, wire = before ++ m :: after ∧ rest = before ++ after ∧
      ∀ other ∈ before, key other ≠ key m := by
  induction wire generalizing position rest with
  | nil => simp [takeAt] at taken
  | cons head tail ih =>
      cases position with
      | zero =>
          obtain ⟨rfl, rfl⟩ : head = m ∧ tail = rest := by simpa [takeAt] using taken
          exact ⟨[], tail, rfl, rfl, by simp⟩
      | succ position =>
          simp only [takeAt] at taken
          split at taken
          · cases taken
          · rename_i found left inner
            split_ifs at taken with same
            obtain ⟨rfl, rfl⟩ := Prod.mk.inj (Option.some.inj taken)
            obtain ⟨before, after, rfl, rfl, others⟩ := ih inner
            exact ⟨head :: before, after, rfl, rfl,
              List.forall_mem_cons.mpr ⟨Ne.symm same, others⟩⟩

theorem takeAt_same {position : Nat} (taken : takeAt key wire position = some (m, rest)) :
    onKey key (key m) wire = m :: onKey key (key m) rest := by
  obtain ⟨before, after, rfl, rfl, others⟩ := takeAt_split taken
  rw [onKey_append, onKey_append, onKey_none others, onKey_cons_same rfl, List.nil_append,
    List.nil_append]

theorem takeAt_other {position : Nat} (taken : takeAt key wire position = some (m, rest))
    (other : key m ≠ k) : onKey key k wire = onKey key k rest := by
  obtain ⟨before, after, rfl, rfl, _⟩ := takeAt_split taken
  rw [onKey_append, onKey_append, onKey_cons_other other]

/-- On every key, what was sent is what was delivered and then what is in flight. -/
def InOrder (key : α → κ) (sent delivered wire : List α) : Prop :=
  ∀ k, onKey key k sent = onKey key k delivered ++ onKey key k wire

theorem InOrder.send (ordered : InOrder key sent delivered wire) (more : List α) :
    InOrder key (sent ++ more) delivered (wire ++ more) := by
  intro k
  rw [onKey_append, onKey_append, ordered k, List.append_assoc]

theorem InOrder.take (ordered : InOrder key sent delivered wire) {position : Nat}
    (taken : takeAt key wire position = some (m, rest)) :
    InOrder key sent (delivered ++ [m]) rest := by
  intro k
  rw [ordered k, onKey_append]
  by_cases same : key m = k
  · subst same
    rw [takeAt_same taken, onKey_cons_same rfl]
    simp
  · rw [takeAt_other taken same, onKey_cons_other same]
    simp

theorem InOrder.next (ordered : InOrder key sent delivered wire) {position : Nat}
    (taken : takeAt key wire position = some (m, rest)) :
    ∃ later, onKey key (key m) sent = onKey key (key m) delivered ++ m :: later :=
  ⟨_, by rw [ordered, takeAt_same taken]⟩

end Systems
