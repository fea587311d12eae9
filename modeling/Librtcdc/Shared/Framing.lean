import Mathlib.Algebra.BigOperators.Group.Finset.Basic

set_option autoImplicit false

namespace Systems

universe u v

variable {α : Type u}

/-- A queue of bytes that reads of at most `size` take apart into these frames. -/
inductive Framed (size : Nat) : List α → List (List α) → Prop
  | nil : Framed size [] []
  | last (frame : List α) (nonempty : frame ≠ []) (fits : frame.length ≤ size) :
      Framed size frame [frame]
  | full (frame : List α) {queue : List α} {frames : List (List α)} (nonempty : frame ≠ [])
      (exact : frame.length = size) (rest : Framed size queue frames) :
      Framed size (frame ++ queue) (frame :: frames)

variable {size : Nat} {queue frame : List α} {frames : List (List α)}

theorem Framed.write (framed : Framed size queue frames) (boundary : size ∣ queue.length)
    (nonempty : frame ≠ []) (fits : frame.length ≤ size) :
    Framed size (queue ++ frame) (frames ++ [frame]) := by
  induction framed with
  | nil => exact .last frame nonempty fits
  | last head headNonempty headFits =>
      have positive := List.length_pos_of_ne_nil headNonempty
      have whole : head.length = size := Nat.le_antisymm headFits (Nat.le_of_dvd positive boundary)
      exact .full head headNonempty whole (.last frame nonempty fits)
  | full head headNonempty whole _ ih =>
      have later := ih (by simpa [whole] using boundary)
      rw [List.append_assoc]
      exact .full head headNonempty whole later

theorem Framed.read (framed : Framed size queue frames) (pending : queue ≠ []) :
    ∃ rest, frames = queue.take size :: rest ∧ Framed size (queue.drop size) rest := by
  cases framed with
  | nil => exact absurd rfl pending
  | last _ _ fits =>
      refine ⟨[], by rw [List.take_of_length_le fits], ?_⟩
      rw [List.drop_of_length_le fits]
      exact .nil
  | full head _ whole rest =>
      refine ⟨_, by rw [List.take_left' whole], ?_⟩
      rwa [List.drop_left' whole]

theorem Framed.frames_nil (framed : Framed size [] frames) : frames = [] := by
  generalize empty : ([] : List α) = queue at framed
  cases framed with
  | nil => rfl
  | last _ nonempty => exact absurd empty.symm nonempty
  | full head nonempty => exact absurd (List.append_eq_nil_iff.mp empty.symm).1 nonempty

variable {ι : Type u} [Fintype ι] [DecidableEq ι] {β : Type v} {M : Type v} [AddCommMonoid M]

theorem sum_update (f : β → M) (x : ι → β) (i : ι) (b : β) :
    f (x i) + ∑ j, f (Function.update x i b j) = f b + ∑ j, f (x j) := by
  have before := Finset.add_sum_erase Finset.univ (fun j => f (x j)) (Finset.mem_univ i)
  have after := Finset.add_sum_erase Finset.univ (fun j => f (Function.update x i b j))
    (Finset.mem_univ i)
  have others : ∑ j ∈ Finset.univ.erase i, f (Function.update x i b j) =
      ∑ j ∈ Finset.univ.erase i, f (x j) :=
    Finset.sum_congr rfl fun j member => by
      rw [Function.update_of_ne (Finset.ne_of_mem_erase member)]
  rw [← before, ← after, others]
  simp only [Function.update_self]
  rw [add_left_comm]

end Systems
