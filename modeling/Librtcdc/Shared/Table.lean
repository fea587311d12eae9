import Mathlib.Data.Fintype.Card
import Mathlib.Data.Fintype.Fin
import Mathlib.Logic.Function.Basic

set_option autoImplicit false

namespace Systems

universe u v

abbrev Table (n : Nat) (α : Type u) := Fin n → Option α

namespace Table

variable {n : Nat} {α : Type u} {κ : Type v}

def firstFree (t : Table n α) : Option (Fin n) :=
  Fin.find? fun i => (t i).isNone

def find (p : α → Bool) (t : Table n α) : Option (Fin n) :=
  Fin.find? fun i => (t i).any p

def put (t : Table n α) (i : Fin n) (v : Option α) : Table n α :=
  Function.update t i v

@[simp] theorem put_same (t : Table n α) (i : Fin n) (v : Option α) : t.put i v i = v := by
  simp [put]

theorem put_other (t : Table n α) {i j : Fin n} (v : Option α) (other : j ≠ i) :
    t.put i v j = t j := by
  simp [put, other]

theorem put_apply (t : Table n α) (i j : Fin n) (v : Option α) :
    t.put i v j = if j = i then v else t j := by
  simp [put, Function.update_apply]

theorem every_put {p : Fin n → α → Prop} {t : Table n α} {i : Fin n} {v : α} (here : p i v)
    (others : ∀ j w, t j = some w → p j w) : ∀ j w, t.put i (some v) j = some w → p j w := by
  intro j w stored
  rw [put_apply] at stored
  split_ifs at stored with same
  · obtain rfl : v = w := Option.some.inj stored
    exact same ▸ here
  · exact others j w stored

theorem every_put_none {p : Fin n → α → Prop} {t : Table n α} (i : Fin n)
    (others : ∀ j w, t j = some w → p j w) : ∀ j w, t.put i none j = some w → p j w := by
  intro j w stored
  rw [put_apply] at stored
  split_ifs at stored
  exact others j w stored

theorem put_none {t : Table n α} {i : Fin n} (free : t i = none) : t.put i none = t := by
  simp [put, ← free]

theorem firstFree_some {t : Table n α} {i : Fin n} (found : firstFree t = some i) :
    t i = none ∧ ∀ j < i, (t j).isSome := by
  simpa [firstFree, Fin.find?_eq_some_iff, Option.isSome_iff_ne_none] using found

theorem find_some {p : α → Bool} {t : Table n α} {i : Fin n} :
    find p t = some i ↔
      (∃ v, t i = some v ∧ p v) ∧ ∀ j < i, ∀ v, t j = some v → p v = false := by
  simp [find, Option.any_eq_true, Option.any_eq_false]

theorem find_none {p : α → Bool} {t : Table n α} :
    find p t = none ↔ ∀ i v, t i = some v → p v = false := by
  simp [find, Option.any_eq_false]

theorem find_put_other {p : α → Bool} {t : Table n α} {i : Fin n} {v : α} (new : p v = false)
    (old : ∀ w, t i = some w → p w = false) : find p (t.put i (some v)) = find p t := by
  have same : (fun j => (t.put i (some v) j).any p) = fun j => (t j).any p := by
    funext j
    rw [put_apply]
    split_ifs with here
    · rw [here, Option.any_some, new]
      cases stored : t i with
      | none => rfl
      | some w => rw [Option.any_some, old w stored]
    · rfl
  rw [find, find, same]

theorem firstFree_none {t : Table n α} : firstFree t = none ↔ ∀ i, (t i).isSome := by
  simp [firstFree, Option.isSome_iff_ne_none]

theorem firstFree_exists {t : Table n α} (room : ∃ i, t i = none) : ∃ i, firstFree t = some i := by
  rw [← Option.isSome_iff_exists, ← Option.ne_none_iff_isSome, ne_eq, firstFree_none]
  intro full
  obtain ⟨i, empty⟩ := room
  have occupied := full i
  rw [empty] at occupied
  cases occupied

def Packed (t : Table n α) : Prop :=
  ∃ k ≤ n, ∀ i, (t i).isSome = true ↔ i.val < k

theorem packed_empty : Packed (fun _ => none : Table n α) :=
  ⟨0, Nat.zero_le n, by simp⟩

theorem Packed.fill {t : Table n α} (packed : Packed t) {i : Fin n} (free : firstFree t = some i)
    (v : α) : Packed (t.put i (some v)) := by
  obtain ⟨k, bound, occupied⟩ := packed
  obtain ⟨empty, before⟩ := firstFree_some free
  have here : i.val = k := by
    have above : ¬ i.val < k := fun below => by
      have taken := (occupied i).mpr below
      rw [empty] at taken
      cases taken
    by_contra other
    have later : k < i.val := by omega
    have taken := (occupied ⟨k, by omega⟩).mp (before ⟨k, by omega⟩ later)
    exact Nat.lt_irrefl k taken
  refine ⟨k + 1, by omega, fun j => ?_⟩
  rw [put_apply]
  split_ifs with same
  · rw [same]
    simp [here]
  · rw [occupied j]
    have differ : j.val ≠ i.val := fun equal => same (Fin.ext equal)
    omega

theorem Packed.before {t : Table n α} (packed : Packed t) {i j : Fin n}
    (taken : (t i).isSome = true) (free : firstFree t = some j) : i < j := by
  obtain ⟨k, _, occupied⟩ := packed
  have below := (occupied i).mp taken
  have above : ¬ j.val < k := fun lower => by
    have filled := (occupied j).mpr lower
    rw [(firstFree_some free).1] at filled
    cases filled
  rw [Fin.lt_def]
  omega

theorem Packed.down {t : Table n α} (packed : Packed t) {i j : Fin n}
    (taken : (t i).isSome = true) (lower : j < i) : (t j).isSome = true := by
  obtain ⟨k, _, occupied⟩ := packed
  have below := (occupied i).mp taken
  rw [Fin.lt_def] at lower
  exact (occupied j).mpr (by omega)

theorem firstFree_congr {t t' : Table n α} (same : ∀ i, (t' i).isSome = (t i).isSome) :
    firstFree t' = firstFree t := by
  have empty (i : Fin n) : (t' i).isNone = (t i).isNone := by
    rw [← Option.not_isSome, same, Option.not_isSome]
  simp [firstFree, empty]

/-- How one operation may change a table: it fills the first free slot, or edits a value in place. -/
inductive Change (same : α → α → Prop) (t : Table n α) : Table n α → Prop
  | still : Change same t t
  | fill {i : Fin n} (free : firstFree t = some i) (v : α) : Change same t (t.put i (some v))
  | edit {i : Fin n} {v w : α} (old : t i = some v) (keeps : same v w) :
      Change same t (t.put i (some w))

def Keeps (same : α → α → Prop) (t t' : Table n α) : Prop :=
  ∀ i v, t i = some v → ∃ w, t' i = some w ∧ same v w

section Change

variable {same : α → α → Prop} {t t' t'' : Table n α}

theorem Change.packed (change : Change same t t') (packed : Packed t) : Packed t' := by
  cases change with
  | still => exact packed
  | fill free v => exact packed.fill free v
  | edit old keeps =>
      obtain ⟨k, bound, occupied⟩ := packed
      refine ⟨k, bound, fun j => ?_⟩
      rw [← occupied j, put_apply]
      split_ifs with here
      · simp [here, old]
      · rfl

theorem Change.keeps (refl : ∀ v, same v v) (change : Change same t t') : Keeps same t t' := by
  intro j v stored
  cases change with
  | still => exact ⟨v, stored, refl v⟩
  | fill free w =>
      have other : j ≠ _ := fun here => by
        rw [here, (firstFree_some free).1] at stored
        cases stored
      exact ⟨v, by rw [put_other t _ other, stored], refl v⟩
  | @edit i old new there keeps =>
      by_cases here : j = i
      · rw [here, there] at stored
        obtain rfl := Option.some.inj stored
        exact ⟨new, by rw [here, put_same], keeps⟩
      · exact ⟨v, by rw [put_other t _ here, stored], refl v⟩

theorem Keeps.trans (trans : ∀ u v w, same u v → same v w → same u w) (first : Keeps same t t')
    (second : Keeps same t' t'') : Keeps same t t'' := by
  intro i u stored
  obtain ⟨v, stored', kept⟩ := first i u stored
  obtain ⟨w, stored'', kept'⟩ := second i v stored'
  exact ⟨w, stored'', trans u v w kept kept'⟩

end Change

def Distinct (key : α → κ) (t : Table n α) : Prop :=
  ∀ i j a b, t i = some a → t j = some b → key a = key b → i = j

theorem distinct_empty (key : α → κ) : Distinct key (fun _ => none : Table n α) := by
  intro i j a b first
  simp at first

theorem Distinct.put_fresh {key : α → κ} {t : Table n α} (distinct : Distinct key t)
    {i : Fin n} {v : α} (fresh : ∀ j a, t j = some a → key a ≠ key v) :
    Distinct key (t.put i (some v)) := by
  intro j k a b first second same
  rw [put_apply] at first second
  split_ifs at first second with atJ atK atK
  · rw [atJ, atK]
  · obtain rfl : v = a := by simpa using first
    exact absurd same.symm (fresh k b second)
  · obtain rfl : v = b := by simpa using second
    exact absurd same (fresh j a first)
  · exact distinct j k a b first second same

theorem Distinct.put_none {key : α → κ} {t : Table n α} (distinct : Distinct key t) (i : Fin n) :
    Distinct key (t.put i none) := by
  intro j k a b first second same
  rw [put_apply] at first second
  split_ifs at first second
  exact distinct j k a b first second same

theorem Distinct.put_same_key {key : α → κ} {t : Table n α} (distinct : Distinct key t)
    {i : Fin n} {v w : α} (old : t i = some v) (same : key w = key v) :
    Distinct key (t.put i (some w)) := by
  intro j k a b first second equal
  rw [put_apply] at first second
  split_ifs at first second with atJ atK atK
  · rw [atJ, atK]
  · obtain rfl : w = a := by simpa using first
    exact atJ.trans (distinct i k v b old second (same.symm.trans equal))
  · obtain rfl : w = b := by simpa using second
    exact (distinct j i a v first old (equal.trans same)).trans atK.symm
  · exact distinct j k a b first second equal

theorem Distinct.find_key [DecidableEq κ] {key : α → κ} {t : Table n α}
    (distinct : Distinct key t) {i : Fin n} {v : α} (stored : t i = some v) :
    find (fun a => decide (key a = key v)) t = some i := by
  refine find_some.mpr ⟨⟨v, stored, by simp⟩, fun j before a other => ?_⟩
  simp only [decide_eq_false_iff_not]
  intro same
  exact absurd (distinct j i a v other stored same) (Fin.ne_of_lt before)

def slotsWhere (p : α → Bool) (t : Table n α) : Finset (Fin n) :=
  Finset.univ.filter fun i => (t i).any p

@[simp] theorem mem_slotsWhere {p : α → Bool} {t : Table n α} {i : Fin n} :
    i ∈ slotsWhere p t ↔ ∃ v, t i = some v ∧ p v := by
  simp [slotsWhere, Option.any_eq_true]

theorem any_free {p : α → Bool} {t : Table n α} {i : Fin n} (free : t i = none) :
    (t i).any p = false := by
  rw [free]
  rfl

theorem slotsWhere_put_fresh {p : α → Bool} {t : Table n α} {i : Fin n} {v : α}
    (free : (t i).any p = false) (holds : p v = true) :
    (slotsWhere p (t.put i (some v))).card = (slotsWhere p t).card + 1 := by
  have added : slotsWhere p (t.put i (some v)) = insert i (slotsWhere p t) := by
    ext j
    by_cases same : j = i
    · subst same
      simp [holds]
    · simp [put_other t (some v) same, same]
  rw [added, Finset.card_insert_of_notMem (by simp [slotsWhere, free])]

theorem slotsWhere_put_other {p : α → Bool} {t : Table n α} {i : Fin n} {v : α}
    (free : t i = none) (fails : p v = false) :
    slotsWhere p (t.put i (some v)) = slotsWhere p t := by
  ext j
  by_cases same : j = i
  · subst same
    simp [fails, free]
  · simp [put_other t (some v) same]

theorem slotsWhere_put_same {p : α → Bool} {t : Table n α} {i : Fin n} {v w : α}
    (old : t i = some v) (same : p w = p v) :
    slotsWhere p (t.put i (some w)) = slotsWhere p t := by
  ext j
  by_cases equal : j = i
  · subst equal
    simp [old, same]
  · simp [put_other t (some w) equal]

theorem slotsWhere_put_none {p : α → Bool} {t : Table n α} {i : Fin n}
    (free : (t i).any p = false) : slotsWhere p (t.put i none) = slotsWhere p t := by
  ext j
  by_cases same : j = i
  · subst same
    simp [slotsWhere, free]
  · simp [put_other t none same]

theorem slotsWhere_card_lt {p : α → Bool} {t : Table n α} {i : Fin n}
    (free : (t i).any p = false) : (slotsWhere p t).card < n := by
  have absent : i ∉ slotsWhere p t := by simp [slotsWhere, free]
  simpa using Finset.card_lt_univ_of_notMem absent

end Table

end Systems
