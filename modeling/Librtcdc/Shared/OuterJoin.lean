import Mathlib.Data.List.Induction
import Mathlib.Data.List.Nodup
import Mathlib.Data.List.Perm.Basic
import Librtcdc.Shared.Collection

set_option autoImplicit false

namespace Systems

variable {κ ν : Type} [DecidableEq κ] {absent value : ν} {key : κ} {left right : List κ}
  {a b : List (κ × ν)}

-- The outer join of two lists of entries: a row for each key of either, with a value for each side.

def keys (entries : List (κ × ν)) : List κ :=
  entries.map Prod.fst

def lastValue (absent : ν) (entries : List (κ × ν)) (key : κ) : ν :=
  (entries.reverse.lookup key).getD absent

-- The keys of the left side, and then those of the right side alone where they come first.
def joinedKeys (left right : List κ) : List κ :=
  left ++ right.eraseDups.filter fun key => key ∉ left

def outerJoin (absent : ν) (a b : List (κ × ν)) : List (κ × ν × ν) :=
  (joinedKeys (keys a) (keys b)).map fun key => (key, lastValue absent a key, lastValue absent b key)

def joinEntry (absent : ν) (rows : List (κ × ν × ν)) (entry : κ × ν) : List (κ × ν × ν) :=
  if entry.1 ∈ rows.map Prod.fst then
    rows.map fun row => if row.1 = entry.1 then (row.1, row.2.1, entry.2) else row
  else
    rows ++ [(entry.1, absent, entry.2)]

-- The same where only the first row with the key is found, for keys that are not distinct.
def joinFirst (absent : ν) (rows : List (κ × ν × ν)) (entry : κ × ν) : List (κ × ν × ν) :=
  if entry.1 ∈ rows.map Prod.fst then
    updateOne Prod.fst entry.1 (fun row => (row.1, row.2.1, entry.2)) rows
  else
    rows ++ [(entry.1, absent, entry.2)]

@[simp] theorem outerJoin_keys (absent : ν) (a b : List (κ × ν)) :
    (outerJoin absent a b).map Prod.fst = joinedKeys (keys a) (keys b) := by
  rw [outerJoin, List.map_map]
  exact List.map_id _

theorem eraseDups_snoc (right : List κ) (key : κ) :
    (right ++ [key]).eraseDups = right.eraseDups ++ if key ∈ right then [] else [key] := by
  rw [List.eraseDups_append]
  by_cases seen : key ∈ right
  · simp [seen, List.removeAll]
  · simp [seen, List.removeAll, List.eraseDups_cons]

theorem nodup_eraseDups (right : List κ) : right.eraseDups.Nodup := by
  induction right using List.reverseRecOn with
  | nil => exact List.nodup_nil
  | append_singleton right key ih =>
      rw [eraseDups_snoc]
      by_cases seen : key ∈ right
      · simpa [seen] using ih
      · rw [if_neg seen]
        exact ih.append (List.nodup_singleton key) (by simpa using seen)

theorem eraseDups_nodup (distinct : right.Nodup) : right.eraseDups = right := by
  induction right using List.reverseRecOn with
  | nil => rfl
  | append_singleton right key ih =>
      obtain ⟨earlier, _, apart⟩ := List.nodup_append.mp distinct
      have unseen : key ∉ right := fun seen => apart key seen key List.mem_cons_self rfl
      rw [eraseDups_snoc, ih earlier, if_neg unseen]

theorem joinedKeys_nodup_right (left : List κ) (distinct : right.Nodup) :
    joinedKeys left right = left ++ right.filter fun key => key ∉ left := by
  rw [joinedKeys, eraseDups_nodup distinct]

theorem mem_joinedKeys : key ∈ joinedKeys left right ↔ key ∈ left ∨ key ∈ right := by
  by_cases listed : key ∈ left <;> simp [joinedKeys, listed]

theorem joinedKeys_nodup (distinct : left.Nodup) (right : List κ) :
    (joinedKeys left right).Nodup := by
  refine distinct.append ((nodup_eraseDups right).filter _) ?_
  intro key listed only
  simp [listed] at only

theorem joinedKeys_snoc (left right : List κ) (key : κ) :
    joinedKeys left (right ++ [key]) =
      if key ∈ joinedKeys left right then joinedKeys left right
      else joinedKeys left right ++ [key] := by
  rw [joinedKeys, eraseDups_snoc, List.filter_append, ← List.append_assoc]
  by_cases there : key ∈ joinedKeys left right
  · rw [if_pos there]
    rcases mem_joinedKeys.mp there with listed | seen
    · by_cases seen : key ∈ right <;> simp [joinedKeys, listed, seen]
    · simp [joinedKeys, seen]
  · rw [if_neg there]
    obtain ⟨unlisted, unseen⟩ := not_or.mp (mt mem_joinedKeys.mpr there)
    simp [joinedKeys, unlisted, unseen]

theorem joinedKeys_perm (leftDistinct : left.Nodup) (rightDistinct : right.Nodup) :
    (joinedKeys left right).Perm (joinedKeys right left) := by
  rw [List.perm_ext_iff_of_nodup (joinedKeys_nodup leftDistinct right)
    (joinedKeys_nodup rightDistinct left)]
  intro key
  rw [mem_joinedKeys, mem_joinedKeys, or_comm]

theorem lastValue_snoc (absent : ν) (entries : List (κ × ν)) (entry : κ × ν) (key : κ) :
    lastValue absent (entries ++ [entry]) key =
      if key = entry.1 then entry.2 else lastValue absent entries key := by
  obtain ⟨name, value⟩ := entry
  by_cases same : key = name
  · simp [lastValue, same]
  · have other : (key == name) = false := by simpa using same
    simp [lastValue, List.lookup_cons, same, other]

theorem lastValue_absent {entries : List (κ × ν)} (missing : key ∉ keys entries) :
    lastValue absent entries key = absent := by
  induction entries using List.reverseRecOn with
  | nil => rfl
  | append_singleton entries entry ih =>
      simp only [keys, List.map_append, List.map_cons, List.map_nil, List.mem_append,
        List.mem_singleton, not_or] at missing
      rw [lastValue_snoc, if_neg missing.2]
      exact ih missing.1

theorem lastValue_of_mem {entries : List (κ × ν)} (distinct : (keys entries).Nodup)
    (member : (key, value) ∈ entries) : lastValue absent entries key = value := by
  induction entries using List.reverseRecOn with
  | nil => cases member
  | append_singleton entries entry ih =>
      have parts : (keys entries).Nodup ∧ entry.1 ∉ keys entries := by
        rw [keys, List.map_append, List.nodup_append] at distinct
        refine ⟨distinct.1, fun inside => ?_⟩
        exact distinct.2.2 _ inside _ List.mem_cons_self rfl
      rw [lastValue_snoc]
      rcases List.mem_append.mp member with earlier | last
      · have different : key ≠ entry.1 := by
          rintro rfl
          exact parts.2 (List.mem_map.mpr ⟨_, earlier, rfl⟩)
        rw [if_neg different, ih parts.1 earlier]
      · obtain rfl := List.mem_singleton.mp last
        rw [if_pos rfl]

omit [DecidableEq κ] in
theorem keys_map (value : κ → ν) : keys (left.map fun key => (key, value key)) = left := by
  rw [keys, List.map_map]
  exact List.map_id left

theorem lastValue_map {value : κ → ν} (distinct : left.Nodup)
    (lacks : ∀ key, key ∉ left → value key = absent) (key : κ) :
    lastValue absent (left.map fun key => (key, value key)) key = value key := by
  by_cases listed : key ∈ left
  · refine lastValue_of_mem ?_ (List.mem_map_of_mem listed)
    rwa [keys_map]
  · rw [lacks key listed, lastValue_absent]
    rwa [keys_map]

theorem outerJoin_map {value other : κ → ν} (leftDistinct : left.Nodup)
    (rightDistinct : right.Nodup) (leftLacks : ∀ key, key ∉ left → value key = absent)
    (rightLacks : ∀ key, key ∉ right → other key = absent) :
    outerJoin absent (left.map fun key => (key, value key))
        (right.map fun key => (key, other key)) =
      (joinedKeys left right).map fun key => (key, value key, other key) := by
  simp only [outerJoin, keys_map, lastValue_map leftDistinct leftLacks,
    lastValue_map rightDistinct rightLacks]

theorem outerJoin_nil (distinct : (keys a).Nodup) :
    outerJoin absent a [] = a.map fun entry => (entry.1, entry.2, absent) := by
  have only : joinedKeys (keys a) (keys ([] : List (κ × ν))) = keys a := by
    simp [joinedKeys, keys]
  rw [outerJoin, only, keys, List.map_map]
  apply List.map_congr_left
  intro entry member
  have found : lastValue absent a entry.1 = entry.2 := lastValue_of_mem distinct member
  change (entry.1, lastValue absent a entry.1, absent) = _
  rw [found]

theorem outerJoin_snoc (absent : ν) (a b : List (κ × ν)) (entry : κ × ν) :
    outerJoin absent a (b ++ [entry]) = joinEntry absent (outerJoin absent a b) entry := by
  have before : keys (b ++ [entry]) = keys b ++ [entry.1] := List.map_append
  rw [joinEntry, outerJoin_keys, outerJoin, before, joinedKeys_snoc]
  by_cases there : entry.1 ∈ joinedKeys (keys a) (keys b)
  · rw [if_pos there, if_pos there, outerJoin, List.map_map]
    apply List.map_congr_left
    intro key _
    rw [lastValue_snoc]
    by_cases same : key = entry.1 <;> simp [same]
  · have unlisted : entry.1 ∉ keys a := fun inside => there (mem_joinedKeys.mpr (.inl inside))
    rw [if_neg there, if_neg there, List.map_append, List.map_singleton, lastValue_snoc,
      if_pos rfl, lastValue_absent unlisted, outerJoin]
    congr 1
    apply List.map_congr_left
    intro key member
    rw [lastValue_snoc, if_neg (ne_of_mem_of_not_mem member there)]

theorem updateOne_eq_map {rows : List (κ × ν × ν)} {f : κ × ν × ν → κ × ν × ν}
    (distinct : (rows.map Prod.fst).Nodup) :
    updateOne Prod.fst key f rows = rows.map fun row => if row.1 = key then f row else row := by
  induction rows with
  | nil => rfl
  | cons row rest ih =>
      rw [List.map_cons, List.nodup_cons] at distinct
      rw [updateOne, List.map_cons]
      by_cases same : row.1 = key
      · have others : rest.map (fun row => if row.1 = key then f row else row) = rest := by
          conv_rhs => rw [← List.map_id rest]
          apply List.map_congr_left
          intro other member
          have inside : other.1 ∈ rest.map Prod.fst := List.mem_map_of_mem member
          have different : other.1 ≠ key := by
            rw [← same]
            exact ne_of_mem_of_not_mem inside distinct.1
          rw [if_neg different, id]
        rw [if_pos same, if_pos same, others]
      · rw [if_neg same, if_neg same, ih distinct.2]

theorem joinFirst_distinct {rows : List (κ × ν × ν)} (distinct : (rows.map Prod.fst).Nodup)
    (entry : κ × ν) : joinFirst absent rows entry = joinEntry absent rows entry := by
  rw [joinFirst, joinEntry, updateOne_eq_map distinct]

theorem foldl_joinFirst (distinct : (keys a).Nodup) (b later : List (κ × ν)) :
    later.foldl (joinFirst absent) (outerJoin absent a b) = outerJoin absent a (b ++ later) := by
  induction later generalizing b with
  | nil => rw [List.foldl_nil, List.append_nil]
  | cons entry rest ih =>
      have rowsDistinct : ((outerJoin absent a b).map Prod.fst).Nodup := by
        rw [outerJoin_keys]
        exact joinedKeys_nodup distinct _
      have each : b ++ entry :: rest = (b ++ [entry]) ++ rest := by simp
      rw [List.foldl_cons, joinFirst_distinct rowsDistinct, ← outerJoin_snoc, ih, each]

theorem outerJoin_swap (absent : ν) (aDistinct : (keys a).Nodup) (bDistinct : (keys b).Nodup) :
    ((outerJoin absent b a).map fun row => (row.1, row.2.2, row.2.1)).Perm
      (outerJoin absent a b) := by
  rw [outerJoin, List.map_map]
  exact (joinedKeys_perm bDistinct aDistinct).map _

end Systems
