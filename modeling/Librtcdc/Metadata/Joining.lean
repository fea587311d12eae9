import Librtcdc.Shared.OuterJoin
import Librtcdc.Metadata.Server

set_option autoImplicit false

namespace Librtcdc.Metadata

open Systems

-- `join_checksum_arrays` on objects in memory: arrays hold references, a copy is a new object, and
-- the fields of an object are set where it stands.

abbrev Ref := Nat

abbrev Heap := List Json

def readObject (heap : Heap) (json : Ref) : Except Fault Json :=
  deref heap[json]?

def jsonCopy (heap : Heap) (json : Ref) : Except Fault (Ref × Heap) := do
  let object ← readObject heap json
  return (heap.length, heap ++ [object])

def jsonObjectSet (heap : Heap) (json : Ref) (key : String) (value : Json) : Heap :=
  heap.modify json (·.set key value)

-- The first loop, over the first array.
def copyElements (bKey : String) : Heap → List Ref → List Ref → Except Fault (Heap × List Ref)
  | heap, fileArray, [] => .ok (heap, fileArray)
  | heap, fileArray, element :: rest => do
      let (fileElement, heap) ← jsonCopy heap element
      let heap := jsonObjectSet heap fileElement bKey (.string CString.empty)
      copyElements bKey heap (fileArray ++ [fileElement]) rest

-- The inner loop: where it stops, and the objects afterwards.
def insertAt (pivotKey bKey : String) (filename bChecksum : CString) (heap : Heap) :
    Nat → List Ref → Except Fault (Nat × Heap)
  | fileArrayIndex, [] => .ok (fileArrayIndex, heap)
  | fileArrayIndex, fileElement :: rest => do
      let element ← readObject heap fileElement
      let name ← deref (element.text pivotKey)
      if name = filename then
        return (fileArrayIndex, jsonObjectSet heap fileElement bKey (.string bChecksum))
      else
        insertAt pivotKey bKey filename bChecksum heap (fileArrayIndex + 1) rest

-- `vars` are the variables `filename` and `B_checksum`.
structure Joining where
  heap : Heap
  fileArray : List Ref
  fileArraySize : Nat
  vars : List (Option Json)

def joinElement (pivotKey aKey bKey : String) (s : Joining) (bElement : Ref) :
    Except Fault Joining := do
  let element ← readObject s.heap bElement
  let vars := element.unpack [(pivotKey, .s), (bKey, .s)] s.vars
  match vars with
  | [some (.string filename), some (.string bChecksum)] => do
      let (fileArrayIndex, heap) ←
        insertAt pivotKey bKey filename bChecksum s.heap 0 s.fileArray
      if fileArrayIndex = s.fileArraySize then
        let (newElement, heap) ← jsonCopy heap bElement
        let heap := jsonObjectSet heap newElement aKey (.string CString.empty)
        return { heap, fileArray := s.fileArray ++ [newElement]
                 fileArraySize := s.fileArraySize + 1, vars }
      else
        return { s with heap, vars }
  | _ => .error .uninitialised

def joinArrays (pivotKey : String) (heap : Heap) (a : List Ref) (aKey : String) (b : List Ref)
    (bKey : String) : Except Fault (Heap × List Ref) := do
  let (heap, fileArray) ← copyElements bKey heap [] a
  let s ← b.foldlM (joinElement pivotKey aKey bKey)
    { heap, fileArray, fileArraySize := fileArray.length, vars := [none, none] }
  return (s.heap, s.fileArray)

variable {pivotKey aKey bKey key : String} {heap front : Heap} {a b : List Ref}
  {objects elements joined : List Json} {value element : Json} {filename bChecksum : CString}

def Elements (heap : Heap) : List Ref → List Json → Prop :=
  List.Forall₂ fun json element => heap[json]? = some element

theorem jsonObjectSet_at (heap later : Heap) (element value : Json) (key : String) :
    jsonObjectSet (heap ++ element :: later) heap.length key value =
      heap ++ element.set key value :: later := by
  rw [jsonObjectSet, List.modify_eq_set_getElem?]
  simp

theorem readObject_append (front objects : Heap) (element : Json) (later : Heap) :
    readObject (front ++ objects ++ element :: later) (front.length + objects.length) =
      .ok element := by
  rw [readObject, ← List.length_append, List.getElem?_append_right (Nat.le_refl _), Nat.sub_self]
  rfl

def references (front objects : Heap) : List Ref :=
  List.range' front.length objects.length

theorem references_snoc (front objects : Heap) (element : Json) :
    references front (objects ++ [element]) =
      references front objects ++ [front.length + objects.length] := by
  rw [references, List.length_append, List.length_singleton, List.range'_concat, Nat.one_mul]
  rfl

theorem copyElements_eq (elementsOf : Elements front a elements) (done : List Json) :
    copyElements bKey (front ++ done) (references front done) a =
      .ok (front ++ (done ++ elements.map fun element =>
          element.set bKey (.string CString.empty)),
        references front (done ++ elements.map fun element =>
          element.set bKey (.string CString.empty))) := by
  induction elementsOf generalizing done with
  | nil => simp [copyElements]
  | @cons json element _ rest found _ ih =>
      have bound : json < front.length := (List.getElem?_eq_some_iff.mp found).1
      have read : readObject (front ++ done) json = .ok element := by
        rw [readObject, List.getElem?_append_left bound, found]
        rfl
      have next := ih (done ++ [element.set bKey (.string CString.empty)])
      rw [references_snoc, ← List.append_assoc, ← List.length_append] at next
      rw [copyElements, jsonCopy, read, ok_bind]
      change copyElements bKey (jsonObjectSet (front ++ done ++ [element]) (front ++ done).length
        bKey _) _ _ = _
      rw [jsonObjectSet_at, next]
      simp [references]

theorem insertAt_eq (index : Nat) :
    insertAt pivotKey bKey filename bChecksum (front ++ objects) index (references front objects) =
      (insertChecksum pivotKey bKey filename bChecksum objects).map fun
        | none => (index + objects.length, front ++ objects)
        | some next =>
            (index + objects.findIdx fun element => element.text pivotKey = some filename,
              front ++ next) := by
  induction objects generalizing front index with
  | nil => rfl
  | cons element rest ih =>
      have whole : front ++ element :: rest = front ++ [element] ++ rest := by simp
      have refs : references front (element :: rest) =
          front.length :: references (front ++ [element]) rest := by
        simp [references, List.range'_succ]
      have read : readObject (front ++ element :: rest) front.length = .ok element := by
        simpa using readObject_append front [] element rest
      rw [refs, insertAt, read, ok_bind, insertChecksum]
      cases named : element.text pivotKey with
      | none => rfl
      | some name =>
          rw [deref_some, ok_bind, ok_bind]
          by_cases same : name = filename
          · have here : (element :: rest).findIdx
                (fun element => element.text pivotKey = some filename) = 0 := by
              rw [List.findIdx_cons, named, same]
              simp
            rw [if_pos same, if_pos same, jsonObjectSet_at]
            simp only [pure, Except.pure, Except.map, here]
            rfl
          · have further : (element :: rest).findIdx
                (fun element => element.text pivotKey = some filename) =
                  rest.findIdx (fun element => element.text pivotKey = some filename) + 1 := by
              simp [List.findIdx_cons, named, same]
            rw [if_neg same, if_neg same, whole, ih]
            cases insertChecksum pivotKey bKey filename bChecksum rest with
            | error fault => rfl
            | ok later =>
                cases later with
                | none => simp [bind, Except.bind, pure, Except.pure, Except.map]; omega
                | some next =>
                    simp [bind, Except.bind, pure, Except.pure, Except.map, further]; omega

theorem insertChecksum_found {next : List Json}
    (inserted : insertChecksum pivotKey bKey filename bChecksum objects = .ok (some next)) :
    (objects.findIdx fun element => element.text pivotKey = some filename) < objects.length ∧
      next.length = objects.length := by
  induction objects generalizing next with
  | nil => cases inserted
  | cons element rest ih =>
      rw [insertChecksum] at inserted
      obtain ⟨name, named, inserted⟩ := bind_ok.mp inserted
      rw [deref_ok] at named
      by_cases same : name = filename
      · rw [if_pos same] at inserted
        obtain rfl := Option.some.inj (Except.ok.inj inserted)
        simp [List.findIdx_cons, named, same]
      · rw [if_neg same] at inserted
        obtain ⟨later, found, inserted⟩ := bind_ok.mp inserted
        obtain ⟨next', rfl, rfl⟩ := Option.map_eq_some_iff.mp (Except.ok.inj inserted)
        obtain ⟨bound, length⟩ := ih found
        simp [List.findIdx_cons, named, same, bound, length]

def joiningAt (front joined : Heap) (vars : List (Option Json)) : Joining where
  heap := front ++ joined
  fileArray := references front joined
  fileArraySize := joined.length
  vars := vars

theorem joinElement_eq {json : Ref} {vars : List (Option Json)}
    (found : front[json]? = some element) :
    joinElement pivotKey aKey bKey (joiningAt front joined vars) json =
      match element.unpack [(pivotKey, .s), (bKey, .s)] vars with
      | [some (.string filename), some (.string bChecksum)] =>
          (insertChecksum pivotKey bKey filename bChecksum joined).map fun inserted =>
            joiningAt front
              (inserted.getD (joined ++ [element.set aKey (.string CString.empty)]))
              [some (.string filename), some (.string bChecksum)]
      | _ => .error .uninitialised := by
  have bound : json < front.length := (List.getElem?_eq_some_iff.mp found).1
  have read : readObject (front ++ joined) json = .ok element := by
    rw [readObject, List.getElem?_append_left bound, found]
    rfl
  change joinElement _ _ _ { heap := front ++ joined, fileArray := references front joined
                             fileArraySize := joined.length, vars } json = _
  rw [joinElement]
  simp only [read, ok_bind]
  generalize element.unpack [(pivotKey, .s), (bKey, .s)] vars = vars
  split
  · rename_i filename bChecksum
    rw [insertAt_eq]
    cases inserted : insertChecksum pivotKey bKey filename bChecksum joined with
    | error fault => rfl
    | ok outcome =>
        cases outcome with
        | none =>
            simp only [Except.map, ok_bind, Nat.zero_add, if_true, jsonCopy, read]
            simp only [pure, Except.pure, ok_bind]
            rw [jsonObjectSet_at]
            simp only [Option.getD_none, joiningAt, references_snoc, List.length_append,
              List.length_singleton, List.append_assoc]
        | some next =>
            obtain ⟨bound, length⟩ := insertChecksum_found inserted
            have inside : ¬ 0 + joined.findIdx (fun element =>
                element.text pivotKey = some filename) = joined.length := by omega
            change (if 0 + joined.findIdx _ = joined.length then _ else _) = _
            rw [if_neg inside]
            simp only [Except.map, Option.getD_some, joiningAt, references, length]
            rfl
  · rfl

theorem joinElements_eq (elementsOf : Elements front b elements) (vars : List (Option Json)) :
    (b.foldlM (joinElement pivotKey aKey bKey) (joiningAt front joined vars)).map
        (fun s => (s.heap, s.fileArray)) =
      (joinInto pivotKey aKey bKey vars joined elements).map fun next =>
        (front ++ next, references front next) := by
  induction elementsOf generalizing vars joined with
  | nil => rfl
  | @cons json element _ rest found _ ih =>
      rw [List.foldlM_cons, joinElement_eq found, joinInto]
      generalize element.unpack [(pivotKey, .s), (bKey, .s)] vars = vars
      by_cases texts : ∃ filename bChecksum,
          vars = [some (.string filename), some (.string bChecksum)]
      · obtain ⟨filename, bChecksum, rfl⟩ := texts
        dsimp only
        cases insertChecksum pivotKey bKey filename bChecksum joined with
        | error fault => rfl
        | ok inserted => cases inserted <;> exact ih _
      · -- both loops stop at an element without the texts
        repeat' split
        all_goals first | rfl | exact absurd ⟨_, _, rfl⟩ texts

theorem joinArrays_eq {aElements bElements : List Json} (aElementsOf : Elements heap a aElements)
    (bElementsOf : Elements heap b bElements) :
    joinArrays pivotKey heap a aKey b bKey =
      (joinChecksumArrays pivotKey (some (.array aElements)) aKey (some (.array bElements))
        bKey).map fun joined => (heap ++ joined, references heap joined) := by
  let copies := aElements.map fun element => element.set bKey (.string CString.empty)
  have copied : copyElements bKey (heap ++ []) (references heap []) a =
      .ok (heap ++ copies, references heap copies) := copyElements_eq aElementsOf []
  rw [List.append_nil] at copied
  have looped : _ = (joinInto pivotKey aKey bKey [none, none] copies bElements).map _ :=
    joinElements_eq bElementsOf [none, none]
  have none_yet : references heap [] = [] := rfl
  rw [none_yet] at copied
  rw [joinArrays, copied, ok_bind, joinChecksumArrays, Json.elements_array, Json.elements_array,
    ← looped, joiningAt]
  simp only [references, List.length_range']
  generalize b.foldlM (joinElement pivotKey aKey bKey) _ = looped
  cases looped <;> rfl

variable {name checksum : CString} {row : CString × CString × CString}
  {rows : List (CString × CString × CString)} {entries aEntries bEntries : List (CString × CString)}

structure Carries (pivotKey key : String) (element : Json) (entry : CString × CString) : Prop where
  isObject : ∃ fields, element = .object fields
  name : element.text pivotKey = some entry.1
  checksum : element.text key = some entry.2

structure IsRow (pivotKey aKey bKey : String) (element : Json)
    (row : CString × CString × CString) : Prop where
  isObject : ∃ fields, element = .object fields
  name : element.text pivotKey = some row.1
  aChecksum : element.text aKey = some row.2.1
  bChecksum : element.text bKey = some row.2.2

structure Apart (pivotKey aKey bKey : String) : Prop where
  a : pivotKey ≠ aKey
  b : pivotKey ≠ bKey
  sides : aKey ≠ bKey

theorem Apart.swap (apart : Apart pivotKey aKey bKey) : Apart pivotKey bKey aKey :=
  ⟨apart.b, apart.a, apart.sides.symm⟩

theorem IsRow.swap (isRow : IsRow pivotKey bKey aKey element row) :
    IsRow pivotKey aKey bKey element (row.1, row.2.2, row.2.1) :=
  ⟨isRow.isObject, isRow.name, isRow.bChecksum, isRow.aChecksum⟩

theorem Carries.row_of_a {entry : CString × CString} (apart : Apart pivotKey aKey bKey)
    (carries : Carries pivotKey aKey element entry) (checksum : CString) :
    IsRow pivotKey aKey bKey (element.set bKey (.string checksum))
      (entry.1, entry.2, checksum) := by
  obtain ⟨⟨fields, rfl⟩, named, summed⟩ := carries
  exact ⟨Json.set_object, (Json.text_set_other apart.b).trans named,
    (Json.text_set_other apart.sides).trans summed, Json.text_set_same⟩

theorem IsRow.insert (apart : Apart pivotKey aKey bKey)
    (isRow : IsRow pivotKey aKey bKey element row) (checksum : CString) :
    IsRow pivotKey aKey bKey (element.set bKey (.string checksum)) (row.1, row.2.1, checksum) := by
  have entry : Carries pivotKey aKey element (row.1, row.2.1) :=
    ⟨isRow.isObject, isRow.name, isRow.aChecksum⟩
  exact entry.row_of_a apart checksum

theorem Carries.unpack {entry : CString × CString} (carries : Carries pivotKey bKey element entry)
    {vars : List (Option Json)} (two : vars.length = 2) :
    element.unpack [(pivotKey, .s), (bKey, .s)] vars =
      [some (.string entry.1), some (.string entry.2)] := by
  have fills : element.Fills [(pivotKey, .s), (bKey, .s)] [.string entry.1, .string entry.2] :=
    .cons (Json.fills_string carries.name) (.cons (Json.fills_string carries.checksum) .nil)
  exact Json.unpack_fills fills two

theorem insertChecksum_none (described : List.Forall₂ (IsRow pivotKey aKey bKey) objects rows)
    (missing : name ∉ rows.map Prod.fst) :
    insertChecksum pivotKey bKey name checksum objects = .ok none := by
  induction described with
  | nil => rfl
  | cons here _ ih =>
      rw [List.map_cons, List.mem_cons, not_or] at missing
      rw [insertChecksum, here.name, deref_some, ok_bind, if_neg (Ne.symm missing.1), ih missing.2]
      rfl

theorem insertChecksum_some (apart : Apart pivotKey aKey bKey) (checksum : CString)
    (described : List.Forall₂ (IsRow pivotKey aKey bKey) objects rows)
    (present : name ∈ rows.map Prod.fst) :
    ∃ next, insertChecksum pivotKey bKey name checksum objects = .ok (some next) ∧
      List.Forall₂ (IsRow pivotKey aKey bKey) next
        (updateOne Prod.fst name (fun row => (row.1, row.2.1, checksum)) rows) := by
  induction described with
  | nil => cases present
  | @cons element row objects rows here later ih =>
      rw [insertChecksum, here.name, deref_some, ok_bind, updateOne]
      by_cases same : row.1 = name
      · rw [if_pos same, if_pos same]
        exact ⟨_, rfl, .cons (here.insert apart checksum) later⟩
      · have below : name ∈ rows.map Prod.fst := by simpa [Ne.symm same] using present
        obtain ⟨next, inserted, after⟩ := ih below
        rw [if_neg same, if_neg same, inserted]
        exact ⟨element :: next, rfl, .cons here after⟩

theorem joinInto_first (apart : Apart pivotKey aKey bKey)
    (listed : List.Forall₂ (Carries pivotKey bKey) elements entries)
    (described : List.Forall₂ (IsRow pivotKey aKey bKey) joined rows)
    {vars : List (Option Json)} (two : vars.length = 2) :
    ∃ next, joinInto pivotKey aKey bKey vars joined elements = .ok next ∧
      List.Forall₂ (IsRow pivotKey aKey bKey) next
        (entries.foldl (joinFirst CString.empty) rows) := by
  induction listed generalizing vars joined rows with
  | nil => exact ⟨joined, rfl, described⟩
  | @cons element entry _ rest here _ ih =>
      rw [joinInto, here.unpack two, List.foldl_cons, joinFirst]
      by_cases present : entry.1 ∈ rows.map Prod.fst
      · obtain ⟨next, inserted, after⟩ := insertChecksum_some apart entry.2 described present
        rw [if_pos present]
        simp only [inserted, ok_bind]
        exact ih after rfl
      · rw [if_neg present]
        simp only [insertChecksum_none described present, ok_bind]
        have added : IsRow pivotKey aKey bKey (element.set aKey (.string CString.empty))
            (entry.1, CString.empty, entry.2) := (here.row_of_a apart.swap CString.empty).swap
        exact ih (List.rel_append described (.cons added .nil)) rfl

def joinedRows (aEntries bEntries : List (CString × CString)) :
    List (CString × CString × CString) :=
  bEntries.foldl (joinFirst CString.empty)
    (aEntries.map fun entry => (entry.1, entry.2, CString.empty))

theorem joinedRows_distinct (distinct : (keys aEntries).Nodup) :
    joinedRows aEntries bEntries = outerJoin CString.empty aEntries bEntries := by
  rw [joinedRows, ← outerJoin_nil distinct, foldl_joinFirst distinct, List.nil_append]

theorem joinChecksumArrays_first (apart : Apart pivotKey aKey bKey) {a b : Option Json}
    (aListed : List.Forall₂ (Carries pivotKey aKey) (Json.elements a) aEntries)
    (bListed : List.Forall₂ (Carries pivotKey bKey) (Json.elements b) bEntries) :
    ∃ joined, joinChecksumArrays pivotKey a aKey b bKey = .ok joined ∧
      List.Forall₂ (IsRow pivotKey aKey bKey) joined (joinedRows aEntries bEntries) := by
  have copied : List.Forall₂ (IsRow pivotKey aKey bKey)
      ((Json.elements a).map fun element => element.set bKey (.string CString.empty))
      (aEntries.map fun entry => (entry.1, entry.2, CString.empty)) := by
    rw [List.forall₂_map_left_iff, List.forall₂_map_right_iff]
    exact aListed.imp fun element entry carries => carries.row_of_a apart CString.empty
  exact joinInto_first apart bListed copied rfl

theorem joinChecksumArrays_rows (apart : Apart pivotKey aKey bKey)
    (distinct : (keys aEntries).Nodup) {aElements bElements : List Json}
    (aListed : List.Forall₂ (Carries pivotKey aKey) aElements aEntries)
    (bListed : List.Forall₂ (Carries pivotKey bKey) bElements bEntries) :
    ∃ joined, joinChecksumArrays pivotKey (some (.array aElements)) aKey
        (some (.array bElements)) bKey = .ok joined ∧
      List.Forall₂ (IsRow pivotKey aKey bKey) joined
        (outerJoin CString.empty aEntries bEntries) := by
  rw [← joinedRows_distinct distinct]
  exact joinChecksumArrays_first apart aListed bListed

def HasEntries (pivotKey key : String) (heap : Heap) : List Ref → List (CString × CString) → Prop :=
  List.Forall₂ fun json entry => ∃ element, heap[json]? = some element ∧
    Carries pivotKey key element entry

def HasRows (pivotKey aKey bKey : String) (heap : Heap) :
    List Ref → List (CString × CString × CString) → Prop :=
  List.Forall₂ fun json row => ∃ element, heap[json]? = some element ∧
    IsRow pivotKey aKey bKey element row

theorem HasEntries.read (lists : HasEntries pivotKey key heap a entries) :
    ∃ elements, Elements heap a elements ∧
      List.Forall₂ (Carries pivotKey key) elements entries := by
  induction lists with
  | nil => exact ⟨[], .nil, .nil⟩
  | cons here _ ih =>
      obtain ⟨element, found, carries⟩ := here
      obtain ⟨elements, elementsOf, listed⟩ := ih
      exact ⟨element :: elements, .cons found elementsOf, .cons carries listed⟩

theorem hasRows_references (described : List.Forall₂ (IsRow pivotKey aKey bKey) objects rows) :
    HasRows pivotKey aKey bKey (heap ++ objects) (references heap objects) rows := by
  induction described generalizing heap with
  | nil => exact .nil
  | @cons element row objects rows here _ ih =>
      have whole : heap ++ element :: objects = heap ++ [element] ++ objects := by simp
      have refs : references heap (element :: objects) =
          heap.length :: references (heap ++ [element]) objects := by
        simp [references, List.range'_succ]
      rw [whole, refs]
      refine .cons ⟨element, by simp, here⟩ ih

theorem joinArrays_rows (apart : Apart pivotKey aKey bKey) (distinct : (keys aEntries).Nodup)
    (aListed : HasEntries pivotKey aKey heap a aEntries)
    (bListed : HasEntries pivotKey bKey heap b bEntries) :
    ∃ later joined, joinArrays pivotKey heap a aKey b bKey = .ok (heap ++ later, joined) ∧
      HasRows pivotKey aKey bKey (heap ++ later) joined
        (outerJoin CString.empty aEntries bEntries) := by
  obtain ⟨aElements, aElementsOf, aCarries⟩ := aListed.read
  obtain ⟨bElements, bElementsOf, bCarries⟩ := bListed.read
  obtain ⟨joined, computed, described⟩ :=
    joinChecksumArrays_rows apart distinct aCarries bCarries
  refine ⟨joined, references heap joined, ?_, hasRows_references described⟩
  rw [joinArrays_eq aElementsOf bElementsOf, computed]
  rfl

structure OuterJoins (pivotKey aKey bKey : String) (heap : Heap) (a b : List Ref)
    (aEntries bEntries : List (CString × CString)) (heap' : Heap) (joined : List Ref)
    (rows : List (CString × CString × CString)) : Prop where
  computed : joinArrays pivotKey heap a aKey b bKey = .ok (heap', joined)
  described : HasRows pivotKey aKey bKey heap' joined rows
  distinct : (rows.map Prod.fst).Nodup
  names : ∀ name, name ∈ rows.map Prod.fst ↔ name ∈ keys aEntries ∨ name ∈ keys bEntries
  order : rows.map Prod.fst = joinedKeys (keys aEntries) (keys bEntries)
  aChecksums : ∀ row ∈ rows, (row.1, row.2.1) ∈ aEntries ∨
    row.1 ∉ keys aEntries ∧ row.2.1 = CString.empty
  bChecksums : ∀ row ∈ rows, row.2.2 = lastValue CString.empty bEntries row.1
  untouched : ∀ json < heap.length, heap'[json]? = heap[json]?

theorem joinArrays_outerJoins (apart : Apart pivotKey aKey bKey)
    (distinct : (keys aEntries).Nodup) (aListed : HasEntries pivotKey aKey heap a aEntries)
    (bListed : HasEntries pivotKey bKey heap b bEntries) :
    ∃ heap' joined, OuterJoins pivotKey aKey bKey heap a b aEntries bEntries heap' joined
      (outerJoin CString.empty aEntries bEntries) := by
  obtain ⟨later, joined, computed, described⟩ := joinArrays_rows apart distinct aListed bListed
  refine ⟨heap ++ later, joined, computed, described, ?_, ?_, outerJoin_keys _ _ _, ?_, ?_, ?_⟩
  · rw [outerJoin_keys]
    exact joinedKeys_nodup distinct _
  · intro name
    rw [outerJoin_keys, mem_joinedKeys]
  · intro row member
    obtain ⟨name, listed, rfl⟩ := List.mem_map.mp member
    by_cases inA : name ∈ keys aEntries
    · obtain ⟨entry, entered, rfl⟩ := List.mem_map.mp inA
      left
      dsimp only
      have found : lastValue CString.empty aEntries entry.1 = entry.2 :=
        lastValue_of_mem distinct entered
      rw [found]
      exact entered
    · exact .inr ⟨inA, lastValue_absent inA⟩
  · intro row member
    obtain ⟨name, listed, rfl⟩ := List.mem_map.mp member
    rfl
  · intro json bound
    exact List.getElem?_append_left bound

/-- The join has a row for each name of either array, and where both have distinct names the
exchanged arguments give the same rows. -/
theorem join_checksum_arrays_outer (apart : Apart pivotKey aKey bKey)
    (distinct : (keys aEntries).Nodup) (aListed : HasEntries pivotKey aKey heap a aEntries)
    (bListed : HasEntries pivotKey bKey heap b bEntries) :
    ∃ heap' joined rows,
      OuterJoins pivotKey aKey bKey heap a b aEntries bEntries heap' joined rows ∧
      ((keys bEntries).Nodup → ∃ heap' exchanged rows',
        joinArrays pivotKey heap b bKey a aKey = .ok (heap', exchanged) ∧
          HasRows pivotKey aKey bKey heap' exchanged rows' ∧ rows'.Perm rows) := by
  obtain ⟨heap', joined, joins⟩ := joinArrays_outerJoins apart distinct aListed bListed
  refine ⟨heap', joined, _, joins, fun bDistinct => ?_⟩
  obtain ⟨later, exchanged, computed, described⟩ :=
    joinArrays_rows apart.swap bDistinct bListed aListed
  refine ⟨_, exchanged, _, computed, ?_, outerJoin_swap CString.empty distinct bDistinct⟩
  rw [HasRows, List.forall₂_map_right_iff]
  refine described.imp fun json row => ?_
  rintro ⟨element, found, isRow⟩
  exact ⟨element, found, isRow.swap⟩

def listed (key : String) (entry : CString × CString) : Json :=
  .object [("filename", .string entry.1), (key, .string entry.2)]

theorem listed_carries {key : String} (different : key ≠ "filename") (entry : CString × CString) :
    Carries "filename" key (listed key entry) entry := by
  have absent : (key == "filename") = false := by simpa using different
  refine ⟨⟨_, rfl⟩, rfl, ?_⟩
  simp [listed, Json.text, Json.get, List.lookup_cons, absent]

def twoFiles : Heap :=
  [listed "fs_checksum" (CString.literal "a", CString.literal "1"),
    listed "client_checksum" (CString.literal "b", CString.literal "2")]

theorem two_files_outer_join :
    ∃ heap' joined rows,
      OuterJoins "filename" "fs_checksum" "client_checksum" twoFiles [0] [1]
        [(CString.literal "a", CString.literal "1")] [(CString.literal "b", CString.literal "2")]
        heap' joined rows ∧
      ∃ heap' exchanged rows',
        joinArrays "filename" twoFiles [1] "client_checksum" [0] "fs_checksum" =
            .ok (heap', exchanged) ∧
          HasRows "filename" "fs_checksum" "client_checksum" heap' exchanged rows' ∧
          rows'.Perm rows := by
  have apart : Apart "filename" "fs_checksum" "client_checksum" :=
    ⟨by decide, by decide, by decide⟩
  have fsListed : HasEntries "filename" "fs_checksum" twoFiles [0]
      [(CString.literal "a", CString.literal "1")] :=
    .cons ⟨_, rfl, listed_carries (by decide) _⟩ .nil
  have clientListed : HasEntries "filename" "client_checksum" twoFiles [1]
      [(CString.literal "b", CString.literal "2")] :=
    .cons ⟨_, rfl, listed_carries (by decide) _⟩ .nil
  have distinct : (keys [(CString.literal "a", CString.literal "1")]).Nodup :=
    List.nodup_singleton _
  obtain ⟨heap', joined, rows, joins, exchanged⟩ :=
    join_checksum_arrays_outer apart distinct fsListed clientListed
  exact ⟨heap', joined, rows, joins, exchanged (List.nodup_singleton _)⟩

end Librtcdc.Metadata
