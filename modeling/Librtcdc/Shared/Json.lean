import Mathlib.Data.List.Forall2
import Mathlib.Tactic.SplitIfs
import Librtcdc.Shared.Bytes

set_option autoImplicit false

namespace Systems

-- Reals, booleans and null are told apart by no program here.
inductive Json where
  | object (fields : List (String × Json))
  | array (elements : List Json)
  | string (text : CString)
  | integer (n : Int)
  | other

namespace Json

def get : Json → String → Option Json
  | .object fields, key => fields.lookup key
  | _, _ => none

-- The value of a key is replaced where it stands, a new key comes last.
def set : Json → String → Json → Json
  | .object fields, key, value =>
      if (fields.lookup key).isSome then
        .object (fields.map fun field => if field.1 = key then (key, value) else field)
      else
        .object (fields ++ [(key, value)])
  | json, _, _ => json

-- What `json_array_foreach` visits; NULL and values that are no arrays have no elements.
def elements : Option Json → List Json
  | some (.array elements) => elements
  | _ => []

def stringValue : Option Json → Option CString
  | some (.string text) => some text
  | _ => none

def text (json : Json) (key : String) : Option CString :=
  stringValue (json.get key)

inductive Format where
  | s | i
  deriving DecidableEq, Repr

-- `i` stores into an `int`.
def unpackAs : Format → Json → Option Json
  | .s, .string text => some (.string text)
  | .i, .integer n => some (.integer (n.bmod 4294967296))
  | _, _ => none

def unpack (json : Json) : List (String × Format) → List (Option Json) → List (Option Json)
  | (key, format) :: more, old :: olds =>
      match (json.get key).bind (unpackAs format) with
      | some value => some value :: unpack json more olds
      | none => old :: olds
  | _, olds => olds

end Json

structure Jansson where
  loads : CString → Option Json
  dumps : Json → CString
  -- whether `json_string` takes the text, which has to be UTF-8
  accepts : CString → Bool
  loads_empty : loads CString.empty = none
  dumps_nonempty : ∀ json, dumps json ≠ CString.empty

variable {J : Jansson} {json value : Json} {key other : String} {fields : List (String × Json)}
  {text : CString} {format : List (String × Json.Format)} {values : List Json}

@[simp] theorem Json.get_object (fields : List (String × Json)) :
    (Json.object fields).get key = fields.lookup key := rfl

@[simp] theorem Json.elements_array (es : List Json) : elements (some (.array es)) = es := rfl

@[simp] theorem Json.stringValue_string (t : CString) : stringValue (some (.string t)) = some t :=
  rfl

theorem Json.text_eq_some : json.text key = some text ↔ json.get key = some (.string text) := by
  unfold Json.text Json.stringValue
  split <;> simp_all

theorem lookup_map_other (different : other ≠ key) :
    (fields.map fun field => if field.1 = key then (key, value) else field).lookup other =
      fields.lookup other := by
  induction fields with
  | nil => rfl
  | cons field rest ih =>
      obtain ⟨name, old⟩ := field
      by_cases here : name = key
      · have absent : (other == key) = false := by simpa using different
        simp [List.lookup_cons, here, absent, ih]
      · simp [List.lookup_cons, here, ih]

theorem lookup_map_same (present : (fields.lookup key).isSome) :
    (fields.map fun field => if field.1 = key then (key, value) else field).lookup key =
      some value := by
  induction fields with
  | nil => simp at present
  | cons field rest ih =>
      obtain ⟨name, old⟩ := field
      by_cases here : name = key
      · simp [here]
      · have absent : (key == name) = false := by simpa using Ne.symm here
        rw [List.lookup_cons, absent] at present
        simp [List.lookup_cons, here, absent, ih present]

theorem Json.get_set_same : ((Json.object fields).set key value).get key = some value := by
  rw [Json.set]
  split_ifs with present
  · exact lookup_map_same present
  · have absent : fields.lookup key = none := Option.not_isSome_iff_eq_none.mp present
    simp [List.lookup_append, absent]

theorem Json.get_set_other (different : other ≠ key) :
    ((Json.object fields).set key value).get other = (Json.object fields).get other := by
  have absent : (other == key) = false := by simpa using different
  rw [Json.set]
  split_ifs
  · exact lookup_map_other different
  · simp [List.lookup_append, List.lookup_cons, absent]

theorem Json.text_set_same :
    ((Json.object fields).set key (.string text)).text key = some text := by
  rw [text_eq_some, get_set_same]

theorem Json.text_set_other (different : other ≠ key) :
    ((Json.object fields).set key value).text other = (Json.object fields).text other := by
  rw [Json.text, Json.text, get_set_other different]

theorem Json.set_object : ∃ fields', (Json.object fields).set key value = .object fields' := by
  rw [Json.set]
  split_ifs <;> exact ⟨_, rfl⟩

def Json.Fills (json : Json) : List (String × Format) → List Json → Prop :=
  List.Forall₂ fun key value => (json.get key.1).bind (unpackAs key.2) = some value

theorem Json.unpack_fills {vars : List (Option Json)} (fills : json.Fills format values)
    (enough : vars.length = format.length) : json.unpack format vars = values.map some := by
  induction fills generalizing vars with
  | nil => simpa [Json.unpack] using enough
  | cons found _ ih =>
      cases vars with
      | nil => simp at enough
      | cons old olds => simp [Json.unpack, found, ih (by simpa using enough)]

theorem Json.fills_string (found : json.text key = some text) :
    (json.get key).bind (unpackAs .s) = some (.string text) := by
  rw [Json.text_eq_some.mp found]
  rfl

inductive Jansson.Holds (J : Jansson) : Json → Prop
  | object {fields : List (String × Json)} (distinct : (fields.map Prod.fst).Nodup)
      (values : ∀ field ∈ fields, J.Holds field.2) : J.Holds (.object fields)
  | array {elements : List Json} (values : ∀ element ∈ elements, J.Holds element) :
      J.Holds (.array elements)
  | string {text : CString} (accepted : J.accepts text = true) : J.Holds (.string text)
  | integer {n : Int} (low : -9223372036854775808 ≤ n) (high : n < 9223372036854775808) :
      J.Holds (.integer n)

/-- What the library writes it reads back. -/
def Jansson.Lossless (J : Jansson) : Prop :=
  ∀ json, J.Holds json → J.loads (J.dumps json) = some json

@[simp] theorem Jansson.holds_object : J.Holds (.object fields) ↔
    (fields.map Prod.fst).Nodup ∧ ∀ field ∈ fields, J.Holds field.2 := by
  constructor
  · rintro (⟨distinct, values⟩)
    exact ⟨distinct, values⟩
  · rintro ⟨distinct, values⟩
    exact .object distinct values

@[simp] theorem Jansson.holds_array : J.Holds (.array values) ↔
    ∀ element ∈ values, J.Holds element := by
  constructor
  · rintro (⟨⟩ | ⟨values⟩)
    exact values
  · exact .array

@[simp] theorem Jansson.holds_string : J.Holds (.string text) ↔ J.accepts text = true := by
  constructor
  · rintro (⟨⟩ | ⟨⟩ | ⟨accepted⟩)
    exact accepted
  · exact .string

theorem Jansson.Holds.get (holds : J.Holds json) (found : json.get key = some value) :
    J.Holds value := by
  cases json with
  | object fields =>
      obtain ⟨before, after, rfl, _⟩ := List.lookup_eq_some_iff.mp found
      exact (Jansson.holds_object.mp holds).2 (key, value) (by simp)
  | _ => cases found

theorem Jansson.Holds.elements {array : Option Json} (holds : ∀ json ∈ array, J.Holds json) :
    ∀ element ∈ Json.elements array, J.Holds element := by
  unfold Json.elements
  split
  · exact Jansson.holds_array.mp (holds _ rfl)
  · exact fun _ member => absurd member List.not_mem_nil

theorem Jansson.Holds.set (holds : J.Holds json) (fits : J.Holds value) :
    J.Holds (json.set key value) := by
  cases json with
  | object fields =>
      obtain ⟨distinct, values⟩ := Jansson.holds_object.mp holds
      rw [Json.set]
      split_ifs with present
      · have names : (fields.map fun field => if field.1 = key then (key, value) else field).map
            Prod.fst = fields.map Prod.fst := by
          rw [List.map_map]
          apply List.map_congr_left
          intro field _
          by_cases same : field.1 = key <;> simp [same]
        refine Jansson.holds_object.mpr ⟨names ▸ distinct, fun field member => ?_⟩
        obtain ⟨old, listed, rfl⟩ := List.mem_map.mp member
        split_ifs
        · exact fits
        · exact values old listed
      · rw [Option.not_isSome_iff_eq_none, List.lookup_eq_none_iff] at present
        have absent : ∀ field ∈ fields, field.1 ≠ key := fun field listed same => by
          simpa [same] using present field listed
        refine Jansson.holds_object.mpr ⟨?_, fun field member => ?_⟩
        · rw [List.map_append, List.nodup_append]
          refine ⟨distinct, by simp, ?_⟩
          rintro name member _ only rfl
          obtain ⟨field, listed, rfl⟩ := List.mem_map.mp member
          exact absent field listed (by simpa using only)
        · rcases List.mem_append.mp member with old | added
          · exact values field old
          · obtain rfl := List.mem_singleton.mp added
            exact fits
  | _ => exact holds

end Systems
