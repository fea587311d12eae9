import Librtcdc.Shared.JsonText

set_option autoImplicit false

namespace Systems

variable {J : Jansson} {key : String} {json : Json} {text : CString}

def Jansson.Prints (J : Jansson) : Prop :=
  ∀ json, J.Holds json → (J.dumps json).val = json.print

theorem Jansson.canonical_prints : canonical.Prints := fun _ _ => rfl

def Json.size (json : Json) : Nat :=
  json.print.length

def CString.size (text : CString) : Nat :=
  (Json.string text).size

def keySize (key : String) : Nat :=
  (quoted (keyBytes key)).length

def fieldSize (field : String × Json) : Nat :=
  keySize field.1 + field.2.size + 2

theorem Jansson.Prints.length (prints : J.Prints) (holds : J.Holds json) :
    (J.dumps json).val.length = json.size :=
  congrArg List.length (prints json holds)

theorem escape_length_le : ∀ b : UInt8, (escape b).length ≤ 6 :=
  forall_byte (by decide +kernel)

theorem flatMap_escape_length_le (text : Bytes) : (text.flatMap escape).length ≤ 6 * text.length := by
  induction text with
  | nil => exact Nat.le_refl 0
  | cons b rest ih =>
      have here := escape_length_le b
      rw [List.flatMap_cons, List.length_append, List.length_cons]
      omega

theorem CString.size_le (text : CString) : text.size ≤ 6 * text.val.length + 2 := by
  have inside := flatMap_escape_length_le text.val
  simp only [CString.size, Json.size, Json.print, quoted, List.length_append, List.length_cons,
    List.length_nil]
  omega

@[simp] theorem Json.size_string (text : CString) : (Json.string text).size = text.size := rfl

theorem printElements_length (elements : List Json) :
    (Json.printElements [comma, blank] elements).length =
      (elements.map fun element => element.size + 2).sum + 1 := by
  induction elements with
  | nil => rfl
  | cons element rest ih =>
      simp only [Json.printElements, List.length_append, List.length_cons, List.length_nil, ih,
        List.map_cons, List.sum_cons, Json.size]
      omega

theorem Json.size_array (elements : List Json) :
    (Json.array elements).size = max 2 (elements.map fun element => element.size + 2).sum := by
  cases elements with
  | nil => rfl
  | cons element rest =>
      have later := printElements_length rest
      simp only [Json.size, Json.print, Json.printElements, List.nil_append, List.length_append,
        List.length_cons, List.map_cons, List.sum_cons, later]
      omega

theorem printFields_length (fields : List (String × Json)) :
    (Json.printFields [comma, blank] fields).length =
      (fields.map fun field => fieldSize field + 2).sum + 1 := by
  induction fields with
  | nil => rfl
  | cons field rest ih =>
      simp only [Json.printFields, List.length_append, List.length_cons, List.length_nil, ih,
        List.map_cons, List.sum_cons, fieldSize, keySize, Json.size]
      omega

theorem Json.size_object (fields : List (String × Json)) :
    (Json.object fields).size = max 2 (fields.map fun field => fieldSize field + 2).sum := by
  cases fields with
  | nil => rfl
  | cons field rest =>
      have later := printFields_length rest
      simp only [Json.size, Json.print, Json.printFields, List.nil_append, List.length_append,
        List.length_cons, List.map_cons, List.sum_cons, later, fieldSize, keySize]
      omega

end Systems
