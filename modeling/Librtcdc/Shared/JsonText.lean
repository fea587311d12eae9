import Mathlib.Algebra.GroupWithZero.Nat
import Mathlib.Tactic.SplitIfs
import Librtcdc.Shared.Json

set_option autoImplicit false

namespace Systems

-- The text of a JSON value, and a parser for the texts of values.

abbrev quote : UInt8 := 34
abbrev comma : UInt8 := 44
abbrev minus : UInt8 := 45
abbrev colon : UInt8 := 58
abbrev openBracket : UInt8 := 91
abbrev backslash : UInt8 := 92
abbrev closeBracket : UInt8 := 93
abbrev openBrace : UInt8 := 123
abbrev closeBrace : UInt8 := 125
abbrev blank : UInt8 := 32

def hexDigit (n : UInt8) : UInt8 :=
  if n < 10 then 48 + n else 55 + n

def hexValue (digit : UInt8) : UInt8 :=
  if digit < 58 then digit - 48 else digit - 55

def escapeLetter (b : UInt8) : Option UInt8 :=
  [(34, 34), (92, 92), (8, 98), (12, 102), (10, 110), (13, 114), (9, 116)].lookup b

def ofEscapeLetter (letter : UInt8) : Option UInt8 :=
  [(34, 34), (92, 92), (98, 8), (102, 12), (110, 10), (114, 13), (116, 9)].lookup letter

def escape (b : UInt8) : Bytes :=
  match escapeLetter b with
  | some letter => [backslash, letter]
  | none => if b < 32 then [backslash, 117, 48, 48, hexDigit (b / 16), hexDigit (b % 16)] else [b]

def quoted (text : Bytes) : Bytes :=
  quote :: text.flatMap escape ++ [quote]

inductive StringMode where
  | plain
  | escaped
  | hex (more : Nat) (value : UInt8)

-- The rest of a string after its opening quote.
def parseChars : StringMode → Bytes → Option (Bytes × Bytes)
  | _, [] => none
  | .plain, b :: rest =>
      if b = quote then some ([], rest)
      else if b = backslash then parseChars .escaped rest
      else (parseChars .plain rest).map fun (text, rest) => (b :: text, rest)
  | .escaped, letter :: rest =>
      if letter = 117 then parseChars (.hex 3 0) rest
      else
        match ofEscapeLetter letter with
        | some b => (parseChars .plain rest).map fun (text, rest) => (b :: text, rest)
        | none => none
  | .hex more value, digit :: rest =>
      let value := value * 16 + hexValue digit
      match more with
      | 0 => (parseChars .plain rest).map fun (text, rest) => (value :: text, rest)
      | more + 1 => parseChars (.hex more value) rest

theorem hexValues : ∀ b : UInt8, b < 32 →
    (((0 * 16 + hexValue 48) * 16 + hexValue 48) * 16 + hexValue (hexDigit (b / 16))) * 16 +
      hexValue (hexDigit (b % 16)) = b :=
  forall_byte (by decide +kernel)

theorem escapeLetters (b : UInt8) : ∀ letter ∈ escapeLetter b,
    letter ≠ 117 ∧ ofEscapeLetter letter = some b := by
  have each : ∀ b : UInt8, (escapeLetter b).all (fun letter =>
      decide (letter ≠ 117 ∧ ofEscapeLetter letter = some b)) = true :=
    forall_byte (by decide +kernel)
  exact fun letter found => of_decide_eq_true ((Option.all_eq_true _ _).mp (each b) letter found)

theorem plain_bytes : ∀ b : UInt8, escapeLetter b = none → b ≠ quote ∧ b ≠ backslash :=
  forall_byte (by decide +kernel)

theorem escape_nulFree : ∀ b : UInt8, 0 ∉ escape b :=
  forall_byte (by decide +kernel)

theorem parseChars_quote (rest : Bytes) : parseChars .plain (quote :: rest) = some ([], rest) :=
  rfl

theorem parseChars_backslash (rest : Bytes) :
    parseChars .plain (backslash :: rest) = parseChars .escaped rest := rfl

theorem parseChars_escape (b : UInt8) (rest : Bytes) :
    parseChars .plain (escape b ++ rest) =
      (parseChars .plain rest).map fun (text, rest) => (b :: text, rest) := by
  unfold escape
  split
  · rename_i letter short
    obtain ⟨other, back⟩ := escapeLetters b letter short
    rw [List.cons_append, parseChars_backslash, List.singleton_append, parseChars, if_neg other,
      back]
  · rename_i long
    obtain ⟨noQuote, noBackslash⟩ := plain_bytes b long
    split_ifs with control
    · have value := hexValues b control
      simp only [List.cons_append, List.nil_append, parseChars_backslash, parseChars, if_true, value]
    · rw [List.singleton_append, parseChars, if_neg noQuote, if_neg noBackslash]

theorem parseChars_quoted (text rest : Bytes) :
    parseChars .plain (text.flatMap escape ++ quote :: rest) = some (text, rest) := by
  induction text with
  | nil => exact parseChars_quote rest
  | cons b more ih => rw [List.flatMap_cons, List.append_assoc, parseChars_escape, ih]; rfl

def digits : Nat → Nat → Bytes
  | 0, _ => []
  | fuel + 1, n =>
      if n < 10 then [48 + UInt8.ofNat n] else digits fuel (n / 10) ++ [48 + UInt8.ofNat (n % 10)]

def natText (n : Nat) : Bytes :=
  digits (n + 1) n

def isDigit (b : UInt8) : Bool :=
  48 ≤ b && b ≤ 57

def takeDigits : Nat → Bytes → Nat × Bytes
  | n, [] => (n, [])
  | n, b :: rest => if isDigit b then takeDigits (n * 10 + (b.toNat - 48)) rest else (n, b :: rest)

def integerText (n : Int) : Bytes :=
  if n < 0 then minus :: natText n.natAbs else natText n.natAbs

theorem digit_value : ∀ d < 10, isDigit (48 + UInt8.ofNat d) = true ∧
    (48 + UInt8.ofNat d).toNat - 48 = d := by
  decide

theorem takeDigits_digits {fuel n : Nat} (enough : n < fuel) (start : Nat) (rest : Bytes) :
    takeDigits start (digits fuel n ++ rest) =
      takeDigits (start * 10 ^ (digits fuel n).length + n) rest := by
  induction fuel generalizing n rest with
  | zero => omega
  | succ fuel ih =>
      rw [digits]
      split_ifs with small
      · obtain ⟨digit, value⟩ := digit_value n small
        rw [List.singleton_append, takeDigits, if_pos digit, value, List.length_singleton,
          Nat.pow_one]
      · obtain ⟨digit, value⟩ := digit_value (n % 10) (by omega)
        rw [List.append_assoc, List.singleton_append, ih (by omega), takeDigits, if_pos digit, value,
          List.length_append, List.length_singleton, Nat.pow_succ]
        congr 1
        have split : n / 10 * 10 + n % 10 = n := by omega
        rw [Nat.add_mul, Nat.mul_assoc, Nat.add_assoc, split]

def EndsNumber (rest : Bytes) : Prop :=
  ∀ b ∈ rest.head?, isDigit b = false

theorem takeDigits_natText (n : Nat) {rest : Bytes} (ends : EndsNumber rest) :
    takeDigits 0 (natText n ++ rest) = (n, rest) := by
  rw [natText, takeDigits_digits (Nat.lt_succ_self n), Nat.zero_mul, Nat.zero_add]
  cases rest with
  | nil => rfl
  | cons b more => simp [takeDigits, ends b (by simp)]

theorem digits_isDigit {fuel n : Nat} : ∀ b ∈ digits fuel n, isDigit b = true := by
  induction fuel generalizing n with
  | zero => simp [digits]
  | succ fuel ih =>
      intro b member
      rw [digits] at member
      split_ifs at member with small
      · rw [List.mem_singleton.mp member]
        exact (digit_value n small).1
      · rcases List.mem_append.mp member with before | last
        · exact ih b before
        · rw [List.mem_singleton.mp last]
          exact (digit_value (n % 10) (by omega)).1

theorem natText_ne_nil (n : Nat) : natText n ≠ [] := by
  rw [natText, digits]
  split_ifs <;> simp

def keyBytes (key : String) : Bytes :=
  key.toUTF8.data.toList

def ofKeyBytes (bytes : Bytes) : Option String :=
  String.fromUTF8? ⟨bytes.toArray⟩

theorem ofKeyBytes_keyBytes (key : String) : ofKeyBytes (keyBytes key) = some key := by
  have same : (⟨(keyBytes key).toArray⟩ : ByteArray) = key.toUTF8 := rfl
  have valid : key.toUTF8.IsValidUTF8 := key.isValidUTF8
  rw [ofKeyBytes, same, String.fromUTF8?, dif_pos valid]
  rfl

mutual

def Json.print : Json → Bytes
  | .object fields => openBrace :: printFields [] fields
  | .array elements => openBracket :: printElements [] elements
  | .string text => quoted text.val
  | .integer n => integerText n
  | .other => [110, 117, 108, 108]

def Json.printFields : Bytes → List (String × Json) → Bytes
  | _, [] => [closeBrace]
  | separator, (key, value) :: rest =>
      separator ++ (quoted (keyBytes key) ++ colon :: blank ::
        (value.print ++ printFields [comma, blank] rest))

def Json.printElements : Bytes → List Json → Bytes
  | _, [] => [closeBracket]
  | separator, value :: rest =>
      separator ++ (value.print ++ printElements [comma, blank] rest)

end

def skip : Bytes → Bytes → Option Bytes
  | [], bytes => some bytes
  | _ :: _, [] => none
  | expected :: more, b :: bytes => if b = expected then skip more bytes else none

theorem skip_append (expected rest : Bytes) : skip expected (expected ++ rest) = some rest := by
  induction expected with
  | nil => rfl
  | cons b more ih => simpa [skip] using ih

mutual

def parseValue : Nat → Bytes → Option (Json × Bytes)
  | 0, _ => none
  | _ + 1, [] => none
  | fuel + 1, b :: rest =>
      if b = openBrace then
        (parseFields fuel [] rest).map fun (fields, rest) => (.object fields, rest)
      else if b = openBracket then
        (parseElements fuel [] rest).map fun (elements, rest) => (.array elements, rest)
      else if b = quote then
        match parseChars .plain rest with
        | some (text, rest) =>
            if nulFree : 0 ∉ text then some (.string ⟨text, nulFree⟩, rest) else none
        | none => none
      else if b = minus then
        let (n, rest) := takeDigits 0 rest
        some (.integer (-n), rest)
      else if isDigit b then
        let (n, rest) := takeDigits 0 (b :: rest)
        some (.integer n, rest)
      else
        (skip [110, 117, 108, 108] (b :: rest)).map fun rest => (.other, rest)

def parseFields : Nat → Bytes → Bytes → Option (List (String × Json) × Bytes)
  | 0, _, _ => none
  | fuel + 1, separator, bytes =>
      if bytes.head? = some closeBrace then
        some ([], bytes.tail)
      else do
        let bytes ← skip separator bytes
        let bytes ← skip [quote] bytes
        let (key, bytes) ← parseChars .plain bytes
        let key ← ofKeyBytes key
        let bytes ← skip [colon, blank] bytes
        let (value, bytes) ← parseValue fuel bytes
        let (fields, bytes) ← parseFields fuel [comma, blank] bytes
        return ((key, value) :: fields, bytes)

def parseElements : Nat → Bytes → Bytes → Option (List Json × Bytes)
  | 0, _, _ => none
  | fuel + 1, separator, bytes =>
      if bytes.head? = some closeBracket then
        some ([], bytes.tail)
      else do
        let bytes ← skip separator bytes
        let (value, bytes) ← parseValue fuel bytes
        let (elements, bytes) ← parseElements fuel [comma, blank] bytes
        return (value :: elements, bytes)

end

theorem endsNumber_cons {b : UInt8} {rest : Bytes} (other : isDigit b = false) :
    EndsNumber (b :: rest) := by
  simpa [EndsNumber] using other

theorem printFields_ends (fields : List (String × Json)) (rest : Bytes) :
    EndsNumber (Json.printFields [comma, blank] fields ++ rest) := by
  cases fields with
  | nil => exact endsNumber_cons (by decide)
  | cons => exact endsNumber_cons (by decide)

theorem printElements_ends (elements : List Json) (rest : Bytes) :
    EndsNumber (Json.printElements [comma, blank] elements ++ rest) := by
  cases elements with
  | nil => exact endsNumber_cons (by decide)
  | cons => exact endsNumber_cons (by decide)

theorem digit_head {n : Nat} : ∃ b rest, natText n = b :: rest ∧ isDigit b = true := by
  cases text : natText n with
  | nil => exact absurd text (natText_ne_nil n)
  | cons b rest =>
      exact ⟨b, rest, rfl, digits_isDigit b (by
        rw [natText] at text
        rw [text]
        exact List.mem_cons_self)⟩

theorem print_head (json : Json) : ∃ b rest, json.print = b :: rest ∧ b ≠ closeBracket := by
  cases json with
  | object fields => exact ⟨_, _, rfl, by decide⟩
  | array elements => exact ⟨_, _, rfl, by decide⟩
  | string text => exact ⟨_, _, rfl, by decide⟩
  | other => exact ⟨_, _, rfl, by decide⟩
  | integer n =>
      rw [Json.print, integerText]
      split_ifs
      · exact ⟨_, _, rfl, by decide⟩
      · obtain ⟨b, rest, text, digit⟩ := digit_head (n := n.natAbs)
        refine ⟨b, rest, text, ?_⟩
        rintro rfl
        exact absurd digit (by decide)

theorem digit_starts : ∀ b : UInt8, isDigit b = true →
    b ≠ openBrace ∧ b ≠ openBracket ∧ b ≠ quote ∧ b ≠ minus :=
  forall_byte (by decide +kernel)

theorem parse_integer (n : Int) {fuel : Nat} {rest : Bytes} (ends : EndsNumber rest) :
    parseValue (fuel + 1) (integerText n ++ rest) = some (.integer n, rest) := by
  unfold integerText
  split_ifs with negative
  · have value : -(n.natAbs : Int) = n := by omega
    rw [List.cons_append, parseValue, if_neg (by decide), if_neg (by decide), if_neg (by decide),
      if_pos rfl, takeDigits_natText _ ends]
    simp only [value]
  · obtain ⟨b, more, text, digit⟩ := digit_head (n := n.natAbs)
    obtain ⟨noBrace, noBracket, noQuote, noMinus⟩ := digit_starts b digit
    have value : (n.natAbs : Int) = n := by omega
    have whole := takeDigits_natText n.natAbs ends
    rw [text, List.cons_append] at whole ⊢
    rw [parseValue, if_neg noBrace, if_neg noBracket, if_neg noQuote, if_neg noMinus,
      if_pos digit, whole]
    simp only [value]

mutual

theorem parse_print : ∀ (json : Json) (fuel : Nat) (rest : Bytes), json.print.length ≤ fuel →
    EndsNumber rest → parseValue fuel (json.print ++ rest) = some (json, rest)
  | json, 0, _, enough, _ => by
      obtain ⟨b, more, text, _⟩ := print_head json
      simp [text] at enough
  | .object fields, fuel + 1, rest, enough, _ => by
      rw [Json.print] at enough ⊢
      have inner := parse_printFields fields [] fuel rest (by decide) (by simpa using enough)
      rw [List.cons_append, parseValue, if_pos rfl, inner]
      rfl
  | .array elements, fuel + 1, rest, enough, _ => by
      rw [Json.print] at enough ⊢
      have inner := parse_printElements elements [] fuel rest (by decide) (by simpa using enough)
      rw [List.cons_append, parseValue, if_neg (by decide), if_pos rfl, inner]
      rfl
  | .string text, fuel + 1, rest, _, _ => by
      have inner := parseChars_quoted text.val rest
      rw [Json.print, quoted, List.append_assoc, List.cons_append, parseValue,
        if_neg (by decide), if_neg (by decide), if_pos rfl]
      simp only [List.singleton_append, inner, dif_pos text.property]
  | .integer n, fuel + 1, rest, _, ends => by
      rw [Json.print]
      exact parse_integer n ends
  | .other, fuel + 1, rest, _, _ => by
      rw [Json.print, List.cons_append, parseValue, if_neg (by decide), if_neg (by decide),
        if_neg (by decide), if_neg (by decide), if_neg (by decide)]
      rw [← List.cons_append, skip_append]
      rfl

theorem parse_printFields : ∀ (fields : List (String × Json)) (separator : Bytes) (fuel : Nat)
    (rest : Bytes), separator.head? ≠ some closeBrace →
    (Json.printFields separator fields).length ≤ fuel →
    parseFields fuel separator (Json.printFields separator fields ++ rest) = some (fields, rest)
  | [], separator, fuel, rest, _, enough => by
      cases fuel with
      | zero => simp [Json.printFields] at enough
      | succ fuel => simp [Json.printFields, parseFields]
  | (key, value) :: more, separator, fuel, rest, starts, enough => by
      have shape : Json.printFields separator ((key, value) :: more) ++ rest =
          separator ++ ([quote] ++ ((keyBytes key).flatMap escape ++ quote ::
            ([colon, blank] ++ (value.print ++
              (Json.printFields [comma, blank] more ++ rest))))) := by
        simp [Json.printFields, quoted]
      have room : value.print.length + (Json.printFields [comma, blank] more).length + 1 ≤ fuel := by
        simp only [Json.printFields, quoted, List.length_append, List.length_cons] at enough
        omega
      cases fuel with
      | zero => omega
      | succ fuel =>
          have inner := parse_print value fuel (Json.printFields [comma, blank] more ++ rest)
            (by omega) (printFields_ends more rest)
          have later := parse_printFields more [comma, blank] fuel rest (by decide) (by omega)
          have opens : (separator ++ ([quote] ++ ((keyBytes key).flatMap escape ++ quote ::
              ([colon, blank] ++ (value.print ++
                (Json.printFields [comma, blank] more ++ rest)))))).head? ≠ some closeBrace := by
            cases separator with
            | nil => simp +decide
            | cons => simpa using starts
          rw [shape, parseFields, if_neg opens, skip_append]
          simp only [Option.bind_eq_bind, Option.bind_some, skip_append, parseChars_quoted,
            ofKeyBytes_keyBytes, inner, later]
          rfl

theorem parse_printElements : ∀ (elements : List Json) (separator : Bytes) (fuel : Nat)
    (rest : Bytes), separator.head? ≠ some closeBracket →
    (Json.printElements separator elements).length ≤ fuel →
    parseElements fuel separator (Json.printElements separator elements ++ rest) =
      some (elements, rest)
  | [], separator, fuel, rest, _, enough => by
      cases fuel with
      | zero => simp [Json.printElements] at enough
      | succ fuel => simp [Json.printElements, parseElements]
  | value :: more, separator, fuel, rest, starts, enough => by
      have shape : Json.printElements separator (value :: more) ++ rest =
          separator ++ (value.print ++ (Json.printElements [comma, blank] more ++ rest)) := by
        simp [Json.printElements]
      obtain ⟨b, text, first, notEnd⟩ := print_head value
      have positive : (Json.printElements [comma, blank] more).length ≠ 0 := by
        cases more <;> simp [Json.printElements]
      have room : value.print.length + (Json.printElements [comma, blank] more).length ≤ fuel := by
        simp only [Json.printElements, List.length_append] at enough
        omega
      cases fuel with
      | zero => omega
      | succ fuel =>
          have inner := parse_print value fuel (Json.printElements [comma, blank] more ++ rest)
            (by omega) (printElements_ends more rest)
          have later := parse_printElements more [comma, blank] fuel rest (by decide) (by
            simp only [first, List.length_cons] at room
            omega)
          have opens : (separator ++ (value.print ++
              (Json.printElements [comma, blank] more ++ rest))).head? ≠ some closeBracket := by
            cases separator with
            | nil => simpa [first] using notEnd
            | cons => simpa using starts
          rw [shape, parseElements, if_neg opens, skip_append]
          simp only [Option.bind_eq_bind, Option.bind_some, inner, later]
          rfl

end

theorem quoted_nulFree (text : Bytes) : 0 ∉ quoted text := by
  have inner : 0 ∉ text.flatMap escape := by
    intro member
    obtain ⟨b, _, here⟩ := List.mem_flatMap.mp member
    exact escape_nulFree b here
  simp +decide [quoted, inner]

theorem integerText_nulFree (n : Int) : 0 ∉ integerText n := by
  have inner : 0 ∉ natText n.natAbs := fun member =>
    absurd (digits_isDigit 0 member) (by decide)
  unfold integerText
  split_ifs <;> simp +decide [inner]

mutual

theorem print_nulFree : ∀ json : Json, 0 ∉ json.print
  | .object fields => by
      have inner := printFields_nulFree fields [] (by simp)
      simpa +decide [Json.print] using inner
  | .array elements => by
      have inner := printElements_nulFree elements [] (by simp)
      simpa +decide [Json.print] using inner
  | .string text => by simpa [Json.print] using quoted_nulFree text.val
  | .integer n => by simpa [Json.print] using integerText_nulFree n
  | .other => by simp [Json.print]

theorem printFields_nulFree : ∀ (fields : List (String × Json)) (separator : Bytes),
    0 ∉ separator → 0 ∉ Json.printFields separator fields
  | [], _, _ => by simp +decide [Json.printFields]
  | (key, value) :: more, separator, clean => by
      have first := print_nulFree value
      have later := printFields_nulFree more [comma, blank] (by decide)
      simp +decide [Json.printFields, clean, first, later, quoted_nulFree]

theorem printElements_nulFree : ∀ (elements : List Json) (separator : Bytes),
    0 ∉ separator → 0 ∉ Json.printElements separator elements
  | [], _, _ => by simp +decide [Json.printElements]
  | value :: more, separator, clean => by
      have first := print_nulFree value
      have later := printElements_nulFree more [comma, blank] (by decide)
      simp [Json.printElements, clean, first, later]

end

def Jansson.canonical : Jansson where
  loads text :=
    match parseValue text.val.length text.val with
    | some (json, []) => some json
    | _ => none
  dumps json := ⟨json.print, print_nulFree json⟩
  accepts text := (ofKeyBytes text.val).isSome
  loads_empty := rfl
  dumps_nonempty := by
    intro json empty
    obtain ⟨b, rest, text, _⟩ := print_head json
    have nothing : json.print = [] := congrArg Subtype.val empty
    rw [text] at nothing
    cases nothing

theorem Jansson.canonical_loads_dumps (json : Json) :
    canonical.loads (canonical.dumps json) = some json := by
  have whole := parse_print json json.print.length [] (Nat.le_refl _) (by simp [EndsNumber])
  rw [List.append_nil] at whole
  simp only [canonical, whole]

theorem Jansson.canonical_lossless : canonical.Lossless :=
  fun json _ => canonical_loads_dumps json

end Systems
