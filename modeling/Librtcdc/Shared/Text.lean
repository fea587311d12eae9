import Librtcdc.Shared.JsonText

set_option autoImplicit false

namespace Systems

theorem natText_nulFree (n : Nat) : 0 ∉ natText n := by
  intro member
  exact absurd (digits_isDigit 0 member) (by decide)

namespace CString

def append (a b : CString) : CString :=
  ⟨a.val ++ b.val, by simp [a.property, b.property]⟩

instance : Append CString := ⟨append⟩

@[simp] theorem append_val (a b : CString) : (a ++ b).val = a.val ++ b.val := rfl

-- `sprintf` with "%d" of a number that is not negative
def ofNat (n : Nat) : CString := ⟨natText n, natText_nulFree n⟩

def concat (texts : List CString) : CString :=
  texts.foldr append empty

@[simp] theorem concat_cons (text : CString) (rest : List CString) :
    (concat (text :: rest)).val = text.val ++ (concat rest).val := rfl

end CString

-- `skip` bytes of a delimiter are still to be passed over.
def splitFrom (delimiter : Bytes) : Nat → Bytes → Bytes → List Bytes
  | _, piece, [] => [piece]
  | skip + 1, piece, _ :: rest => splitFrom delimiter skip piece rest
  | 0, piece, b :: rest =>
      if delimiter.isPrefixOf (b :: rest) then
        piece :: splitFrom delimiter (delimiter.length - 1) [] rest
      else
        splitFrom delimiter 0 (piece ++ [b]) rest

-- `g_strsplit` without a limit; an empty string gives an empty vector.
def strsplit (text delimiter : Bytes) : List Bytes :=
  if text = [] then [] else splitFrom delimiter 0 [] text

section Split

variable {delimiter text rest piece line start : Bytes} {last : UInt8}

theorem mem_splitFrom {skip : Nat} {b : UInt8} (member : line ∈ splitFrom delimiter skip piece text)
    (byte : b ∈ line) : b ∈ piece ∨ b ∈ text := by
  induction text generalizing skip piece with
  | nil =>
      obtain rfl : line = piece := by simpa [splitFrom] using member
      exact .inl byte
  | cons c rest ih =>
      cases skip with
      | succ skip => exact (ih member).imp_right (List.mem_cons_of_mem c)
      | zero =>
          rw [splitFrom] at member
          split_ifs at member
          · rcases List.mem_cons.mp member with rfl | later
            · exact .inl byte
            · rcases ih later with nothing | inside
              · cases nothing
              · exact .inr (List.mem_cons_of_mem c inside)
          · rcases ih member with before | inside
            · rcases List.mem_append.mp before with old | new
              · exact .inl old
              · exact .inr (List.mem_cons.mpr (.inl (List.mem_singleton.mp new)))
            · exact .inr (List.mem_cons_of_mem c inside)

theorem splitFrom_ne_nil {skip : Nat} : splitFrom delimiter skip piece text ≠ [] := by
  induction text generalizing skip piece with
  | nil => simp [splitFrom]
  | cons b rest ih =>
      cases skip with
      | succ skip => exact ih
      | zero =>
          rw [splitFrom]
          split_ifs
          · exact List.cons_ne_nil _ _
          · exact ih

theorem splitFrom_clean {c : UInt8} (clean : c ∉ piece) (member : line ∈ splitFrom [c] 0 piece text) :
    c ∉ line := by
  induction text generalizing piece with
  | nil =>
      obtain rfl : line = piece := by simpa [splitFrom] using member
      exact clean
  | cons b rest ih =>
      rw [splitFrom] at member
      split_ifs at member with here
      · rcases List.mem_cons.mp member with rfl | later
        · exact clean
        · exact ih List.not_mem_nil later
      · refine ih ?_ member
        have other : c ≠ b := by simpa using here
        simp [clean, other]

theorem splitFrom_skip {skip : Nat} (exact : text.length = skip) :
    splitFrom delimiter skip piece (text ++ rest) = splitFrom delimiter 0 piece rest := by
  induction text generalizing skip with
  | nil =>
      obtain rfl : 0 = skip := exact
      rfl
  | cons b more ih =>
      obtain rfl : more.length + 1 = skip := exact
      rw [List.cons_append, splitFrom]
      exact ih rfl

theorem no_delimiter_inside (once : last ∉ start) (clean : last ∉ line) (present : line ≠ []) :
    ¬ (start ++ [last]) <+: line ++ (start ++ [last]) ++ rest := by
  intro found
  obtain ⟨after, equal⟩ := found
  have here : (line ++ (start ++ [last]) ++ rest)[start.length]? = some last := by
    rw [← equal]
    simp
  have positive := List.length_pos_iff.mpr present
  rw [List.append_assoc, List.getElem?_append] at here
  split_ifs at here with inside
  · exact clean (List.mem_of_getElem? here)
  · rw [List.append_assoc, List.getElem?_append_left (by omega)] at here
    exact once (List.mem_of_getElem? here)

theorem splitFrom_line (once : last ∉ start) (clean : last ∉ line) :
    splitFrom (start ++ [last]) 0 piece (line ++ (start ++ [last]) ++ rest) =
      (piece ++ line) :: splitFrom (start ++ [last]) 0 [] rest := by
  induction line generalizing piece with
  | nil =>
      have skipped : splitFrom (start ++ [last]) start.length [] ((start ++ [last]).tail ++ rest) =
          splitFrom (start ++ [last]) 0 [] rest := splitFrom_skip (by simp)
      cases start with
      | nil =>
          simp only [List.nil_append, List.singleton_append, List.append_nil] at skipped ⊢
          rw [splitFrom, if_pos (by simp)]
          rfl
      | cons b more =>
          simp only [List.nil_append, List.cons_append, List.append_nil, List.tail_cons] at skipped ⊢
          rw [splitFrom, if_pos (by simp)]
          simpa using skipped
  | cons b more ih =>
      rw [List.mem_cons, not_or] at clean
      have clear : last ∉ b :: more := List.not_mem_cons_of_ne_of_not_mem clean.1 clean.2
      have inside : ¬ (start ++ [last]) <+: b :: more ++ (start ++ [last]) ++ rest :=
        no_delimiter_inside once clear (List.cons_ne_nil b more)
      rw [List.cons_append, List.cons_append] at inside ⊢
      rw [splitFrom, if_neg (by simpa [List.isPrefixOf_iff_prefix] using inside),
        ih clean.2, List.append_assoc, List.singleton_append]

theorem splitFrom_last (clean : last ∉ line) :
    splitFrom (start ++ [last]) 0 piece line = [piece ++ line] := by
  induction line generalizing piece with
  | nil => simp [splitFrom]
  | cons b more ih =>
      have absent : ¬ (start ++ [last]) <+: b :: more := fun found =>
        clean (found.subset (by simp))
      rw [List.mem_cons, not_or] at clean
      rw [splitFrom, if_neg (by simpa [List.isPrefixOf_iff_prefix] using absent), ih clean.2,
        List.append_assoc, List.singleton_append]

theorem splitFrom_lines {lines : List Bytes} (once : last ∉ start)
    (clean : ∀ line ∈ lines, last ∉ line) :
    splitFrom (start ++ [last]) 0 [] (lines.flatMap (· ++ (start ++ [last])) ++ rest) =
      lines ++ splitFrom (start ++ [last]) 0 [] rest := by
  induction lines with
  | nil => rfl
  | cons line more ih =>
      rw [List.flatMap_cons, List.append_assoc, splitFrom_line once (clean line List.mem_cons_self),
        ih fun l later => clean l (List.mem_cons_of_mem _ later)]
      rfl

end Split

theorem strsplit_nulFree (text delimiter : CString) :
    ∀ piece ∈ strsplit text.val delimiter.val, 0 ∉ piece := by
  intro piece member nul
  rw [strsplit] at member
  split_ifs at member
  · cases member
  · rcases mem_splitFrom member nul with nothing | inside
    · cases nothing
    · exact text.property inside

def CString.split (text delimiter : CString) : List CString :=
  (strsplit text.val delimiter.val).pmap Subtype.mk (strsplit_nulFree text delimiter)

theorem CString.split_vals (text delimiter : CString) :
    (text.split delimiter).map Subtype.val = strsplit text.val delimiter.val := by
  rw [split, List.map_pmap]
  simp

-- `g_str_has_prefix`
def hasPrefix (text start : Bytes) : Bool :=
  start.isPrefixOf text

theorem hasPrefix_append (start rest : Bytes) : hasPrefix (start ++ rest) start = true := by
  simp [hasPrefix]

theorem hasPrefix_differs {start other : Bytes}
    (differ : start.take other.length ≠ other.take start.length) (rest : Bytes) :
    hasPrefix (other ++ rest) start = false := by
  rw [hasPrefix, Bool.eq_false_iff, ne_eq, List.isPrefixOf_iff_prefix]
  intro found
  have first : start.take other.length <+: other ++ rest := (List.take_prefix _ _).trans found
  have second : other.take start.length <+: other ++ rest :=
    (List.take_prefix _ _).trans (List.prefix_append _ _)
  have length : (start.take other.length).length = (other.take start.length).length := by
    simp [Nat.min_comm]
  exact differ (List.prefix_of_prefix_length_le first second length.le |>.eq_of_length length)

def isSpace (b : UInt8) : Bool :=
  b == 32 || (9 ≤ b && b ≤ 13)

def intMax : Nat := 2147483647

-- `none` when the number is no `int`.
def atoi (text : Bytes) : Option Int :=
  let text := text.dropWhile isSpace
  match text with
  | 45 :: rest =>
      let n := (takeDigits 0 rest).1
      if n ≤ intMax + 1 then some (-(n : Int)) else none
  | 43 :: rest =>
      let n := (takeDigits 0 rest).1
      if n ≤ intMax then some n else none
  | _ =>
      let n := (takeDigits 0 text).1
      if n ≤ intMax then some n else none

theorem digit_starts_number : ∀ b : UInt8, isDigit b = true →
    isSpace b = false ∧ b ≠ 45 ∧ b ≠ 43 :=
  forall_byte (by decide +kernel)

theorem atoi_natText {n : Nat} (small : n ≤ intMax) : atoi (natText n) = some (n : Int) := by
  obtain ⟨b, rest, text, digit⟩ := digit_head (n := n)
  obtain ⟨solid, notMinus, notPlus⟩ := digit_starts_number b digit
  have ends : EndsNumber [] := by simp [EndsNumber]
  have value : takeDigits 0 (natText n) = (n, []) := by simpa using takeDigits_natText n ends
  have kept : (natText n).dropWhile isSpace = natText n := by
    rw [text, List.dropWhile_cons, if_neg (by simp [solid])]
  unfold atoi
  simp only [kept]
  rw [text] at value ⊢
  split
  · rename_i more equal
    exact absurd (List.cons.inj equal).1 notMinus
  · rename_i more equal
    exact absurd (List.cons.inj equal).1 notPlus
  · rw [value, if_pos small]

end Systems
