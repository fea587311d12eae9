import Librtcdc.Shared.Bytes

set_option autoImplicit false

namespace Systems

def newline : UInt8 := 10

-- A file open for reading: the bytes still to come and the end-of-file indicator.
structure Stream where
  rest : Bytes
  eof : Bool
  deriving DecidableEq, Repr

def fopen (content : Bytes) : Stream where
  rest := content
  eof := false

def takeLine : Nat → Bytes → Bytes
  | 0, _ => []
  | _ + 1, [] => []
  | n + 1, b :: rest => if b = newline then [b] else b :: takeLine n rest

@[simp] theorem takeLine_nil (n : Nat) : takeLine n [] = [] := by
  cases n <;> rfl

-- Whether a read of at most `n` bytes of one line runs into the end of the file.
def hitsEnd : Nat → Bytes → Bool
  | 0, _ => false
  | _ + 1, [] => true
  | n + 1, b :: rest => if b = newline then false else hitsEnd n rest

-- `none` is the NULL that `fgets` returns when it reads nothing.
def fgets (size : Nat) (f : Stream) : Option (Bytes × Stream) :=
  match takeLine (size - 1) f.rest with
  | [] => none
  | piece =>
      some (piece, { rest := f.rest.drop piece.length, eof := f.eof || hitsEnd (size - 1) f.rest })

def pieces (limit : Nat) : Nat → Bytes → List Bytes
  | _, [] => []
  | room, b :: rest =>
      if b = newline ∨ room ≤ 1 then [b] :: pieces limit limit rest
      else
        match pieces limit (room - 1) rest with
        | [] => [[b]]
        | piece :: more => (b :: piece) :: more

variable {limit room n : Nat} {content piece : Bytes} {b : UInt8}

@[simp] theorem pieces_nil : pieces limit room [] = [] := rfl

theorem pieces_flatten : (pieces limit room content).flatten = content := by
  induction content generalizing room with
  | nil => rfl
  | cons b rest ih =>
      rw [pieces]
      split_ifs
      · simp [ih]
      · have later : (pieces limit (room - 1) rest).flatten = rest := ih
        split <;> rename_i equal <;> rw [equal] at later <;> simp [← later]

theorem pieces_nonempty : ∀ piece ∈ pieces limit room content, piece ≠ [] := by
  induction content generalizing room with
  | nil => simp
  | cons b rest ih =>
      rw [pieces]
      split_ifs
      · simpa using ih
      · have later : ∀ piece ∈ pieces limit (room - 1) rest, piece ≠ [] := ih
        split <;> simp_all

theorem pieces_cons (present : content ≠ []) :
    pieces limit (n + 1) content =
      takeLine (n + 1) content ::
        pieces limit limit (content.drop (takeLine (n + 1) content).length) := by
  induction content generalizing n with
  | nil => exact absurd rfl present
  | cons b rest ih =>
      rw [pieces, takeLine]
      by_cases stop : b = newline
      · simp [stop]
      · cases n with
        | zero => simp [stop, takeLine]
        | succ n =>
            rw [if_neg (by simp [stop]), if_neg stop, Nat.add_sub_cancel]
            by_cases last : rest = []
            · simp [last]
            · simp [ih last]

theorem takeLine_present (present : content ≠ []) : takeLine (n + 1) content ≠ [] := by
  cases content with
  | nil => exact absurd rfl present
  | cons b rest =>
      rw [takeLine]
      split_ifs <;> simp

theorem drop_of_hitsEnd (ends : hitsEnd n content = true) :
    content.drop (takeLine n content).length = [] := by
  induction content generalizing n with
  | nil => simp
  | cons b rest ih =>
      cases n with
      | zero => simp [hitsEnd] at ends
      | succ n =>
          rw [hitsEnd] at ends
          split_ifs at ends with stop
          simp [takeLine, stop, ih ends]

theorem fgets_some {size : Nat} {f next : Stream} (got : fgets size f = some (piece, next)) :
    piece = takeLine (size - 1) f.rest ∧ piece ≠ [] ∧
      next = { rest := f.rest.drop piece.length, eof := f.eof || hitsEnd (size - 1) f.rest } := by
  unfold fgets at got
  split at got
  · cases got
  · rename_i present
    obtain ⟨rfl, rfl⟩ := Prod.mk.inj (Option.some.inj got)
    exact ⟨rfl, present, rfl⟩

theorem fgets_none {f : Stream} (got : fgets (n + 2) f = none) : f.rest = [] := by
  by_contra present
  have line := takeLine_present (n := n) present
  unfold fgets at got
  split at got
  · rename_i empty
    exact line empty
  · cases got

theorem fgets_shorter {size : Nat} {f next : Stream} (got : fgets size f = some (piece, next)) :
    next.rest.length < f.rest.length := by
  obtain ⟨line, present, rfl⟩ := fgets_some got
  have positive := List.length_pos_iff.mpr present
  have something : f.rest ≠ [] := by
    intro empty
    rw [empty] at line
    exact present (line.trans (takeLine_nil _))
  have rest := List.length_pos_iff.mpr something
  simp only [List.length_drop]
  omega

end Systems
