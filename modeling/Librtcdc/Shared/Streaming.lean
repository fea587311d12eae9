import Librtcdc.Shared.Bytes

set_option autoImplicit false

namespace Systems

-- A hash that takes its input in pieces.
structure StreamingHash (size : Nat) where
  Ctx : Type
  init : Ctx
  update : Ctx → Bytes → Ctx
  final : Ctx → Vector UInt8 size
  update_nil : ∀ ctx, update ctx [] = ctx
  update_append : ∀ ctx first second,
    update (update ctx first) second = update ctx (first ++ second)

namespace StreamingHash

variable {size : Nat}

def digest (hash : StreamingHash size) (text : Bytes) : Vector UInt8 size :=
  hash.final (hash.update hash.init text)

theorem update_pieces (hash : StreamingHash size) (pieces : List Bytes) (ctx : hash.Ctx) :
    pieces.foldl hash.update ctx = hash.update ctx pieces.flatten := by
  induction pieces generalizing ctx with
  | nil => exact (hash.update_nil ctx).symm
  | cons piece rest ih => rw [List.foldl_cons, ih, hash.update_append, List.flatten_cons]

def detecting (size : Nat) (text : Bytes) : StreamingHash size where
  Ctx := Bytes
  init := []
  update := fun seen piece => seen ++ piece
  final := fun seen => Vector.replicate size (if seen = text then 1 else 0)
  update_nil := List.append_nil
  update_append := List.append_assoc

theorem detecting_digest (text other : Bytes) :
    (detecting size text).digest other =
      Vector.replicate size (if other = text then 1 else 0) := rfl

end StreamingHash

-- `sprintf` with "%02x"
def hexByte (b : UInt8) : Bytes :=
  let digit (n : UInt8) : UInt8 := if n < 10 then 48 + n else 87 + n
  [digit (b / 16), digit (b % 16)]

theorem hexByte_nulFree (b : UInt8) : 0 ∉ hexByte b :=
  forall_byte (P := fun b => 0 ∉ hexByte b) (by decide +kernel) b

def hexText {size : Nat} (digest : Vector UInt8 size) : CString :=
  ⟨digest.toList.flatMap hexByte, by
    intro member
    obtain ⟨b, _, nul⟩ := List.mem_flatMap.mp member
    exact hexByte_nulFree b nul⟩

end Systems
