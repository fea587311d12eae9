import Mathlib.Data.List.TakeWhile

set_option autoImplicit false

namespace Systems

abbrev Bytes := List UInt8

-- The text of a C string, its terminator left out.
abbrev CString := { text : Bytes // 0 ∉ text }

theorem forall_byte {P : UInt8 → Prop} (all : ∀ n < 256, P (UInt8.ofNat n)) (b : UInt8) : P b := by
  have here : P (UInt8.ofNat b.toNat) := all b.toNat b.toNat_lt
  rwa [UInt8.ofNat_toNat] at here

def CString.empty : CString := ⟨[], by simp⟩

def cText (mem : Bytes) : Bytes :=
  mem.takeWhile (· != 0)

def CString.literal (s : String) : CString := ⟨cText s.toUTF8.toList, by
  intro member
  simpa using List.mem_takeWhile_imp member⟩

theorem cText_append {s : Bytes} (nulFree : 0 ∉ s) (rest : Bytes) :
    cText (s ++ rest) = s ++ cText rest := by
  refine List.takeWhile_append_of_pos fun b member => ?_
  simpa using ne_of_mem_of_not_mem member nulFree

@[simp] theorem cText_of_nulFree {s : Bytes} (nulFree : 0 ∉ s) : cText s = s := by
  simpa [cText] using cText_append nulFree []

theorem cText_append_zeros (s : Bytes) (n : Nat) : cText (s ++ List.replicate n 0) = cText s := by
  induction s with
  | nil => simp [cText]
  | cons b rest ih =>
      by_cases nul : b = 0
      · simp [cText, nul]
      · simpa [cText, nul] using ih

theorem cText_nulFree (mem : Bytes) : 0 ∉ cText mem := by
  intro member
  simpa using List.mem_takeWhile_imp member

theorem cText_length_le (s : Bytes) : (cText s).length ≤ s.length :=
  (List.takeWhile_prefix _).length_le

theorem cText_length_lt {s : Bytes} (nul : 0 ∈ s) : (cText s).length < s.length := by
  refine Nat.lt_of_le_of_ne (cText_length_le s) fun same => ?_
  have whole : cText s = s := (List.takeWhile_prefix _).eq_of_length same
  exact cText_nulFree s (by rwa [whole])

-- `mem` runs from the argument to the end of its object; `none` is a read past that end.
def strndup (mem : Bytes) (n : Nat) : Option Bytes :=
  if n ≤ mem.length ∨ 0 ∈ mem then some (cText (mem.take n)) else none

theorem strndup_append {s : Bytes} (nulFree : 0 ∉ s) (rest : Bytes) :
    strndup (s ++ rest) s.length = some s := by
  simp [strndup, nulFree]

def le16 (x : UInt16) : Bytes :=
  [UInt8.ofNat (x.toNat % 256), UInt8.ofNat (x.toNat / 256)]

def ofLe16 (a b : UInt8) : UInt16 :=
  UInt16.ofNat (a.toNat + 256 * b.toNat)

def le32 (x : UInt32) : Bytes :=
  [UInt8.ofNat (x.toNat % 256), UInt8.ofNat (x.toNat / 256 % 256),
    UInt8.ofNat (x.toNat / 65536 % 256), UInt8.ofNat (x.toNat / 16777216)]

def ofLe32 (a b c d : UInt8) : UInt32 :=
  UInt32.ofNat (a.toNat + 256 * b.toNat + 65536 * c.toNat + 16777216 * d.toNat)

def be16 (x : UInt16) : Bytes :=
  [UInt8.ofNat (x.toNat / 256), UInt8.ofNat (x.toNat % 256)]

def be32 (x : UInt32) : Bytes :=
  [UInt8.ofNat (x.toNat / 16777216), UInt8.ofNat (x.toNat / 65536 % 256),
    UInt8.ofNat (x.toNat / 256 % 256), UInt8.ofNat (x.toNat % 256)]

def swap16 (n : Nat) : Nat :=
  n % 256 * 256 + n / 256

def swap32 (n : Nat) : Nat :=
  n % 256 * 16777216 + n / 256 % 256 * 65536 + n / 65536 % 256 * 256 + n / 16777216

def htons (x : UInt16) : UInt16 := UInt16.ofNat (swap16 x.toNat)

def ntohs (x : UInt16) : UInt16 := htons x

def htonl (x : UInt32) : UInt32 := UInt32.ofNat (swap32 x.toNat)

def ntohl (x : UInt32) : UInt32 := htonl x

theorem ofLe16_le16 (x : UInt16) :
    ofLe16 (UInt8.ofNat (x.toNat % 256)) (UInt8.ofNat (x.toNat / 256)) = x := by
  have bound := x.toNat_lt
  apply UInt16.toNat_inj.mp
  simp only [ofLe16, UInt16.toNat_ofNat', UInt8.toNat_ofNat']
  omega

theorem ofLe32_le32 (x : UInt32) :
    ofLe32 (UInt8.ofNat (x.toNat % 256)) (UInt8.ofNat (x.toNat / 256 % 256))
      (UInt8.ofNat (x.toNat / 65536 % 256)) (UInt8.ofNat (x.toNat / 16777216)) = x := by
  have bound := x.toNat_lt
  apply UInt32.toNat_inj.mp
  simp only [ofLe32, UInt32.toNat_ofNat', UInt8.toNat_ofNat']
  omega

theorem swap16_digits {a b : Nat} (low : a < 256) : swap16 (a + 256 * b) = a * 256 + b := by
  unfold swap16
  omega

theorem swap16_lt {n : Nat} (bound : n < 65536) : swap16 n < 65536 := by
  unfold swap16
  omega

theorem swap16_swap16 {n : Nat} (bound : n < 65536) : swap16 (swap16 n) = n := by
  have swapped : swap16 n = n / 256 + 256 * (n % 256) := by
    simp only [swap16]
    omega
  rw [swapped, swap16_digits (by omega)]
  omega

theorem swap32_digits {a b c d : Nat} (ha : a < 256) (hb : b < 256) (hc : c < 256) :
    swap32 (a + 256 * b + 65536 * c + 16777216 * d) =
      a * 16777216 + b * 65536 + c * 256 + d := by
  have first : (a + 256 * b + 65536 * c + 16777216 * d) % 256 = a := by omega
  have second : (a + 256 * b + 65536 * c + 16777216 * d) / 256 % 256 = b := by omega
  have third : (a + 256 * b + 65536 * c + 16777216 * d) / 65536 % 256 = c := by omega
  have fourth : (a + 256 * b + 65536 * c + 16777216 * d) / 16777216 = d := by omega
  rw [swap32, first, second, third, fourth]

theorem swap32_lt {n : Nat} (bound : n < 4294967296) : swap32 n < 4294967296 := by
  unfold swap32
  omega

theorem swap32_swap32 {n : Nat} (bound : n < 4294967296) : swap32 (swap32 n) = n := by
  have swapped : swap32 n = n / 16777216 + 256 * (n / 65536 % 256) +
      65536 * (n / 256 % 256) + 16777216 * (n % 256) := by
    simp only [swap32]
    omega
  rw [swapped, swap32_digits (by omega) (by omega) (by omega)]
  have upper : n / 16777216 = n / 65536 / 256 := by rw [Nat.div_div_eq_div_mul]
  have middle : n / 65536 = n / 256 / 256 := by rw [Nat.div_div_eq_div_mul]
  omega

@[simp] theorem ntohs_htons (x : UInt16) : ntohs (htons x) = x := by
  apply UInt16.toNat_inj.mp
  simp only [ntohs, htons, UInt16.toNat_ofNat']
  rw [Nat.mod_eq_of_lt (swap16_lt x.toNat_lt), swap16_swap16 x.toNat_lt,
    Nat.mod_eq_of_lt x.toNat_lt]

@[simp] theorem ntohl_htonl (x : UInt32) : ntohl (htonl x) = x := by
  apply UInt32.toNat_inj.mp
  simp only [ntohl, htonl, UInt32.toNat_ofNat']
  rw [Nat.mod_eq_of_lt (swap32_lt x.toNat_lt), swap32_swap32 x.toNat_lt,
    Nat.mod_eq_of_lt x.toNat_lt]

theorem le16_htons (x : UInt16) : le16 (htons x) = be16 x := by
  have bound := x.toNat_lt
  have swapped : (htons x).toNat = swap16 x.toNat := by
    rw [htons, UInt16.toNat_ofNat', Nat.mod_eq_of_lt (swap16_lt bound)]
  have low : swap16 x.toNat % 256 = x.toNat / 256 := by
    unfold swap16
    omega
  have high : swap16 x.toNat / 256 = x.toNat % 256 := by
    unfold swap16
    omega
  rw [le16, be16, swapped, low, high]

theorem digits32 {a b c d : Nat} (hb : b < 256) (hc : c < 256) (hd : d < 256) :
    (a * 16777216 + b * 65536 + c * 256 + d) % 256 = d ∧
      (a * 16777216 + b * 65536 + c * 256 + d) / 256 % 256 = c ∧
      (a * 16777216 + b * 65536 + c * 256 + d) / 65536 % 256 = b ∧
      (a * 16777216 + b * 65536 + c * 256 + d) / 16777216 = a := by
  omega

theorem le32_htonl (x : UInt32) : le32 (htonl x) = be32 x := by
  have bound := x.toNat_lt
  have swapped : (htonl x).toNat = swap32 x.toNat := by
    rw [htonl, UInt32.toNat_ofNat', Nat.mod_eq_of_lt (swap32_lt bound)]
  have top : x.toNat / 16777216 < 256 := by omega
  obtain ⟨first, second, third, fourth⟩ :=
    digits32 (a := x.toNat % 256) (Nat.mod_lt (x.toNat / 256) (by decide))
      (Nat.mod_lt (x.toNat / 65536) (by decide)) top
  rw [le32, be32, swapped, swap32, first, second, third, fourth]

@[simp] theorem htons_zero : htons 0 = 0 := by decide

theorem htons_eq_zero {x : UInt16} : htons x = 0 ↔ x = 0 := by
  constructor
  · intro zero
    have same := congrArg ntohs zero
    rw [ntohs_htons] at same
    exact same
  · rintro rfl
    exact htons_zero

end Systems
