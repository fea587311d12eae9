import Librtcdc.Shared.Stores
import Librtcdc.Peer.Sdp

set_option autoImplicit false

namespace Librtcdc

open Systems

-- dtls.h

def sha256FingerprintSize : Nat := 95 + 1

-- dtls.c

-- What `snprintf` stores of a text when it may use `size` bytes, one of them for the terminator.
def snprintf (p size : Nat) (text : Bytes) : List (Nat × UInt8) :=
  if size = 0 then [] else storesAt p (text.take (size - 1) ++ [0])

-- "%02X:"
def hexPair (b : UInt8) : Bytes :=
  [hexDigit (b / 16), hexDigit (b % 16), colon]

-- The cells are counted from the start of `context->fingerprint`.
structure FingerprintLoop where
  p : Nat
  stores : List (Nat × UInt8)
  deriving DecidableEq, Repr

def FingerprintLoop.step (loop : FingerprintLoop) (b : UInt8) : FingerprintLoop where
  p := loop.p + 3
  stores := loop.stores ++ snprintf loop.p 4 (hexPair b)

def FingerprintLoop.run (buf : List UInt8) : FingerprintLoop :=
  buf.foldl FingerprintLoop.step { p := 0, stores := [] }

-- Every byte that `create_dtls_context` stores through `p`, in order.
def fingerprintStores (digest : Vector UInt8 32) : List (Nat × UInt8) :=
  let loop := FingerprintLoop.run digest.toList
  loop.stores ++ [(loop.p - 1, 0)]

def fingerprintLeft (memory : Nat → UInt8) (digest : Vector UInt8 32) : Bytes :=
  cText (load (storeAll memory (fingerprintStores digest)) 0 sha256FingerprintSize)

theorem snprintf_hexPair (p : Nat) (b : UInt8) :
    snprintf p 4 (hexPair b) = storesAt p (hexPair b ++ [0]) := rfl

theorem FingerprintLoop.run_append (buf : List UInt8) (b : UInt8) :
    FingerprintLoop.run (buf ++ [b]) = (FingerprintLoop.run buf).step b := by
  simp [FingerprintLoop.run]

theorem FingerprintLoop.run_p (buf : List UInt8) :
    (FingerprintLoop.run buf).p = 3 * buf.length := by
  induction buf using List.reverseRecOn with
  | nil => rfl
  | append_singleton buf b ih =>
      rw [run_append, List.length_append, List.length_singleton]
      change (FingerprintLoop.run buf).p + 3 = _
      omega

theorem FingerprintLoop.run_cells {buf : List UInt8} :
    ∀ store ∈ (FingerprintLoop.run buf).stores, store.1 ≤ 3 * buf.length := by
  induction buf using List.reverseRecOn with
  | nil =>
      intro store member
      cases member
  | append_singleton buf b ih =>
      intro store member
      rw [run_append, step, snprintf_hexPair, run_p] at member
      rw [List.length_append, List.length_singleton]
      rcases List.mem_append.mp member with earlier | last
      · have bound := ih store earlier
        omega
      · have bound := (mem_storesAt last).2
        simp only [hexPair, List.cons_append, List.nil_append, List.length_cons,
          List.length_nil] at bound
        omega

theorem FingerprintLoop.run_text (memory : Nat → UInt8) (buf : List UInt8) :
    load (storeAll memory (FingerprintLoop.run buf).stores) 0 (3 * buf.length) =
      buf.flatMap hexPair := by
  induction buf using List.reverseRecOn with
  | nil => rfl
  | append_singleton buf b ih =>
      let before := storeAll memory (FingerprintLoop.run buf).stores
      have stored : storeAll memory (FingerprintLoop.run (buf ++ [b])).stores =
          storeAll before (storesAt (3 * buf.length) (hexPair b ++ [0])) := by
        rw [run_append, step, snprintf_hexPair, run_p, storeAll_append]
      have earlier : load (storeAll before (storesAt (3 * buf.length) (hexPair b ++ [0]))) 0
          (3 * buf.length) = buf.flatMap hexPair := by
        rw [load_before before _ (Nat.zero_add _).le]
        exact ih
      have last : load (storeAll before (storesAt (3 * buf.length) (hexPair b ++ [0])))
          (3 * buf.length) 3 = hexPair b := by
        have whole := load_storesAt before (3 * buf.length) (hexPair b ++ [0])
        have lengths : (hexPair b ++ [0]).length = 3 + 1 := rfl
        rw [lengths, load_append] at whole
        exact (List.append_inj whole rfl).1
      rw [stored, List.length_append, List.length_singleton, Nat.mul_add, load_append,
        Nat.zero_add, earlier, last, List.flatMap_append, List.flatMap_singleton]

theorem length_flatMap_hexPair (buf : List UInt8) :
    (buf.flatMap hexPair).length = 3 * buf.length := by
  induction buf with
  | nil => rfl
  | cons b rest ih =>
      rw [List.flatMap_cons, List.length_append, ih, List.length_cons]
      change 3 + _ = _
      omega

variable {digest : Vector UInt8 32}

theorem run_p_digest (digest : Vector UInt8 32) :
    (FingerprintLoop.run digest.toList).p = 96 := by
  rw [FingerprintLoop.run_p, Vector.length_toList]

theorem last_turn (digest : Vector UInt8 32) :
    ∃ (buf : List UInt8) (b : UInt8), digest.toList = buf ++ [b] ∧ buf.length = 31 := by
  have length := digest.length_toList
  rcases List.eq_nil_or_concat digest.toList with empty | ⟨buf, b, whole⟩
  · rw [empty] at length
    cases length
  · refine ⟨buf, b, by rw [whole, List.concat_eq_append], ?_⟩
    rw [whole, List.length_concat] at length
    omega

theorem fingerprintStores_outside :
    ((96, 0) : Nat × UInt8) ∈ fingerprintStores digest ∧
      ∀ store ∈ fingerprintStores digest, sha256FingerprintSize ≤ store.1 → store = (96, 0) := by
  obtain ⟨buf, b, whole, length⟩ := last_turn digest
  have stores : fingerprintStores digest =
      ((FingerprintLoop.run buf).stores ++ storesAt 93 (hexPair b ++ [0])) ++ [(95, 0)] := by
    rw [fingerprintStores, run_p_digest, whole, FingerprintLoop.run_append,
      FingerprintLoop.step, snprintf_hexPair, FingerprintLoop.run_p, length]
  rw [stores]
  constructor
  · simp [hexPair, storesAt]
  · intro store member (outside : 96 ≤ store.1)
    simp only [List.mem_append, List.mem_singleton] at member
    rcases member with (earlier | last) | cut
    · have below := FingerprintLoop.run_cells store earlier
      omega
    · simp only [hexPair, storesAt, List.cons_append, List.nil_append, List.mem_cons,
        List.not_mem_nil, or_false] at last
      rcases last with rfl | rfl | rfl | rfl
      · simp at outside
      · simp at outside
      · simp at outside
      · rfl
    · rw [cut] at outside
      simp at outside

theorem load_fingerprint (memory : Nat → UInt8) :
    load (storeAll memory (fingerprintStores digest)) 0 sha256FingerprintSize =
      fingerprintBytes digest.toList ++ [0] := by
  let printed := storeAll memory (FingerprintLoop.run digest.toList).stores
  have stored : storeAll memory (fingerprintStores digest) = Function.update printed 95 0 := by
    rw [fingerprintStores, run_p_digest, storeAll_append]
    rfl
  have text : load printed 0 (95 + 1) = digest.toList.flatMap hexPair := by
    have whole := FingerprintLoop.run_text memory digest.toList
    rwa [Vector.length_toList] at whole
  have kept : load (Function.update printed 95 0) 0 95 = load printed 0 95 := by
    apply load_congr
    intro cell _ below
    exact Function.update_of_ne (by omega) _ _
  rw [stored, sha256FingerprintSize, load_append, kept]
  rw [load_append] at text
  have cut : fingerprintBytes digest.toList = load printed 0 95 := by
    change (digest.toList.flatMap hexPair).dropLast = _
    rw [← text]
    exact List.dropLast_concat
  rw [cut]
  simp [load]

theorem fingerprintLeft_eq (memory : Nat → UInt8) :
    fingerprintLeft memory digest = fingerprintBytes digest.toList := by
  have nulFree : 0 ∉ fingerprintBytes digest.toList := fun nul => (fingerprintBytes_plain 0 nul).1 rfl
  rw [fingerprintLeft, load_fingerprint, cText_append nulFree]
  exact List.append_nil _

theorem fingerprintBytes_length : (fingerprintBytes digest.toList).length = 95 := by
  change ((digest.toList.flatMap hexPair).dropLast).length = 95
  rw [List.length_dropLast, length_flatMap_hexPair, Vector.length_toList]

def ofHexDigit (digit : UInt8) : Option UInt8 :=
  if 48 ≤ digit ∧ digit ≤ 57 ∨ 65 ≤ digit ∧ digit ≤ 70 then some (hexValue digit) else none

def ofHexPair (high low : UInt8) : Option UInt8 := do
  let high ← ofHexDigit high
  let low ← ofHexDigit low
  return 16 * high + low

def ofFingerprint : Bytes → Option (List UInt8)
  | [high, low] => (ofHexPair high low).map fun b => [b]
  | high :: low :: separator :: rest => do
      if separator ≠ colon then none
      let b ← ofHexPair high low
      let bs ← ofFingerprint rest
      return b :: bs
  | _ => none

theorem ofHexPair_hexDigit : ∀ b : UInt8,
    ofHexPair (hexDigit (b / 16)) (hexDigit (b % 16)) = some b :=
  forall_byte (by decide +kernel)

theorem ofFingerprint_fingerprintBytes {buf : List UInt8} (nonempty : buf ≠ []) :
    ofFingerprint (fingerprintBytes buf) = some buf := by
  induction buf with
  | nil => exact absurd rfl nonempty
  | cons b rest ih =>
      cases rest with
      | nil =>
          change (ofHexPair (hexDigit (b / 16)) (hexDigit (b % 16))).map _ = _
          rw [ofHexPair_hexDigit]
          rfl
      | cons next more =>
          have later := ih (List.cons_ne_nil _ _)
          have text : fingerprintBytes (b :: next :: more) =
              hexDigit (b / 16) :: hexDigit (b % 16) :: colon ::
                fingerprintBytes (next :: more) := rfl
          obtain ⟨first, more', rest'⟩ : ∃ first more', fingerprintBytes (next :: more) =
              first :: more' := by
            cases printed : fingerprintBytes (next :: more) with
            | nil =>
                rw [printed] at later
                cases later
            | cons first more' => exact ⟨first, more', rfl⟩
          rw [text, rest', ofFingerprint, ← rest', later, ofHexPair_hexDigit]
          rfl

-- What `create_dtls_context` is to do with a digest: every byte within the field, and in the field
-- the text of the digest, which is also the one in the local SDP.
structure FingerprintKept (digest : Vector UInt8 32) : Prop where
  inside : ∀ store ∈ fingerprintStores digest, store.1 < sha256FingerprintSize
  length : ∀ memory, (fingerprintLeft memory digest).length = 95
  decoded : ∀ memory, ofFingerprint (fingerprintLeft memory digest) = some digest.toList
  advertised : ∀ memory (transport : Transport) (client : Bool) (sessid lsdp : CString),
    transport.ctx.digest = digest →
      ∃ line ∈ localSdpLines transport client sessid lsdp,
        line.val = (lit "a=fingerprint:sha-256 ").val ++ fingerprintLeft memory digest

theorem fingerprintLeft_decoded (memory : Nat → UInt8) :
    (fingerprintLeft memory digest).length = 95 ∧
      ofFingerprint (fingerprintLeft memory digest) = some digest.toList := by
  have nonempty : digest.toList ≠ [] := by
    intro empty
    have length := digest.length_toList
    rw [empty] at length
    cases length
  rw [fingerprintLeft_eq]
  exact ⟨fingerprintBytes_length, ofFingerprint_fingerprintBytes nonempty⟩

theorem fingerprintLeft_advertised (memory : Nat → UInt8) (transport : Transport) (client : Bool)
    (sessid lsdp : CString) :
    ∃ line ∈ localSdpLines transport client sessid lsdp,
      line.val = (lit "a=fingerprint:sha-256 ").val ++
        fingerprintLeft memory transport.ctx.digest := by
  refine ⟨lit "a=fingerprint:sha-256 " ++ transport.ctx.fingerprint, ?_, ?_⟩
  · simp [localSdpLines, channelLines]
  · rw [fingerprintLeft_eq]
    rfl

theorem fingerprintKept_iff (digest : Vector UInt8 32) :
    FingerprintKept digest ↔
      ∀ store ∈ fingerprintStores digest, store.1 < sha256FingerprintSize := by
  constructor
  · intro kept
    exact kept.inside
  · intro inside
    refine ⟨inside, fun memory => (fingerprintLeft_decoded memory).1,
      fun memory => (fingerprintLeft_decoded memory).2, ?_⟩
    rintro memory transport client sessid lsdp rfl
    exact fingerprintLeft_advertised memory transport client sessid lsdp

theorem never_within_fingerprint (digest : Vector UInt8 32) : ¬FingerprintKept digest := by
  intro kept
  have past : 96 < sha256FingerprintSize := kept.inside _ fingerprintStores_outside.1
  exact absurd past (by decide)

theorem fingerprint_overruns_on_zeros :
    ¬∀ digest : Vector UInt8 32, FingerprintKept digest := by
  intro kept
  have past := (kept (Vector.replicate 32 0)).inside (96, 0) (by decide +kernel)
  exact absurd past (by decide)

end Librtcdc
