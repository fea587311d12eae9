import Librtcdc.Peer.Rtcdc

set_option autoImplicit false

namespace Librtcdc

open Systems

-- Stream ids of one parity, handed out by a cursor that advances by two.

def hasParity (base : Nat) (ch : RtcdcDataChannel) : Bool :=
  ch.sid.toNat % 2 = base

def DistinctSids (channels : ChannelTable) : Prop :=
  Table.Distinct RtcdcDataChannel.sid channels

-- The channels of parity `base` are exactly as many as the cursor has handed out ids, and all of
-- them lie below it.
structure Allocated (base cursor : Nat) (channels : ChannelTable) : Prop where
  parity : base < 2
  count : cursor = base + 2 * (Table.slotsWhere (hasParity base) channels).card
  below : ∀ i ch, channels i = some ch → hasParity base ch = true → ch.sid.toNat < cursor

variable {base cursor : Nat} {channels : ChannelTable} {i : Fin rtcdcMaxChannelNum}
  {ch old : RtcdcDataChannel}

theorem allocated_empty (parity : base < 2) (empty : ∀ i, channels i = none) :
    Allocated base base channels where
  parity := parity
  count := by
    have none_there : Table.slotsWhere (hasParity base) channels = ∅ := by
      ext i
      simp [empty i]
    simp [none_there]
  below := by
    intro i ch stored
    simp [empty i] at stored

theorem Allocated.cursor_of_empty (allocated : Allocated base cursor channels)
    (empty : ∀ i, channels i = none) : cursor = base := by
  have same := (allocated_empty allocated.parity empty).count
  have count := allocated.count
  omega

theorem Allocated.cursor_lt (allocated : Allocated base cursor channels)
    (free : (channels i).any (hasParity base) = false) : cursor < rtcdcMaxOutStream := by
  have fewer := Table.slotsWhere_card_lt (p := hasParity base) free
  have parity := allocated.parity
  have count := allocated.count
  have slots : rtcdcMaxChannelNum = 128 := rfl
  have streams : rtcdcMaxOutStream = 256 := rfl
  omega

theorem Allocated.cursor_parity (allocated : Allocated base cursor channels) :
    cursor % 2 = base := by
  have parity := allocated.parity
  have count := allocated.count
  omega

theorem Allocated.next_sid (allocated : Allocated base cursor channels)
    (free : (channels i).any (hasParity base) = false) : (UInt16.ofNat cursor).toNat = cursor := by
  have bound := allocated.cursor_lt free
  have streams : rtcdcMaxOutStream = 256 := rfl
  rw [UInt16.toNat_ofNat', Nat.mod_eq_of_lt (by omega)]

theorem Allocated.next_parity (allocated : Allocated base cursor channels)
    (free : (channels i).any (hasParity base) = false) (same : ch.sid = UInt16.ofNat cursor) :
    hasParity base ch = true := by
  simp [hasParity, same, allocated.next_sid free, allocated.cursor_parity]

theorem Allocated.fresh (allocated : Allocated base cursor channels)
    (free : (channels i).any (hasParity base) = false) {j : Fin rtcdcMaxChannelNum}
    (stored : channels j = some old)
    (own : hasParity base old = true) : old.sid ≠ UInt16.ofNat cursor := by
  intro same
  have below := allocated.below j old stored own
  rw [same, allocated.next_sid free] at below
  exact absurd below (Nat.lt_irrefl _)

theorem Allocated.create (allocated : Allocated base cursor channels)
    (free : (channels i).any (hasParity base) = false) (same : ch.sid = UInt16.ofNat cursor) :
    Allocated base (cursor + 2) (channels.put i (some ch)) where
  parity := allocated.parity
  count := by
    rw [Table.slotsWhere_put_fresh free (allocated.next_parity free same)]
    have count := allocated.count
    omega
  below := by
    apply Table.every_put
    · intro _
      rw [same, allocated.next_sid free]
      omega
    · intro j other stored own
      have below := allocated.below j other stored own
      omega

theorem Allocated.put_foreign (allocated : Allocated base cursor channels)
    (free : channels i = none) (foreign : hasParity base ch = false) :
    Allocated base cursor (channels.put i (some ch)) where
  parity := allocated.parity
  count := by
    rw [Table.slotsWhere_put_other free foreign]
    exact allocated.count
  below := by
    apply Table.every_put
    · intro own
      rw [foreign] at own
      cases own
    · exact allocated.below

theorem Allocated.put_none (allocated : Allocated base cursor channels)
    (free : (channels i).any (hasParity base) = false) :
    Allocated base cursor (channels.put i none) where
  parity := allocated.parity
  count := by
    rw [Table.slotsWhere_put_none free]
    exact allocated.count
  below := Table.every_put_none i allocated.below

theorem hasParity_congr (same : ch.sid = old.sid) : hasParity base ch = hasParity base old := by
  simp [hasParity, same]

theorem Allocated.put_same_sid (allocated : Allocated base cursor channels)
    (stored : channels i = some old) (same : ch.sid = old.sid) :
    Allocated base cursor (channels.put i (some ch)) where
  parity := allocated.parity
  count := by
    rw [Table.slotsWhere_put_same stored (hasParity_congr same)]
    exact allocated.count
  below := by
    apply Table.every_put
    · intro own
      rw [same]
      exact allocated.below i old stored (by rw [← hasParity_congr same]; exact own)
    · exact allocated.below

theorem Allocated.distinct_create (allocated : Allocated base cursor channels)
    (distinct : DistinctSids channels) (free : (channels i).any (hasParity base) = false)
    (same : ch.sid = UInt16.ofNat cursor) : DistinctSids (channels.put i (some ch)) := by
  refine Table.Distinct.put_fresh distinct fun j other stored equal => ?_
  cases own : hasParity base other with
  | true => exact allocated.fresh free stored own (equal.trans same)
  | false =>
      rw [hasParity_congr equal, allocated.next_parity free same] at own
      cases own

def channelOn (channels : ChannelTable) (sid : UInt16) : Option RtcdcDataChannel :=
  (findSid channels sid).bind channels

theorem findSid_eq (distinct : DistinctSids channels) (stored : channels i = some ch) :
    findSid channels ch.sid = some i :=
  distinct.find_key stored

theorem channelOn_stored (distinct : DistinctSids channels) (stored : channels i = some ch) :
    channelOn channels ch.sid = some ch := by
  rw [channelOn, findSid_eq distinct stored, Option.bind_some, stored]

theorem channelOn_some {sid : UInt16} (found : channelOn channels sid = some ch) :
    ∃ i, findSid channels sid = some i ∧ channels i = some ch ∧ ch.sid = sid := by
  obtain ⟨i, slot, stored⟩ := Option.bind_eq_some_iff.mp found
  obtain ⟨other, there, same⟩ := findSid_stored slot
  obtain rfl : other = ch := by simpa [stored] using there.symm
  exact ⟨i, slot, stored, same⟩

theorem channelOn_none {sid : UInt16} (missing : channelOn channels sid = none)
    (stored : channels i = some ch) : ch.sid ≠ sid := by
  intro same
  cases slot : findSid channels sid with
  | none =>
      have other := Table.find_none.mp slot i ch stored
      simp [same] at other
  | some j =>
      obtain ⟨other, there, _⟩ := findSid_stored slot
      simp [channelOn, slot, there] at missing

theorem findSid_none {sid : UInt16} :
    findSid channels sid = none ↔ channelOn channels sid = none := by
  constructor
  · intro missing
    simp [channelOn, missing]
  · intro missing
    refine Table.find_none.mpr fun i ch stored => ?_
    simpa using channelOn_none missing stored

theorem channelOn_put_other {sid : UInt16} (other : ch.sid ≠ sid)
    (before : ∀ old, channels i = some old → old.sid ≠ sid) :
    channelOn (channels.put i (some ch)) sid = channelOn channels sid := by
  have same_slot : findSid (channels.put i (some ch)) sid = findSid channels sid :=
    Table.find_put_other (decide_eq_false other) fun old stored =>
      decide_eq_false (before old stored)
  rw [channelOn, channelOn, same_slot]
  cases slot : findSid channels sid with
  | none => rfl
  | some j =>
      obtain ⟨a, stored, same⟩ := findSid_stored slot
      have elsewhere : j ≠ i := by
        rintro rfl
        exact before a stored same
      simp only [Option.bind_some, Table.put_other _ _ elsewhere]

end Librtcdc
