import Librtcdc.Peer.Exposed

set_option autoImplicit false

namespace Librtcdc.Racing

open Systems Librtcdc.Slots Librtcdc.Exposed

-- A create call between its steps: it has chosen a slot, or has handed its OPEN over and has yet to
-- store the channel, which is `none` for the NULL of a failed call.
inductive Creating where
  | idle
  | chosen (slot : Fin rtcdcMaxChannelNum) (label protocol : CString) (callbacks : Callbacks)
      (env : CreateEnv)
  | handed (slot : Fin rtcdcMaxChannelNum) (result : Option RtcdcDataChannel)
  deriving DecidableEq, Repr

def Creating.slot : Creating → Option (Fin rtcdcMaxChannelNum)
  | .idle => none
  | .chosen slot .. => some slot
  | .handed slot _ => some slot

-- A channel whose OPEN SCTP has taken, with the slot it is for. `unused` tells whether no stored
-- channel had its id then.
structure Created where
  slot : Fin rtcdcMaxChannelNum
  channel : RtcdcDataChannel
  unused : Bool
  deriving DecidableEq, Repr

structure Race where
  peer : RtcdcPeerConnection
  creating : Creating
  created : List Created

inductive Action where
  | choose (label protocol : Option CString) (callbacks : Callbacks) (env : CreateEnv)
  | hand
  | store
  | receive (data : Bytes) (ppid : UInt32) (sid : UInt16) (notification : Bool) (env : HandlerEnv)
  deriving DecidableEq, Repr

-- The first part of rtcdc_create_data_channel, up to the `strlen` of its arguments.
def choose (peer : RtcdcPeerConnection) (label protocol : Option CString) (callbacks : Callbacks)
    (env : CreateEnv) : Option Creating :=
  match peer.transport with
  | none => some .idle
  | some _ =>
      match peer.channels.firstFree with
      | none => some .idle
      | some i =>
          if !env.callocChannel then some .idle
          else
            match label, protocol with
            | some label, some protocol => some (.chosen i label protocol callbacks env)
            | _, _ => none

def nextSid (transport : RtcdcTransport) : UInt16 :=
  UInt16.ofNat transport.sctp.streamCursor

-- Up to the return of send_sctp_message, and the free of the channel when it failed.
def hand (peer : RtcdcPeerConnection) (label protocol : CString) (callbacks : Callbacks)
    (env : CreateEnv) : Option (RtcdcPeerConnection × Option RtcdcDataChannel × List Effect) :=
  match peer.transport with
  | none => none
  | some transport =>
      if !env.callocReq then some (peer, none, [])
      else
        let sid := nextSid transport
        let ch := createdChannel label protocol sid callbacks
        let sctp := { transport.sctp with streamCursor := transport.sctp.streamCursor + 2 }
        let sent := sendSctpMessage sctp (openMessage label protocol sid) env.sendv
        some (peer.withSctp transport sctp, if sent.1 < 0 then none else some ch, sent.2)

def unused (channels : ChannelTable) (sid : UInt16) : Bool :=
  (findSid channels sid).isNone

theorem unused_true {channels : ChannelTable} {sid : UInt16} :
    unused channels sid = true ↔ findSid channels sid = none :=
  Option.isNone_iff_eq_none

theorem unused_false {channels : ChannelTable} {sid : UInt16} :
    unused channels sid = false ↔ ∃ i, findSid channels sid = some i := by
  rw [unused, Option.isNone_eq_false_iff, Option.isSome_iff_exists]

def created (s : Race) (slot : Fin rtcdcMaxChannelNum) (result : Option RtcdcDataChannel)
    (effects : List Effect) : List Created :=
  match result with
  | none => []
  | some ch =>
      if handed effects = [] then []
      else [{ slot := slot, channel := ch, unused := unused s.peer.channels ch.sid }]

def step : Step Race Action Effect
  | s, .choose label protocol callbacks env =>
      match s.creating with
      | .idle =>
          (choose s.peer label protocol callbacks env).map fun creating =>
            ({ s with creating := creating }, [])
      | _ => none
  | s, .hand =>
      match s.creating with
      | .chosen slot label protocol callbacks env =>
          (hand s.peer label protocol callbacks env).map fun (peer, result, effects) =>
            ({ peer := peer
               creating := .handed slot result
               created := created s slot result effects ++ s.created }, effects)
      | _ => none
  | s, .store =>
      match s.creating with
      | .handed slot result =>
          some ({ s with
            peer := { s.peer with channels := s.peer.channels.put slot result }
            creating := .idle }, [])
      | _ => none
  | s, .receive data ppid sid notification env =>
      (Slots.step s.peer (.receive data ppid sid notification env)).map fun (next, effects) =>
        ({ s with peer := next }, effects)

theorem create_uninterrupted (peer : RtcdcPeerConnection) (label protocol : Option CString)
    (callbacks : Callbacks) (env : CreateEnv) :
    rtcdcCreateDataChannel peer label protocol callbacks env =
      (choose peer label protocol callbacks env).bind fun
        | .chosen i label protocol callbacks env =>
            (hand peer label protocol callbacks env).map fun (sent, result, effects) =>
              (result.map fun _ => i, { sent with channels := sent.channels.put i result }, effects)
        | _ => some (none, peer, []) := by
  obtain ⟨exitThread, transport, role, channels, onChannel, onConnect⟩ := peer
  unfold rtcdcCreateDataChannel choose
  cases transport with
  | none => rfl
  | some transport =>
      dsimp only
      cases free : channels.firstFree with
      | none => rfl
      | some i =>
          cases env.callocChannel with
          | false => rfl
          | true =>
              cases label with
              | none => rfl
              | some label =>
                  cases protocol with
                  | none => rfl
                  | some protocol =>
                      cases memory : env.callocReq with
                      | false => simp [hand, memory]
                      | true =>
                          simp only [Bool.not_true, Bool.false_eq_true, if_false, hand, memory,
                            Option.bind_some, Option.map_some, nextSid]
                          split
                          · rename_i refused
                            simp [refused]
                          · rename_i accepted
                            simp [accepted]

variable {s next : Race} {action : Action} {effects : List Effect}

structure Answered (s : Race) (c : Created) (next : Race) (effects : List Effect) : Prop where
  found : findSid s.peer.channels c.channel.sid = some c.slot
  connected : ∃ now, s.peer.channels c.slot = some now ∧ Same c.channel now ∧
    next.peer.channels = s.peer.channels.put c.slot (some { now with state := .connected })
  told : effects = if c.channel.callbacks.onOpen then [.onOpen c.slot] else []

def Action.acks : Action → Option UInt16
  | .receive data ppid sid notification env =>
      Exposed.acks (.receive data ppid sid notification env)
  | _ => none

def Action.registers (peer : RtcdcPeerConnection) : Action → Bool
  | .receive data ppid sid notification env =>
      (claims peer (.receive data ppid sid notification env)).isSome
  | _ => false

-- A step that loses no stored channel, stores in an empty slot, and answers for a created channel
-- when it is its ACK.
structure Harmless (s : Race) (action : Action) : Prop where
  free : action = .store → ∀ i, s.creating.slot = some i → s.peer.channels i = none
  kept : ∀ next effects, step s action = some (next, effects) →
    Table.Keeps Same s.peer.channels next.peer.channels
  answered : ∀ next effects, step s action = some (next, effects) →
    ∀ c ∈ s.created, action.acks = some c.channel.sid → Answered s c next effects

-- No OPEN registers a channel while a create call is between its steps, and an ACK comes after the
-- store, for a channel whose stream id was unused.
structure Apart (s : Race) (action : Action) : Prop where
  alone : action.registers s.peer = true → s.creating = .idle
  late : ∀ c ∈ s.created, action.acks = some c.channel.sid →
    s.creating ≠ .handed c.slot (some c.channel) ∧ c.unused = true

instance (s : Race) (action : Action) : Decidable (Apart s action) :=
  decidable_of_iff (_ ∧ _) ⟨fun both => ⟨both.1, both.2⟩, fun apart => ⟨apart.1, apart.2⟩⟩

def Placed (s : Race) (c : Created) : Prop :=
  (∃ now, s.peer.channels c.slot = some now ∧ Same c.channel now ∧
    now.callbacks = c.channel.callbacks) ∨
  s.creating = .handed c.slot (some c.channel)

structure Tracked (s : Race) (c : Created) : Prop where
  placed : Placed s c
  unused : c.unused = true →
    ∀ j < c.slot, ∀ ch, s.peer.channels j = some ch → ch.sid ≠ c.channel.sid
  used : c.unused = false →
    ∃ j < c.slot, ∃ ch, s.peer.channels j = some ch ∧ ch.sid = c.channel.sid

structure Inv (s : Race) : Prop where
  packed : Table.Packed s.peer.channels
  free : ∀ i, s.creating.slot = some i → s.peer.channels.firstFree = some i
  tracked : ∀ c ∈ s.created, Tracked s c

structure Kept (old new : RtcdcDataChannel) : Prop where
  same : Same old new
  callbacks : new.callbacks = old.callbacks

theorem Kept.refl (ch : RtcdcDataChannel) : Kept ch ch := ⟨.refl ch, rfl⟩

theorem Kept.trans {a b c : RtcdcDataChannel} (first : Kept a b) (second : Kept b c) : Kept a c :=
  ⟨first.same.trans second.same, second.callbacks.trans first.callbacks⟩

theorem SameViews.kept {t t' : ChannelTable} (same : SameViews t t')
    (kept : Table.Keeps Same t t') : Table.Keeps Kept t t' := by
  intro i old stored
  obtain ⟨new, stored', still⟩ := kept i old stored
  obtain ⟨old', stored'', viewed⟩ := same.back stored'
  obtain rfl : old = old' := Option.some.inj (stored.symm.trans stored'')
  exact ⟨new, stored', still, (congrArg Prod.snd viewed).symm⟩

theorem receive_keeps {peer after : RtcdcPeerConnection} {input : Input}
    (moved : Slots.step peer input = some (after, effects)) :
    Table.Keeps Kept peer.channels after.channels ∧
      ((∀ i, (after.channels i).isSome = (peer.channels i).isSome) ∨
        ∃ i ch, claims peer input = some ch.sid ∧ peer.channels.firstFree = some i ∧
          after.channels = peer.channels.put i (some ch)) := by
  have kept := (step_changes moved).keeps Same.refl
  cases step_outcome moved with
  | quiet same => exact ⟨SameViews.kept same kept, .inl same.isSome⟩
  | acked i ch same => exact ⟨SameViews.kept same kept, .inl same.isSome⟩
  | added i ch free stored _ _ claimed =>
      refine ⟨?_, .inr ⟨i, ch, claimed, free, stored⟩⟩
      rw [stored]
      exact (Table.Change.fill free ch).keeps Kept.refl

theorem Inv.before (inv : Inv s) {c : Created} (known : c ∈ s.created)
    {j : Fin rtcdcMaxChannelNum} (lower : j < c.slot) : (s.peer.channels j).isSome := by
  cases (inv.tracked c known).placed with
  | inl stored =>
      obtain ⟨now, there, _⟩ := stored
      exact inv.packed.down (by rw [there]; rfl) lower
  | inr handed =>
      have free := inv.free c.slot (by rw [handed]; rfl)
      exact (Table.firstFree_some free).2 j lower

theorem Tracked.move {s' : Race} {c : Created} (tracked : Tracked s c)
    (before : ∀ j < c.slot, (s.peer.channels j).isSome)
    (kept : Table.Keeps Kept s.peer.channels s'.peer.channels)
    (handed : s.creating = .handed c.slot (some c.channel) → Placed s' c) : Tracked s' c where
  placed := by
    cases tracked.placed with
    | inl stored =>
        obtain ⟨now, there, same, callbacks⟩ := stored
        obtain ⟨later, there', kept⟩ := kept c.slot now there
        exact .inl ⟨later, there', same.trans kept.same, kept.callbacks.trans callbacks⟩
    | inr still => exact handed still
  unused := by
    intro unused j lower ch there
    obtain ⟨old, stored⟩ := Option.isSome_iff_exists.mp (before j lower)
    obtain ⟨new, there', kept⟩ := kept j old stored
    obtain rfl : new = ch := Option.some.inj (there'.symm.trans there)
    rw [kept.same.sid]
    exact tracked.unused unused j lower old stored
  used := by
    intro used
    obtain ⟨j, lower, ch, there, same⟩ := tracked.used used
    obtain ⟨new, there', kept⟩ := kept j ch there
    exact ⟨j, lower, new, there', kept.same.sid.trans same⟩

theorem Inv.move {after : RtcdcPeerConnection} {creating : Creating} (inv : Inv s)
    (kept : Table.Keeps Kept s.peer.channels after.channels)
    (packed : Table.Packed after.channels)
    (free : ∀ i, creating.slot = some i → after.channels.firstFree = some i)
    (placed : ∀ c, s.creating = .handed c.slot (some c.channel) →
      Placed ⟨after, creating, s.created⟩ c) : Inv ⟨after, creating, s.created⟩ where
  packed := packed
  free := free
  tracked := fun c known =>
    (inv.tracked c known).move (fun _ lower => inv.before known lower) kept (placed c)

theorem step_choose {label protocol : Option CString} {callbacks : Callbacks} {env : CreateEnv}
    (moved : step s (.choose label protocol callbacks env) = some (next, effects)) :
    s.creating = .idle ∧ ∃ creating, choose s.peer label protocol callbacks env = some creating ∧
      next = { s with creating } := by
  simp only [step] at moved
  split at moved
  · rename_i idle
    obtain ⟨creating, chosen, equal⟩ := Option.map_eq_some_iff.mp moved
    exact ⟨idle, creating, chosen, (Prod.mk.inj equal).1.symm⟩
  · cases moved

theorem step_hand (moved : step s .hand = some (next, effects)) :
    ∃ slot label protocol callbacks env peer result,
      s.creating = .chosen slot label protocol callbacks env ∧
      hand s.peer label protocol callbacks env = some (peer, result, effects) ∧
      next = { peer, creating := .handed slot result
               created := created s slot result effects ++ s.created } := by
  simp only [step] at moved
  split at moved
  · rename_i slot label protocol callbacks env chosen
    obtain ⟨⟨peer, result, sent⟩, handed, equal⟩ := Option.map_eq_some_iff.mp moved
    obtain ⟨rfl, rfl⟩ := Prod.mk.inj equal
    exact ⟨slot, label, protocol, callbacks, env, peer, result, chosen, handed, rfl⟩
  · cases moved

theorem step_store (moved : step s .store = some (next, effects)) :
    ∃ slot result, s.creating = .handed slot result ∧
      next = { s with
        peer := { s.peer with channels := s.peer.channels.put slot result }
        creating := .idle } := by
  simp only [step] at moved
  split at moved
  · rename_i slot result handed
    exact ⟨slot, result, handed, (Prod.mk.inj (Option.some.inj moved)).1.symm⟩
  · cases moved

theorem step_receive {data : Bytes} {ppid : UInt32} {sid : UInt16} {notification : Bool}
    {env : HandlerEnv}
    (moved : step s (.receive data ppid sid notification env) = some (next, effects)) :
    ∃ after, Slots.step s.peer (.receive data ppid sid notification env) = some (after, effects) ∧
      next = { s with peer := after } := by
  obtain ⟨⟨after, emitted⟩, received, equal⟩ := Option.map_eq_some_iff.mp moved
  obtain ⟨rfl, rfl⟩ := Prod.mk.inj equal
  exact ⟨after, received, rfl⟩

theorem choose_slot {peer : RtcdcPeerConnection} {label protocol : Option CString}
    {callbacks : Callbacks} {env : CreateEnv} {creating : Creating}
    (chosen : choose peer label protocol callbacks env = some creating)
    {i : Fin rtcdcMaxChannelNum} (slot : creating.slot = some i) :
    peer.channels.firstFree = some i := by
  unfold choose at chosen
  split at chosen
  · obtain rfl := Option.some.inj chosen
    cases slot
  · split at chosen
    · obtain rfl := Option.some.inj chosen
      cases slot
    · rename_i free
      split_ifs at chosen
      · obtain rfl := Option.some.inj chosen
        cases slot
      · split at chosen
        · obtain rfl := Option.some.inj chosen
          rw [free]
          exact slot
        · cases chosen

theorem hand_channels {peer after : RtcdcPeerConnection} {label protocol : CString}
    {callbacks : Callbacks} {env : CreateEnv} {result : Option RtcdcDataChannel}
    (sent : hand peer label protocol callbacks env = some (after, result, effects)) :
    after.channels = peer.channels := by
  unfold hand at sent
  split at sent
  · cases sent
  · split_ifs at sent
    · obtain ⟨rfl, _⟩ := Prod.mk.inj (Option.some.inj sent)
      rfl
    · obtain ⟨rfl, _⟩ := Prod.mk.inj (Option.some.inj sent)
      rfl

theorem keeps_refl (t : ChannelTable) : Table.Keeps Kept t t :=
  fun _ ch stored => ⟨ch, stored, .refl ch⟩

theorem choose_inv {label protocol : Option CString} {callbacks : Callbacks} {env : CreateEnv}
    (inv : Inv s) (moved : step s (.choose label protocol callbacks env) = some (next, effects)) :
    Inv next ∧ next.peer.channels = s.peer.channels := by
  obtain ⟨idle, creating, chosen, rfl⟩ := step_choose moved
  refine ⟨inv.move (keeps_refl _) inv.packed (fun _ slot => choose_slot chosen slot) ?_, rfl⟩
  intro c handed
  rw [idle] at handed
  cases handed

theorem tracked_created {slot : Fin rtcdcMaxChannelNum} {result : Option RtcdcDataChannel}
    {c : Created} (packed : Table.Packed s.peer.channels)
    (free : s.peer.channels.firstFree = some slot) (handed : next.creating = .handed slot result)
    (same : next.peer.channels = s.peer.channels) (new : c ∈ created s slot result effects) :
    Tracked next c := by
  unfold created at new
  cases result with
  | none => cases new
  | some ch =>
      dsimp only at new
      split_ifs at new
      · cases new
      · obtain rfl := List.mem_singleton.mp new
        constructor
        · exact .inr handed
        · dsimp only
          intro free_id j _ old stored equal
          rw [same] at stored
          exact findSid_unused.mp (unused_true.mp free_id) j old stored equal
        · dsimp only
          intro taken_id
          obtain ⟨j, found⟩ := unused_false.mp taken_id
          obtain ⟨old, stored, equal⟩ := (findSid_lowest.mp found).1
          rw [same]
          exact ⟨j, packed.before (by rw [stored]; rfl) free, old, stored, equal⟩

theorem hand_inv (inv : Inv s) (moved : step s .hand = some (next, effects)) :
    Inv next ∧ next.peer.channels = s.peer.channels := by
  obtain ⟨slot, label, protocol, callbacks, env, after, result, chosen, handed, rfl⟩ :=
    step_hand moved
  have same : after.channels = s.peer.channels := hand_channels handed
  have free := inv.free slot (by rw [chosen]; rfl)
  refine ⟨⟨?_, ?_, ?_⟩, same⟩
  · rw [same]
    exact inv.packed
  · intro i there
    obtain rfl : slot = i := Option.some.inj there
    rw [same]
    exact free
  · intro c known
    cases List.mem_append.mp known with
    | inl new => exact tracked_created inv.packed free rfl same new
    | inr old =>
        apply (inv.tracked c old).move (fun _ lower => inv.before old lower)
        · rw [same]
          exact keeps_refl _
        · intro other
          rw [chosen] at other
          cases other

theorem store_inv (inv : Inv s) (moved : step s .store = some (next, effects)) :
    Inv next ∧ Table.Keeps Kept s.peer.channels next.peer.channels := by
  obtain ⟨slot, result, handed, rfl⟩ := step_store moved
  have free := inv.free slot (by rw [handed]; rfl)
  have change : Table.Change Kept s.peer.channels (s.peer.channels.put slot result) := by
    cases result with
    | none =>
        rw [Table.put_none (Table.firstFree_some free).1]
        exact .still
    | some ch => exact .fill free ch
  have kept := change.keeps Kept.refl
  refine ⟨inv.move kept (change.packed inv.packed) (fun _ slot => by cases slot) ?_, kept⟩
  intro c still
  rw [handed] at still
  obtain ⟨rfl, rfl⟩ : slot = c.slot ∧ result = some c.channel := by simpa using still
  exact .inl ⟨c.channel, Table.put_same _ _ _, .refl _, rfl⟩

theorem receive_inv {data : Bytes} {ppid : UInt32} {sid : UInt16} {notification : Bool}
    {env : HandlerEnv} (inv : Inv s) (apart : Apart s (.receive data ppid sid notification env))
    (moved : step s (.receive data ppid sid notification env) = some (next, effects)) :
    Inv next := by
  obtain ⟨after, received, rfl⟩ := step_receive moved
  obtain ⟨kept, changed⟩ := receive_keeps received
  refine inv.move kept ((step_changes received).packed inv.packed) ?_ fun _ handed => .inr handed
  intro i slot
  rcases changed with same | ⟨j, ch, claimed, _, _⟩
  · rw [Table.firstFree_congr same]
    exact inv.free i slot
  · have idle := apart.alone (by simp [Action.registers, claimed])
    rw [idle] at slot
    cases slot

theorem step_inv (inv : Inv s) (apart : Apart s action)
    (moved : step s action = some (next, effects)) : Inv next := by
  cases action with
  | choose => exact (choose_inv inv moved).1
  | hand => exact (hand_inv inv moved).1
  | store => exact (store_inv inv moved).1
  | receive => exact receive_inv inv apart moved

theorem ack_step {peer : RtcdcPeerConnection} {input : Input} {sid : UInt16}
    (acking : Exposed.acks input = some sid) :
    Slots.step peer input = some (handleRtcdcOpenAck peer sid) := by
  cases input with
  | create => cases acking
  | receive data ppid sid' notification env =>
      simp only [Exposed.acks] at acking
      split_ifs at acking with ack
      obtain ⟨rfl, control, first⟩ := ack
      obtain rfl := Option.some.inj acking
      cases data with
      | nil => cases first
      | cons head rest =>
          obtain rfl : head = dataChannelAck := by simpa using first
          simp [Slots.step, sctpDataReceivedCb, handleRtcdcMessage, control, dataChannelAck,
            dataChannelOpen]

theorem ack_answered {c : Created} (inv : Inv s) (known : c ∈ s.created)
    (acking : action.acks = some c.channel.sid)
    (late : s.creating ≠ .handed c.slot (some c.channel) ∧ c.unused = true)
    (moved : step s action = some (next, effects)) : Answered s c next effects := by
  have tracked := inv.tracked c known
  obtain ⟨now, stored, same, callbacks⟩ := tracked.placed.resolve_right late.1
  have found : findSid s.peer.channels c.channel.sid = some c.slot :=
    findSid_lowest.mpr ⟨⟨now, stored, same.sid⟩, tracked.unused late.2⟩
  cases action with
  | receive data ppid sid notification env =>
      obtain ⟨after, received, rfl⟩ := step_receive moved
      have acking' : Exposed.acks (.receive data ppid sid notification env) =
          some c.channel.sid := acking
      rw [ack_step acking'] at received
      rcases handleRtcdcOpenAck_cases s.peer c.channel.sid with
        ⟨missing, _⟩ | ⟨i, ch, found', stored', _, answer⟩
      · rw [missing] at found
        cases found
      · obtain rfl : i = c.slot := Option.some.inj (found'.symm.trans found)
        obtain rfl : ch = now := Option.some.inj (stored'.symm.trans stored)
        rw [answer] at received
        obtain ⟨rfl, rfl⟩ := Prod.mk.inj (Option.some.inj received)
        exact ⟨found, ⟨ch, stored, same, rfl⟩, by rw [callbacks]⟩
  | choose => cases acking
  | hand => cases acking
  | store => cases acking

theorem Keeps.same {t t' : ChannelTable} (kept : Table.Keeps Kept t t') : Table.Keeps Same t t' := by
  intro i ch stored
  obtain ⟨new, stored', still⟩ := kept i ch stored
  exact ⟨new, stored', still.same⟩

theorem apart_harmless (inv : Inv s) (apart : Apart s action) : Harmless s action where
  free := fun _ i slot => (Table.firstFree_some (inv.free i slot)).1
  kept := by
    intro next effects moved
    refine Keeps.same ?_
    cases action with
    | choose =>
        rw [(choose_inv inv moved).2]
        exact keeps_refl _
    | hand =>
        rw [(hand_inv inv moved).2]
        exact keeps_refl _
    | store => exact (store_inv inv moved).2
    | receive =>
        obtain ⟨after, received, rfl⟩ := step_receive moved
        exact (receive_keeps received).1
  answered := fun _ _ moved c known acking =>
    ack_answered inv known acking (apart.late c known acking) moved

def Doomed (s : Race) : Prop :=
  ∃ i, s.creating.slot = some i ∧ (s.peer.channels i).isSome = true

theorem Doomed.step (doomed : Doomed s) (harmless : Harmless s action)
    (moved : step s action = some (next, effects)) : Doomed next := by
  obtain ⟨i, slot, taken⟩ := doomed
  obtain ⟨ch, stored⟩ := Option.isSome_iff_exists.mp taken
  obtain ⟨new, stored', _⟩ := harmless.kept next effects moved i ch stored
  refine ⟨i, ?_, by rw [stored']; rfl⟩
  cases action with
  | choose =>
      have idle := (step_choose moved).1
      rw [idle] at slot
      cases slot
  | hand =>
      obtain ⟨_, _, _, _, _, _, _, chosen, _, rfl⟩ := step_hand moved
      rw [chosen] at slot
      exact slot
  | store =>
      rw [harmless.free rfl i slot] at stored
      cases stored
  | receive =>
      obtain ⟨_, _, rfl⟩ := step_receive moved
      exact slot

theorem registers_dooms (inv : Inv s) (registers : action.registers s.peer = true)
    (busy : s.creating ≠ .idle) (moved : step s action = some (next, effects)) : Doomed next := by
  obtain ⟨i, slot⟩ : ∃ i, s.creating.slot = some i := by
    cases busy' : s.creating with
    | idle => exact absurd busy' busy
    | chosen i => exact ⟨i, rfl⟩
    | handed i => exact ⟨i, rfl⟩
  have free := inv.free i slot
  cases action with
  | receive data ppid sid notification env =>
      obtain ⟨after, received, rfl⟩ := step_receive moved
      have claimed : claims s.peer (.receive data ppid sid notification env) ≠ none :=
        Option.isSome_iff_ne_none.mp registers
      cases step_outcome received with
      | quiet _ _ _ full =>
          rw [full claimed] at free
          cases free
      | added j ch free' stored =>
          obtain rfl : j = i := Option.some.inj (free'.symm.trans free)
          have here : after.channels j = some ch := by rw [stored, Table.put_same]
          exact ⟨j, slot, by rw [here]; rfl⟩
      | acked _ _ _ _ _ _ noClaim => exact absurd noClaim claimed
  | choose => cases registers
  | hand => cases registers
  | store => cases registers

theorem answered_late {c : Created} (inv : Inv s) (known : c ∈ s.created)
    (answered : Answered s c next effects) :
    s.creating ≠ .handed c.slot (some c.channel) ∧ c.unused = true := by
  constructor
  · intro handed
    obtain ⟨now, stored, _⟩ := answered.connected
    rw [(Table.firstFree_some (inv.free c.slot (by rw [handed]; rfl))).1] at stored
    cases stored
  · by_contra used
    obtain ⟨j, lower, ch, stored, same⟩ :=
      (inv.tracked c known).used (Bool.eq_false_iff.mpr used)
    exact (findSid_lowest.mp answered.found).2 j lower ch stored same

theorem harmless_apart {start : Race} {actions : List Action} (inv : Inv start)
    (run : RunIf Harmless step start actions s effects) :
    RunIf Apart step start actions s effects ∨ Doomed s := by
  induction run with
  | refl => exact .inl .refl
  | @snoc actions s next events emitted action run harmless taken ih =>
      rcases ih with apart | doomed
      · have kept := apart.invariant (fun s _ => Inv s) inv
          fun _ _ _ _ _ inv allowed moved => step_inv inv allowed moved
        by_cases alone : action.registers s.peer = true → s.creating = .idle
        · refine .inl (.snoc apart ⟨alone, fun c known acking => ?_⟩ taken)
          exact answered_late kept known (harmless.answered next emitted taken c known acking)
        · obtain ⟨registers, busy⟩ := Classical.not_imp.mp alone
          exact .inr (registers_dooms kept registers busy taken)
      · exact .inr (doomed.step harmless taken)

/-- Creating a channel and receiving do each other no harm in the runs that keep them apart, and in no
other run whose create calls are over. -/
theorem harmless_iff_apart {start : Race} {actions : List Action}
    (packed : Table.Packed start.peer.channels) (idle : start.creating = .idle)
    (none_created : start.created = []) :
    (RunIf Apart step start actions s effects → RunIf Harmless step start actions s effects) ∧
      (RunIf Harmless step start actions s effects → s.creating = .idle →
        RunIf Apart step start actions s effects) := by
  have inv : Inv start := by
    refine ⟨packed, fun i slot => ?_, by simp [none_created]⟩
    rw [idle] at slot
    cases slot
  constructor
  · intro run
    exact run.imp (fun s _ => Inv s) inv
      (fun _ _ _ _ _ inv apart moved => step_inv inv apart moved)
      fun _ _ _ inv apart => apart_harmless inv apart
  · intro run finished
    refine (harmless_apart inv run).resolve_right ?_
    rintro ⟨i, slot, _⟩
    rw [finished] at slot
    cases slot

def startedRace : Race where
  peer := startedClient
  creating := .idle
  created := []

def chooseUp : Action :=
  .choose (some (CString.literal "up")) (some CString.empty) ⟨true, true, false⟩ ⟨true, true, 0⟩

def remoteOpen (sid : UInt16) : Action :=
  .receive (openRequest (CString.literal "down") CString.empty).bytes (htonl webrtcControlPpid) sid
    false ⟨true, 0⟩

def remoteAck (sid : UInt16) : Action :=
  .receive [dataChannelAck] (htonl webrtcControlPpid) sid false ⟨true, 0⟩

theorem in_turn_harmless : ∃ last effects,
    RunIf Harmless step startedRace
      [remoteOpen 1, chooseUp, .hand, .store, remoteOpen 3, remoteAck 0] last effects ∧
      opens effects = [1] := by
  have moved : ((execIf Apart step startedRace
      [remoteOpen 1, chooseUp, .hand, .store, remoteOpen 3, remoteAck 0]).map fun last =>
        opens last.2) = some [1] := by decide +kernel
  obtain ⟨⟨last, effects⟩, taken, called⟩ := Option.map_eq_some_iff.mp moved
  exact ⟨last, effects,
    (harmless_iff_apart Table.packed_empty rfl rfl).1 (execIf_runIf taken), called⟩

def firstSid (s : Race) : Option UInt16 :=
  (s.peer.channels 0).map RtcdcDataChannel.sid

theorem in_between_lost :
    (∃ s effects next, Run step startedRace [chooseUp, remoteOpen 1, .hand] s effects ∧
      step s .store = some (next, []) ∧ firstSid s = some 1 ∧ firstSid next = some 0) ∧
    (∃ last effects, Run step startedRace [chooseUp, .hand, remoteAck 0, .store] last effects ∧
      (last.peer.channels 0).map RtcdcDataChannel.state = some .connecting ∧
      opens effects = []) := by
  constructor
  · have moved : ((exec step startedRace [chooseUp, remoteOpen 1, .hand]).map fun last =>
        (firstSid last.1, (step last.1 .store).map fun next => (firstSid next.1, next.2))) =
          some (some 1, some (some 0, [])) := by decide +kernel
    obtain ⟨⟨s, effects⟩, taken, equal⟩ := Option.map_eq_some_iff.mp moved
    obtain ⟨first, second⟩ := Prod.mk.inj equal
    obtain ⟨⟨next, emitted⟩, stored, equal'⟩ := Option.map_eq_some_iff.mp second
    obtain ⟨after, rfl⟩ := Prod.mk.inj equal'
    exact ⟨s, effects, next, exec_run taken, stored, first, after⟩
  · have moved : ((exec step startedRace [chooseUp, .hand, remoteAck 0, .store]).map fun last =>
        ((last.1.peer.channels 0).map RtcdcDataChannel.state, opens last.2)) =
          some (some .connecting, []) := by decide +kernel
    obtain ⟨⟨last, effects⟩, taken, equal⟩ := Option.map_eq_some_iff.mp moved
    obtain ⟨state, silent⟩ := Prod.mk.inj equal
    exact ⟨last, effects, exec_run taken, state, silent⟩

end Librtcdc.Racing
