import Librtcdc.Shared.Trace
import Librtcdc.Peer.Allocation
import Librtcdc.Peer.Racing

set_option autoImplicit false

namespace Librtcdc.Streams

open Systems Librtcdc.Racing

structure Startup where
  peer : RtcdcPeerConnection
  pc : StartupPc
  cursorSet : Bool
  creating : Creating
  -- the ids the remote has opened
  used : List UInt16

-- A create call is three steps: it chooses a slot, takes a stream id and hands its OPEN over, and
-- stores the channel.
inductive Move where
  | choose (label protocol : Option CString) (callbacks : Callbacks) (env : CreateEnv)
  | hand
  | store
  | startup (associated : Bool)
  | negotiated
  | shaken
  | exit
  | remoteOpen (sid : UInt16) (data : Bytes) (env : HandlerEnv)
  deriving DecidableEq, Repr

def localBase (role : PeerRole) : Nat :=
  if role = .client then 0 else 1

-- A remote of the opposite role opens ids of the other parity, each once. Its messages come over
-- the association, which startup_thread makes after it has set the cursor.
def RemoteOpens (s : Startup) (sid : UInt16) (data : Bytes) : Prop :=
  s.cursorSet = true ∧ sid.toNat % 2 ≠ localBase s.peer.role ∧ sid ∉ s.used ∧
    data.head? = some dataChannelOpen

instance (s : Startup) (sid : UInt16) (data : Bytes) : Decidable (RemoteOpens s sid data) :=
  inferInstanceAs (Decidable (_ ∧ _))

def step : Step Startup Move Effect
  | s, .choose label protocol callbacks env =>
      match s.creating with
      | .idle =>
          if 0 ≤ env.sendv then
            (choose s.peer label protocol callbacks env).map fun creating =>
              ({ s with creating := creating }, [])
          else
            none
      | _ => none
  | s, .hand =>
      match s.creating with
      | .chosen slot label protocol callbacks env =>
          (hand s.peer label protocol callbacks env).map fun (peer, result, effects) =>
            ({ s with peer := peer, creating := .handed slot result }, effects)
      | _ => none
  | s, .store =>
      match s.creating with
      | .handed slot result =>
          some ({ s with
            peer := { s.peer with channels := s.peer.channels.put slot result }
            creating := .idle }, [])
      | _ => none
  | s, .startup associated =>
      (startupThread s.peer s.pc associated).map fun result =>
        ({ s with
          peer := result.1
          pc := result.2.1
          cursorSet := s.cursorSet || decide (s.pc = .setCursor) }, result.2.2)
  | s, .negotiated =>
      s.peer.transport.map fun transport =>
        ({ s with peer := { s.peer with
          transport := some { transport with ice := { negotiationDone := true } } } }, [])
  | s, .shaken =>
      s.peer.transport.map fun transport =>
        ({ s with peer := { s.peer with
          transport := some { transport with dtls := { handshakeDone := true } } } }, [])
  | s, .exit => some ({ s with peer := { s.peer with exitThread := true } }, [])
  | s, .remoteOpen sid data env =>
      if RemoteOpens s sid data then
        (handleRtcdcMessage s.peer data webrtcControlPpid sid env).map fun result =>
          ({ s with peer := result.1, used := sid :: s.used }, result.2)
      else
        none

structure Fresh (s : Startup) : Prop where
  transport : ∃ transport, s.peer.transport = some transport ∧
    transport.sctp.deferredMessages ≠ none ∧ transport.sctp.streamCursor = 0
  channels : ∀ i, s.peer.channels i = none
  pc : s.pc = .awaitNegotiation
  cursorSet : s.cursorSet = false
  creating : s.creating = .idle
  used : s.used = []

def settled (channels : ChannelTable) : Creating → ChannelTable
  | .handed slot result => channels.put slot result
  | _ => channels

@[simp] theorem settled_idle (channels : ChannelTable) : settled channels .idle = channels := rfl

@[simp] theorem settled_chosen (channels : ChannelTable) (slot : Fin rtcdcMaxChannelNum)
    (label protocol : CString) (callbacks : Callbacks) (env : CreateEnv) :
    settled channels (.chosen slot label protocol callbacks env) = channels := rfl

@[simp] theorem settled_handed (channels : ChannelTable) (slot : Fin rtcdcMaxChannelNum)
    (result : Option RtcdcDataChannel) :
    settled channels (.handed slot result) = channels.put slot result := rfl

-- The slots that no local id can get any more. On a server a remote's even id can still come into
-- the slot of the call in progress.
def occupied (s : Startup) : ChannelTable :=
  if s.peer.role = .client then settled s.peer.channels s.creating else s.peer.channels

-- startup_thread sets the cursor only while no create call has taken an id, or none can any more.
def SetsInTime (s : Startup) : Move → Prop
  | .startup _ =>
      s.pc = .setCursor →
        (∀ i, settled s.peer.channels s.creating i = none) ∨ (occupied s).firstFree = none
  | _ => True

instance (s : Startup) (move : Move) : Decidable (SetsInTime s move) := by
  cases move <;> unfold SetsInTime <;> infer_instance

structure View (base : Nat) (used : List UInt16) (channels : ChannelTable) : Prop where
  distinct : DistinctSids channels
  foreign : ∀ i ch, channels i = some ch → hasParity base ch = false → ch.sid ∈ used

structure Views (base : Nat) (used : List UInt16) (channels : ChannelTable)
    (creating : Creating) : Prop where
  now : View base used channels
  later : View base used (settled channels creating)
  aside : ∀ i, creating.slot = some i → (channels i).any (hasParity base) = false

structure After (base cursor : Nat) (used : List UInt16) (channels : ChannelTable)
    (creating : Creating) : Prop where
  views : Views base used channels creating
  allocated : Allocated base cursor (settled channels creating)

def StartsAtZero (channels : ChannelTable) : Prop :=
  (∀ i, channels i = none) ∨ ∃ i ch, channels i = some ch ∧ ch.sid = 0

structure Before (cursor : Nat) (channels : ChannelTable) (creating : Creating) : Prop where
  after : After 0 cursor [] channels creating
  now : StartsAtZero channels
  later : StartsAtZero (settled channels creating)

structure Closed (role : PeerRole) (used : List UInt16) (channels : ChannelTable)
    (creating : Creating) : Prop where
  full : (settled channels creating).firstFree = none
  distinct : DistinctSids channels
  call : creating = .idle ∨
    role = .client ∧ Views 0 used channels creating ∧ ∃ slot result, creating = .handed slot result

def Phase (s : Startup) (cursor : Nat) : Prop :=
  if s.cursorSet then
    s.pc.pastCursor = true ∧
      (Closed s.peer.role s.used s.peer.channels s.creating ∨
        After (localBase s.peer.role) cursor s.used s.peer.channels s.creating)
  else
    s.used = [] ∧ Before cursor s.peer.channels s.creating

def Sends : Creating → Prop
  | .chosen _ _ _ _ env => 0 ≤ env.sendv
  | _ => True

def Inv (s : Startup) : Prop :=
  Sends s.creating ∧
    ∃ transport, s.peer.transport = some transport ∧
      transport.sctp.deferredMessages ≠ none ∧ Phase s transport.sctp.streamCursor

theorem Inv.distinct {s : Startup} (inv : Inv s) : DistinctSids s.peer.channels := by
  obtain ⟨_, _, _, _, phase⟩ := inv
  unfold Phase at phase
  split_ifs at phase
  · rcases phase.2 with closed | after
    · exact closed.distinct
    · exact after.views.now.distinct
  · exact phase.2.after.views.now.distinct

variable {cursor base : Nat} {used : List UInt16} {channels : ChannelTable}
  {i slot : Fin rtcdcMaxChannelNum} {ch : RtcdcDataChannel} {creating : Creating}
  {role : PeerRole} {result : Option RtcdcDataChannel}

theorem localBase_lt (role : PeerRole) : localBase role < 2 := by
  unfold localBase
  split <;> decide

theorem view_empty (empty : ∀ i, channels i = none) : View base used channels where
  distinct := by
    obtain rfl : channels = fun _ => none := funext empty
    exact Table.distinct_empty _
  foreign i ch stored := by simp [empty i] at stored

theorem View.more_used (view : View base used channels) (sid : UInt16) :
    View base (sid :: used) channels :=
  ⟨view.distinct, fun i ch stored odd => List.mem_cons_of_mem _ (view.foreign i ch stored odd)⟩

theorem View.remote (view : View base used channels) (foreign : hasParity base ch = false)
    (unused : ch.sid ∉ used) : View base (ch.sid :: used) (channels.put i (some ch)) where
  distinct := by
    refine Table.Distinct.put_fresh view.distinct fun j other stored equal => ?_
    have odd : hasParity base other = false := (hasParity_congr equal).trans foreign
    exact unused (equal ▸ view.foreign j other stored odd)
  foreign := by
    apply Table.every_put
    · intro _
      exact List.mem_cons_self
    · exact (view.more_used ch.sid).foreign

theorem View.create (view : View base used channels) (allocated : Allocated base cursor channels)
    (free : (channels i).any (hasParity base) = false) (same : ch.sid = UInt16.ofNat cursor) :
    View base used (channels.put i (some ch)) where
  distinct := allocated.distinct_create view.distinct free same
  foreign := by
    apply Table.every_put
    · intro odd
      rw [allocated.next_parity free same] at odd
      cases odd
    · exact view.foreign

theorem View.put_none (view : View base used channels) (i : Fin rtcdcMaxChannelNum) :
    View base used (channels.put i none) where
  distinct := view.distinct.put_none i
  foreign := Table.every_put_none i view.foreign

theorem settled_put (ch : RtcdcDataChannel) (creating : Creating) {k : Fin rtcdcMaxChannelNum}
    (free : channels k = none) :
    settled (channels.put k (some ch)) creating = settled channels creating ∨
      settled channels creating k = none ∧
        settled (channels.put k (some ch)) creating = (settled channels creating).put k (some ch) := by
  cases creating with
  | idle | chosen => exact .inr ⟨free, rfl⟩
  | handed slot result =>
      by_cases here : slot = k
      · subst here
        exact .inl (Function.update_idem ..)
      · refine .inr ⟨?_, Function.update_comm (Ne.symm here) ..⟩
        rw [settled_handed, Table.put_other _ _ (Ne.symm here), free]

theorem Views.remote {k : Fin rtcdcMaxChannelNum} (views : Views base used channels creating)
    (free : channels k = none) (foreign : hasParity base ch = false) (unused : ch.sid ∉ used) :
    Views base (ch.sid :: used) (channels.put k (some ch)) creating where
  now := views.now.remote foreign unused
  later := by
    rcases settled_put ch creating free with same | ⟨_, same⟩
    · rw [same]
      exact views.later.more_used ch.sid
    · rw [same]
      exact views.later.remote foreign unused
  aside := by
    intro j slot
    rw [Table.put_apply]
    split_ifs
    · simpa using foreign
    · exact views.aside j slot

theorem Views.more_used (views : Views base used channels creating) (sid : UInt16) :
    Views base (sid :: used) channels creating :=
  ⟨views.now.more_used sid, views.later.more_used sid, views.aside⟩

theorem After.remote {k : Fin rtcdcMaxChannelNum} (after : After base cursor used channels creating)
    (free : channels k = none) (foreign : hasParity base ch = false) (unused : ch.sid ∉ used) :
    After base cursor (ch.sid :: used) (channels.put k (some ch)) creating where
  views := after.views.remote free foreign unused
  allocated := by
    rcases settled_put ch creating free with same | ⟨room, same⟩
    · rw [same]
      exact after.allocated
    · rw [same]
      exact after.allocated.put_foreign room foreign

theorem After.more_used (after : After base cursor used channels creating) (sid : UInt16) :
    After base cursor (sid :: used) channels creating :=
  ⟨after.views.more_used sid, after.allocated⟩

theorem After.choose (after : After base cursor used channels .idle)
    (next : ∀ i, creating.slot = some i → channels.firstFree = some i)
    (still : settled channels creating = channels) :
    After base cursor used channels creating where
  views :=
    { now := after.views.now
      later := by
        rw [still]
        exact after.views.now
      aside := fun i slot => Table.any_free (Table.firstFree_some (next i slot)).1 }
  allocated := by
    rw [still]
    exact after.allocated

theorem After.fail {label protocol : CString} {callbacks : Callbacks} {env : CreateEnv}
    (after : After base cursor used channels (.chosen slot label protocol callbacks env)) :
    After base cursor used channels (.handed slot none) where
  views :=
    { now := after.views.now
      later := after.views.now.put_none slot
      aside := after.views.aside }
  allocated := after.allocated.put_none (after.views.aside slot rfl)

theorem After.hand {label protocol : CString} {callbacks : Callbacks} {env : CreateEnv}
    (after : After base cursor used channels (.chosen slot label protocol callbacks env))
    (same : ch.sid = UInt16.ofNat cursor) :
    After base (cursor + 2) used channels (.handed slot (some ch)) where
  views :=
    { now := after.views.now
      later := after.views.now.create after.allocated (after.views.aside slot rfl) same
      aside := after.views.aside }
  allocated := after.allocated.create (after.views.aside slot rfl) same

theorem After.store (after : After base cursor used channels (.handed slot result)) :
    After base cursor used (channels.put slot result) .idle where
  views :=
    { now := after.views.later
      later := after.views.later
      aside := fun i nowhere => by cases nowhere }
  allocated := after.allocated

theorem Before.free (before : Before cursor channels creating) (here : creating.slot = some i) :
    channels i = none := by
  have aside := before.after.views.aside i here
  cases stored : channels i with
  | none => rfl
  | some ch =>
      rw [stored] at aside
      exact absurd (before.after.views.now.foreign i ch stored aside) List.not_mem_nil

theorem Before.choose (before : Before cursor channels .idle)
    (next : ∀ i, creating.slot = some i → channels.firstFree = some i)
    (still : settled channels creating = channels) : Before cursor channels creating where
  after := before.after.choose next still
  now := before.now
  later := by
    rw [still]
    exact before.now

theorem Before.fail {label protocol : CString} {callbacks : Callbacks} {env : CreateEnv}
    (before : Before cursor channels (.chosen slot label protocol callbacks env)) :
    Before cursor channels (.handed slot none) where
  after := before.after.fail
  now := before.now
  later := by
    rw [settled_handed, Table.put_none (before.free rfl)]
    exact before.now

theorem Before.hand {label protocol : CString} {callbacks : Callbacks} {env : CreateEnv}
    (before : Before cursor channels (.chosen slot label protocol callbacks env))
    (same : ch.sid = UInt16.ofNat cursor) :
    Before (cursor + 2) channels (.handed slot (some ch)) where
  after := before.after.hand same
  now := before.now
  later := by
    right
    rcases before.now with empty | ⟨j, other, stored, zero⟩
    · -- the table was empty, so the cursor was still zero
      refine ⟨slot, ch, by simp [settled], ?_⟩
      rw [same, before.after.allocated.cursor_of_empty empty]
      rfl
    · refine ⟨j, other, ?_, zero⟩
      have elsewhere : j ≠ slot := by
        rintro rfl
        rw [before.free rfl] at stored
        cases stored
      rw [settled_handed, Table.put_other _ _ elsewhere, stored]

theorem Before.store (before : Before cursor channels (.handed slot result)) :
    Before cursor (channels.put slot result) .idle where
  after := before.after.store
  now := before.later
  later := before.later

theorem Closed.remote {k : Fin rtcdcMaxChannelNum} (closed : Closed role used channels creating)
    (free : channels k = none) (foreign : hasParity (localBase role) ch = false)
    (unused : ch.sid ∉ used) :
    Closed role (ch.sid :: used) (channels.put k (some ch)) creating := by
  rcases closed.call with rfl | ⟨rfl, views, handed⟩
  · have full := Table.firstFree_none.mp closed.full k
    rw [settled_idle, free] at full
    cases full
  · have later := views.remote free foreign unused
    refine ⟨?_, later.now.distinct, .inr ⟨rfl, later, handed⟩⟩
    rcases settled_put ch creating free with same | ⟨room, _⟩
    · rw [same]
      exact closed.full
    · have full := Table.firstFree_none.mp closed.full k
      rw [room] at full
      cases full

theorem Closed.more_used (closed : Closed role used channels creating) (sid : UInt16) :
    Closed role (sid :: used) channels creating :=
  ⟨closed.full, closed.distinct, closed.call.imp id fun ⟨client, views, handed⟩ =>
    ⟨client, views.more_used sid, handed⟩⟩

theorem Closed.store (closed : Closed role used channels (.handed slot result)) :
    Closed role used (channels.put slot result) .idle := by
  rcases closed.call with idle | ⟨_, views, _⟩
  · cases idle
  · exact ⟨closed.full, views.later.distinct, .inl rfl⟩

theorem Before.close (before : Before cursor channels creating)
    (full : (if role = .client then settled channels creating else channels).firstFree = none) :
    Closed role [] channels creating := by
  have filled := Table.firstFree_none.mp full
  have views := before.after.views
  split_ifs at full filled with client
  · refine ⟨full, views.now.distinct, ?_⟩
    cases creating with
    | idle => exact .inl rfl
    | chosen slot label protocol callbacks env =>
        have here := filled slot
        rw [settled_chosen, before.free rfl] at here
        cases here
    | handed slot result => exact .inr ⟨client, views, slot, result, rfl⟩
  · have idle : creating = .idle := by
      cases creating with
      | idle => rfl
      | chosen slot | handed slot =>
          have here := filled slot
          rw [before.free rfl] at here
          cases here
    subst idle
    exact ⟨full, views.now.distinct, .inl rfl⟩

theorem choose_cases {peer : RtcdcPeerConnection} {label protocol : Option CString}
    {callbacks : Callbacks} {env : CreateEnv}
    (chosen : choose peer label protocol callbacks env = some creating) :
    creating = .idle ∨
      ∃ slot label protocol, creating = .chosen slot label protocol callbacks env := by
  unfold choose at chosen
  split at chosen
  · exact .inl (Option.some.inj chosen).symm
  · split at chosen
    · exact .inl (Option.some.inj chosen).symm
    · split_ifs at chosen
      · exact .inl (Option.some.inj chosen).symm
      · split at chosen
        · exact .inr ⟨_, _, _, (Option.some.inj chosen).symm⟩
        · cases chosen

theorem hand_cases {peer next : RtcdcPeerConnection} {transport : RtcdcTransport}
    {label protocol : CString} {callbacks : Callbacks} {env : CreateEnv} {effects : List Effect}
    (stored : peer.transport = some transport) (queue : transport.sctp.deferredMessages ≠ none)
    (ok : 0 ≤ env.sendv)
    (handed : hand peer label protocol callbacks env = some (next, result, effects)) :
    (env.callocReq = false ∧ result = none ∧ next = peer) ∨
      ∃ ch, result = some ch ∧ ch.sid = UInt16.ofNat transport.sctp.streamCursor ∧
        next = peer.withSctp transport
          { transport.sctp with streamCursor := transport.sctp.streamCursor + 2 } := by
  simp only [hand, stored] at handed
  split_ifs at handed with memory refused
  · obtain ⟨rfl, rfl, _⟩ := by simpa only [Prod.mk.injEq] using Option.some.inj handed
    exact .inl ⟨by simpa using memory, rfl, rfl⟩
  · rw [sendSctpMessage_ret ok (by exact queue)] at refused
    exact absurd refused (Int.lt_irrefl 0)
  · obtain ⟨rfl, rfl, _⟩ := by simpa only [Prod.mk.injEq] using Option.some.inj handed
    exact .inr ⟨_, rfl, rfl, rfl⟩

theorem fresh_inv {s : Startup} (fresh : Fresh s) : Inv s := by
  obtain ⟨transport, stored, queue, zero⟩ := fresh.transport
  have view : View 0 [] s.peer.channels := view_empty fresh.channels
  refine ⟨by rw [fresh.creating]; trivial, transport, stored, queue, ?_⟩
  rw [Phase, if_neg (by simp [fresh.cursorSet]), zero, fresh.creating]
  exact ⟨fresh.used,
    { after := ⟨⟨view, view, fun i nowhere => by cases nowhere⟩,
        allocated_empty (by decide) fresh.channels⟩
      now := .inl fresh.channels
      later := .inl fresh.channels }⟩

theorem choose_inv {s : Startup} {label protocol : Option CString} {callbacks : Callbacks}
    {env : CreateEnv} (inv : Inv s) (ok : 0 ≤ env.sendv) (idle : s.creating = .idle)
    (chosen : choose s.peer label protocol callbacks env = some creating) :
    Inv { s with creating } := by
  obtain ⟨_, transport, stored, queue, phase⟩ := inv
  have next : ∀ i, creating.slot = some i → s.peer.channels.firstFree = some i :=
    fun _ => choose_slot chosen
  have still : settled s.peer.channels creating = s.peer.channels := by
    rcases choose_cases chosen with rfl | ⟨_, _, _, rfl⟩ <;> rfl
  have sends : Sends creating := by
    rcases choose_cases chosen with rfl | ⟨_, _, _, rfl⟩
    · trivial
    · exact ok
  refine ⟨sends, transport, stored, queue, ?_⟩
  unfold Phase at phase ⊢
  rw [idle] at phase
  dsimp only
  split_ifs at phase ⊢
  · obtain ⟨past, closed | after⟩ := phase
    · have slotless : creating.slot = none := by
        cases found : creating.slot with
        | none => rfl
        | some i =>
            have free := next i found
            rw [show s.peer.channels.firstFree = none from closed.full] at free
            cases free
      have same : creating = .idle := by
        cases creating with
        | idle => rfl
        | _ => cases slotless
      exact ⟨past, .inl (same ▸ closed)⟩
    · exact ⟨past, .inr (after.choose next still)⟩
  · exact ⟨phase.1, phase.2.choose next still⟩

theorem hand_inv {s : Startup} {next : RtcdcPeerConnection} {label protocol : CString}
    {callbacks : Callbacks} {env : CreateEnv} {effects : List Effect} (inv : Inv s)
    (chosen : s.creating = .chosen slot label protocol callbacks env)
    (handed : hand s.peer label protocol callbacks env = some (next, result, effects)) :
    Inv { s with peer := next, creating := .handed slot result } := by
  obtain ⟨ok, transport, stored, queue, phase⟩ := inv
  rw [chosen] at ok
  unfold Phase at phase
  rw [chosen] at phase
  rcases hand_cases stored queue ok handed with ⟨_, rfl, rfl⟩ | ⟨ch, rfl, same, rfl⟩
  · refine ⟨trivial, transport, stored, queue, ?_⟩
    unfold Phase
    dsimp only
    split_ifs at phase ⊢
    · obtain ⟨past, closed | after⟩ := phase
      · rcases closed.call with idle | ⟨_, _, _, _, other⟩
        · cases idle
        · cases other
      · exact ⟨past, .inr after.fail⟩
    · exact ⟨phase.1, phase.2.fail⟩
  · refine ⟨trivial, _, rfl, queue, ?_⟩
    unfold Phase
    dsimp only
    split_ifs at phase ⊢
    · obtain ⟨past, closed | after⟩ := phase
      · rcases closed.call with idle | ⟨_, _, _, _, other⟩
        · cases idle
        · cases other
      · exact ⟨past, .inr (after.hand same)⟩
    · exact ⟨phase.1, phase.2.hand same⟩

theorem store_inv {s : Startup} (inv : Inv s) (handed : s.creating = .handed slot result) :
    Inv { s with
      peer := { s.peer with channels := s.peer.channels.put slot result }
      creating := .idle } := by
  obtain ⟨_, transport, stored, queue, phase⟩ := inv
  refine ⟨trivial, transport, stored, queue, ?_⟩
  unfold Phase at phase ⊢
  rw [handed] at phase
  dsimp only
  split_ifs at phase ⊢
  · exact ⟨phase.1, phase.2.imp Closed.store After.store⟩
  · exact ⟨phase.1, phase.2.store⟩

theorem startup_inv {s : Startup} {next : RtcdcPeerConnection} {pc' : StartupPc}
    {associated : Bool} {effects : List Effect} (inv : Inv s)
    (inTime : SetsInTime s (.startup associated))
    (moved : startupThread s.peer s.pc associated = some (next, pc', effects)) :
    Inv { s with
      peer := next
      pc := pc'
      cursorSet := s.cursorSet || decide (s.pc = .setCursor) } := by
  obtain ⟨sends, transport, stored, queue, phase⟩ := inv
  obtain ⟨channels, role, before, transport', stored', newTransport, sameQueue, change⟩ :=
    startupThread_cases moved
  obtain rfl : transport = before := by simpa [stored] using stored'
  refine ⟨sends, transport', newTransport, by simpa only [sameQueue] using queue, ?_⟩
  rcases change with ⟨setting, associate, cursor⟩ | ⟨other, past, cursor⟩
  · have unset : s.cursorSet ≠ true := by
      intro set
      rw [Phase, if_pos set, setting] at phase
      cases phase.1
    rw [Phase, if_neg unset] at phase
    obtain ⟨unused, before⟩ := phase
    rw [Phase, if_pos (by simp [setting]), associate]
    refine ⟨rfl, ?_⟩
    simp only [channels, role, unused]
    rcases inTime setting with empty | full
    · right
      rw [cursor]
      have now : ∀ i, s.peer.channels i = none := by
        intro i
        cases call : s.creating with
        | idle | chosen => simpa [call] using empty i
        | handed slot result =>
            by_cases here : i = slot
            · exact here ▸ before.free (by rw [call]; rfl)
            · simpa [call, Table.put_other _ _ here] using empty i
      exact ⟨⟨view_empty now, view_empty empty, fun i slot => Table.any_free (now i)⟩,
        allocated_empty (localBase_lt _) empty⟩
    · exact .inl (before.close full)
  · have flag : (s.cursorSet || decide (s.pc = .setCursor)) = s.cursorSet := by simp [other]
    unfold Phase at phase ⊢
    simp only [flag, cursor, channels, role]
    split_ifs at phase ⊢ with set
    · exact ⟨past phase.1, phase.2⟩
    · exact phase

theorem remoteOpen_inv {s : Startup} {next : RtcdcPeerConnection} {sid : UInt16} {data : Bytes}
    {env : HandlerEnv} {effects : List Effect} (inv : Inv s) (remote : RemoteOpens s sid data)
    (handled : handleRtcdcMessage s.peer data webrtcControlPpid sid env = some (next, effects)) :
    Inv { s with peer := next, used := sid :: s.used } := by
  obtain ⟨sends, transport, stored, queue, phase⟩ := inv
  obtain ⟨set, parity, unused, opens⟩ := remote
  rw [Phase, if_pos set] at phase
  obtain ⟨past, phase⟩ := phase
  rw [handleRtcdcMessage_open opens] at handled
  rcases handleRtcdcOpenRequest_cases handled with
    ⟨rfl, _⟩ | ⟨openReq, i, ch, _, _, found, made, _, rfl, _⟩
  · refine ⟨sends, transport, stored, queue, ?_⟩
    rw [Phase, if_pos set]
    exact ⟨past, phase.imp (Closed.more_used · sid) (After.more_used · sid)⟩
  · have free := (Table.firstFree_some found).1
    have same : (s.peer.installCallbacks ch).sid = sid := by
      rw [installCallbacks_sid, (allocateNewDataChannel_fields made).1]
    have foreign : hasParity (localBase s.peer.role) (s.peer.installCallbacks ch) = false := by
      rw [hasParity, same]
      simpa using parity
    refine ⟨sends, transport, stored, queue, ?_⟩
    rw [Phase, if_pos set, ← same]
    rw [← same] at unused
    exact ⟨past, phase.imp (Closed.remote · free foreign unused)
      (After.remote · free foreign unused)⟩

variable {s next : Startup} {move : Move} {effects : List Effect}

theorem step_inv (inv : Inv s) (inTime : SetsInTime s move)
    (moved : step s move = some (next, effects)) : Inv next := by
  cases move with
  | choose label protocol callbacks env =>
      simp only [step] at moved
      split at moved
      · rename_i idle
        split_ifs at moved with ok
        obtain ⟨creating, chosen, equal⟩ := Option.map_eq_some_iff.mp moved
        obtain ⟨rfl, rfl⟩ := Prod.mk.inj equal
        exact choose_inv inv ok idle chosen
      · cases moved
  | hand =>
      simp only [step] at moved
      split at moved
      · rename_i slot label protocol callbacks env chosen
        obtain ⟨⟨peer', result, _⟩, handed, equal⟩ := Option.map_eq_some_iff.mp moved
        obtain ⟨rfl, rfl⟩ := Prod.mk.inj equal
        exact hand_inv inv chosen handed
      · cases moved
  | store =>
      simp only [step] at moved
      split at moved
      · rename_i slot result handed
        obtain ⟨rfl, rfl⟩ := Prod.mk.inj (Option.some.inj moved)
        exact store_inv inv handed
      · cases moved
  | startup associated =>
      obtain ⟨⟨peer', pc', _⟩, called, equal⟩ := Option.map_eq_some_iff.mp moved
      obtain ⟨rfl, rfl⟩ := Prod.mk.inj equal
      exact startup_inv inv inTime called
  | negotiated | shaken =>
      obtain ⟨transport, stored, equal⟩ := Option.map_eq_some_iff.mp moved
      obtain ⟨rfl, rfl⟩ := Prod.mk.inj equal
      obtain ⟨sends, transport', stored', queue, phase⟩ := inv
      obtain rfl : transport = transport' := by simpa [stored] using stored'
      exact ⟨sends, _, rfl, queue, phase⟩
  | exit =>
      obtain ⟨rfl, rfl⟩ := Prod.mk.inj (Option.some.inj moved)
      exact inv
  | remoteOpen sid data env =>
      simp only [step] at moved
      split_ifs at moved with remote
      obtain ⟨⟨peer', _⟩, handled, equal⟩ := Option.map_eq_some_iff.mp moved
      obtain ⟨rfl, rfl⟩ := Prod.mk.inj equal
      exact remoteOpen_inv inv remote handled

theorem run_inv {start s : Startup} {moves : List Move} {effects : List Effect}
    (fresh : Fresh start) (run : RunIf SetsInTime step start moves s effects) : Inv s :=
  run.invariant (fun s _ => Inv s) (fresh_inv fresh)
    fun _ _ _ _ _ inv inTime moved => step_inv inv inTime moved

theorem distinct_sids {start s : Startup} {moves : List Move} {effects : List Effect}
    (fresh : Fresh start) (run : RunIf SetsInTime step start moves s effects) :
    DistinctSids s.peer.channels :=
  (run_inv fresh run).distinct

def freshStartup : Startup where
  peer :=
    { exitThread := false
      transport := some
        { ice := { negotiationDone := false }
          dtls := { handshakeDone := false }
          sctp := { handshakeDone := false, deferredMessages := some [], streamCursor := 0 } }
      role := .client
      channels := fun _ => none
      onChannel := none
      onConnect := false }
  pc := .awaitNegotiation
  cursorSet := false
  creating := .idle
  used := []

theorem freshStartup_fresh : Fresh freshStartup :=
  ⟨⟨_, rfl, by decide, rfl⟩, fun _ => rfl, rfl, rfl, rfl, rfl⟩

def createUnlabelled : List Move :=
  [.choose (some CString.empty) (some CString.empty) ⟨false, false, false⟩ ⟨true, true, 0⟩, .hand,
    .store]

def untilCursor : List Move :=
  [.negotiated, .startup true, .startup true, .shaken, .startup true, .startup true]

def sidAt (i : Fin rtcdcMaxChannelNum) (s : Startup) : Option UInt16 :=
  (s.peer.channels i).map RtcdcDataChannel.sid

theorem freshStartup_distinct :
    ∃ last effects, RunIf SetsInTime step freshStartup
        (untilCursor ++ createUnlabelled ++ createUnlabelled) last effects ∧
      sidAt 1 last = some 2 ∧ DistinctSids last.peer.channels := by
  have moved : ((execIf SetsInTime step freshStartup
      (untilCursor ++ createUnlabelled ++ createUnlabelled)).map fun last => sidAt 1 last.1) =
        some (some 2) := by decide +kernel
  obtain ⟨⟨last, effects⟩, taken, second⟩ := Option.map_eq_some_iff.mp moved
  have run := execIf_runIf taken
  exact ⟨last, effects, run, second, distinct_sids freshStartup_fresh run⟩

def StreamLaw : Prop :=
  ∀ (start s : Startup) (moves : List Move) (effects : List Effect),
    Fresh start → Run step start moves s effects → DistinctSids s.peer.channels

theorem stream_zero_reused : ¬ StreamLaw := by
  intro law
  have moved : ((exec step freshStartup
      (createUnlabelled ++ untilCursor ++ createUnlabelled)).map fun last =>
        (sidAt 0 last.1, sidAt 1 last.1)) = some (some 0, some 0) := by decide +kernel
  obtain ⟨⟨last, effects⟩, taken, same⟩ := Option.map_eq_some_iff.mp moved
  obtain ⟨first, second⟩ := Prod.mk.inj same
  obtain ⟨a, storedA, sidA⟩ := Option.map_eq_some_iff.mp first
  obtain ⟨b, storedB, sidB⟩ := Option.map_eq_some_iff.mp second
  have distinct := law _ _ _ _ freshStartup_fresh (exec_run taken)
  exact absurd (distinct 0 1 a b storedA storedB (sidA.trans sidB.symm)) (by decide)

def Collides (s : Startup) : Prop :=
  ∃ rest last emitted, Run step s rest last emitted ∧ ¬ DistinctSids last.peer.channels

theorem Collides.before {move : Move} (moved : step s move = some (next, effects))
    (later : Collides next) : Collides s := by
  obtain ⟨rest, last, emitted, run, same⟩ := later
  have first : Run step s [move] next effects := .snoc .refl trivial moved
  exact ⟨_, last, _, first.append run, same⟩

theorem collides_put {k : Fin rtcdcMaxChannelNum} {new : RtcdcDataChannel}
    (stored : s.peer.channels = channels.put k (some new)) (elsewhere : i ≠ k)
    (here : channels i = some ch) (same : new.sid = ch.sid) : Collides s := by
  refine ⟨[], s, [], .refl, fun distinct => ?_⟩
  rw [stored] at distinct
  have kept : channels.put k (some new) i = some ch := by rw [Table.put_other _ _ elsewhere, here]
  exact elsewhere (distinct i k ch new kept (Table.put_same _ _ _) same.symm)

theorem step_store (handed : s.creating = .handed slot result) :
    step s .store = some ({ s with
      peer := { s.peer with channels := s.peer.channels.put slot result }
      creating := .idle }, []) := by
  simp [step, handed]

theorem hand_some {peer : RtcdcPeerConnection} {transport : RtcdcTransport}
    (stored : peer.transport = some transport) (label protocol : CString) (callbacks : Callbacks)
    (env : CreateEnv) :
    ∃ next result effects,
      hand peer label protocol callbacks env = some (next, result, effects) := by
  unfold hand
  rw [stored]
  dsimp only
  split_ifs <;> exact ⟨_, _, _, rfl⟩

theorem step_hand {peer : RtcdcPeerConnection} {label protocol : CString} {callbacks : Callbacks}
    {env : CreateEnv} (chosen : s.creating = .chosen slot label protocol callbacks env)
    (handed : hand s.peer label protocol callbacks env = some (peer, result, effects)) :
    step s .hand = some ({ s with peer := peer, creating := .handed slot result }, effects) := by
  simp [step, chosen, handed]

theorem hand_collides {transport : RtcdcTransport} {label protocol : CString}
    {callbacks : Callbacks} {env : CreateEnv} (stored : s.peer.transport = some transport)
    (queue : transport.sctp.deferredMessages ≠ none) (ok : 0 ≤ env.sendv)
    (memory : env.callocReq = true)
    (chosen : s.creating = .chosen slot label protocol callbacks env)
    (free : s.peer.channels slot = none) (here : s.peer.channels i = some ch)
    (same : ch.sid = UInt16.ofNat transport.sctp.streamCursor) : Collides s := by
  have elsewhere : i ≠ slot := by
    rintro rfl
    rw [free] at here
    cases here
  obtain ⟨peer, result, effects, handed⟩ := hand_some stored label protocol callbacks env
  rcases hand_cases stored queue ok handed with ⟨failed, _⟩ | ⟨new, rfl, sid, rfl⟩
  · rw [memory] at failed
    cases failed
  · exact .before (step_hand chosen handed) (.before (step_store rfl)
      (collides_put rfl elsewhere here (sid.trans same.symm)))

theorem idle_collides {transport : RtcdcTransport} (stored : s.peer.transport = some transport)
    (queue : transport.sctp.deferredMessages ≠ none) (idle : s.creating = .idle)
    (free : s.peer.channels.firstFree = some slot) (here : s.peer.channels i = some ch)
    (same : ch.sid = UInt16.ofNat transport.sctp.streamCursor) : Collides s := by
  let env : CreateEnv := ⟨true, true, 0⟩
  let callbacks : Callbacks := ⟨false, false, false⟩
  have chosen : step s (.choose (some CString.empty) (some CString.empty) callbacks env) =
      some ({ s with creating := .chosen slot CString.empty CString.empty callbacks env }, []) := by
    simp [step, idle, choose, stored, free, env]
  exact .before chosen
    (hand_collides stored queue (Int.le_refl 0) rfl rfl (Table.firstFree_some free).1 here same)

theorem chosen_collides {transport : RtcdcTransport} {label protocol : CString}
    {callbacks : Callbacks} {env : CreateEnv} (stored : s.peer.transport = some transport)
    (queue : transport.sctp.deferredMessages ≠ none) (ok : 0 ≤ env.sendv)
    (chosen : s.creating = .chosen slot label protocol callbacks env)
    (free : s.peer.channels slot = none) (here : s.peer.channels i = some ch)
    (same : ch.sid = UInt16.ofNat transport.sctp.streamCursor) : Collides s := by
  cases memory : env.callocReq with
  | true => exact hand_collides stored queue ok memory chosen free here same
  | false =>
      -- the call fails, and another one does it
      obtain ⟨k, room⟩ := Table.firstFree_exists ⟨slot, free⟩
      have still := Table.put_none free
      have handed : hand s.peer label protocol callbacks env = some (s.peer, none, []) := by
        simp [hand, stored, memory]
      exact .before (step_hand chosen handed) (.before (step_store rfl)
        (idle_collides stored queue rfl (by simpa only [still] using room)
          (by simpa only [still] using here) same))

theorem step_remoteOpen {sid : UInt16} {data : Bytes} {env : HandlerEnv}
    {peer : RtcdcPeerConnection} (remote : RemoteOpens s sid data)
    (handled : handleRtcdcMessage s.peer data webrtcControlPpid sid env = some (peer, effects)) :
    step s (.remoteOpen sid data env) =
      some ({ s with peer := peer, used := sid :: s.used }, effects) := by
  simp [step, remote, handled]

theorem remote_collides {transport : RtcdcTransport} (stored : s.peer.transport = some transport)
    (set : s.cursorSet = true) (server : s.peer.role ≠ .client) (unused : s.used = [])
    (free : s.peer.channels.firstFree = some slot) (here : s.peer.channels i = some ch)
    (zero : ch.sid = 0) : Collides s := by
  have elsewhere : i ≠ slot := by
    rintro rfl
    rw [(Table.firstFree_some free).1] at here
    cases here
  let opening := openRequest CString.empty CString.empty
  have remote : RemoteOpens s 0 opening.bytes :=
    ⟨set, by simp [localBase, server], by simp [unused], rfl⟩
  have made : allocateNewDataChannel opening 0 =
      some (acceptedChannel CString.empty CString.empty 0) :=
    allocateNewDataChannel_openRequest 0 (Nat.zero_le _) (Nat.zero_le _)
  have accept := handleRtcdcOpenRequest_stores 0 stored
    (DcepOpenMessage.ofBytes_bytes opening) free made
  rw [← handleRtcdcMessage_open rfl] at accept
  refine .before (step_remoteOpen remote accept) (collides_put rfl elsewhere here ?_)
  rw [zero, installCallbacks_sid]
  rfl

theorem StartsAtZero.some (zero : StartsAtZero channels) (taken : ¬ ∀ i, channels i = none) :
    ∃ i ch, channels i = some ch ∧ ch.sid = 0 :=
  zero.resolve_left taken

theorem table_room (slot : Fin rtcdcMaxChannelNum) : ∃ j, j ≠ slot := by
  by_cases first : slot = 0
  · exact ⟨1, by rw [first]; decide⟩
  · exact ⟨0, Ne.symm first⟩

theorem late_cursor_collides {start s : Startup} {moves : List Move} {effects : List Effect}
    {associated : Bool} (fresh : Fresh start)
    (run : RunIf SetsInTime step start moves s effects)
    (late : ¬ SetsInTime s (.startup associated)) : Collides s := by
  obtain ⟨sends, transport, stored, queue, phase⟩ := run_inv fresh run
  simp only [SetsInTime, Classical.not_imp, not_or] at late
  obtain ⟨setting, begun, roomy⟩ := late
  have unset : s.cursorSet ≠ true := by
    intro set
    rw [Phase, if_pos set, setting] at phase
    cases phase.1
  rw [Phase, if_neg unset] at phase
  obtain ⟨unused, before⟩ := phase
  obtain ⟨i, ch, here, zero⟩ := before.later.some begun
  obtain ⟨k, room⟩ := Option.ne_none_iff_exists'.mp roomy
  let cursor := if s.peer.role = .client then 0 else 1
  let set : Startup :=
    { s with
      peer := s.peer.withSctp transport { transport.sctp with streamCursor := cursor }
      pc := .associate
      cursorSet := true }
  have startup : step s (.startup associated) = some (set, []) := by
    simp [step, startupThread, stored, setting, set, cursor]
  refine .before startup ?_
  have transported : set.peer.transport =
      some { transport with sctp := { transport.sctp with streamCursor := cursor } } := rfl
  by_cases client : s.peer.role = .client
  · -- the next create call starts again from the client's first id
    have first : ch.sid = UInt16.ofNat cursor := by simp [zero, cursor, client]
    rw [occupied, if_pos client] at room
    cases call : s.creating with
    | idle =>
        rw [call] at here room
        exact idle_collides transported queue call room here first
    | chosen slot label protocol callbacks env =>
        rw [call] at here sends
        exact chosen_collides transported queue sends call
          (before.free (by rw [call]; rfl)) here first
    | handed slot result =>
        rw [call] at here room
        exact .before (step_store call) (idle_collides rfl queue rfl room here first)
  · rw [occupied, if_neg client] at room
    cases call : s.creating with
    | idle | chosen =>
        rw [call] at here
        exact remote_collides transported rfl client unused room here zero
    | handed slot result =>
        rw [call] at here
        cases free : (settled s.peer.channels s.creating).firstFree with
        | some k' =>
            rw [call] at free
            exact .before (step_store call) (remote_collides rfl rfl client unused free here zero)
        | none =>
            -- every other slot is taken, one of them by the first id
            have filled := Table.firstFree_none.mp free
            obtain ⟨j, other⟩ := table_room slot
            have taken : ¬ ∀ i, s.peer.channels i = none := by
              intro empty
              have full := filled j
              rw [call, settled_handed, Table.put_other _ _ other, empty] at full
              cases full
            obtain ⟨i', ch', here', zero'⟩ := before.now.some taken
            exact remote_collides transported rfl client unused room here' zero'

end Librtcdc.Streams
