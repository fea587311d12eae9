import Librtcdc.Peer.Deliveries

set_option autoImplicit false

namespace Librtcdc.Pair

open Systems

theorem step_inv {x next : TwoPeers} {events emitted : List Event} {action : Action}
    (inv : Inv x events) (moved : step x action = some (next, emitted)) :
    Inv next (events ++ emitted) := by
  cases action with
  | create side label protocol callbacks env =>
      simp only [step] at moved
      split_ifs at moved with allowed
      obtain ⟨ok, shortLabel, shortProtocol⟩ := allowed
      obtain ⟨⟨created, peer, effects⟩, called, equal⟩ := Option.map_eq_some_iff.mp moved
      obtain ⟨rfl, rfl⟩ := Prod.mk.inj equal
      exact create_inv inv ok shortLabel shortProtocol called
  | send side slot datatype data err =>
      simp only [step] at moved
      split_ifs at moved with allowed
      obtain ⟨transport, stored, equal⟩ := Option.map_eq_some_iff.mp moved
      obtain ⟨rfl, rfl⟩ := Prod.mk.inj equal
      exact send_inv inv allowed.2 rfl
  | deliver sender position env =>
      simp only [step] at moved
      split_ifs at moved with allowed
      obtain ⟨⟨message, rest⟩, taken, handled⟩ := Option.bind_eq_some_iff.mp moved
      obtain ⟨⟨peer, effects⟩, received, equal⟩ := Option.map_eq_some_iff.mp handled
      obtain ⟨rfl, rfl⟩ := Prod.mk.inj equal
      obtain ⟨side, rfl⟩ : ∃ side : Side, sender = side.other := ⟨sender.other, by simp⟩
      simp only [Side.other_other] at received ⊢
      exact deliver_inv inv taken received
  | handshake side =>
      obtain ⟨transport, stored, equal⟩ := Option.map_eq_some_iff.mp moved
      obtain ⟨rfl, rfl⟩ := Prod.mk.inj equal
      exact handshake_inv inv stored

theorem run_inv {start x : TwoPeers} {actions : List Action} {events : List Event}
    (ready : Ready start) (run : Run step start actions x events) : Inv x events :=
  run.invariant Inv (ready_inv ready) fun _ _ _ _ _ inv _ moved => step_inv inv moved

def payload (message : Sendv) : Option (Datatype × Bytes) :=
  (datatypeOfPpid (ntohl message.sndPpid)).map fun datatype => (datatype, message.data)

def userMessages (messages : List Sendv) : List (Datatype × Bytes) :=
  messages.filterMap payload

def Callback.heard : Callback → Option (Datatype × Bytes)
  | .message datatype data => some (datatype, data)
  | .opened => none

def heardOn (side : Side) (slot : Fin rtcdcMaxChannelNum) (events : List Event) :
    List (Datatype × Bytes) :=
  (callsOn side slot events).filterMap Callback.heard

def opensOn (side : Side) (slot : Fin rtcdcMaxChannelNum) (events : List Event) : Nat :=
  (callsOn side slot events).count .opened

theorem callFor_heard (callbacks : Callbacks) (message : Sendv) :
    (callFor callbacks message).bind Callback.heard =
      if callbacks.onMessage then payload message else none := by
  have control : datatypeOfPpid webrtcControlPpid = none := rfl
  unfold callFor payload
  by_cases isControl : ntohl message.sndPpid = webrtcControlPpid
  · rw [if_pos isControl, isControl, control]
    split_ifs <;> rfl
  · rw [if_neg isControl]
    cases datatypeOfPpid (ntohl message.sndPpid) with
    | none => simp
    | some datatype => cases callbacks.onMessage <;> rfl

theorem callFor_user {message : Sendv} (user : IsUser message) (callbacks : Callbacks) :
    callFor callbacks message ≠ some .opened := by
  obtain ⟨datatype, carried⟩ := Option.isSome_iff_exists.mp user.ppid
  have data : ntohl message.sndPpid ≠ webrtcControlPpid := by
    intro control
    rw [control] at carried
    cases carried
  simp only [callFor, data, if_false, carried]
  split_ifs <;> simp

theorem Preamble.opens_once {first : Sendv} {messages : List Sendv}
    (preamble : Preamble first messages) (callbacks : Callbacks) :
    (messages.filterMap (callFor callbacks)).count .opened ≤ 1 := by
  cases messages with
  | nil => simp
  | cons head tail =>
      have later : (tail.filterMap (callFor callbacks)).count .opened = 0 := by
        rw [List.count_eq_zero, List.mem_filterMap]
        rintro ⟨message, member, opens⟩
        exact callFor_user (preamble.2 message member) callbacks opens
      rw [List.filterMap_cons]
      split
      · omega
      · rw [List.count_cons, later]
        split_ifs <;> omega

section Streams

variable {side : Side} {sid : UInt16} {mine theirs : Option RtcdcDataChannel}
  {sentMine sentTheirs gotMine gotTheirs : List Sendv} {a b : RtcdcDataChannel}

theorem StreamAt.preamble
    (stream : StreamAt side sid mine theirs sentMine sentTheirs gotMine gotTheirs) :
    ∃ first, Preamble first sentTheirs := by
  unfold StreamAt at stream
  split_ifs at stream
  · cases stream with
    | idle _ _ _ nothing => exact ⟨ackSendv sid, by rw [nothing]; trivial⟩
    | opening _ _ _ _ _ nothing => exact ⟨ackSendv sid, by rw [nothing]; trivial⟩
    | opened _ _ _ _ _ _ _ answers => exact ⟨_, answers⟩
  · cases stream with
    | idle _ _ nothing => exact ⟨ackSendv sid, by rw [nothing]; trivial⟩
    | opening _ _ _ _ opens => exact ⟨_, opens⟩
    | opened _ _ _ _ _ opens => exact ⟨_, opens⟩

theorem SameTexts.symm (same : SameTexts a b) : SameTexts b a :=
  ⟨same.label.symm, same.protocol.symm⟩

theorem StreamOk.same_texts
    (stream : StreamOk sid (some a) (some b) sentMine sentTheirs gotMine gotTheirs) :
    SameTexts a b := by
  cases stream with
  | idle missing => cases missing
  | opening _ missing => cases missing
  | opened own_some remote_some _ _ texts =>
      cases own_some
      cases remote_some
      exact texts

theorem StreamAt.same_texts
    (stream : StreamAt side sid (some a) (some b) sentMine sentTheirs gotMine gotTheirs) :
    SameTexts a b := by
  unfold StreamAt at stream
  split_ifs at stream
  · exact stream.same_texts
  · exact stream.same_texts.symm

theorem StreamAt.connected
    (stream : StreamAt side sid (some a) theirs sentMine sentTheirs gotMine gotTheirs)
    (own : owner sid = side) (connected : a.state = .connected) :
    ∃ b, theirs = some b ∧ b.state = .connected ∧ SameTexts a b := by
  rw [StreamAt, if_pos own] at stream
  cases stream with
  | idle missing => cases missing
  | opening own_some _ connecting =>
      cases own_some
      rw [connected] at connecting
      cases connecting
  | opened own_some remote_some _ answered texts =>
      cases own_some
      exact ⟨_, remote_some, answered, texts⟩

end Streams

structure Agree (x : TwoPeers) (events : List Event) : Prop where
  distinct : ∀ side, DistinctSids (x.peers side).channels
  parity : ∀ side, ∀ i ∈ createdBy side events, ∃ ch, (x.peers side).channels i = some ch ∧
    ch.sid.toNat % 2 = side.base
  below : ∀ side i ch, (x.peers side).channels i = some ch → ch.sid.toNat < rtcdcMaxOutStream
  connected : ∀ side, ∀ i ∈ createdBy side events, ∀ a, (x.peers side).channels i = some a →
    a.state = .connected → ∃ j b, (x.peers side.other).channels j = some b ∧
      b.state = .connected ∧ b.sid = a.sid ∧ SameTexts a b
  openedOnce : ∀ side slot, opensOn side slot events ≤ 1
  -- what was sent on channel `a` is what channel `b` was told and then what is in flight
  dispatched : ∀ side i j a b, (x.peers side).channels i = some a →
    (x.peers side.other).channels j = some b → a.sid = b.sid →
    SameTexts a b ∧ (b.callbacks.onMessage = true →
      userMessages (onSid a.sid (sentBy side events)) =
        heardOn side.other j events ++ userMessages (onSid a.sid (x.wire side)))
  -- and no channel is told anything else
  nothingElse : ∀ side j, heardOn side j events ≠ [] → ∃ b,
    (x.peers side).channels j = some b ∧
      heardOn side j events <+: userMessages (onSid b.sid (sentBy side.other events))

variable {x : TwoPeers} {events : List Event} {side : Side} {i j slot : Fin rtcdcMaxChannelNum}
  {a b ch : RtcdcDataChannel}

theorem Inv.split (inv : Inv x events) (side : Side) (sid : UInt16) :
    onSid sid (sentBy side events) =
      onSid sid (deliveredFrom side events) ++ onSid sid (x.wire side) :=
  inv.ordered side sid

theorem Inv.heard (inv : Inv x events) (stored : (x.peers side).channels slot = some ch) :
    heardOn side slot events =
      if ch.callbacks.onMessage then userMessages (onSid ch.sid (deliveredFrom side.other events))
      else [] := by
  have calls := inv.calls side slot
  rw [CallsMatch, stored] at calls
  rw [heardOn, calls, List.filterMap_filterMap]
  simp only [callFor_heard]
  cases ch.callbacks.onMessage
  · simp
  · rfl

theorem Inv.unheard (inv : Inv x events) (free : (x.peers side).channels slot = none) :
    callsOn side slot events = [] := by
  have calls := inv.calls side slot
  rwa [CallsMatch, free] at calls

theorem Inv.opened_once (inv : Inv x events) (side : Side) (slot : Fin rtcdcMaxChannelNum) :
    opensOn side slot events ≤ 1 := by
  cases stored : (x.peers side).channels slot with
  | none => simp [opensOn, inv.unheard stored]
  | some ch =>
      have calls := inv.calls side slot
      rw [CallsMatch, stored] at calls
      obtain ⟨first, preamble⟩ := (inv.streams ch.sid side).preamble
      have total := preamble.opens_once ch.callbacks
      have split := inv.split side.other ch.sid
      unfold onSid at *
      rw [split, List.filterMap_append, List.count_append] at total
      rw [opensOn, calls]
      exact (Nat.le_add_right _ _).trans total

theorem Inv.connected (inv : Inv x events) (created : i ∈ createdBy side events)
    (stored : (x.peers side).channels i = some a) (connected : a.state = .connected) :
    ∃ j b, (x.peers side.other).channels j = some b ∧ b.state = .connected ∧ b.sid = a.sid ∧
      SameTexts a b := by
  obtain ⟨ch, there, parity⟩ := inv.created side i created
  obtain rfl : ch = a := by simpa [stored] using there.symm
  have own : owner ch.sid = side := owner_of_parity (by simpa [hasParity] using parity)
  have stream := inv.streams ch.sid side
  rw [StreamOf, channelOn_stored (inv.peers side).distinct stored] at stream
  obtain ⟨b, found, answered, texts⟩ := stream.connected own connected
  obtain ⟨j, _, at_, same⟩ := channelOn_some found
  exact ⟨j, b, at_, answered, same, texts⟩

theorem Inv.dispatched (inv : Inv x events) (mine : (x.peers side).channels i = some a)
    (theirs : (x.peers side.other).channels j = some b) (same : a.sid = b.sid) :
    SameTexts a b ∧ (b.callbacks.onMessage = true →
      userMessages (onSid a.sid (sentBy side events)) =
        heardOn side.other j events ++ userMessages (onSid a.sid (x.wire side))) := by
  constructor
  · have stream := inv.streams a.sid side
    have found := channelOn_stored (inv.peers side.other).distinct theirs
    rw [← same] at found
    rw [StreamOf, channelOn_stored (inv.peers side).distinct mine, found] at stream
    exact stream.same_texts
  · intro listening
    rw [inv.heard theirs, if_pos listening, inv.split, same, Side.other_other]
    exact List.filterMap_append ..

theorem Inv.nothing_else (inv : Inv x events) (heard : heardOn side j events ≠ []) :
    ∃ b, (x.peers side).channels j = some b ∧
      heardOn side j events <+: userMessages (onSid b.sid (sentBy side.other events)) := by
  cases stored : (x.peers side).channels j with
  | none =>
      rw [heardOn, inv.unheard stored] at heard
      exact absurd rfl heard
  | some b =>
      refine ⟨b, rfl, ?_⟩
      rw [inv.heard stored, inv.split]
      split_ifs
      · exact ⟨_, (List.filterMap_append ..).symm⟩
      · exact List.nil_prefix

theorem Inv.agree (inv : Inv x events) : Agree x events where
  distinct := fun side => (inv.peers side).distinct
  parity := by
    intro side i member
    obtain ⟨ch, stored, parity⟩ := inv.created side i member
    exact ⟨ch, stored, by simpa [hasParity] using parity⟩
  below := fun side => (inv.peers side).below
  connected := fun _ _ member _ stored connected => inv.connected member stored connected
  openedOnce := inv.opened_once
  dispatched := fun _ _ _ _ _ mine theirs same => inv.dispatched mine theirs same
  nothingElse := fun _ _ heard => inv.nothing_else heard

/-- Over every interleaving the two peers agree on their channels. -/
theorem peers_agree {start x : TwoPeers} {actions : List Action} {events : List Event}
    (ready : Ready start) (run : Run step start actions x events) : Agree x events :=
  (run_inv ready run).agree

theorem handleRtcdcOpenRequest_handles {peer : RtcdcPeerConnection} {transport : RtcdcTransport}
    {label protocol : CString} {sid : UInt16} {env : HandlerEnv}
    (stored : peer.transport = some transport) (shortLabel : label.val.length ≤ 65535)
    (shortProtocol : protocol.val.length ≤ 65535) :
    (handleRtcdcOpenRequest peer sid (openRequest label protocol).bytes env).isSome := by
  have made := allocateNewDataChannel_openRequest sid shortLabel shortProtocol
  simp only [handleRtcdcOpenRequest, DcepOpenMessage.ofBytes_bytes, made, stored]
  cases peer.channels.firstFree with
  | none => rfl
  | some i => cases env.calloc <;> rfl

theorem Inv.delivers {sender : Side} {position : Nat} {m : Sendv} {rest : List Sendv}
    {env : HandlerEnv} (inv : Inv x events)
    (taken : takeAt Sendv.sndSid (x.wire sender) position = some (m, rest))
    (ok : 0 ≤ env.sendv) : (step x (.deliver sender position env)).isSome := by
  obtain ⟨side, rfl⟩ : ∃ side : Side, sender = side.other := ⟨sender.other, by simp⟩
  obtain ⟨later, split⟩ := (inv.ordered side.other).next taken
  have before := inv.streams m.sndSid side
  have handled : (sctpDataReceivedCb (x.peers side) m.data m.sndPpid m.sndSid false env).isSome := by
    unfold StreamOf at before
    rcases before.incoming split with
      ⟨label, protocol, opens, shortLabel, shortProtocol, _⟩ | ⟨acks, _⟩ | ⟨user, _⟩
    · obtain ⟨transport, stored, _⟩ := (inv.peers side).transport
      rw [opens, receive_open]
      exact handleRtcdcOpenRequest_handles stored shortLabel shortProtocol
    · rw [acks, receive_ack]
      rfl
    · obtain ⟨_, _, _, result⟩ := receive_user (x.peers side) env user
      rw [result]
      rfl
  simpa [step, ok, taken] using handled

theorem delivery_handled {start x : TwoPeers} {actions : List Action} {events : List Event}
    {sender : Side} {position : Nat} {m : Sendv} {rest : List Sendv} {env : HandlerEnv}
    (ready : Ready start) (run : Run step start actions x events)
    (taken : takeAt Sendv.sndSid (x.wire sender) position = some (m, rest))
    (ok : 0 ≤ env.sendv) : (step x (.deliver sender position env)).isSome :=
  (run_inv ready run).delivers taken ok

def readyPeer (role : PeerRole) (cursor : Nat) : RtcdcPeerConnection where
  exitThread := false
  transport := some
    { ice := { negotiationDone := true }
      dtls := { handshakeDone := true }
      sctp := { handshakeDone := true, deferredMessages := some [], streamCursor := cursor } }
  role := role
  channels := fun _ => none
  onChannel := some fun _ => ⟨true, true, false⟩
  onConnect := false

def readyPair : TwoPeers where
  peers := fun side => readyPeer side.role side.base
  wire := fun _ => []

theorem readyPair_ready : Ready readyPair where
  role := fun _ => rfl
  transport := fun _ => ⟨_, rfl, Option.some_ne_none _, rfl⟩
  channels := fun _ _ => rfl
  wire := fun _ => rfl

theorem letter_nulFree : (0 : UInt8) ∉ [99] := by decide

def greet : List Action :=
  [.create .client ⟨[99], letter_nulFree⟩ CString.empty ⟨true, true, false⟩ ⟨true, true, 13⟩,
    .send .client 0 .string [104, 105] 2,
    .deliver .client 0 ⟨true, 1⟩,
    .deliver .server 0 ⟨true, 1⟩,
    .deliver .client 0 ⟨true, 1⟩]

theorem greet_agrees :
    ∃ last events, Run step readyPair greet last events ∧ opensOn .client 0 events = 1 ∧
      heardOn .server 0 events = [(.string, [104, 105])] ∧ Agree last events := by
  have heard : ((exec step readyPair greet).map fun last =>
      (opensOn .client 0 last.2, heardOn .server 0 last.2)) =
        some (1, [(.string, [104, 105])]) := by decide +kernel
  obtain ⟨⟨last, events⟩, taken, seen⟩ := Option.map_eq_some_iff.mp heard
  obtain ⟨opened, told⟩ := Prod.mk.inj seen
  have run := exec_run taken
  exact ⟨last, events, run, opened, told, peers_agree readyPair_ready run⟩

end Librtcdc.Pair
