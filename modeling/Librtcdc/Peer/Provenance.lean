import Librtcdc.Peer.Conversation

set_option autoImplicit false

namespace Librtcdc.Pair

open Systems

variable {x next : TwoPeers} {events emitted : List Event} {side sender : Side}
  {peer : RtcdcPeerConnection} {effects : List Effect} {m : Sendv} {rest : List Sendv}
  {i j slot : Fin rtcdcMaxChannelNum} {ch : RtcdcDataChannel} {env : HandlerEnv}
  {position : Nat}

def handshakeDone (peer : RtcdcPeerConnection) : Bool :=
  (peer.transport.map fun transport => transport.sctp.handshakeDone).getD false

def Stays (before : RtcdcPeerConnection) (i : Fin rtcdcMaxChannelNum) (ch : RtcdcDataChannel) :
    Prop :=
  ∃ old, before.channels i = some old ∧ old.sid = ch.sid ∧ old.callbacks = ch.callbacks

structure Accepts (x : TwoPeers) (side : Side) (ch : RtcdcDataChannel) : Prop where
  foreign : owner ch.sid = side.other
  opened : channelOn (x.peers side.other).channels ch.sid ≠ none
  shown : ∃ accepted, ch = (x.peers side).installCallbacks accepted

structure Admits (x : TwoPeers) (side : Side) (after : RtcdcPeerConnection)
    (effects : List Effect) : Prop where
  onChannel : after.onChannel = (x.peers side).onChannel
  transport : after.transport = (x.peers side).transport
  channels : ∀ i ch, after.channels i = some ch →
    Stays (x.peers side) i ch ∨ Accepts x side ch
  connected : ∀ i ch, (x.peers side).channels i = some ch → ch.state = .connected →
    ∃ ch', after.channels i = some ch' ∧ ch'.state = .connected
  opened : ∀ i, .onOpen i ∈ effects → ∃ ch, after.channels i = some ch ∧ ch.state = .connected
  unsaid : userMessages ((handed effects).map Prod.fst) = []

theorem Stays.same {before : RtcdcPeerConnection} (there : before.channels i = some ch) :
    Stays before i ch :=
  ⟨ch, there, rfl, rfl⟩

theorem Admits.unchanged : Admits x side (x.peers side) [] where
  onChannel := rfl
  transport := rfl
  channels := fun _ _ there => .inl (.same there)
  connected := fun _ ch there connected => ⟨ch, there, connected⟩
  opened := by simp
  unsaid := rfl

theorem Admits.replaced {old new : RtcdcDataChannel}
    (stored : (x.peers side).channels i = some old) (sameSid : old.sid = new.sid)
    (sameCallbacks : old.callbacks = new.callbacks)
    (connected : old.state = .connected → new.state = .connected)
    (opened : ∀ j, .onOpen j ∈ effects → j = i ∧ new.state = .connected)
    (unsaid : userMessages ((handed effects).map Prod.fst) = []) :
    Admits x side { x.peers side with channels := (x.peers side).channels.put i (some new) }
      effects where
  onChannel := rfl
  transport := rfl
  channels := by
    apply Table.every_put
    · exact .inl ⟨old, stored, sameSid, sameCallbacks⟩
    · exact fun _ _ there => .inl (.same there)
  connected := by
    intro j ch there state
    by_cases here : j = i
    · subst here
      obtain rfl : old = ch := by simpa [stored] using there
      exact ⟨new, Table.put_same .., connected state⟩
    · exact ⟨ch, by rw [← there]; exact Table.put_other _ _ here, state⟩
  opened := by
    intro j called
    obtain ⟨rfl, state⟩ := opened j called
    exact ⟨new, Table.put_same .., state⟩
  unsaid := unsaid

theorem owner_other {sid : UInt16} (foreign : owner sid ≠ side) : owner sid = side.other := by
  revert foreign
  cases owner sid <;> cases side <;> simp [Side.other]

theorem reopen_sid (ch : RtcdcDataChannel) :
    ch.reopen.sid = ch.sid ∧ ch.reopen.callbacks = ch.callbacks := by
  unfold Librtcdc.RtcdcDataChannel.reopen
  split <;> exact ⟨rfl, rfl⟩

theorem sendSctpMessage_opens (sctp : SctpTransport) (message : SctpMessage) (err : Int) :
    .onOpen i ∉ (sendSctpMessage sctp message err).2 := by
  unfold sendSctpMessage
  split_ifs <;> simp

theorem sendSctpMessage_control (sctp : SctpTransport) (message : SctpMessage) (err : Int)
    (control : message.ppid = webrtcControlPpid) :
    userMessages ((handed (sendSctpMessage sctp message err).2).map Prod.fst) = [] := by
  have none_carried : payload message.sendv = none := by
    rw [payload, SctpMessage.sendv, ntohl_htonl, control]
    rfl
  rcases handed_sendSctpMessage sctp message err with nothing | one
  · rw [nothing]
    rfl
  · rw [one, userMessages, List.filterMap_cons_none none_carried]
    rfl

theorem accepted_admits {accepted : RtcdcDataChannel} (free : (x.peers side).channels i = none)
    (foreign : owner accepted.sid = side.other)
    (opened : channelOn (x.peers side.other).channels accepted.sid ≠ none)
    (silent : ∀ j, .onOpen j ∉ effects)
    (unsaid : userMessages ((handed effects).map Prod.fst) = []) :
    Admits x side { x.peers side with
      channels := (x.peers side).channels.put i
        (some ((x.peers side).installCallbacks accepted)) } effects where
  onChannel := rfl
  transport := rfl
  channels := by
    apply Table.every_put
    · refine .inr ⟨?_, ?_, accepted, rfl⟩
      · rw [installCallbacks_sid]
        exact foreign
      · rw [installCallbacks_sid]
        exact opened
    · exact fun _ _ there => .inl (.same there)
  connected := by
    intro j ch there state
    have elsewhere : j ≠ i := by
      rintro rfl
      simp [free] at there
    exact ⟨ch, by rw [← there]; exact Table.put_other _ _ elsewhere, state⟩
  opened := fun j called => absurd called (silent j)
  unsaid := unsaid

theorem receive_admits {after : RtcdcPeerConnection} (inv : Inv x events)
    (taken : takeAt Sendv.sndSid (x.wire side.other) position = some (m, rest))
    (received : sctpDataReceivedCb (x.peers side) m.data m.sndPpid m.sndSid false env =
      some (after, effects)) : Admits x side after effects := by
  obtain ⟨later, split⟩ := (inv.ordered side.other).next taken
  have before := inv.streams m.sndSid side
  unfold StreamOf at before
  rcases before.incoming split with
    ⟨label, protocol, opens, shortLabel, shortProtocol, foreign, _, theirs, _⟩ | ⟨acks, _⟩ |
      ⟨user, _⟩
  · rw [opens, receive_open] at received
    rcases handleRtcdcOpenRequest_cases received with
      ⟨rfl, rfl⟩ | ⟨openReq, i, ch, transport, parsed, free, made, _, rfl, rfl⟩
    · exact .unchanged
    · obtain rfl : openRequest label protocol = openReq := by simpa using parsed
      rw [allocateNewDataChannel_openRequest m.sndSid shortLabel shortProtocol] at made
      obtain rfl := Option.some.inj made
      refine accepted_admits (Table.firstFree_some free).1 (owner_other foreign) theirs
        (fun j => ?_) ?_
      · rw [List.mem_append, not_or]
        refine ⟨?_, sendSctpMessage_opens _ _ _⟩
        split_ifs <;> simp
      · have acks := sendSctpMessage_control transport.sctp (dcepAckMessage m.sndSid)
          env.sendv rfl
        split_ifs <;> exact acks
  · rw [acks, receive_ack] at received
    rcases handleRtcdcOpenAck_cases (x.peers side) m.sndSid with
      ⟨_, result⟩ | ⟨i, ch, _, stored, _, result⟩
    · rw [result] at received
      obtain ⟨rfl, rfl⟩ : x.peers side = after ∧ [] = effects := by simpa using received
      exact .unchanged
    · rw [result] at received
      obtain ⟨rfl, rfl⟩ : _ = after ∧ _ = effects := by simpa using received
      refine .replaced stored rfl rfl (fun _ => rfl) (fun j called => ?_) (by split_ifs <;> rfl)
      split_ifs at called
      · exact ⟨by simpa using called, rfl⟩
      · cases called
  · obtain ⟨datatype, _, _, called⟩ := receive_user (x.peers side) env user
    rw [called] at received
    rcases handleRtcdcData_cases (x.peers side) m.sndSid datatype m.data with
      ⟨_, result⟩ | ⟨i, ch, _, stored, _, result⟩
    · rw [result] at received
      obtain ⟨rfl, rfl⟩ : x.peers side = after ∧ [] = effects := by simpa using received
      exact .unchanged
    · rw [result] at received
      obtain ⟨rfl, rfl⟩ : _ = after ∧ _ = effects := by simpa using received
      obtain ⟨sid, callbacks⟩ := reopen_sid ch
      refine .replaced stored sid.symm callbacks.symm (fun connected => ?_) (fun j called => ?_)
        (by split_ifs <;> rfl)
      · rw [RtcdcDataChannel.reopen_alive (by rw [connected]; decide), connected]
      · split_ifs at called <;> simp at called

def toldIn (side : Side) : Event → Option (Datatype × Bytes)
  | .effect at_ (.onMessage _ datatype data) => if at_ = side then some (datatype, data) else none
  | _ => none

def toldTo (side : Side) (events : List Event) : List (Datatype × Bytes) :=
  events.filterMap (toldIn side)

@[simp] theorem toldTo_append (side : Side) (events emitted : List Event) :
    toldTo side (events ++ emitted) = toldTo side events ++ toldTo side emitted :=
  List.filterMap_append ..

def openedIn (side : Side) : Event → Option (Fin rtcdcMaxChannelNum)
  | .effect at_ (.onOpen slot) => if at_ = side then some slot else none
  | _ => none

def openedBy (side : Side) (events : List Event) : List (Fin rtcdcMaxChannelNum) :=
  events.filterMap (openedIn side)

@[simp] theorem openedBy_append (side : Side) (events emitted : List Event) :
    openedBy side (events ++ emitted) = openedBy side events ++ openedBy side emitted :=
  List.filterMap_append ..

theorem mem_openedBy : slot ∈ openedBy side events ↔ .effect side (.onOpen slot) ∈ events := by
  rw [openedBy, List.mem_filterMap]
  constructor
  · rintro ⟨event, member, opened⟩
    cases event with
    | created | delivered => cases opened
    | effect at_ effect =>
        cases effect with
        | onOpen slot' =>
            simp only [openedIn] at opened
            split_ifs at opened with here
            cases opened
            exact here ▸ member
        | sendv | sendSctp | onChannel | onMessage | onConnect => cases opened
  · intro member
    exact ⟨_, member, by simp [openedIn]⟩

theorem openedIn_count (side : Side) (slot : Fin rtcdcMaxChannelNum) (event : Event) :
    (openedIn side event).toList.count slot = (calledIn side slot event).toList.count .opened := by
  cases event with
  | created | delivered => rfl
  | effect at_ effect =>
      cases effect with
      | onOpen i =>
          by_cases here : at_ = side <;> by_cases same : i = slot <;>
            simp [openedIn, calledIn, here, same]
      | onMessage i datatype data =>
          simp only [openedIn, calledIn]
          split_ifs <;> simp
      | sendv | sendSctp | onChannel | onConnect => rfl

theorem filterMap_cons_toList {α β : Type} (f : α → Option β) (a : α) (l : List α) :
    (a :: l).filterMap f = (f a).toList ++ l.filterMap f := by
  rw [List.filterMap_cons]
  cases f a <;> rfl

theorem openedBy_count (side : Side) (slot : Fin rtcdcMaxChannelNum) (events : List Event) :
    (openedBy side events).count slot = opensOn side slot events := by
  induction events with
  | nil => rfl
  | cons event more ih =>
      unfold openedBy opensOn callsOn at ih ⊢
      rw [filterMap_cons_toList, filterMap_cons_toList, List.count_append, List.count_append, ih,
        openedIn_count]

theorem calledIn_heard (side : Side) (event : Event)
    (alone : ∀ slot, slot ≠ j → calledIn side slot event = none) :
    toldIn side event = (calledIn side j event).bind Callback.heard := by
  cases event with
  | created | delivered => rfl
  | effect at_ effect =>
      cases effect with
      | onMessage slot datatype data =>
          by_cases here : at_ = side
          · by_cases same : slot = j
            · simp [toldIn, calledIn, here, same, Callback.heard]
            · have other := alone slot same
              simp [calledIn, here] at other
          · simp [toldIn, calledIn, here]
      | onOpen slot =>
          simp only [toldIn, calledIn]
          split_ifs <;> rfl
      | sendv | sendSctp | onChannel | onConnect => rfl

theorem toldTo_one (alone : ∀ slot, slot ≠ j → callsOn side slot events = []) :
    toldTo side events = heardOn side j events := by
  induction events with
  | nil => rfl
  | cons event more ih =>
      have here (slot : Fin rtcdcMaxChannelNum) (other : slot ≠ j) :
          calledIn side slot event = none ∧ callsOn side slot more = [] := by
        have nothing := alone slot other
        unfold callsOn at nothing ⊢
        rw [List.filterMap_eq_nil_iff] at nothing ⊢
        exact ⟨nothing event List.mem_cons_self, fun e member =>
          nothing e (List.mem_cons_of_mem _ member)⟩
      have first := calledIn_heard side event fun slot other => (here slot other).1
      have later := ih fun slot other => (here slot other).2
      rw [toldTo, heardOn, callsOn, List.filterMap_filterMap] at later ⊢
      rw [List.filterMap_cons, List.filterMap_cons, later, first]

end Librtcdc.Pair
