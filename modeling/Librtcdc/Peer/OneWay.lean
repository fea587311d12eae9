import Librtcdc.Peer.Provenance

set_option autoImplicit false

namespace Librtcdc.Pair

open Systems

variable {x next : TwoPeers} {events emitted : List Event} {sender : Side}
  {i j : Fin rtcdcMaxChannelNum} {a ch : RtcdcDataChannel} {m : Sendv}

def Listens (peer : RtcdcPeerConnection) : Prop :=
  ∃ install, peer.onChannel = some install ∧ ∀ ch, (install ch).onMessage = true

structure OneWay (sender : Side) (x : TwoPeers) (events : List Event) : Prop where
  listens : Listens (x.peers sender.other)
  own : ∀ i ch, (x.peers sender).channels i = some ch → createdBy sender events = [i]
  accepted : ∀ j ch, (x.peers sender.other).channels j = some ch →
    owner ch.sid = sender ∧ ch.callbacks.onMessage = true

theorem Ready.oneWay (ready : Ready x) (listens : Listens (x.peers sender.other)) :
    OneWay sender x [] where
  listens := listens
  own := by
    intro i ch there
    simp [ready.channels sender i] at there
  accepted := by
    intro j ch there
    simp [ready.channels sender.other j] at there

theorem OneWay.kept (one : OneWay sender x events)
    (channels : ∀ side, (next.peers side).channels = (x.peers side).channels)
    (onChannel : ∀ side, (next.peers side).onChannel = (x.peers side).onChannel)
    (nothing : createdBy sender emitted = []) : OneWay sender next (events ++ emitted) where
  listens := by
    unfold Listens
    rw [onChannel]
    exact one.listens
  own := by
    intro i ch there
    rw [channels] at there
    rw [createdBy_append, nothing, List.append_nil]
    exact one.own i ch there
  accepted := by
    intro j ch there
    rw [channels] at there
    exact one.accepted j ch there

theorem step_handshake {side : Side} (moved : step x (.handshake side) = some (next, emitted)) :
    (∀ at_, (next.peers at_).channels = (x.peers at_).channels) ∧
      (∀ at_, (next.peers at_).onChannel = (x.peers at_).onChannel) ∧
      (∀ at_, next.wire at_ = x.wire at_) ∧ emitted = [] := by
  obtain ⟨transport, stored, equal⟩ := Option.map_eq_some_iff.mp moved
  obtain ⟨rfl, rfl⟩ := Prod.mk.inj equal
  refine ⟨each_side side ?_ ?_, each_side side ?_ ?_, each_side side ?_ ?_, rfl⟩
  · rw [after_mine]
    rfl
  · rw [after_other]
  · rw [after_mine]
    rfl
  · rw [after_other]
  · exact after_wire_mine.trans (List.append_nil _)
  · rw [after_wire_other]

theorem step_send {side : Side} {slot : Fin rtcdcMaxChannelNum} {datatype : Datatype}
    {data : Bytes} {err : Int}
    (moved : step x (.send side slot datatype data err) = some (next, emitted)) :
    (∀ at_, next.peers at_ = x.peers at_) ∧ ∃ transport,
      (x.peers side).transport = some transport ∧
        emitted = (rtcdcSendMessage transport.sctp ((x.peers side).channels slot) datatype
          (some data) err).2.map (Event.effect side) := by
  simp only [step] at moved
  split_ifs at moved
  obtain ⟨transport, stored, equal⟩ := Option.map_eq_some_iff.mp moved
  obtain ⟨rfl, rfl⟩ := Prod.mk.inj equal
  refine ⟨each_side side ?_ ?_, transport, stored, rfl⟩
  · rw [after_mine]
  · rw [after_other]

theorem OneWay.create {label protocol : CString} {callbacks : Callbacks} {env : CreateEnv}
    (one : OneWay sender x events) (inv : Inv x events) (first : createdBy sender events = [])
    (moved : step x (.create sender label protocol callbacks env) = some (next, emitted)) :
    OneWay sender next (events ++ emitted) := by
  simp only [step] at moved
  split_ifs at moved with allowed
  obtain ⟨⟨created, peer, effects⟩, called, equal⟩ := Option.map_eq_some_iff.mp moved
  obtain ⟨rfl, rfl⟩ := Prod.mk.inj equal
  obtain ⟨transport, stored, queue, _⟩ := (inv.peers sender).transport
  rcases rtcdcCreateDataChannel_accepted called stored queue allowed.1 with
    ⟨rfl, rfl, rfl⟩ | ⟨i, _, _, sctp, ch, _, _, _, _, _, _, rfl, result⟩
  · simpa [after_nothing] using one
  · refine ⟨by simpa using one.listens, ?_, by simpa using one.accepted⟩
    simp only [after_mine, result, createdBy_append, first]
    apply Table.every_put
    · simp
    · intro j other there
      have already := one.own j other there
      rw [first] at already
      cases already

theorem OneWay.deliver {side : Side} {position : Nat} {env : HandlerEnv}
    (one : OneWay sender x events) (inv : Inv x events)
    (moved : step x (.deliver side position env) = some (next, emitted)) :
    OneWay sender next (events ++ emitted) := by
  simp only [step] at moved
  split_ifs at moved
  obtain ⟨⟨message, rest⟩, taken, handled⟩ := Option.bind_eq_some_iff.mp moved
  obtain ⟨⟨peer, effects⟩, received, equal⟩ := Option.map_eq_some_iff.mp handled
  obtain ⟨rfl, rfl⟩ := Prod.mk.inj equal
  have nothing : createdBy sender
      (.delivered side message :: effects.map (Event.effect side.other)) = [] := by simp
  obtain ⟨at_, rfl⟩ : ∃ at_ : Side, side = at_.other := ⟨side.other, by simp⟩
  simp only [Side.other_other] at received ⊢ nothing
  have admits := receive_admits inv taken received
  by_cases same : at_ = sender
  · subst same
    refine ⟨by simpa using one.listens, ?_, by simpa using one.accepted⟩
    intro i ch there
    rw [after_mine] at there
    rw [createdBy_append, nothing, List.append_nil]
    rcases admits.channels i ch there with ⟨old, stored, _⟩ | accepts
    · exact one.own i old stored
    · -- the receiver has no channel of its own that it could have opened
      obtain ⟨b, found⟩ := Option.ne_none_iff_exists'.mp accepts.opened
      obtain ⟨j, _, stored, equal⟩ := channelOn_some found
      have own := (one.accepted j b stored).1
      rw [equal, accepts.foreign] at own
      exact absurd own at_.other_ne
  · obtain rfl : at_ = sender.other := by cases at_ <;> cases sender <;> simp_all [Side.other]
    simp only [Side.other_other] at *
    obtain ⟨install, installed, listening⟩ := one.listens
    refine ⟨?_, ?_, ?_⟩
    · rw [after_mine]
      exact ⟨install, admits.onChannel.trans installed, listening⟩
    · intro i ch there
      have still : ((TwoPeers.after { x with wire := Function.update x.wire sender rest }
          sender.other peer effects).peers sender) = x.peers sender := by
        have other : ((TwoPeers.after { x with wire := Function.update x.wire sender rest }
            sender.other peer effects).peers sender.other.other) = x.peers sender.other.other :=
          after_other
        rwa [Side.other_other] at other
      rw [still] at there
      rw [createdBy_append, nothing, List.append_nil]
      exact one.own i ch there
    · intro j ch there
      rw [after_mine] at there
      rcases admits.channels j ch there with ⟨old, stored, sid, callbacks⟩ | accepts
      · rw [← sid, ← callbacks]
        exact one.accepted j old stored
      · refine ⟨by simpa using accepts.foreign, ?_⟩
        obtain ⟨accepted, rfl⟩ := accepts.shown
        simp [RtcdcPeerConnection.installCallbacks, installed, listening]

structure Silent (emitted : List Event) : Prop where
  told : ∀ side, toldTo side emitted = []
  opened : ∀ side, openedBy side emitted = []

theorem silent_nil : Silent [] := ⟨fun _ => rfl, fun _ => rfl⟩

theorem Silent.append {first second : List Event} (left : Silent first) (right : Silent second) :
    Silent (first ++ second) where
  told := fun side => by rw [toldTo_append, left.told, right.told, List.append_nil]
  opened := fun side => by rw [openedBy_append, left.opened, right.opened, List.append_nil]

theorem silent_created (side : Side) (created : List (Fin rtcdcMaxChannelNum)) :
    Silent (created.map (Event.created side)) where
  told := fun _ => by simp [toldTo, toldIn]
  opened := fun _ => by simp [openedBy, openedIn]

theorem silent_sendSctpMessage (side : Side) (sctp : SctpTransport) (message : SctpMessage)
    (err : Int) : Silent ((sendSctpMessage sctp message err).2.map (Event.effect side)) := by
  unfold sendSctpMessage
  split_ifs <;> exact ⟨fun _ => rfl, fun _ => rfl⟩

theorem silent_rtcdcSendMessage (side : Side) (sctp : SctpTransport)
    (channel : Option RtcdcDataChannel) (datatype : Datatype) (data : Option Bytes) (err : Int) :
    Silent ((rtcdcSendMessage sctp channel datatype data err).2.map (Event.effect side)) := by
  unfold rtcdcSendMessage
  split
  · exact silent_nil
  · split
    · exact silent_nil
    · exact silent_sendSctpMessage ..

theorem step_create {side : Side} {label protocol : CString} {callbacks : Callbacks}
    {env : CreateEnv} (inv : Inv x events)
    (moved : step x (.create side label protocol callbacks env) = some (next, emitted)) :
    Silent emitted ∧ (∀ at_, userMessages (sentBy at_ emitted) = []) ∧
      (∀ at_, handshakeDone (next.peers at_) = handshakeDone (x.peers at_)) ∧
      createdBy side emitted = (createdBy side emitted).head?.toList := by
  simp only [step] at moved
  split_ifs at moved with allowed
  obtain ⟨⟨created, peer, effects⟩, called, equal⟩ := Option.map_eq_some_iff.mp moved
  obtain ⟨rfl, rfl⟩ := Prod.mk.inj equal
  obtain ⟨transport, stored, queue, _⟩ := (inv.peers side).transport
  rcases rtcdcCreateDataChannel_accepted called stored queue allowed.1 with
    ⟨rfl, rfl, rfl⟩ | ⟨i, labelText, protocolText, sctp, ch, _, _, _, advanced, _, sent, rfl,
      result⟩
  · refine ⟨silent_nil, fun _ => rfl, fun at_ => ?_, rfl⟩
    rw [after_nothing]
  · have opens := sendSctpMessage_control sctp (openMessage labelText protocolText ch.sid) env.sendv
      rfl
    refine ⟨?_, each_side side ?_ ?_, each_side side ?_ ?_, by simp⟩
    · rw [sent]
      exact (silent_created side [i]).append (silent_sendSctpMessage ..)
    · rw [sentBy_append, sentBy_effects, sent]
      exact opens
    · rw [sentBy_append, sentBy_effects_other, List.append_nil]
      rfl
    · simp [result, handshakeDone, RtcdcPeerConnection.withSctp, stored, advanced]
    · rw [after_other]

theorem step_send_said {side : Side} {slot : Fin rtcdcMaxChannelNum} {data : Bytes} {err : Int}
    (inv : Inv x events) (shaken : handshakeDone (x.peers side) = true)
    (stored : (x.peers side).channels slot = some ch)
    (moved : step x (.send side slot .string data err) = some (next, emitted)) :
    Silent emitted ∧ createdBy side emitted = [] ∧
      userMessages (sentBy side emitted) = [(.string, data)] := by
  obtain ⟨_, transport, there, rfl⟩ := step_send moved
  refine ⟨silent_rtcdcSendMessage .., by simp, ?_⟩
  simp only [step] at moved
  split_ifs at moved with allowed
  obtain ⟨transport', there', queue, _⟩ := (inv.peers side).transport
  obtain rfl : transport = transport' := by simpa [there] using there'
  have done : transport.sctp.handshakeDone = true := by simpa [handshakeDone, there] using shaken
  have present : ¬ ((some data).getD []).length = 0 := by simpa using allowed.2
  rw [sentBy_effects, stored, rtcdcSendMessage]
  simp only [ppidOfDatatype, present, if_false, sendSctpMessage_accepted _ queue done allowed.1]
  have carried : payload (SctpMessage.sendv ⟨data, ch.sid, webrtcStringPpid⟩) =
      some (.string, data) := by
    rw [payload, SctpMessage.sendv, ntohl_htonl]
    rfl
  exact List.filterMap_cons_some carried

def Connected (side : Side) (x : TwoPeers) : Prop :=
  ∃ i a, (x.peers side).channels i = some a ∧ a.state = .connected

theorem Connected.kept {side : Side} (connected : Connected side x)
    (channels : (next.peers side).channels = (x.peers side).channels) : Connected side next := by
  unfold Connected
  rw [channels]
  exact connected

theorem step_deliver {side : Side} {position : Nat} {env : HandlerEnv}
    (moved : step x (.deliver side position env) = some (next, emitted)) :
    ∃ message rest effects, takeAt Sendv.sndSid (x.wire side) position = some (message, rest) ∧
      sctpDataReceivedCb (x.peers side.other) message.data message.sndPpid message.sndSid false env =
        some (next.peers side.other, effects) ∧
      next.peers side = x.peers side ∧
      emitted = .delivered side message :: effects.map (Event.effect side.other) ∧
      next.wire side = rest ∧
      next.wire side.other = x.wire side.other ++ (handed effects).map Prod.fst := by
  simp only [step] at moved
  split_ifs at moved
  obtain ⟨⟨message, rest⟩, taken, handled⟩ := Option.bind_eq_some_iff.mp moved
  obtain ⟨⟨peer, effects⟩, received, equal⟩ := Option.map_eq_some_iff.mp handled
  obtain ⟨rfl, rfl⟩ := Prod.mk.inj equal
  have others (x : TwoPeers) : (x.after side.other peer effects).peers side = x.peers side ∧
      (x.after side.other peer effects).wire side = x.wire side := by
    have apart := side.other_ne
    exact ⟨Function.update_of_ne apart.symm .., Function.update_of_ne apart.symm ..⟩
  refine ⟨message, rest, effects, taken, ?_, (others _).1, rfl, ?_, ?_⟩
  · rw [after_mine]
    exact received
  · rw [(others _).2]
    exact Function.update_self ..
  · rw [after_wire_mine]
    exact congrArg (· ++ _) (Function.update_of_ne side.other_ne ..)

theorem deliver_admits {side : Side} {position : Nat} {env : HandlerEnv} (inv : Inv x events)
    (moved : step x (.deliver side position env) = some (next, emitted)) :
    next.peers side = x.peers side ∧ ∃ effects,
      Admits x side.other (next.peers side.other) effects ∧
        openedBy side emitted = [] ∧
        ∀ i ∈ openedBy side.other emitted, .onOpen i ∈ effects := by
  obtain ⟨message, rest, effects, taken, received, same, rfl, _⟩ := step_deliver moved
  refine ⟨same, effects, receive_admits inv (by rwa [Side.other_other]) received, ?_, ?_⟩
  · rw [List.eq_nil_iff_forall_not_mem]
    intro i opened
    rw [mem_openedBy] at opened
    simp [side.other_ne] at opened
  · intro i opened
    rw [mem_openedBy] at opened
    simpa using opened

theorem deliver_unsaid {side : Side} {position : Nat} {env : HandlerEnv} (inv : Inv x events)
    (moved : step x (.deliver side position env) = some (next, emitted)) :
    (∀ at_, userMessages (sentBy at_ emitted) = []) ∧ (∀ at_, createdBy at_ emitted = []) ∧
      ∀ at_, handshakeDone (next.peers at_) = handshakeDone (x.peers at_) := by
  obtain ⟨message, rest, effects, taken, received, same, rfl, _⟩ := step_deliver moved
  have admits := receive_admits inv (by rwa [Side.other_other]) received
  refine ⟨each_side side.other ?_ ?_, fun at_ => by simp, each_side side.other ?_ ?_⟩
  · rw [sentBy_delivered, sentBy_effects]
    exact admits.unsaid
  · rw [sentBy_delivered, sentBy_effects_other]
    rfl
  · rw [handshakeDone, handshakeDone, admits.transport]
  · rw [Side.other_other, same]

theorem Connected.deliver {side at_ : Side} {position : Nat} {env : HandlerEnv}
    (inv : Inv x events) (moved : step x (.deliver side position env) = some (next, emitted))
    (why : Connected at_ x ∨ openedBy at_ emitted ≠ []) : Connected at_ next := by
  obtain ⟨same, effects, admits, silent, opens⟩ := deliver_admits inv moved
  by_cases here : at_ = side
  · subst here
    rcases why with connected | opened
    · exact connected.kept (by rw [same])
    · exact absurd silent opened
  · obtain rfl : at_ = side.other := by cases at_ <;> cases side <;> simp_all [Side.other]
    rcases why with ⟨i, a, there, state⟩ | opened
    · obtain ⟨a', still, state'⟩ := admits.connected i a there state
      exact ⟨i, a', still, state'⟩
    · obtain ⟨i, member⟩ := List.exists_mem_of_ne_nil _ opened
      obtain ⟨a, there, state⟩ := admits.opened i (opens i member)
      exact ⟨i, a, there, state⟩

theorem Connected.create {label protocol : CString} {callbacks : Callbacks} {env : CreateEnv}
    {side : Side} (inv : Inv x events) (connected : Connected side x)
    (moved : step x (.create side label protocol callbacks env) = some (next, emitted)) :
    Connected side next := by
  simp only [step] at moved
  split_ifs at moved with allowed
  obtain ⟨⟨created, peer, effects⟩, called, equal⟩ := Option.map_eq_some_iff.mp moved
  obtain ⟨rfl, rfl⟩ := Prod.mk.inj equal
  obtain ⟨transport, stored, queue, _⟩ := (inv.peers side).transport
  rcases rtcdcCreateDataChannel_accepted called stored queue allowed.1 with
    ⟨rfl, rfl, rfl⟩ | ⟨i, _, _, sctp, ch, free, _, _, _, _, _, rfl, result⟩
  · exact connected.kept (by rw [after_mine])
  · obtain ⟨j, a, there, state⟩ := connected
    have elsewhere : j ≠ i := by
      rintro rfl
      rw [(Table.firstFree_some free).1] at there
      cases there
    refine ⟨j, a, ?_, state⟩
    rw [after_mine, result, ← there]
    exact Table.put_other _ _ elsewhere

theorem OneWay.opened_created (one : OneWay sender x events) (inv : Inv x events)
    (opened : i ∈ openedBy sender events) : createdBy sender events = [i] := by
  cases found : (x.peers sender).channels i with
  | some a => exact one.own i a found
  | none =>
      have count := openedBy_count sender i events
      rw [opensOn, inv.unheard found, List.count_nil] at count
      exact absurd opened (List.count_eq_zero.mp count)

theorem OneWay.opened_once (one : OneWay sender x events) (inv : Inv x events) :
    (openedBy sender events).length ≤ 1 := by
  cases opened : openedBy sender events with
  | nil => exact Nat.zero_le _
  | cons slot more =>
      have first := one.opened_created inv (i := slot) (by rw [opened]; exact List.mem_cons_self)
      have all : ∀ other ∈ openedBy sender events, slot = other := by
        intro other member
        have second := one.opened_created inv member
        rw [first] at second
        exact (List.cons.inj second).1
      have once := inv.opened_once sender slot
      rw [← openedBy_count, List.count_eq_length.mpr all, opened] at once
      exact once

theorem Inv.wire_sent (inv : Inv x events) (side : Side) :
    ∀ m ∈ x.wire side, m ∈ sentBy side events := by
  intro m member
  have here : m ∈ onSid m.sndSid (x.wire side) := by simpa [onSid, onKey] using member
  have sent : m ∈ onSid m.sndSid (sentBy side events) := by
    rw [inv.split side m.sndSid]
    exact List.mem_append_right _ here
  exact (List.mem_filter.mp sent).1

theorem OneWay.sent_on (one : OneWay sender x events) (inv : Inv x events)
    (member : m ∈ sentBy sender events) : ∃ ch,
      channelOn (x.peers sender).channels m.sndSid = some ch := by
  have here : m ∈ onSid m.sndSid (sentBy sender events) := by simpa [onSid, onKey] using member
  have stream := inv.streams m.sndSid sender
  rw [StreamOf, StreamAt] at stream
  split_ifs at stream with own
  · cases found : channelOn (x.peers sender).channels m.sndSid with
    | some ch => exact ⟨ch, rfl⟩
    | none =>
        rw [found] at stream
        cases stream with
        | idle _ _ nothing =>
            rw [nothing] at here
            cases here
        | opening missing | opened missing => cases missing
  · have absent : channelOn (x.peers sender.other).channels m.sndSid = none := by
      cases found : channelOn (x.peers sender.other).channels m.sndSid with
      | none => rfl
      | some b =>
          obtain ⟨j, _, stored, same⟩ := channelOn_some found
          rw [← same] at own
          exact absurd (one.accepted j b stored).1 own
    rw [absent] at stream
    cases stream with
    | idle _ _ _ nothing =>
        rw [nothing] at here
        cases here
    | opening missing | opened missing => cases missing

theorem OneWay.only (one : OneWay sender x events) {i' : Fin rtcdcMaxChannelNum}
    {a' : RtcdcDataChannel} (stored : (x.peers sender).channels i = some a)
    (other : (x.peers sender).channels i' = some a') : a' = a := by
  have first := one.own i a stored
  have second := one.own i' a' other
  obtain rfl : i = i' := by simpa [first] using second
  exact Option.some.inj (other.symm.trans stored)

theorem OneWay.sent_sid (one : OneWay sender x events) (inv : Inv x events)
    (stored : (x.peers sender).channels i = some a) :
    ∀ m ∈ sentBy sender events, m.sndSid = a.sid := by
  intro m member
  obtain ⟨ch, found⟩ := one.sent_on inv member
  obtain ⟨i', _, there, same⟩ := channelOn_some found
  rw [← same, one.only stored there]

theorem OneWay.matched (one : OneWay sender x events) (inv : Inv x events)
    (stored : (x.peers sender).channels i = some a) {b : RtcdcDataChannel}
    (there : (x.peers sender.other).channels j = some b) : b.sid = a.sid := by
  have own := (one.accepted j b there).1
  have stream := inv.streams b.sid sender
  rw [StreamOf, StreamAt, if_pos own, channelOn_stored (inv.peers sender.other).distinct there] at stream
  cases found : channelOn (x.peers sender).channels b.sid with
  | none =>
      rw [found] at stream
      cases stream with
      | idle _ missing => cases missing
      | opening _ missing => cases missing
      | opened missing => cases missing
  | some a' =>
      obtain ⟨i', _, at_, same⟩ := channelOn_some found
      rw [← same, one.only stored at_]

theorem toldTo_nothing {side : Side} (silent : ∀ slot, heardOn side slot events = []) :
    toldTo side events = [] := by
  rw [toldTo, List.filterMap_eq_nil_iff]
  intro event member
  by_contra told
  obtain ⟨heard, found⟩ := Option.ne_none_iff_exists'.mp told
  cases event with
  | created | delivered => cases found
  | effect at_ effect =>
      cases effect with
      | onMessage slot datatype data =>
          have here : heard ∈ heardOn side slot events := by
            rw [heardOn, callsOn, List.filterMap_filterMap, List.mem_filterMap]
            refine ⟨_, member, ?_⟩
            simp only [toldIn] at found
            split_ifs at found with at_side
            simpa [calledIn, at_side, Callback.heard] using found
          rw [silent] at here
          cases here
      | sendv | sendSctp | onChannel | onOpen | onConnect => cases found

theorem OneWay.unsaid (inv : Inv x events)
    (nothing : userMessages (sentBy sender events) = []) :
    toldTo sender.other events = [] ∧ userMessages (x.wire sender) = [] := by
  have none_sent : ∀ m ∈ sentBy sender events, payload m = none := by
    simpa [userMessages] using nothing
  constructor
  · refine toldTo_nothing fun slot => ?_
    by_contra heard
    obtain ⟨b, _, said⟩ := inv.nothing_else heard
    have quiet : userMessages (onSid b.sid (sentBy sender events)) = [] := by
      rw [userMessages, List.filterMap_eq_nil_iff]
      exact fun m member => none_sent m (List.mem_filter.mp member).1
    rw [Side.other_other, quiet] at said
    exact heard (List.prefix_nil.mp said)
  · rw [userMessages, List.filterMap_eq_nil_iff]
    exact fun m member => none_sent m (inv.wire_sent sender m member)

theorem OneWay.heard (one : OneWay sender x events) (inv : Inv x events)
    (opened : (∃ i a, (x.peers sender).channels i = some a ∧ a.state = .connected) ∨
      userMessages (sentBy sender events) = []) :
    toldTo sender.other events ++ userMessages (x.wire sender) =
      userMessages (sentBy sender events) := by
  rcases opened with ⟨i, a, stored, connected⟩ | nothing
  · have created : i ∈ createdBy sender events := by simp [one.own i a stored]
    obtain ⟨j, b, there, _, same, _⟩ := inv.connected created stored connected
    have listening := (one.accepted j b there).2
    have sent := (inv.dispatched stored there same.symm).2 listening
    have sids := one.sent_sid inv stored
    have all_sent : onSid a.sid (sentBy sender events) = sentBy sender events := onKey_all sids
    have all_wire : onSid a.sid (x.wire sender) = x.wire sender :=
      onKey_all fun m member => sids m (inv.wire_sent sender m member)
    have alone : ∀ slot, slot ≠ j → callsOn sender.other slot events = [] := by
      intro slot other
      cases found : (x.peers sender.other).channels slot with
      | none => exact inv.unheard found
      | some b' =>
          have equal := (one.matched inv stored found).trans (one.matched inv stored there).symm
          exact absurd ((inv.peers sender.other).distinct slot j b' b found there equal) other
    rw [all_sent, all_wire] at sent
    rw [toldTo_one alone, sent]
  · obtain ⟨told, wire⟩ := OneWay.unsaid inv nothing
    rw [told, wire, nothing]
    rfl

end Librtcdc.Pair
