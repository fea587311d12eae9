import Librtcdc.Shared.Trace
import Librtcdc.Peer.Rtcdc

set_option autoImplicit false

namespace Librtcdc.Handover

open Systems

inductive Call where
  | create (label protocol : Option CString) (callbacks : Callbacks) (env : CreateEnv)
  | send (slot : Fin rtcdcMaxChannelNum) (datatype : Datatype) (data : Option Bytes) (err : Int)
  | handshake
  deriving DecidableEq, Repr

def step : Step RtcdcPeerConnection Call Effect
  | peer, .create label protocol callbacks env =>
      (rtcdcCreateDataChannel peer label protocol callbacks env).map fun result => result.2
  | peer, .send slot datatype data err =>
      peer.transport.map fun transport =>
        (peer, (rtcdcSendMessage transport.sctp (peer.channels slot) datatype data err).2)
  | peer, .handshake =>
      peer.transport.map fun transport =>
        (peer.withSctp transport { transport.sctp with handshakeDone := true }, [])

def calledEarly : Effect → Option SctpMessage
  | .sendSctp message false _ => some message
  | _ => none

def early (events : List Effect) : List SctpMessage :=
  events.filterMap calledEarly

def acceptedAt (handshakeDone : Bool) : Effect → Option SctpMessage
  | .sendSctp message done ret => if done = handshakeDone ∧ 0 ≤ ret then some message else none
  | _ => none

def acceptedEarly (events : List Effect) : List SctpMessage :=
  events.filterMap (acceptedAt false)

def acceptedLate (events : List Effect) : List SctpMessage :=
  events.filterMap (acceptedAt true)

def acceptedBy : Effect → Option SctpMessage
  | .sendSctp message _ ret => if 0 ≤ ret then some message else none
  | _ => none

def accepted (events : List Effect) : List SctpMessage :=
  events.filterMap acceptedBy

def takenBy : Effect → Option Sendv
  | .sendv sent err => if 0 ≤ err then some sent else none
  | _ => none

def taken (events : List Effect) : List Sendv :=
  events.filterMap takenBy

def onStream (sid : UInt16) (sent : Sendv) : Bool :=
  sent.sndSid = sid

-- Once a send after the handshake has succeeded, usrsctp has taken on each stream exactly the
-- messages that were accepted for it, each once and in the order of the calls.
def Delivered (events : List Effect) : Prop :=
  taken events ≠ [] →
    ∀ sid, (taken events).filter (onStream sid) =
      ((accepted events).map SctpMessage.sendv).filter (onStream sid)

def Balanced (events : List Effect) : Prop :=
  taken events = (acceptedLate events).map SctpMessage.sendv

theorem balanced_nil : Balanced [] := rfl

theorem Balanced.append {first second : List Effect} (left : Balanced first)
    (right : Balanced second) : Balanced (first ++ second) := by
  unfold Balanced at *
  simp only [taken, acceptedLate, List.filterMap_append, List.map_append] at *
  rw [left, right]

theorem sendSctpMessage_balanced (sctp : SctpTransport) (message : SctpMessage) (err : Int) :
    Balanced (sendSctpMessage sctp message err).2 := by
  unfold sendSctpMessage
  split_ifs with missing shaken refused
  · cases shake : sctp.handshakeDone <;> simp [Balanced, taken, acceptedLate, takenBy, acceptedAt]
  · simp [Balanced, taken, acceptedLate, List.filterMap_cons, takenBy, acceptedAt, Int.not_le.mpr refused]
  · simp [Balanced, taken, acceptedLate, List.filterMap_cons, takenBy, acceptedAt, Int.not_lt.mp refused]
  · simp [Balanced, taken, acceptedLate, takenBy, acceptedAt]

theorem rtcdcSendMessage_balanced (sctp : SctpTransport) (channel : Option RtcdcDataChannel)
    (datatype : Datatype) (data : Option Bytes) (err : Int) :
    Balanced (rtcdcSendMessage sctp channel datatype data err).2 := by
  unfold rtcdcSendMessage
  split
  · exact balanced_nil
  · split
    · exact balanced_nil
    · exact sendSctpMessage_balanced _ _ _

theorem step_balanced {peer next : RtcdcPeerConnection} {call : Call} {effects : List Effect}
    (moved : step peer call = some (next, effects)) : Balanced effects := by
  cases call with
  | create label protocol callbacks env =>
      obtain ⟨⟨created, last⟩, called, rfl⟩ := Option.map_eq_some_iff.mp moved
      rcases rtcdcCreateDataChannel_cases called with
        ⟨_, _, rfl⟩ | ⟨transport, i, _, _, sctp, ch, message, _, _, _, _, _, _, _, rfl, _⟩
      · exact balanced_nil
      · exact sendSctpMessage_balanced _ _ _
  | send slot datatype data err =>
      obtain ⟨transport, _, equal⟩ := Option.map_eq_some_iff.mp moved
      obtain ⟨_, rfl⟩ := Prod.mk.inj equal
      exact rtcdcSendMessage_balanced _ _ _ _ _
  | handshake =>
      obtain ⟨transport, _, equal⟩ := Option.map_eq_some_iff.mp moved
      obtain ⟨_, rfl⟩ := Prod.mk.inj equal
      exact balanced_nil

theorem run_balanced {start s : RtcdcPeerConnection} {calls : List Call} {events : List Effect}
    (run : Run step start calls s events) : Balanced events :=
  run.invariant (fun _ events => Balanced events) balanced_nil
    fun _ _ _ _ _ before _ moved => before.append (step_balanced moved)

theorem accepted_length (events : List Effect) (p : SctpMessage → Bool) :
    ((accepted events).filter p).length =
      ((acceptedEarly events).filter p).length + ((acceptedLate events).filter p).length := by
  induction events with
  | nil => rfl
  | cons effect rest ih =>
      cases effect with
      | sendSctp message done ret =>
          by_cases ok : 0 ≤ ret
          · cases done <;> cases chosen : p message <;>
              simp [accepted, acceptedEarly, acceptedLate, acceptedBy, acceptedAt, ok, chosen]
                at ih ⊢ <;> omega
          · simpa [accepted, acceptedEarly, acceptedLate, acceptedBy, acceptedAt, ok] using ih
      | sendv | onChannel | onOpen | onMessage | onConnect =>
          simpa [accepted, acceptedEarly, acceptedLate, List.filterMap_cons, acceptedBy, acceptedAt] using ih

theorem accepted_late {events : List Effect} (none_early : acceptedEarly events = []) :
    accepted events = acceptedLate events := by
  induction events with
  | nil => rfl
  | cons effect rest ih =>
      cases effect with
      | sendSctp message done ret =>
          by_cases ok : 0 ≤ ret
          · cases done with
            | false => simp [acceptedEarly, acceptedAt, ok] at none_early
            | true =>
                have tail : acceptedEarly rest = [] := by
                  simpa [acceptedEarly, acceptedAt, ok] using none_early
                simpa [accepted, acceptedLate, acceptedBy, acceptedAt, ok] using ih tail
          · have tail : acceptedEarly rest = [] := by simpa [acceptedEarly, acceptedAt, ok] using none_early
            simpa [accepted, acceptedLate, acceptedBy, acceptedAt, ok] using ih tail
      | sendv | onChannel | onOpen | onMessage | onConnect =>
          have tail : acceptedEarly rest = [] := by
            simpa [acceptedEarly, List.filterMap_cons, acceptedAt] using none_early
          simpa [accepted, acceptedLate, List.filterMap_cons, acceptedBy, acceptedAt] using ih tail

theorem filter_onStream_map (messages : List SctpMessage) (sid : UInt16) :
    ((messages.map SctpMessage.sendv).filter (onStream sid)).length =
      (messages.filter fun message => decide (message.sid = sid)).length := by
  rw [List.filter_map, List.length_map]
  rfl

def Usable (peer : RtcdcPeerConnection) : Prop :=
  ∃ transport, peer.transport = some transport ∧ transport.sctp.deferredMessages ≠ none

theorem sendSctpMessage_early_accepted {sctp : SctpTransport} (message : SctpMessage) (err : Int)
    (queue : sctp.deferredMessages ≠ none) :
    early (sendSctpMessage sctp message err).2 =
      acceptedEarly (sendSctpMessage sctp message err).2 := by
  have present : sctp.deferredMessages.isNone = false := by
    simpa [Option.isNone_eq_false_iff, Option.isSome_iff_ne_none] using queue
  unfold sendSctpMessage
  simp only [present, Bool.false_eq_true, if_false]
  split_ifs <;>
    simp [early, acceptedEarly, List.filterMap_cons, calledEarly, acceptedAt]

theorem step_early_accepted {peer next : RtcdcPeerConnection} {call : Call}
    {effects : List Effect} (usable : Usable peer)
    (moved : step peer call = some (next, effects)) :
    Usable next ∧ early effects = acceptedEarly effects := by
  obtain ⟨transport, stored, queue⟩ := usable
  cases call with
  | create label protocol callbacks env =>
      obtain ⟨⟨created, last⟩, called, rfl⟩ := Option.map_eq_some_iff.mp moved
      rcases rtcdcCreateDataChannel_cases called with
        ⟨_, rfl, rfl⟩ |
          ⟨transport', i, _, _, sctp, ch, message, same, _, _, _, equal, _, _, rfl, rest⟩
      · exact ⟨⟨transport, stored, queue⟩, rfl⟩
      · obtain rfl : transport = transport' := by simpa [stored] using same
        have queue' : sctp.deferredMessages ≠ none := by simpa [equal] using queue
        refine ⟨?_, sendSctpMessage_early_accepted message env.sendv queue'⟩
        rcases rest with ⟨_, _, rfl⟩ | ⟨_, _, rfl⟩ <;>
          exact ⟨{ transport with sctp := sctp }, rfl, queue'⟩
  | send slot datatype data err =>
      obtain ⟨transport', same, equal⟩ := Option.map_eq_some_iff.mp moved
      obtain ⟨rfl, rfl⟩ := Prod.mk.inj equal
      obtain rfl : transport = transport' := by simpa [stored] using same
      refine ⟨⟨transport, stored, queue⟩, ?_⟩
      unfold rtcdcSendMessage
      split
      · rfl
      · split
        · rfl
        · exact sendSctpMessage_early_accepted _ err queue
  | handshake =>
      obtain ⟨transport', same, equal⟩ := Option.map_eq_some_iff.mp moved
      obtain ⟨rfl, rfl⟩ := Prod.mk.inj equal
      obtain rfl : transport = transport' := by simpa [stored] using same
      exact ⟨⟨_, rfl, queue⟩, rfl⟩

theorem run_early_accepted {start s : RtcdcPeerConnection} {calls : List Call}
    {events : List Effect} (usable : Usable start) (run : Run step start calls s events) :
    early events = acceptedEarly events := by
  have both : Usable s ∧ early events = acceptedEarly events :=
    run.invariant (fun s events => Usable s ∧ early events = acceptedEarly events)
      ⟨usable, rfl⟩ fun s events call next effects before _ moved => by
        obtain ⟨kept, same⟩ := step_early_accepted before.1 moved
        refine ⟨kept, ?_⟩
        have earlier := before.2
        unfold early acceptedEarly at *
        rw [List.filterMap_append, List.filterMap_append, earlier, same]
  exact both.2

/-- Nothing accepted is lost exactly when no message was given to `send_sctp_message` before the
handshake, or no later send has succeeded yet. -/
theorem delivered_iff {start s : RtcdcPeerConnection} {calls : List Call} {events : List Effect}
    (usable : Usable start) (run : Run step start calls s events) :
    Delivered events ↔ (taken events ≠ [] → early events = []) := by
  have balanced : taken events = (acceptedLate events).map SctpMessage.sendv := run_balanced run
  rw [run_early_accepted usable run]
  constructor
  · intro delivered sent
    by_contra lost
    obtain ⟨message, member⟩ := List.exists_mem_of_ne_nil _ lost
    have lengths := congrArg List.length (delivered sent message.sid)
    rw [balanced, filter_onStream_map, filter_onStream_map, accepted_length] at lengths
    have present :
        message ∈ (acceptedEarly events).filter fun other => decide (other.sid = message.sid) :=
      List.mem_filter.mpr ⟨member, by simp⟩
    have positive := List.length_pos_of_mem present
    omega
  · intro clean sent sid
    rw [balanced, accepted_late (clean sent)]

def freshPeer : RtcdcPeerConnection where
  exitThread := false
  transport := some
    { ice := { negotiationDone := true }
      dtls := { handshakeDone := true }
      sctp := { handshakeDone := false, deferredMessages := some [], streamCursor := 0 } }
  role := .client
  channels := fun _ => none
  onChannel := none
  onConnect := false

theorem freshPeer_usable : Usable freshPeer := ⟨_, rfl, by decide⟩

def chatChannel : Call :=
  .create (some ⟨[99], by decide⟩) (some CString.empty) ⟨true, true, false⟩ ⟨true, true, 13⟩

theorem freshPeer_delivers :
    ∃ last events, Run step freshPeer [.handshake, chatChannel] last events ∧
      taken events ≠ [] ∧ Delivered events := by
  have moved : ∃ last, Run step freshPeer [.handshake, chatChannel] last
      [.sendv (openMessage ⟨[99], by decide⟩ CString.empty 0).sendv 13,
        .sendSctp (openMessage ⟨[99], by decide⟩ CString.empty 0) true 0] :=
    exec_events (by decide +kernel)
  obtain ⟨last, run⟩ := moved
  exact ⟨last, _, run, by decide, (delivered_iff freshPeer_usable run).mpr fun _ => rfl⟩

def DeliveryLaw : Prop :=
  ∀ (start s : RtcdcPeerConnection) (calls : List Call) (events : List Effect),
    Usable start → Run step start calls s events → Delivered events

theorem early_open_lost : ¬ DeliveryLaw := by
  intro law
  have moved : ∃ last, Run step freshPeer [chatChannel, .handshake, chatChannel] last
      [.sendSctp (openMessage ⟨[99], by decide⟩ CString.empty 0) false 0,
        .sendv (openMessage ⟨[99], by decide⟩ CString.empty 2).sendv 13,
        .sendSctp (openMessage ⟨[99], by decide⟩ CString.empty 2) true 0] :=
    exec_events (by decide +kernel)
  obtain ⟨last, run⟩ := moved
  have kept := law _ _ _ _ freshPeer_usable run (by decide) 0
  exact absurd kept (by decide)

end Librtcdc.Handover
