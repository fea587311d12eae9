import Librtcdc.Shared.Trace
import Librtcdc.Peer.Rtcdc

set_option autoImplicit false

namespace Librtcdc.Slots

open Systems

-- What changes the table: the application's calls and the messages of a remote, of any content.
inductive Input where
  | create (label protocol : Option CString) (callbacks : Callbacks) (env : CreateEnv)
  | receive (data : Bytes) (ppid : UInt32) (sid : UInt16) (notification : Bool) (env : HandlerEnv)
  deriving DecidableEq, Repr

def step : Step RtcdcPeerConnection Input Effect
  | peer, .create label protocol callbacks env =>
      (rtcdcCreateDataChannel peer label protocol callbacks env).map fun result => result.2
  | peer, .receive data ppid sid notification env =>
      sctpDataReceivedCb peer data ppid sid notification env

-- What stays of a stored channel; a channel that is connected does not go back to connecting.
structure Same (old new : RtcdcDataChannel) : Prop where
  sid : new.sid = old.sid
  type : new.type = old.type
  label : new.label = old.label
  protocol : new.protocol = old.protocol
  state : old.state ≠ .connecting → new.state ≠ .connecting

theorem Same.refl (ch : RtcdcDataChannel) : Same ch ch := ⟨rfl, rfl, rfl, rfl, id⟩

theorem Same.trans {a b c : RtcdcDataChannel} (first : Same a b) (second : Same b c) : Same a c :=
  ⟨second.sid.trans first.sid, second.type.trans first.type, second.label.trans first.label,
    second.protocol.trans first.protocol, fun opened => second.state (first.state opened)⟩

variable {peer next : RtcdcPeerConnection} {effects : List Effect}

abbrev Changes (peer next : RtcdcPeerConnection) : Prop :=
  Table.Change Same peer.channels next.channels

theorem create_changes {label protocol : Option CString} {callbacks : Callbacks} {env : CreateEnv}
    {created : Option (Fin rtcdcMaxChannelNum)}
    (called : rtcdcCreateDataChannel peer label protocol callbacks env =
      some (created, next, effects)) : Changes peer next := by
  rcases rtcdcCreateDataChannel_cases called with
    ⟨_, rfl, _⟩ | ⟨transport, i, _, _, sctp, ch, _, _, free, _, _, _, _, _, _,
      ⟨_, _, rfl⟩ | ⟨_, _, rfl⟩⟩
  · exact .still
  · exact .still
  · exact .fill free ch

theorem open_changes {sid : UInt16} {data : Bytes} {env : HandlerEnv}
    (handled : handleRtcdcOpenRequest peer sid data env = some (next, effects)) :
    Changes peer next := by
  rcases handleRtcdcOpenRequest_cases handled with
    ⟨rfl, _⟩ | ⟨_, i, ch, _, _, free, _, _, rfl, _⟩
  · exact .still
  · exact .fill free (peer.installCallbacks ch)

theorem ack_changes (peer : RtcdcPeerConnection) (sid : UInt16) :
    Changes peer (handleRtcdcOpenAck peer sid).1 := by
  rcases handleRtcdcOpenAck_cases peer sid with ⟨_, same⟩ | ⟨i, ch, _, stored, _, same⟩
  · rw [same]
    exact .still
  · rw [same]
    exact .edit stored ⟨rfl, rfl, rfl, rfl, by simp⟩

theorem reopen_same (ch : RtcdcDataChannel) : Same ch ch.reopen := by
  unfold RtcdcDataChannel.reopen
  split_ifs with closed
  · exact ⟨rfl, rfl, rfl, rfl, by simp⟩
  · exact .refl ch

theorem data_changes (peer : RtcdcPeerConnection) (sid : UInt16) (type : Datatype) (data : Bytes) :
    Changes peer (handleRtcdcData peer sid type data).1 := by
  rcases handleRtcdcData_cases peer sid type data with ⟨_, same⟩ | ⟨i, ch, _, stored, _, same⟩
  · rw [same]
    exact .still
  · rw [same]
    exact .edit stored (reopen_same ch)

def messaged (effects : List Effect) : List (Fin rtcdcMaxChannelNum) :=
  effects.filterMap fun
    | .onMessage slot _ _ => some slot
    | _ => none

def Lowest (channels : ChannelTable) (sid : UInt16) (i : Fin rtcdcMaxChannelNum) : Prop :=
  (∃ ch, channels i = some ch ∧ ch.sid = sid) ∧
    ∀ j < i, ∀ ch, channels j = some ch → ch.sid ≠ sid

theorem findSid_lowest {channels : ChannelTable} {sid : UInt16} {i : Fin rtcdcMaxChannelNum} :
    findSid channels sid = some i ↔ Lowest channels sid i := by
  simp [findSid, Table.find_some, Lowest]

def OneCalled (channels : ChannelTable) (sid : UInt16) (effects : List Effect) : Prop :=
  messaged effects = [] ∨ ∃ i, Lowest channels sid i ∧ messaged effects = [i]

theorem messaged_sendSctpMessage (sctp : SctpTransport) (message : SctpMessage) (err : Int) :
    messaged (sendSctpMessage sctp message err).2 = [] := by
  unfold sendSctpMessage
  split_ifs <;> rfl

theorem message_cases {data : Bytes} {ppid : UInt32} {sid : UInt16} {env : HandlerEnv}
    (handled : handleRtcdcMessage peer data ppid sid env = some (next, effects)) :
    Changes peer next ∧ OneCalled peer.channels sid effects := by
  unfold handleRtcdcMessage at handled
  split at handled
  · split at handled
    · cases handled
    · split at handled
      · refine ⟨open_changes handled, .inl ?_⟩
        rcases handleRtcdcOpenRequest_cases handled with
          ⟨_, rfl⟩ | ⟨_, i, _, transport, _, _, _, _, _, rfl⟩
        · rfl
        · have shown : messaged (if peer.onChannel.isSome then [.onChannel i] else []) = [] := by
            split <;> rfl
          rw [messaged, List.filterMap_append]
          exact List.append_eq_nil_iff.mpr ⟨shown, messaged_sendSctpMessage _ _ _⟩
      · split at handled
        · have equal := Option.some.inj handled
          have changes := ack_changes peer sid
          rcases handleRtcdcOpenAck_cases peer sid with ⟨_, same⟩ | ⟨i, ch, _, _, _, same⟩
          all_goals
            rw [same] at equal changes
            obtain ⟨rfl, rfl⟩ := Prod.mk.inj equal
            refine ⟨changes, .inl ?_⟩
          · rfl
          · split <;> rfl
        · obtain ⟨rfl, rfl⟩ := Prod.mk.inj (Option.some.inj handled)
          exact ⟨.still, .inl rfl⟩
  · split at handled
    · rename_i type _
      have equal := Option.some.inj handled
      have changes := data_changes peer sid type data
      rcases handleRtcdcData_cases peer sid type data with
        ⟨_, same⟩ | ⟨i, ch, found, _, _, same⟩
      · rw [same] at equal changes
        obtain ⟨rfl, rfl⟩ := Prod.mk.inj equal
        exact ⟨changes, .inl rfl⟩
      · rw [same] at equal changes
        obtain ⟨rfl, rfl⟩ := Prod.mk.inj equal
        refine ⟨changes, ?_⟩
        cases ch.callbacks.onMessage with
        | true => exact .inr ⟨i, findSid_lowest.mp found, rfl⟩
        | false => exact .inl rfl
    · obtain ⟨rfl, rfl⟩ := Prod.mk.inj (Option.some.inj handled)
      exact ⟨.still, .inl rfl⟩

theorem receive_cases {data : Bytes} {ppid : UInt32} {sid : UInt16} {notification : Bool}
    {env : HandlerEnv}
    (handled : sctpDataReceivedCb peer data ppid sid notification env = some (next, effects)) :
    Changes peer next ∧ OneCalled peer.channels sid effects := by
  unfold sctpDataReceivedCb at handled
  split_ifs at handled
  · obtain ⟨rfl, rfl⟩ := Prod.mk.inj (Option.some.inj handled)
    exact ⟨.still, .inl rfl⟩
  · obtain ⟨rfl, rfl⟩ := Prod.mk.inj (Option.some.inj handled)
    exact ⟨.still, .inl rfl⟩
  · exact message_cases handled

theorem step_changes {input : Input} (moved : step peer input = some (next, effects)) :
    Changes peer next := by
  cases input with
  | create label protocol callbacks env =>
      obtain ⟨⟨created, result⟩, called, rfl⟩ := Option.map_eq_some_iff.mp moved
      exact create_changes called
  | receive data ppid sid notification env => exact (receive_cases moved).1

def Adds : Input → Prop
  | .create .. => True
  | .receive data ppid .. =>
      ntohl ppid = webrtcControlPpid ∧ data.head? = some dataChannelOpen

theorem full_unchanged {input : Input} (full : ∀ i, (peer.channels i).isSome) (adds : Adds input)
    (moved : step peer input = some (next, effects)) : next.channels = peer.channels := by
  have none_free := Table.firstFree_none.mpr full
  cases input with
  | create label protocol callbacks env =>
      obtain ⟨⟨created, result⟩, called, rfl⟩ := Option.map_eq_some_iff.mp moved
      rcases rtcdcCreateDataChannel_cases called with
        ⟨_, rfl, _⟩ | ⟨_, i, _, _, _, _, _, _, free, _⟩
      · rfl
      · rw [none_free] at free
        cases free
  | receive data ppid sid notification env =>
      obtain ⟨control, opens⟩ := adds
      simp only [step, sctpDataReceivedCb, control, handleRtcdcMessage_open opens] at moved
      split_ifs at moved
      · obtain ⟨rfl, rfl⟩ := Prod.mk.inj (Option.some.inj moved)
        rfl
      · obtain ⟨rfl, rfl⟩ := Prod.mk.inj (Option.some.inj moved)
        rfl
      · rcases handleRtcdcOpenRequest_cases moved with
          ⟨rfl, _⟩ | ⟨_, i, _, _, _, free, _⟩
        · rfl
        · rw [none_free] at free
          cases free

theorem run_keeps {s s' : RtcdcPeerConnection} {inputs : List Input}
    (run : Run step s inputs s' effects) : Table.Keeps Same s.channels s'.channels := by
  refine run.invariant (fun t _ => Table.Keeps Same s.channels t.channels) ?_ ?_
  · exact fun i ch stored => ⟨ch, stored, .refl ch⟩
  · intro t _ input t' _ before _ moved
    have now := (step_changes moved).keeps Same.refl
    exact before.trans (fun _ _ _ => Same.trans) now

structure Orderly (s : RtcdcPeerConnection) : Prop where
  packed : Table.Packed s.channels
  kept : ∀ inputs s' effects, Run step s inputs s' effects →
    Table.Keeps Same s.channels s'.channels
  full : ∀ input next effects, step s input = some (next, effects) → Adds input →
    (∀ i, (s.channels i).isSome) → next.channels = s.channels
  called : ∀ data ppid sid notification env next effects,
    step s (.receive data ppid sid notification env) = some (next, effects) →
      OneCalled s.channels sid effects

/-- Channels are never lost or moved, whatever comes in and whether sends succeed or not. -/
theorem channels_orderly {start s : RtcdcPeerConnection} {inputs : List Input}
    (empty : ∀ i, start.channels i = none) (run : Run step start inputs s effects) : Orderly s where
  packed := by
    refine run.invariant (fun t _ => Table.Packed t.channels) ?_ ?_
    · rw [show start.channels = fun _ => none from funext empty]
      exact Table.packed_empty
    · exact fun _ _ _ _ _ packed _ moved => (step_changes moved).packed packed
  kept := fun _ _ _ more => run_keeps more
  full := fun _ _ _ moved adds full => full_unchanged full adds moved
  called := fun _ _ _ _ _ _ _ moved => (receive_cases moved).2

def startedClient : RtcdcPeerConnection where
  exitThread := false
  transport := some
    { ice := { negotiationDone := true }
      dtls := { handshakeDone := true }
      sctp := { handshakeDone := true, deferredMessages := some [], streamCursor := 0 } }
  role := .client
  channels := fun _ => none
  onChannel := some fun _ => ⟨true, true, false⟩
  onConnect := false

def createCall : Input :=
  .create (some (CString.literal "up")) (some CString.empty) ⟨true, true, false⟩ ⟨true, true, 0⟩

def controlMessage (data : Bytes) (sid : UInt16) : Input :=
  .receive data (htonl webrtcControlPpid) sid false ⟨true, 0⟩

def openOn (sid : UInt16) : Input :=
  controlMessage (openRequest (CString.literal "down") CString.empty).bytes sid

def ackOn (sid : UInt16) : Input :=
  controlMessage [dataChannelAck] sid

def someInputs : List Input :=
  [createCall, openOn 1, ackOn 0, .receive [104, 105] (htonl webrtcStringPpid) 0 false ⟨true, 0⟩]

theorem someInputs_orderly :
    ∃ last effects, Run step startedClient someInputs last effects ∧
      messaged effects = [0] ∧ Orderly last := by
  have moved : ((exec step startedClient someInputs).map fun last => messaged last.2) =
      some [0] := by decide +kernel
  obtain ⟨⟨last, effects⟩, taken, called⟩ := Option.map_eq_some_iff.mp moved
  have run := exec_run taken
  exact ⟨last, effects, run, called, channels_orderly (fun _ => rfl) run⟩

end Librtcdc.Slots
