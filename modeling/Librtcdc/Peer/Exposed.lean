import Librtcdc.Peer.Allocation
import Librtcdc.Peer.Slots

set_option autoImplicit false

namespace Librtcdc.Exposed

open Systems Librtcdc.Slots

-- A peer after its startup, with the slots whose channels have been sent an ACK.
structure Exposure where
  peer : RtcdcPeerConnection
  acked : List (Fin rtcdcMaxChannelNum)

def acks : Input → Option UInt16
  | .receive data ppid sid notification _ =>
      if notification = false ∧ ntohl ppid = webrtcControlPpid ∧ data.head? = some dataChannelAck then
        some sid
      else none
  | .create .. => none

def ackedBy (channels : ChannelTable) (input : Input) : Option (Fin rtcdcMaxChannelNum) :=
  (acks input).bind (findSid channels)

def step : Step Exposure Input Effect := fun s input =>
  (Slots.step s.peer input).map fun (next, effects) =>
    ({ peer := next, acked := (ackedBy s.peer.channels input).toList ++ s.acked }, effects)

def opens (effects : List Effect) : List (Fin rtcdcMaxChannelNum) :=
  effects.filterMap fun
    | .onOpen slot => some slot
    | _ => none

structure Sound (s : Exposure) (effects : List Effect) : Prop where
  distinct : DistinctSids s.peer.channels
  once : ∀ i, (opens effects).count i ≤ 1

def accepts (sctp : SctpTransport) (err : Int) : Bool :=
  sctp.deferredMessages.isSome && (!sctp.handshakeDone || decide (0 ≤ err))

def claims (peer : RtcdcPeerConnection) : Input → Option UInt16
  | .create _ _ _ env =>
      peer.transport.bind fun transport =>
        if env.callocChannel && env.callocReq && accepts transport.sctp env.sendv then
          some (UInt16.ofNat transport.sctp.streamCursor)
        else none
  | .receive data ppid sid notification env =>
      if notification = false ∧ ntohl ppid = webrtcControlPpid ∧
          data.head? = some dataChannelOpen ∧ (DcepOpenMessage.ofBytes data).isSome ∧ env.calloc then
        some sid
      else none

-- A channel is added only on a stream that carries none, and a channel with an `on_open` handler is
-- sent one ACK at most.
structure Careful (s : Exposure) (input : Input) : Prop where
  unused : ∀ sid ∈ claims s.peer input, s.peer.channels.firstFree ≠ none →
    ∀ j, ∀ ch ∈ s.peer.channels j, ch.sid ≠ sid
  first : ∀ i ∈ ackedBy s.peer.channels input, ∀ ch ∈ s.peer.channels i,
    ch.callbacks.onOpen = true → i ∉ s.acked

theorem findSid_unused {channels : ChannelTable} {sid : UInt16} :
    findSid channels sid = none ↔ ∀ j, ∀ ch ∈ channels j, ch.sid ≠ sid := by
  simp [findSid, Table.find_none]

-- The condition is decided for the one stream and the one slot that it is about.
instance (s : Exposure) (input : Input) : Decidable (Careful s input) :=
  decidable_of_iff
    (((claims s.peer input).all fun sid => decide (s.peer.channels.firstFree ≠ none →
        findSid s.peer.channels sid = none)) = true ∧
      ((ackedBy s.peer.channels input).all fun i => decide (∀ ch ∈ s.peer.channels i,
        ch.callbacks.onOpen = true → i ∉ s.acked)) = true) <| by
    simp only [findSid_unused, Option.all_eq_true, decide_eq_true_eq]
    exact ⟨fun both => ⟨both.1, both.2⟩, fun careful => ⟨careful.1, careful.2⟩⟩

variable {peer next : RtcdcPeerConnection} {effects : List Effect}

theorem sendSctpMessage_accepts (sctp : SctpTransport) (message : SctpMessage) (err : Int) :
    0 ≤ (sendSctpMessage sctp message err).1 ↔ accepts sctp err = true := by
  unfold sendSctpMessage accepts
  cases sctp.deferredMessages with
  | none => simp
  | some queue =>
      cases sctp.handshakeDone with
      | false => simp
      | true =>
          by_cases refused : err < 0
          · simp [refused]
          · simp [refused, Int.not_lt.mp refused]

theorem opens_sendSctpMessage (sctp : SctpTransport) (message : SctpMessage) (err : Int) :
    opens (sendSctpMessage sctp message err).2 = [] := by
  unfold sendSctpMessage
  split_ifs <;> rfl

def view (ch : RtcdcDataChannel) : UInt16 × Callbacks := (ch.sid, ch.callbacks)

def SameViews (t t' : ChannelTable) : Prop :=
  ∀ i, (t' i).map view = (t i).map view

theorem sameViews_put {t : ChannelTable} {i : Fin rtcdcMaxChannelNum} {ch ch' : RtcdcDataChannel}
    (stored : t i = some ch) (same : view ch' = view ch) : SameViews t (t.put i (some ch')) := by
  intro j
  rw [Table.put_apply]
  split_ifs with here
  · simp [here, stored, same]
  · rfl

theorem SameViews.back {t t' : ChannelTable} (same : SameViews t t') {i : Fin rtcdcMaxChannelNum}
    {ch' : RtcdcDataChannel} (stored : t' i = some ch') :
    ∃ ch, t i = some ch ∧ view ch = view ch' := by
  have here := same i
  rw [stored] at here
  obtain ⟨ch, stored', equal⟩ := Option.map_eq_some_iff.mp here.symm
  exact ⟨ch, stored', equal⟩

theorem SameViews.distinct {t t' : ChannelTable} (same : SameViews t t')
    (distinct : DistinctSids t) : DistinctSids t' := by
  intro i j a b first second equal
  obtain ⟨a', first', viewA⟩ := same.back first
  obtain ⟨b', second', viewB⟩ := same.back second
  have sids : a'.sid = b'.sid := by
    rw [show a'.sid = a.sid from congrArg Prod.fst viewA, equal,
      show b'.sid = b.sid from congrArg Prod.fst viewB]
  exact distinct i j a' b' first' second' sids

inductive Outcome (peer : RtcdcPeerConnection) (input : Input) (next : RtcdcPeerConnection)
    (effects : List Effect) : Prop
  | quiet (same : SameViews peer.channels next.channels) (silent : opens effects = [])
      (noAck : ackedBy peer.channels input = none)
      (full : claims peer input ≠ none → peer.channels.firstFree = none)
  | added (i : Fin rtcdcMaxChannelNum) (ch : RtcdcDataChannel)
      (free : peer.channels.firstFree = some i) (stored : next.channels = peer.channels.put i (some ch))
      (silent : opens effects = []) (noAck : ackedBy peer.channels input = none)
      (claimed : claims peer input = some ch.sid)
  | acked (i : Fin rtcdcMaxChannelNum) (ch : RtcdcDataChannel)
      (same : SameViews peer.channels next.channels) (stored : peer.channels i = some ch)
      (called : opens effects = if ch.callbacks.onOpen then [i] else [])
      (ack : ackedBy peer.channels input = some i) (noClaim : claims peer input = none)

theorem create_calloc {label protocol : Option CString} {callbacks : Callbacks} {env : CreateEnv}
    {i : Fin rtcdcMaxChannelNum}
    (called : rtcdcCreateDataChannel peer label protocol callbacks env =
      some (some i, next, effects)) : env.callocChannel = true ∧ env.callocReq = true := by
  unfold rtcdcCreateDataChannel at called
  split at called
  · cases called
  · split at called
    · cases called
    · split at called
      · cases called
      · rename_i first
        split at called
        · split at called
          · cases called
          · rename_i second
            exact ⟨by simpa using first, by simpa using second⟩
        · cases called

theorem create_stores {label protocol : Option CString} {callbacks : Callbacks} {env : CreateEnv}
    {created : Option (Fin rtcdcMaxChannelNum)} {i : Fin rtcdcMaxChannelNum}
    {transport : RtcdcTransport} (stored : peer.transport = some transport)
    (free : peer.channels.firstFree = some i) (memory : (env.callocChannel && env.callocReq) = true)
    (accepted : accepts transport.sctp env.sendv = true)
    (called : rtcdcCreateDataChannel peer label protocol callbacks env =
      some (created, next, effects)) : created = some i := by
  obtain ⟨channel, req⟩ : env.callocChannel = true ∧ env.callocReq = true := by simpa using memory
  unfold rtcdcCreateDataChannel at called
  simp only [stored, free, channel, req, Bool.not_true, if_neg Bool.false_ne_true] at called
  split at called
  · rename_i label protocol
    have sent (sctp : SctpTransport) (same : accepts sctp env.sendv = true) (m : SctpMessage) :
        0 ≤ (sendSctpMessage sctp m env.sendv).1 :=
      (sendSctpMessage_accepts sctp m env.sendv).mpr same
    split at called
    · rename_i refused
      exact absurd refused (Int.not_lt.mpr (sent _ accepted _))
    · exact (Prod.mk.inj (Option.some.inj called)).1.symm
  · cases called

theorem create_outcome {label protocol : Option CString} {callbacks : Callbacks} {env : CreateEnv}
    {created : Option (Fin rtcdcMaxChannelNum)}
    (called : rtcdcCreateDataChannel peer label protocol callbacks env =
      some (created, next, effects)) :
    Outcome peer (.create label protocol callbacks env) next effects := by
  have full (nothing : created = none)
      (claimed : claims peer (.create label protocol callbacks env) ≠ none) :
      peer.channels.firstFree = none := by
    obtain ⟨sid, some_sid⟩ := Option.ne_none_iff_exists'.mp claimed
    obtain ⟨transport, stored, guarded⟩ := Option.bind_eq_some_iff.mp some_sid
    split_ifs at guarded with guard
    rw [Bool.and_eq_true] at guard
    by_contra room
    obtain ⟨i, free⟩ := Option.ne_none_iff_exists'.mp room
    have stores := create_stores stored free guard.1 guard.2 called
    rw [nothing] at stores
    cases stores
  rcases rtcdcCreateDataChannel_cases called with
    ⟨nothing, rfl, rfl⟩ | ⟨transport, i, label', protocol', sctp, ch, message, stored, free, _, _,
      hsctp, hch, hmessage, rfl, ⟨_, nothing, rfl⟩ | ⟨accepted, rfl, rfl⟩⟩
  · exact .quiet (fun _ => rfl) rfl rfl (full nothing)
  · exact .quiet (fun _ => rfl) (opens_sendSctpMessage _ _ _) rfl (full nothing)
  · refine .added i ch free rfl (opens_sendSctpMessage _ _ _) rfl ?_
    obtain ⟨channel, req⟩ := create_calloc called
    have accepts_it := (sendSctpMessage_accepts sctp message env.sendv).mp accepted
    have same : accepts transport.sctp env.sendv = true := by
      rw [hsctp] at accepts_it
      exact accepts_it
    simp only [claims, stored, Option.bind_some, channel, req, same, Bool.and_self, if_true, hch]
    rfl

theorem open_stores {sid : UInt16} {data : Bytes} {env : HandlerEnv}
    {i : Fin rtcdcMaxChannelNum} (valid : (DcepOpenMessage.ofBytes data).isSome)
    (free : peer.channels.firstFree = some i) (memory : env.calloc = true)
    (handled : handleRtcdcOpenRequest peer sid data env = some (next, effects)) :
    (next.channels i).isSome := by
  obtain ⟨openReq, parsed⟩ := Option.isSome_iff_exists.mp valid
  simp only [handleRtcdcOpenRequest, parsed, free, memory, if_true] at handled
  split at handled
  · obtain ⟨rfl, _⟩ := Prod.mk.inj (Option.some.inj handled)
    simp
  · cases handled

theorem open_calloc {sid : UInt16} {data : Bytes} {env : HandlerEnv}
    (handled : handleRtcdcOpenRequest peer sid data env = some (next, effects))
    (changed : next.channels ≠ peer.channels) : env.calloc = true := by
  by_contra noMemory
  rw [Bool.not_eq_true] at noMemory
  simp only [handleRtcdcOpenRequest, noMemory, if_neg Bool.false_ne_true] at handled
  have same : next = peer := by
    split at handled
    · exact (Prod.mk.inj (Option.some.inj handled)).1.symm
    · split at handled
      · exact (Prod.mk.inj (Option.some.inj handled)).1.symm
      · exact (Prod.mk.inj (Option.some.inj handled)).1.symm
  exact changed (congrArg RtcdcPeerConnection.channels same)

theorem open_outcome {data : Bytes} {ppid : UInt32} {sid : UInt16} {env : HandlerEnv}
    (control : ntohl ppid = webrtcControlPpid) (opening : data.head? = some dataChannelOpen)
    (handled : handleRtcdcOpenRequest peer sid data env = some (next, effects)) :
    Outcome peer (.receive data ppid sid false env) next effects := by
  have noAck : ackedBy peer.channels (.receive data ppid sid false env) = none := by
    have other : dataChannelOpen ≠ dataChannelAck := by decide
    simp [ackedBy, acks, opening, other]
  have claimed : claims peer (.receive data ppid sid false env) =
      if (DcepOpenMessage.ofBytes data).isSome ∧ env.calloc = true then some sid else none := by
    simp [claims, control, opening]
  rcases handleRtcdcOpenRequest_cases handled with
    ⟨rfl, rfl⟩ | ⟨openReq, i, ch, transport, parsed, free, made, stored, rfl, rfl⟩
  · refine .quiet (fun _ => rfl) rfl noAck fun registers => ?_
    have valid : (DcepOpenMessage.ofBytes data).isSome ∧ env.calloc = true := by
      by_contra invalid
      exact registers (claimed.trans (if_neg invalid))
    by_contra room
    obtain ⟨i, free⟩ := Option.ne_none_iff_exists'.mp room
    have filled := open_stores valid.1 free valid.2 handled
    rw [(Table.firstFree_some free).1] at filled
    cases filled
  · have empty := (Table.firstFree_some free).1
    refine .added i _ free rfl ?_ noAck ?_
    · rw [opens, List.filterMap_append]
      refine List.append_eq_nil_iff.mpr ⟨?_, opens_sendSctpMessage _ _ _⟩
      split <;> rfl
    · have changed : peer.channels.put i (some (peer.installCallbacks ch)) ≠ peer.channels := by
        intro same
        have here := congrFun same i
        rw [Table.put_same, empty] at here
        cases here
      have memory := open_calloc handled changed
      rw [claimed, installCallbacks_sid, (allocateNewDataChannel_fields made).1, parsed]
      simp [memory]

theorem ack_outcome {data : Bytes} {ppid : UInt32} {sid : UInt16} {env : HandlerEnv}
    (control : ntohl ppid = webrtcControlPpid) (acking : data.head? = some dataChannelAck)
    (handled : handleRtcdcOpenAck peer sid = (next, effects)) :
    Outcome peer (.receive data ppid sid false env) next effects := by
  have ack : ackedBy peer.channels (.receive data ppid sid false env) =
      findSid peer.channels sid := by
    simp [ackedBy, acks, control, acking]
  have noClaim : claims peer (.receive data ppid sid false env) = none := by
    have other : dataChannelAck ≠ dataChannelOpen := by decide
    simp [claims, acking, other]
  rcases handleRtcdcOpenAck_cases peer sid with
    ⟨missing, same⟩ | ⟨i, ch, found, stored, _, same⟩
  · rw [same] at handled
    obtain ⟨rfl, rfl⟩ := Prod.mk.inj handled
    exact .quiet (fun _ => rfl) rfl (ack.trans missing) fun registers => absurd noClaim registers
  · rw [same] at handled
    obtain ⟨rfl, rfl⟩ := Prod.mk.inj handled
    refine .acked i ch (sameViews_put stored rfl) stored ?_ (ack.trans found) noClaim
    split <;> rfl

theorem reopen_view (ch : RtcdcDataChannel) : view ch.reopen = view ch := by
  unfold RtcdcDataChannel.reopen
  split_ifs <;> rfl

theorem data_quiet (peer : RtcdcPeerConnection) (sid : UInt16) (type : Datatype) (data : Bytes) :
    SameViews peer.channels (handleRtcdcData peer sid type data).1.channels ∧
      opens (handleRtcdcData peer sid type data).2 = [] := by
  rcases handleRtcdcData_cases peer sid type data with ⟨_, same⟩ | ⟨i, ch, _, stored, _, same⟩
  · rw [same]
    exact ⟨fun _ => rfl, rfl⟩
  · rw [same]
    refine ⟨sameViews_put stored (reopen_view ch), ?_⟩
    dsimp only
    split <;> rfl

theorem step_outcome {input : Input} (moved : Slots.step peer input = some (next, effects)) :
    Outcome peer input next effects := by
  cases input with
  | create label protocol callbacks env =>
      obtain ⟨⟨created, result⟩, called, rfl⟩ := Option.map_eq_some_iff.mp moved
      exact create_outcome called
  | receive data ppid sid notification env =>
      have quiet (other : ¬ (notification = false ∧ ntohl ppid = webrtcControlPpid ∧
            (data.head? = some dataChannelOpen ∨ data.head? = some dataChannelAck)))
          (same : SameViews peer.channels next.channels) (silent : opens effects = []) :
          Outcome peer (.receive data ppid sid notification env) next effects := by
        refine .quiet same silent ?_ ?_
        · have noAck : acks (.receive data ppid sid notification env) = none :=
            if_neg fun ack => other ⟨ack.1, ack.2.1, .inr ack.2.2⟩
          rw [ackedBy, noAck, Option.bind_none]
        · intro claimed
          refine absurd (if_neg ?_) claimed
          exact fun opening => other ⟨opening.1, opening.2.1, .inl opening.2.2.1⟩
      simp only [Slots.step, sctpDataReceivedCb] at moved
      split_ifs at moved with nothing notified
      · obtain ⟨rfl, rfl⟩ := Prod.mk.inj (Option.some.inj moved)
        have empty := List.length_eq_zero_iff.mp nothing
        exact quiet (by simp [empty]) (fun _ => rfl) rfl
      · obtain ⟨rfl, rfl⟩ := Prod.mk.inj (Option.some.inj moved)
        exact quiet (by simp [notified]) (fun _ => rfl) rfl
      · obtain rfl : notification = false := by simpa using notified
        unfold handleRtcdcMessage at moved
        split at moved
        · rename_i control
          split at moved
          · cases moved
          · rename_i first rest
            split_ifs at moved with opening acking
            · exact open_outcome control (by rw [opening]; rfl) moved
            · exact ack_outcome control (by rw [acking]; rfl) (Option.some.inj moved)
            · obtain ⟨rfl, rfl⟩ := Prod.mk.inj (Option.some.inj moved)
              exact quiet (by simp [opening, acking]) (fun _ => rfl) rfl
        · rename_i userData
          split at moved
          · rename_i type _
            obtain ⟨same, silent⟩ := data_quiet peer sid type data
            rw [Option.some.inj moved] at same silent
            exact quiet (by simp [userData]) same silent
          · obtain ⟨rfl, rfl⟩ := Prod.mk.inj (Option.some.inj moved)
            exact quiet (by simp [userData]) (fun _ => rfl) rfl

structure Inv (s : Exposure) (events : List Effect) : Prop where
  distinct : DistinctSids s.peer.channels
  occupied : ∀ i ∈ s.acked, (s.peer.channels i).isSome
  silent : ∀ i, i ∉ s.acked → (opens events).count i = 0
  once : ∀ i, (opens events).count i ≤ 1
  called : ∀ i ∈ s.acked, ∀ ch, s.peer.channels i = some ch → ch.callbacks.onOpen = true →
    (opens events).count i = 1

theorem opens_append (events emitted : List Effect) :
    opens (events ++ emitted) = opens events ++ opens emitted :=
  List.filterMap_append

theorem opens_silent (events : List Effect) (silent : opens effects = []) :
    opens (events ++ effects) = opens events := by
  rw [opens_append, silent, List.append_nil]

theorem SameViews.isSome {t t' : ChannelTable} (same : SameViews t t')
    (i : Fin rtcdcMaxChannelNum) : (t' i).isSome = (t i).isSome := by
  have here := congrArg Option.isSome (same i)
  simpa using here

variable {s : Exposure} {events : List Effect} {input : Input}

theorem Inv.quiet (inv : Inv s events) (same : SameViews s.peer.channels next.channels)
    (silent : opens effects = []) : Inv ⟨next, s.acked⟩ (events ++ effects) where
  distinct := same.distinct inv.distinct
  occupied := fun i acked => (same.isSome i).trans (inv.occupied i acked)
  silent := by
    rw [opens_silent events silent]
    exact inv.silent
  once := by
    rw [opens_silent events silent]
    exact inv.once
  called := by
    rw [opens_silent events silent]
    intro i acked ch stored handler
    obtain ⟨old, stored', viewed⟩ := same.back stored
    have callbacks : old.callbacks = ch.callbacks := congrArg Prod.snd viewed
    exact inv.called i acked old stored' (callbacks ▸ handler)

theorem Inv.added (inv : Inv s events) {i : Fin rtcdcMaxChannelNum} {ch : RtcdcDataChannel}
    (empty : s.peer.channels i = none)
    (stored : next.channels = s.peer.channels.put i (some ch))
    (fresh : ∀ j old, s.peer.channels j = some old → old.sid ≠ ch.sid)
    (silent : opens effects = []) : Inv ⟨next, s.acked⟩ (events ++ effects) := by
  have elsewhere : ∀ j ∈ s.acked, j ≠ i := by
    rintro j acked rfl
    have taken := inv.occupied j acked
    rw [empty] at taken
    cases taken
  have others (j : Fin rtcdcMaxChannelNum) (acked : j ∈ s.acked) :
      next.channels j = s.peer.channels j := by
    rw [stored, Table.put_other _ _ (elsewhere j acked)]
  constructor
  · rw [stored]
    exact Table.Distinct.put_fresh inv.distinct fresh
  · intro j acked
    rw [others j acked]
    exact inv.occupied j acked
  · rw [opens_silent events silent]
    exact inv.silent
  · rw [opens_silent events silent]
    exact inv.once
  · rw [opens_silent events silent]
    intro j acked old there handler
    rw [others j acked] at there
    exact inv.called j acked old there handler

theorem Inv.ack (inv : Inv s events) {i : Fin rtcdcMaxChannelNum} {ch : RtcdcDataChannel}
    (same : SameViews s.peer.channels next.channels) (stored : s.peer.channels i = some ch)
    (first : ch.callbacks.onOpen = true → i ∉ s.acked)
    (told : opens effects = if ch.callbacks.onOpen then [i] else []) :
    Inv ⟨next, i :: s.acked⟩ (events ++ effects) := by
  have counted (j : Fin rtcdcMaxChannelNum) : (opens (events ++ effects)).count j =
      (opens events).count j + if ch.callbacks.onOpen = true ∧ i = j then 1 else 0 := by
    rw [opens_append, told, List.count_append]
    congr 1
    cases ch.callbacks.onOpen with
    | false => simp
    | true => simp [List.count_singleton, beq_iff_eq]
  constructor
  · exact same.distinct inv.distinct
  · intro j acked
    refine (same.isSome j).trans ?_
    cases acked with
    | head => rw [stored]; rfl
    | tail _ before => exact inv.occupied j before
  · intro j fresh
    rw [List.mem_cons, not_or] at fresh
    rw [counted, inv.silent j fresh.2, if_neg fun both => fresh.1 both.2.symm]
  · intro j
    rw [counted]
    split_ifs with here
    · have none_yet := inv.silent j (here.2 ▸ first here.1)
      omega
    · exact inv.once j
  · intro j acked new there handler
    obtain ⟨old, there', viewed⟩ := same.back there
    have handler' : old.callbacks.onOpen = true := by
      rw [show old.callbacks = new.callbacks from congrArg Prod.snd viewed]
      exact handler
    rw [counted]
    by_cases here : i = j
    · obtain rfl : ch = old := by
        rw [← here, stored] at there'
        exact Option.some.inj there'
      rw [if_pos ⟨handler', here⟩, inv.silent j (here ▸ first handler')]
    · rw [if_neg fun both => here both.2]
      refine inv.called j ?_ old there' handler'
      exact (List.mem_cons.mp acked).resolve_left (Ne.symm here)

theorem step_preserves {s' : Exposure} (inv : Inv s events) (careful : Careful s input)
    (moved : step s input = some (s', effects)) : Inv s' (events ++ effects) := by
  obtain ⟨⟨next, effects'⟩, stepped, equal⟩ := Option.map_eq_some_iff.mp moved
  obtain ⟨rfl, rfl⟩ := Prod.mk.inj equal
  cases step_outcome stepped with
  | quiet same silent noAck =>
      rw [noAck]
      exact inv.quiet same silent
  | added i ch free stored silent noAck claimed =>
      rw [noAck]
      have room : s.peer.channels.firstFree ≠ none := by simp [free]
      refine inv.added (Table.firstFree_some free).1 stored (fun j old there => ?_) silent
      exact careful.unused ch.sid claimed room j old there
  | acked i ch same stored told ack =>
      rw [ack]
      exact inv.ack same stored (careful.first i ack ch stored) told

theorem step_careful {s' : Exposure} (inv : Inv s events)
    (moved : step s input = some (s', effects)) (sound : Sound s' (events ++ effects)) :
    Careful s input := by
  obtain ⟨⟨next, effects'⟩, stepped, equal⟩ := Option.map_eq_some_iff.mp moved
  obtain ⟨rfl, rfl⟩ := Prod.mk.inj equal
  cases step_outcome stepped with
  | quiet same silent noAck full =>
      constructor
      · intro sid claimed room
        exact absurd (full (by simp [Option.mem_def.mp claimed])) room
      · simp [noAck]
  | added i ch free stored silent noAck claimed =>
      constructor
      · intro sid claimed' _ j old there same
        obtain rfl : ch.sid = sid := Option.some.inj (claimed.symm.trans claimed')
        have distinct := sound.distinct
        have elsewhere : j ≠ i := by
          rintro rfl
          rw [(Table.firstFree_some free).1] at there
          cases there
        rw [show next.channels = _ from stored] at distinct
        refine elsewhere (distinct j i old ch ?_ (Table.put_same _ _ _) same)
        rw [Table.put_other _ _ elsewhere]
        exact there
      · simp [noAck]
  | acked i ch same stored told ack noClaim =>
      constructor
      · simp [noClaim]
      · intro j acks ch' there handler again
        obtain rfl : i = j := Option.some.inj (ack.symm.trans acks)
        obtain rfl : ch = ch' := Option.some.inj (stored.symm.trans there)
        have twice := sound.once i
        rw [opens_append, told, if_pos handler, List.count_append,
          inv.called i again ch stored handler] at twice
        simp at twice

/-- The table and the callbacks are sound all along exactly in the runs whose inputs are careful. -/
theorem sound_iff {start : Exposure} {inputs : List Input}
    (distinct : DistinctSids start.peer.channels) (none_acked : start.acked = []) :
    RunIf Careful step start inputs s events ↔ Always Sound step start inputs s events := by
  refine runIf_iff_always Inv ?_ ?_ ?_ ?_
  · constructor
    · exact distinct
    · simp [none_acked]
    · simp [opens]
    · simp [opens]
    · simp [none_acked]
  · exact fun _ _ _ _ _ inv careful moved => step_preserves inv careful moved
  · exact fun _ _ inv => ⟨inv.distinct, inv.once⟩
  · exact fun _ _ _ _ _ inv moved sound => step_careful inv moved sound

def exposedClient : Exposure where
  peer := startedClient
  acked := []

theorem someInputs_sound : ∃ last effects,
    Always Sound step exposedClient someInputs last effects ∧ opens effects = [0] := by
  have moved : ((execIf Careful step exposedClient someInputs).map fun last => opens last.2) =
      some [0] := by decide +kernel
  obtain ⟨⟨last, effects⟩, taken, called⟩ := Option.map_eq_some_iff.mp moved
  have start : DistinctSids exposedClient.peer.channels := Table.distinct_empty _
  exact ⟨last, effects, (sound_iff start rfl).mp (execIf_runIf taken), called⟩

theorem repeated_messages_unsound :
    (∃ last effects, Run step exposedClient [openOn 1, openOn 1] last effects ∧
      ¬ DistinctSids last.peer.channels) ∧
    (∃ last effects, Run step exposedClient [createCall, ackOn 0, ackOn 0] last effects ∧
      (opens effects).count 0 = 2) := by
  constructor
  · have moved : ((exec step exposedClient [openOn 1, openOn 1]).map fun last =>
        ((last.1.peer.channels 0).map RtcdcDataChannel.sid,
          (last.1.peer.channels 1).map RtcdcDataChannel.sid)) = some (some 1, some 1) := by
      decide +kernel
    obtain ⟨⟨last, effects⟩, taken, sids⟩ := Option.map_eq_some_iff.mp moved
    obtain ⟨first, second⟩ := Prod.mk.inj sids
    obtain ⟨a, storedA, sidA⟩ := Option.map_eq_some_iff.mp first
    obtain ⟨b, storedB, sidB⟩ := Option.map_eq_some_iff.mp second
    refine ⟨last, effects, exec_run taken, fun distinct => ?_⟩
    have same := distinct 0 1 a b storedA storedB (sidA.trans sidB.symm)
    revert same
    decide
  · have moved : ((exec step exposedClient [createCall, ackOn 0, ackOn 0]).map fun last =>
        (opens last.2).count 0) = some 2 := by decide +kernel
    obtain ⟨⟨last, effects⟩, taken, twice⟩ := Option.map_eq_some_iff.mp moved
    exact ⟨last, effects, exec_run taken, twice⟩

end Librtcdc.Exposed
