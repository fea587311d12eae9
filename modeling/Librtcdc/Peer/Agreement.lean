import Librtcdc.Peer.Opening

set_option autoImplicit false

namespace Librtcdc.Pair

open Systems

@[simp] theorem sentBy_append (side : Side) (events emitted : List Event) :
    sentBy side (events ++ emitted) = sentBy side events ++ sentBy side emitted :=
  List.filterMap_append ..

@[simp] theorem deliveredFrom_append (side : Side) (events emitted : List Event) :
    deliveredFrom side (events ++ emitted) =
      deliveredFrom side events ++ deliveredFrom side emitted :=
  List.filterMap_append ..

@[simp] theorem createdBy_append (side : Side) (events emitted : List Event) :
    createdBy side (events ++ emitted) = createdBy side events ++ createdBy side emitted :=
  List.filterMap_append ..

@[simp] theorem callsOn_append (side : Side) (slot : Fin rtcdcMaxChannelNum)
    (events emitted : List Event) :
    callsOn side slot (events ++ emitted) = callsOn side slot events ++ callsOn side slot emitted :=
  List.filterMap_append ..

def callbackOf (slot : Fin rtcdcMaxChannelNum) : Effect → Option Callback
  | .onOpen i => if i = slot then some .opened else none
  | .onMessage i datatype data => if i = slot then some (.message datatype data) else none
  | _ => none

section Emitted

variable (side : Side) (effects : List Effect)

@[simp] theorem sentBy_effects :
    sentBy side (effects.map (Event.effect side)) = (handed effects).map Prod.fst := by
  induction effects with
  | nil => rfl
  | cons head tail ih =>
      cases head <;>
        simp_all [sentBy, sentIn, handed, Effect.handed, List.filterMap_cons]

@[simp] theorem deliveredFrom_effects (sender : Side) :
    deliveredFrom sender (effects.map (Event.effect side)) = [] := by
  simp [deliveredFrom, deliveredIn]

@[simp] theorem createdBy_effects (creator : Side) :
    createdBy creator (effects.map (Event.effect side)) = [] := by
  simp [createdBy, createdIn]

@[simp] theorem callsOn_effects (slot : Fin rtcdcMaxChannelNum) :
    callsOn side slot (effects.map (Event.effect side)) =
      effects.filterMap (callbackOf slot) := by
  induction effects with
  | nil => rfl
  | cons head tail ih =>
      cases head <;>
        simp_all [callsOn, calledIn, callbackOf, List.filterMap_cons]

end Emitted

def OfSide (side : Side) : Event → Prop
  | .created at_ _ => at_ = side
  | .delivered sender _ => sender = side.other
  | .effect at_ _ => at_ = side

def AllOfSide (side : Side) (emitted : List Event) : Prop :=
  ∀ event ∈ emitted, OfSide side event

section OtherSide

variable {side : Side} {emitted : List Event}

theorem filterMap_nothing {α β : Type} {f : α → Option β} {l : List α}
    (nothing : ∀ a ∈ l, f a = none) : l.filterMap f = [] := by
  simpa [List.filterMap_eq_nil_iff] using nothing

theorem AllOfSide.sentBy_other (all : AllOfSide side emitted) : sentBy side.other emitted = [] :=
  filterMap_nothing fun event member => by
    have mine := all event member
    have differ := side.other_ne
    cases event with
    | effect at_ effect =>
        obtain rfl : at_ = side := mine
        cases effect <;> simp [sentIn, Ne.symm differ]
    | created | delivered => rfl

theorem AllOfSide.createdBy_other (all : AllOfSide side emitted) :
    createdBy side.other emitted = [] :=
  filterMap_nothing fun event member => by
    have mine := all event member
    have differ := side.other_ne
    cases event with
    | created at_ slot =>
        obtain rfl : at_ = side := mine
        simp [createdIn, Ne.symm differ]
    | effect | delivered => rfl

theorem AllOfSide.deliveredFrom_mine (all : AllOfSide side emitted) :
    deliveredFrom side emitted = [] :=
  filterMap_nothing fun event member => by
    have mine := all event member
    cases event with
    | delivered sender message =>
        obtain rfl : sender = side.other := mine
        simp [deliveredIn, side.other_ne]
    | effect | created => rfl

theorem AllOfSide.callsOn_other (all : AllOfSide side emitted) (slot : Fin rtcdcMaxChannelNum) :
    callsOn side.other slot emitted = [] :=
  filterMap_nothing fun event member => by
    have mine := all event member
    have differ := side.other_ne
    cases event with
    | effect at_ effect =>
        obtain rfl : at_ = side := mine
        cases effect <;> simp [calledIn, Ne.symm differ]
    | created | delivered => rfl

end OtherSide

def callFor (callbacks : Callbacks) (message : Sendv) : Option Callback :=
  if ntohl message.sndPpid = webrtcControlPpid then
    if message.data.head? = some dataChannelAck ∧ callbacks.onOpen then some .opened else none
  else
    match datatypeOfPpid (ntohl message.sndPpid) with
    | some datatype => if callbacks.onMessage then some (.message datatype message.data) else none
    | none => none

def onSid (sid : UInt16) (messages : List Sendv) : List Sendv :=
  onKey Sendv.sndSid sid messages

def CallsMatch (x : TwoPeers) (events : List Event) (side : Side)
    (slot : Fin rtcdcMaxChannelNum) : Prop :=
  callsOn side slot events =
    match (x.peers side).channels slot with
    | none => []
    | some ch => (onSid ch.sid (deliveredFrom side.other events)).filterMap (callFor ch.callbacks)

def StreamOf (side : Side) (x : TwoPeers) (events : List Event) (sid : UInt16) : Prop :=
  StreamAt side sid (channelOn (x.peers side).channels sid)
    (channelOn (x.peers side.other).channels sid)
    (onSid sid (sentBy side events)) (onSid sid (sentBy side.other events))
    (onSid sid (deliveredFrom side events)) (onSid sid (deliveredFrom side.other events))

theorem StreamOf.swap {side : Side} {x : TwoPeers} {events : List Event} {sid : UInt16}
    (stream : StreamOf side x events sid) : StreamOf side.other x events sid := by
  unfold StreamOf StreamAt at *
  rw [Side.other_other]
  cases side <;> cases own : owner sid <;> simpa [own, Side.other] using stream

theorem each_side {p : Side → Prop} (side : Side) (mine : p side) (theirs : p side.other)
    (at_ : Side) : p at_ := by
  by_cases same : at_ = side
  · rwa [same]
  · have other : at_ = side.other := by cases at_ <;> cases side <;> simp_all [Side.other]
    rwa [other]

theorem StreamOf.every {side : Side} {x : TwoPeers} {events : List Event} {sid : UInt16}
    (stream : StreamOf side x events sid) : ∀ at_, StreamOf at_ x events sid :=
  each_side side stream stream.swap

structure PeerOk (side : Side) (peer : RtcdcPeerConnection) : Prop where
  transport : ∃ transport, peer.transport = some transport ∧
    transport.sctp.deferredMessages ≠ none ∧
    Allocated side.base transport.sctp.streamCursor peer.channels
  distinct : DistinctSids peer.channels
  below : ∀ i ch, peer.channels i = some ch → ch.sid.toNat < rtcdcMaxOutStream

structure Inv (x : TwoPeers) (events : List Event) : Prop where
  peers : ∀ side, PeerOk side (x.peers side)
  created : ∀ side, ∀ i ∈ createdBy side events,
    ∃ ch, (x.peers side).channels i = some ch ∧ hasParity side.base ch = true
  ordered : ∀ side, InOrder Sendv.sndSid (sentBy side events) (deliveredFrom side events)
    (x.wire side)
  streams : ∀ sid side, StreamOf side x events sid
  calls : ∀ side slot, CallsMatch x events side slot

theorem ready_inv {x : TwoPeers} (ready : Ready x) : Inv x [] where
  peers := by
    intro side
    obtain ⟨transport, stored, queue, cursor⟩ := ready.transport side
    have empty : (x.peers side).channels = fun _ => none := funext (ready.channels side)
    refine ⟨⟨transport, stored, queue, ?_⟩, ?_, ?_⟩
    · rw [cursor]
      exact allocated_empty (by cases side <;> decide) (ready.channels side)
    · rw [empty]
      exact Table.distinct_empty _
    · intro i ch occupied
      simp [ready.channels side i] at occupied
  created := by
    intro side i member
    simp [createdBy] at member
  ordered := by
    intro side sid
    simp [ready.wire side, sentBy, deliveredFrom]
  streams := by
    intro sid side
    have nothing : ∀ at_, channelOn (x.peers at_).channels sid = none := by
      intro at_
      cases found : channelOn (x.peers at_).channels sid with
      | none => rfl
      | some ch =>
          obtain ⟨i, _, stored, _⟩ := channelOn_some found
          simp [ready.channels at_ i] at stored
    rw [StreamOf, nothing, nothing, StreamAt]
    split_ifs <;> exact .idle rfl rfl rfl rfl rfl rfl
  calls := by
    intro side slot
    rw [CallsMatch, ready.channels side slot]
    rfl

structure LocalStep (side : Side) (sid : UInt16) (x x' : TwoPeers) (events emitted : List Event) :
    Prop where
  others : x'.peers side.other = x.peers side.other
  mine : AllOfSide side emitted
  peer : PeerOk side (x'.peers side)
  kept : ∀ i ch, (x.peers side).channels i = some ch →
    ∃ ch', (x'.peers side).channels i = some ch' ∧ ch'.sid = ch.sid
  created : ∀ i ∈ createdBy side emitted,
    ∃ ch, (x'.peers side).channels i = some ch ∧ hasParity side.base ch = true
  ordered : ∀ at_, InOrder Sendv.sndSid (sentBy at_ (events ++ emitted))
    (deliveredFrom at_ (events ++ emitted)) (x'.wire at_)
  elsewhere : ∀ other, other ≠ sid →
    channelOn (x'.peers side).channels other = channelOn (x.peers side).channels other
  sent : ∀ m ∈ sentBy side emitted, m.sndSid = sid
  got : ∀ m ∈ deliveredFrom side.other emitted, m.sndSid = sid
  stream : StreamOf side x' (events ++ emitted) sid
  calls : ∀ slot, CallsMatch x' (events ++ emitted) side slot

theorem LocalStep.inv {side : Side} {sid : UInt16} {x x' : TwoPeers} {events emitted : List Event}
    (inv : Inv x events) (moved : LocalStep side sid x x' events emitted) :
    Inv x' (events ++ emitted) where
  peers := each_side side moved.peer (by rw [moved.others]; exact inv.peers _)
  created := by
    refine each_side side (fun i member => ?_) (fun i member => ?_)
    · rw [createdBy_append, List.mem_append] at member
      rcases member with earlier | now
      · obtain ⟨ch, stored, own⟩ := inv.created side i earlier
        obtain ⟨ch', stored', same⟩ := moved.kept i ch stored
        exact ⟨ch', stored', by rw [hasParity_congr same]; exact own⟩
      · exact moved.created i now
    · rw [createdBy_append, moved.mine.createdBy_other, List.append_nil] at member
      rw [moved.others]
      exact inv.created side.other i member
  ordered := moved.ordered
  streams := by
    intro other at_
    by_cases same : other = sid
    · subst same
      exact moved.stream.every at_
    · have before := inv.streams other side
      have noneSent : onSid other (sentBy side emitted) = [] :=
        onKey_none fun m member equal => same (equal.symm.trans (moved.sent m member))
      have noneGot : onSid other (deliveredFrom side.other emitted) = [] :=
        onKey_none fun m member equal => same (equal.symm.trans (moved.got m member))
      have still : StreamOf side x' (events ++ emitted) other := by
        unfold StreamOf onSid at *
        rw [moved.elsewhere other same, moved.others, sentBy_append, sentBy_append,
          deliveredFrom_append, deliveredFrom_append, moved.mine.sentBy_other,
          moved.mine.deliveredFrom_mine]
        simpa [noneSent, noneGot] using before
      exact still.every at_
  calls := by
    refine each_side side moved.calls fun slot => ?_
    have before := inv.calls side.other slot
    unfold CallsMatch at *
    rw [callsOn_append, moved.mine.callsOn_other, List.append_nil, before, moved.others,
      Side.other_other, deliveredFrom_append, moved.mine.deliveredFrom_mine, List.append_nil]

end Librtcdc.Pair
