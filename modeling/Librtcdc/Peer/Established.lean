import Librtcdc.Peer.Signalled

set_option autoImplicit false

namespace Librtcdc.Establishment

open Systems Roles
open Pair (Side TwoPeers)

variable {Process : Type} {x next : TwoParties Process} {p q : Party}
  {before after peer : RtcdcPeerConnection} {connection : Connection} {session : Session}
  {startup : Option StartupPc} {pair : TwoPeers}

def pastIce : StartupPc → Bool
  | .awaitNegotiation => false
  | _ => true

def pastDtls : StartupPc → Bool
  | .awaitNegotiation | .doHandshake | .awaitDtls => false
  | _ => true

structure StartupOk (peer : RtcdcPeerConnection) (startup : Option StartupPc) (parsed : Bool) :
    Prop where
  transport : startup ≠ none → peer.transport ≠ none
  selected : ∀ transport, peer.transport = some transport → transport.ice.negotiationDone = true →
    parsed = true
  ice : ∀ pc, startup = some pc → pastIce pc = true → ∀ transport, peer.transport = some transport →
    transport.ice.negotiationDone = true
  dtls : ∀ pc, startup = some pc → pastDtls pc = true → ∀ transport,
    peer.transport = some transport → transport.dtls.handshakeDone = true

structure Unconnected (peer : RtcdcPeerConnection) (startup : Option StartupPc) : Prop where
  channels : ∀ i, peer.channels i = none
  sctp : ∀ transport, peer.transport = some transport →
    transport.sctp.handshakeDone = false ∧ transport.sctp.deferredMessages ≠ none
  cursor : ∀ pc, startup = some pc → pc.pastCursor = true → ∀ transport,
    peer.transport = some transport →
      transport.sctp.streamCursor = if peer.role = .client then 0 else 1

theorem StartupOk.held {parsed : Bool} {pc : StartupPc} (ok : StartupOk peer startup parsed)
    (here : startup = some pc) : ∃ transport, peer.transport = some transport :=
  Option.ne_none_iff_exists'.mp (ok.transport (by rw [here]; exact nofun))

theorem StartupOk.parsed {parsed : Bool} {pc : StartupPc} (ok : StartupOk peer startup parsed)
    (here : startup = some pc) (past : pastIce pc = true) : parsed = true := by
  obtain ⟨transport, stored⟩ := ok.held here
  exact ok.selected transport stored (ok.ice pc here past transport stored)

theorem StartupOk.framed {parsed : Bool} (ok : StartupOk before startup parsed)
    (frame : SameFrame before after) : StartupOk after startup parsed := by
  have earlier : ∀ transport', after.transport = some transport' → ∃ transport,
      before.transport = some transport ∧ transport'.ice = transport.ice ∧
        transport'.dtls = transport.dtls := by
    intro transport' there
    cases stored : before.transport with
    | none =>
        rw [frame.absent stored] at there
        cases there
    | some transport =>
        obtain ⟨other, same, ice, dtls⟩ := frame.transport transport stored
        obtain rfl : other = transport' := Option.some.inj (same.symm.trans there)
        exact ⟨transport, rfl, ice, dtls⟩
  refine ⟨fun begun absent => ?_, fun transport' there => ?_,
    fun pc here past transport' there => ?_, fun pc here past transport' there => ?_⟩
  · obtain ⟨transport, stored⟩ := Option.ne_none_iff_exists'.mp (ok.transport begun)
    obtain ⟨_, there, _⟩ := frame.transport transport stored
    rw [absent] at there
    cases there
  · obtain ⟨transport, stored, ice, _⟩ := earlier transport' there
    rw [ice]
    exact ok.selected transport stored
  · obtain ⟨transport, stored, ice, _⟩ := earlier transport' there
    rw [ice]
    exact ok.ice pc here past transport stored
  · obtain ⟨transport, stored, _, dtls⟩ := earlier transport' there
    rw [dtls]
    exact ok.dtls pc here past transport stored

structure Silent (x : TwoParties Process) (events : List Event) : Prop where
  channels : ∀ p i, (x.sessions p).channels i = none
  wire : ∀ p, x.wire p = []
  talk : talk events = []

structure Established (x : TwoParties Process) (events : List Event) : Prop where
  past : ∀ p, PastCursor x p
  reached : ∃ ready calls, Pair.Ready ready ∧ Run Pair.step ready calls x.pair (talk events)

structure Inv (x : TwoParties Process) (events : List Event) : Prop where
  roles : Roles.Inv x.negotiation
  startup : ∀ p, StartupOk (x.peer p) (x.sessions p).startup (x.negotiation.parsed p)
  phase : (Silent x events ∧ ∀ p, Unconnected (x.peer p) (x.sessions p).startup) ∨
    Established x events

theorem fresh_inv (fresh : Fresh x) : Inv x [] := by
  have absent : ∀ p, (x.peer p).transport = none := by
    intro p
    simp [TwoParties.peer, peerView, fresh.negotiation.peers p, rtcdcCreatePeerConnection]
  refine ⟨Roles.fresh_inv fresh.negotiation, fun p => ?_,
    .inl ⟨⟨fresh.channels, fresh.wire, rfl⟩, fun p => ?_⟩⟩
  · constructor <;> simp [fresh.startup p, absent p]
  · refine ⟨fresh.channels p, ?_, ?_⟩ <;> simp [fresh.startup p, absent p]

theorem pastCursor_pastIce {pc : StartupPc} (past : pc.pastCursor = true) : pastIce pc = true := by
  cases pc <;> first | rfl | cases past

theorem pastCursor_pastDtls {pc : StartupPc} (past : pc.pastCursor = true) :
    pastDtls pc = true := by
  cases pc <;> first | rfl | cases past

@[simp] theorem talk_append (first second : List Event) :
    talk (first ++ second) = talk first ++ talk second := List.filterMap_append

@[simp] theorem talk_library (calls : List LibraryCall) : talk (calls.map .library) = [] := by
  simp [talk, pairIn]

@[simp] theorem talk_startup (effects : List Effect) : talk (effects.map (.startup p)) = [] := by
  simp [talk, pairIn]

@[simp] theorem talk_pair (events : List Pair.Event) : talk (events.map .pair) = events := by
  rw [talk, List.filterMap_map]
  exact List.filterMap_some

theorem Signalled.view {before after : Connection} (signalled : Signalled before after)
    (session : Session) :
    (∀ transport, (peerView before session).transport = some transport →
      (peerView after session).transport = some transport) ∧
    ((peerView before session).transport = none → ∀ transport,
      (peerView after session).transport = some transport → transport = freshView) := by
  refine ⟨fun transport there => ?_, fun absent transport there => ?_⟩
  · obtain ⟨held, stored, rfl⟩ := Option.map_eq_some_iff.mp there
    obtain ⟨held', stored', same⟩ := signalled.there held stored
    exact Option.map_eq_some_iff.mpr ⟨held', stored', same⟩
  · obtain ⟨held, stored, rfl⟩ := Option.map_eq_some_iff.mp there
    exact signalled.absent (Option.map_eq_none_iff.mp absent) held stored

variable {events : List Event}

theorem Signalled.either {before after : Connection} (signalled : Signalled before after)
    {transport : RtcdcTransport} (there : (peerView after session).transport = some transport) :
    (peerView before session).transport = some transport ∨ transport = freshView := by
  obtain ⟨kept, new⟩ := signalled.view session
  cases stored : (peerView before session).transport with
  | none => exact .inr (new stored transport there)
  | some held =>
      rw [kept held stored] at there
      exact .inl there

theorem StartupOk.signalled {before after : Connection} {parsed parsed' : Bool}
    (ok : StartupOk (peerView before session) startup parsed)
    (signalled : Signalled before after) (still : parsed = true → parsed' = true) :
    StartupOk (peerView after session) startup parsed' := by
  obtain ⟨kept, new⟩ := signalled.view session
  have begun : ∀ pc, startup = some pc → ∀ transport,
      (peerView after session).transport = some transport →
        (peerView before session).transport = some transport := by
    intro pc here transport there
    obtain ⟨held, stored⟩ := ok.held here
    rw [kept held stored] at there
    rw [stored, there]
  refine ⟨fun started => ?_, fun transport there done => ?_, fun pc here past transport there => ?_,
    fun pc here past transport there => ?_⟩
  · obtain ⟨held, stored⟩ := Option.ne_none_iff_exists'.mp (ok.transport started)
    rw [kept held stored]
    exact nofun
  · rcases signalled.either there with old | rfl
    · exact still (ok.selected transport old done)
    · cases done
  · exact ok.ice pc here past transport (begun pc here transport there)
  · exact ok.dtls pc here past transport (begun pc here transport there)

theorem Unconnected.signalled {before after : Connection} {parsed : Bool}
    (unconnected : Unconnected (peerView before session) startup)
    (ok : StartupOk (peerView before session) startup parsed) (signalled : Signalled before after)
    (role : parsed = true → after.role = before.role) :
    Unconnected (peerView after session) startup := by
  obtain ⟨kept, new⟩ := signalled.view session
  refine ⟨unconnected.channels, fun transport there => ?_, fun pc here past transport there => ?_⟩
  · rcases signalled.either there with old | rfl
    · exact unconnected.sctp transport old
    · exact ⟨rfl, nofun⟩
  · have same : after.role = before.role := role (ok.parsed here (pastCursor_pastIce past))
    obtain ⟨held, stored⟩ := ok.held here
    rw [kept held stored] at there
    rw [← Option.some.inj there]
    show held.sctp.streamCursor = if after.role = .client then 0 else 1
    rw [same]
    exact unconnected.cursor pc here past held stored

theorem StartupOk.signalled_same {before after : Connection} {parsed : Bool} {pc : StartupPc}
    (ok : StartupOk (peerView before session) startup parsed) (signalled : Signalled before after)
    (here : startup = some pc) (past : pastIce pc = true)
    (role : parsed = true → after.role = before.role) :
    peerView after session = peerView before session := by
  obtain ⟨kept, _⟩ := signalled.view session
  obtain ⟨held, stored⟩ := ok.held here
  have transport : after.transport.map transportView = before.transport.map transportView :=
    (kept held stored).trans stored.symm
  simp only [peerView, transport, role (ok.parsed here past)]

section Steps

variable [DecidableEq Process] {process : Party → Process}

variable {action : Roles.Action} {n : Negotiation Process} {calls : List LibraryCall}

theorem signal_early (inv : Inv x events) (silent : Silent x events)
    (unconnected : ∀ q, Unconnected (x.peer q) (x.sessions q).startup)
    (current : Roles.Current x.negotiation action)
    (moved : Roles.step process x.negotiation action = some (n, calls)) :
    Silent { x with negotiation := n } (events ++ calls.map .library) ∧
      ∀ q, Unconnected (peerView (n.peers q) (x.sessions q)) (x.sessions q).startup :=
  ⟨⟨silent.channels, silent.wire, by simpa using silent.talk⟩, fun q =>
    (unconnected q).signalled (inv.startup q) (signal_each moved q)
      fun parsed => signal_roles inv.roles current moved parsed q⟩

theorem signal_peer (inv : Inv x events) (past : PastCursor x p)
    (current : Roles.Current x.negotiation action)
    (moved : Roles.step process x.negotiation action = some (n, calls)) :
    peerView (n.peers p) (x.sessions p) = x.peer p := by
  obtain ⟨pc, here, far⟩ := past
  exact (inv.startup p).signalled_same (signal_each moved p) here (pastCursor_pastIce far)
    fun parsed => signal_roles inv.roles current moved parsed p

theorem signal_inv (inv : Inv x events) (current : Roles.Current x.negotiation action)
    (moved : Roles.step process x.negotiation action = some (n, calls)) :
    Inv { x with negotiation := n } (events ++ calls.map .library) := by
  obtain ⟨_, _, _, still⟩ := signal_signalled moved
  refine ⟨Roles.step_inv inv.roles current moved,
    fun q => (inv.startup q).signalled (signal_each moved q) (still q), ?_⟩
  rcases inv.phase with ⟨silent, unconnected⟩ | established
  · exact .inl (signal_early inv silent unconnected current moved)
  · have pair : ({ x with negotiation := n } : TwoParties Process).pair = x.pair :=
      pair_congr (fun q => signal_peer inv (established.past q) current moved) rfl
    refine .inr ⟨established.past, ?_⟩
    rw [talk_append, talk_library, List.append_nil, pair]
    exact established.reached

end Steps

structure SameParties (n n' : Negotiation Process) : Prop where
  parsed : n'.parsed = n.parsed
  latest : n'.latest = n.latest
  roles : ∀ q, (n'.peers q).role = (n.peers q).role
  absent : ∀ q, (n'.peers q).transport = none ↔ (n.peers q).transport = none

theorem SameParties.inv {n n' : Negotiation Process} (same : SameParties n n')
    (inv : Roles.Inv n) : Roles.Inv n' := by
  refine ⟨fun q => ?_, fun q parsed => ?_, fun somebody => ?_⟩
  · have party := inv.party q
    rw [same.latest, same.parsed]
    refine ⟨?_, ?_, ?_, ?_, party.stated⟩
    · simpa only [ne_eq, same.absent, same.roles] using party.decided
    · simpa only [ne_eq, same.absent] using party.latest
    · simpa only [ne_eq, same.absent] using party.parsed
    · simpa only [ne_eq, same.absent, same.roles] using party.unparsed
  · rw [same.latest]
    exact inv.offered q (by rwa [← same.parsed])
  · rw [same.parsed] at somebody
    rw [same.roles, same.roles]
    exact inv.opposite somebody

structure LocalStep (x next : TwoParties Process) (p : Party) : Prop where
  other : next.peer p.other = x.peer p.other
  still : (next.sessions p.other).startup = (x.sessions p.other).startup
  wire : next.wire = x.wire
  parties : SameParties x.negotiation next.negotiation

theorem LocalStep.early {emitted : List Event} (moved : LocalStep x next p)
    (silent : Silent x events) (unconnected : ∀ q, Unconnected (x.peer q) (x.sessions q).startup)
    (quiet : talk emitted = []) (still : Unconnected (next.peer p) (next.sessions p).startup) :
    Silent next (events ++ emitted) ∧
      ∀ q, Unconnected (next.peer q) (next.sessions q).startup := by
  have each : ∀ q, Unconnected (next.peer q) (next.sessions q).startup := by
    intro q
    rcases p.eq_or_other q with rfl | rfl
    · exact still
    · rw [moved.other, moved.still]
      exact unconnected _
  refine ⟨⟨fun q => (each q).channels, ?_, ?_⟩, each⟩
  · rw [moved.wire]
    exact silent.wire
  · rw [talk_append, silent.talk, quiet]
    rfl

theorem LocalStep.inv {events emitted : List Event} (inv : Inv x events)
    (moved : LocalStep x next p)
    (mine : StartupOk (next.peer p) (next.sessions p).startup (x.negotiation.parsed p))
    (phase : (Silent x events ∧ (∀ q, Unconnected (x.peer q) (x.sessions q).startup) →
        (talk emitted = [] ∧ Unconnected (next.peer p) (next.sessions p).startup) ∨
          Established next (events ++ emitted)) ∧
      (Established x events → Established next (events ++ emitted))) :
    Inv next (events ++ emitted) := by
  refine ⟨moved.parties.inv inv.roles, fun q => ?_, ?_⟩
  · rw [moved.parties.parsed]
    rcases p.eq_or_other q with rfl | rfl
    · exact mine
    · rw [moved.other, moved.still]
      exact inv.startup _
  · rcases inv.phase with ⟨silent, unconnected⟩ | established
    · rcases phase.1 ⟨silent, unconnected⟩ with ⟨quiet, still⟩ | established
      · exact .inl (moved.early silent unconnected quiet still)
      · exact .inr established
    · exact .inr (phase.2 established)

theorem loop_local (x : TwoParties Process) (p : Party) : LocalStep x (x.loop p) p := by
  refine ⟨?_, ?_, rfl, rfl, rfl, fun _ => rfl, fun _ => Iff.rfl⟩ <;>
    simp [TwoParties.peer, TwoParties.loop, Function.update_of_ne p.other_ne]

theorem flag_local (x : TwoParties Process) (p : Party) (flag : Transport → Transport) :
    LocalStep x (x.flag p flag) p := by
  refine ⟨?_, rfl, rfl, rfl, rfl, fun q => ?_, fun q => ?_⟩
  · simp [TwoParties.peer, TwoParties.flag, Function.update_of_ne p.other_ne]
  all_goals
    rcases p.eq_or_other q with rfl | rfl
    · simp [TwoParties.flag]
    · simp [TwoParties.flag, Function.update_of_ne p.other_ne]

theorem connectionAfter_absent (frame : SameFrame (peerView connection session) peer) :
    (connectionAfter connection peer).transport = none ↔ connection.transport = none := by
  cases stored : connection.transport with
  | none => simp [connectionAfter, stored]
  | some held =>
      obtain ⟨transport', there, _⟩ := frame.transport _ (by rw [peerView, stored]; rfl)
      simp [connectionAfter, stored, there]

theorem after_local (frame : SameFrame (x.peer p) peer) :
    LocalStep x (x.after p peer startup) p := by
  refine ⟨after_peer_other, ?_, rfl, rfl, rfl, fun q => ?_, fun q => ?_⟩
  · simp [TwoParties.after, Function.update_of_ne p.other_ne]
  all_goals rcases p.eq_or_other q with rfl | rfl
  · simp [TwoParties.after]
  · simp [TwoParties.after, Function.update_of_ne p.other_ne]
  · simpa [TwoParties.after] using connectionAfter_absent frame
  · simp [TwoParties.after, Function.update_of_ne p.other_ne]

@[simp] theorem after_startup : ((x.after p peer startup).sessions p).startup = startup := by
  simp [TwoParties.after]

@[simp] theorem after_startup_other :
    ((x.after p peer startup).sessions p.other).startup = (x.sessions p.other).startup := by
  simp [TwoParties.after, Function.update_of_ne p.other_ne]

inductive Starts (peer : RtcdcPeerConnection) (transport : RtcdcTransport) :
    StartupPc → Bool → RtcdcPeerConnection → StartupPc → List Effect → Prop
  | negotiated (associated : Bool) (done : transport.ice.negotiationDone = true) :
      Starts peer transport .awaitNegotiation associated peer .doHandshake []
  | begins (associated : Bool) : Starts peer transport .doHandshake associated peer .awaitDtls []
  | secured (associated : Bool) (done : transport.dtls.handshakeDone = true) :
      Starts peer transport .awaitDtls associated peer .setCursor []
  | cursor (associated : Bool) :
      Starts peer transport .setCursor associated
        (peer.withSctp transport { transport.sctp with
          streamCursor := if peer.role = .client then 0 else 1 }) .associate []
  | associated :
      Starts peer transport .associate true
        (peer.withSctp transport { transport.sctp with handshakeDone := true }) .announce []
  | refused : Starts peer transport .associate false peer .finished []
  | announced (associated : Bool) :
      Starts peer transport .announce associated peer .finished
        (if peer.onConnect then [.onConnect] else [])

theorem startup_starts {pc pc' : StartupPc} {associated : Bool} {effects : List Effect}
    (running : before.exitThread = false)
    (moved : startupThread before pc associated = some (after, pc', effects)) :
    ∃ transport, before.transport = some transport ∧
      Starts before transport pc associated after pc' effects := by
  unfold startupThread at moved
  split at moved
  · cases moved
  · rename_i transport stored
    refine ⟨transport, stored, ?_⟩
    cases pc with
    | awaitNegotiation =>
        simp only [running, Bool.false_eq_true, if_false] at moved
        split_ifs at moved with done
        cases moved
        exact .negotiated _ done
    | doHandshake =>
        cases moved
        exact .begins _
    | awaitDtls =>
        simp only [running, Bool.false_eq_true, if_false] at moved
        split_ifs at moved with done
        cases moved
        exact .secured _ done
    | setCursor =>
        cases moved
        exact .cursor _
    | associate =>
        cases associated with
        | true =>
            cases moved
            exact .associated
        | false =>
            cases moved
            exact .refused
    | announce =>
        cases moved
        exact .announced _
    | finished => cases moved

theorem Starts.frame {transport : RtcdcTransport} {pc pc' : StartupPc} {associated : Bool}
    {effects : List Effect} (stored : before.transport = some transport)
    (starts : Starts before transport pc associated after pc' effects) :
    SameFrame before after := by
  cases starts with
  | cursor | associated => exact .withSctp _ _ stored
  | negotiated | begins | secured | refused | announced => exact .refl _

theorem Starts.ok {transport : RtcdcTransport} {pc pc' : StartupPc} {associated parsed : Bool}
    {effects : List Effect} (stored : before.transport = some transport)
    (starts : Starts before transport pc associated after pc' effects)
    (ok : StartupOk before (some pc) parsed) : StartupOk after (some pc') parsed := by
  have framed := ok.framed (starts.frame stored)
  have there : ∀ other, before.transport = some other → other = transport :=
    fun other same => Option.some.inj (same.symm.trans stored)
  refine ⟨fun _ => framed.transport nofun, framed.selected, fun _ here past => ?_,
    fun _ here past => ?_⟩
  · obtain rfl := Option.some.inj here
    cases starts with
    | negotiated _ done =>
        intro other same
        rw [there other same]
        exact done
    | begins | secured | cursor | associated | refused | announced => exact framed.ice _ rfl rfl
  · obtain rfl := Option.some.inj here
    cases starts with
    | negotiated | begins => cases past
    | secured _ done =>
        intro other same
        rw [there other same]
        exact done
    | cursor | associated | refused | announced => exact framed.dtls _ rfl rfl

theorem Starts.unconnected {transport : RtcdcTransport} {pc pc' : StartupPc} {associated : Bool}
    {effects : List Effect} (stored : before.transport = some transport)
    (starts : Starts before transport pc associated after pc' effects)
    (waits : pc = .associate → associated = false)
    (unconnected : Unconnected before (some pc)) : Unconnected after (some pc') := by
  cases starts with
  | negotiated | begins | secured =>
      exact ⟨unconnected.channels, unconnected.sctp, fun _ here past => by cases here; cases past⟩
  | cursor =>
      refine ⟨unconnected.channels, fun other same => ?_, fun _ _ _ other same => ?_⟩
      · obtain rfl := Option.some.inj same
        exact unconnected.sctp transport stored
      · obtain rfl := Option.some.inj same
        rfl
  | associated => cases waits rfl
  | refused => exact ⟨unconnected.channels, unconnected.sctp,
      fun _ _ _ => unconnected.cursor _ rfl rfl⟩
  | announced => exact ⟨unconnected.channels, unconnected.sctp,
      fun _ _ _ => unconnected.cursor _ rfl rfl⟩

theorem Starts.past {transport : RtcdcTransport} {pc pc' : StartupPc} {associated : Bool}
    {effects : List Effect} (starts : Starts before transport pc associated after pc' effects)
    (past : pc.pastCursor = true) :
    pc'.pastCursor = true ∧ (after = before ∨
      after = before.withSctp transport { transport.sctp with handshakeDone := true }) := by
  cases starts with
  | negotiated | begins | secured | cursor => cases past
  | associated => exact ⟨rfl, .inr rfl⟩
  | refused | announced => exact ⟨rfl, .inl rfl⟩

theorem Established.step {events : List Event} {calls : List Pair.Event}
    (action : Pair.Action) (established : Established x events) (past : ∀ q, PastCursor next q)
    (moved : Pair.step x.pair action = some (next.pair, calls)) :
    Established next (events ++ calls.map .pair) := by
  obtain ⟨ready, actions, begins, run⟩ := established.reached
  refine ⟨past, ready, actions ++ [action], begins, ?_⟩
  rw [talk_append, talk_pair]
  exact .snoc run trivial moved

theorem ready_pair {events : List Event} (inv : Inv x events) (silent : Silent x events)
    (unconnected : ∀ q, Unconnected (x.peer q) (x.sessions q).startup)
    (past : ∀ q, PastCursor x q) : Pair.Ready x.pair := by
  obtain ⟨pc, here, far⟩ := past .first
  have parsed := (inv.startup .first).parsed here (pastCursor_pastIce far)
  have opposite := inv.roles.opposite ⟨_, parsed⟩
  have role : ∀ side, (x.pair.peers side).role = side.role := by
    intro side
    rcases opposite with ⟨client, server⟩ | ⟨server, client⟩ <;> cases side <;>
      simp [TwoParties.pair, TwoParties.party, TwoParties.peer, peerView, Side.role, client, server]
  refine ⟨role, fun side => ?_, fun side => (unconnected _).channels, fun side => silent.wire _⟩
  obtain ⟨pc, here, far⟩ := past (x.party side)
  obtain ⟨transport, stored⟩ := (inv.startup (x.party side)).held here
  refine ⟨transport, stored, ((unconnected _).sctp transport stored).2, ?_⟩
  rw [(unconnected _).cursor pc here far transport stored]
  have mine : (x.peer (x.party side)).role = side.role := role side
  rw [mine]
  cases side <;> rfl

theorem pair_handshake {transport : RtcdcTransport}
    (stored : (x.peer p).transport = some transport) :
    Pair.step x.pair (.handshake (x.side p)) = some (withPeer x.pair (x.side p)
      ((x.peer p).withSctp transport { transport.sctp with handshakeDone := true }), []) := by
  simp only [Pair.step, stored, Option.map_some, withPeer, Pair.TwoPeers.after, pair_peers, handed,
    List.filterMap_nil, List.map_nil, List.append_nil, Function.update_eq_self]

theorem pastCursor_after {pc : StartupPc} (past : pc.pastCursor = true)
    (other : PastCursor x p.other) (q : Party) : PastCursor (x.after p peer (some pc)) q := by
  rcases p.eq_or_other q with rfl | rfl
  · exact ⟨pc, by simp, past⟩
  · obtain ⟨pc, here, far⟩ := other
    exact ⟨pc, by rwa [after_startup_other], far⟩

theorem loop_unconnected (unconnected : Unconnected (x.peer p) (x.sessions p).startup) :
    Unconnected ((x.loop p).peer p) ((x.loop p).sessions p).startup := by
  simp only [TwoParties.peer, TwoParties.loop, Function.update_self]
  refine ⟨unconnected.channels, unconnected.sctp, ?_⟩
  rintro _ ⟨⟩ past
  cases past

theorem loop_inv {events : List Event} (inv : Inv x events)
    (there : (x.negotiation.peers p).transport ≠ none) (idle : (x.sessions p).startup = none) :
    Inv (x.loop p) (events ++ []) := by
  have mine := inv.startup p
  refine (loop_local x p).inv inv ?_ ⟨fun ⟨_, unconnected⟩ =>
    .inl ⟨rfl, loop_unconnected (unconnected p)⟩, fun established => ?_⟩
  · simp only [TwoParties.peer, TwoParties.loop, Function.update_self]
    refine ⟨fun _ => by simpa [peerView] using there, mine.selected, ?_, ?_⟩ <;>
      · rintro _ ⟨⟩ past
        cases past
  · obtain ⟨pc, here, _⟩ := established.past p
    rw [idle] at here
    cases here

structure Raises (flag : Transport → Transport) (raise : RtcdcTransport → RtcdcTransport)
    (parsed : Bool) : Prop where
  shows : ∀ transport, transportView (flag transport) = raise (transportView transport)
  sctp : ∀ transport, (raise transport).sctp = transport.sctp
  ice : ∀ transport, transport.ice.negotiationDone = true →
    (raise transport).ice.negotiationDone = true
  dtls : ∀ transport, transport.dtls.handshakeDone = true →
    (raise transport).dtls.handshakeDone = true
  selected : ∀ transport, (raise transport).ice.negotiationDone = true →
    transport.ice.negotiationDone = true ∨ parsed = true
  set : ∀ transport, transport.ice.negotiationDone = true → transport.dtls.handshakeDone = true →
    raise transport = transport

theorem Raises.flagged {flag : Transport → Transport} {raise : RtcdcTransport → RtcdcTransport}
    {parsed : Bool} (raises : Raises flag raise parsed) (x : TwoParties Process) (p : Party) :
    (x.flag p flag).peer p = { x.peer p with transport := (x.peer p).transport.map raise } := by
  have same : transportView ∘ flag = raise ∘ transportView := funext raises.shows
  simp only [TwoParties.peer, TwoParties.flag, Function.update_self, peerView, Option.map_map, same]

section Flags

variable {events : List Event} {flag : Transport → Transport}
  {raise : RtcdcTransport → RtcdcTransport}

theorem flag_unconnected (raises : Raises flag raise (x.negotiation.parsed p))
    (unconnected : Unconnected (x.peer p) (x.sessions p).startup) :
    Unconnected ((x.flag p flag).peer p) ((x.flag p flag).sessions p).startup := by
  have sessions : (x.flag p flag).sessions = x.sessions := rfl
  rw [raises.flagged, sessions]
  refine ⟨unconnected.channels, fun transport there => ?_, fun pc here past transport there => ?_⟩
  all_goals
    obtain ⟨held, stored, rfl⟩ := Option.map_eq_some_iff.mp there
    rw [raises.sctp]
  · exact unconnected.sctp held stored
  · exact unconnected.cursor pc here past held stored

theorem flag_pair (inv : Inv x events) (raises : Raises flag raise (x.negotiation.parsed p))
    (past : PastCursor x p) : (x.flag p flag).pair = x.pair := by
  obtain ⟨pc, here, far⟩ := past
  have mine := inv.startup p
  refine pair_congr (fun q => ?_) rfl
  rcases p.eq_or_other q with rfl | rfl
  · rw [raises.flagged]
    cases stored : (x.peer q).transport with
    | none => rw [Option.map_none, ← stored]
    | some transport =>
        have done := raises.set transport
          (mine.ice pc here (pastCursor_pastIce far) transport stored)
          (mine.dtls pc here (pastCursor_pastDtls far) transport stored)
        rw [Option.map_some, done, ← stored]
  · exact (flag_local x p flag).other

theorem flag_inv (inv : Inv x events) (raises : Raises flag raise (x.negotiation.parsed p)) :
    Inv (x.flag p flag) (events ++ []) := by
  have mine := inv.startup p
  have sessions : (x.flag p flag).sessions = x.sessions := rfl
  refine (flag_local x p flag).inv inv ?_ ⟨fun ⟨_, unconnected⟩ =>
    .inl ⟨rfl, flag_unconnected raises (unconnected p)⟩, fun established =>
      ⟨established.past, ?_⟩⟩
  · rw [raises.flagged, sessions]
    refine ⟨fun begun => ?_, fun transport there done => ?_, fun pc here past transport there => ?_,
      fun pc here past transport there => ?_⟩
    · simpa using mine.transport begun
    all_goals obtain ⟨held, stored, rfl⟩ := Option.map_eq_some_iff.mp there
    · rcases raises.selected held done with before | parsed
      · exact mine.selected held stored before
      · exact parsed
    · exact raises.ice held (mine.ice pc here past held stored)
    · exact raises.dtls held (mine.dtls pc here past held stored)
  · rw [talk_append, flag_pair inv raises (established.past p), show talk [] = [] from rfl,
      List.append_nil]
    exact established.reached

end Flags

theorem negotiated_raises {parsed : Bool} (done : parsed = true) :
    Raises (fun transport => { transport with ice := { negotiationDone := true } })
      (fun transport => { transport with ice := { negotiationDone := true } }) parsed where
  shows := fun _ => rfl
  sctp := fun _ => rfl
  ice := fun _ _ => rfl
  dtls := fun _ done => done
  selected := fun _ _ => .inr done
  set := by
    rintro ⟨⟨ice⟩, dtls, sctp⟩ rfl _
    rfl

theorem secured_raises (parsed : Bool) :
    Raises (fun transport => { transport with dtls := { handshakeDone := true } })
      (fun transport => { transport with dtls := { handshakeDone := true } }) parsed where
  shows := fun _ => rfl
  sctp := fun _ => rfl
  ice := fun _ done => done
  dtls := fun _ _ => rfl
  selected := fun _ done => .inl done
  set := by
    rintro ⟨ice, ⟨dtls⟩, sctp⟩ _ rfl
    rfl

def Handshakes (side : Side) (pair next : TwoPeers) : Prop :=
  next = pair ∨ Pair.step pair (.handshake side) = some (next, [])

theorem Handshakes.run {side : Side} {next : TwoPeers} (shakes : Handshakes side pair next) :
    ∃ moves, Run Pair.step pair moves next [] := by
  rcases shakes with rfl | moved
  · exact ⟨[], .refl⟩
  · exact ⟨_, .snoc .refl trivial moved⟩

theorem startup_moves {transport : RtcdcTransport} {pc pc' : StartupPc} {associated : Bool}
    {effects : List Effect} (startup : Option StartupPc)
    (stored : (x.peer p).transport = some transport)
    (starts : Starts (x.peer p) transport pc associated peer pc' effects)
    (past : pc.pastCursor = true) : Handshakes (x.side p) x.pair (x.after p peer startup).pair := by
  rw [after_pair (starts.frame stored)]
  obtain ⟨_, rfl | rfl⟩ := starts.past past
  · have same : withPeer x.pair (x.side p) (x.peer p) = x.pair := by
      simp only [withPeer, ← pair_peers, Function.update_eq_self]
    exact .inl same
  · exact .inr (pair_handshake stored)

theorem startup_inv {events : List Event} {pc pc' : StartupPc} {associated : Bool}
    {effects : List Effect} (inv : Inv x events) (here : (x.sessions p).startup = some pc)
    (waits : associated = true → pc = .associate → PastCursor x p.other)
    (moved : startupThread (x.peer p) pc associated = some (peer, pc', effects)) :
    Inv (x.after p peer (some pc')) (events ++ effects.map (.startup p)) := by
  obtain ⟨transport, stored, starts⟩ := startup_starts rfl moved
  have frame := starts.frame stored
  have mine := inv.startup p
  rw [here] at mine
  refine (after_local frame).inv inv ?_
    ⟨fun ⟨silent, unconnected⟩ => ?_, fun established => ?_⟩
  · rw [after_peer frame, after_startup]
    exact starts.ok stored mine
  · have before := unconnected p
    rw [here] at before
    by_cases joins : associated = true ∧ pc = .associate
    · -- the association makes the two peers a ready pair
      have other := waits joins.1 joins.2
      have past₀ : pc.pastCursor = true := by rw [joins.2]; rfl
      have both : ∀ q, PastCursor x q := by
        intro q
        rcases p.eq_or_other q with rfl | rfl
        · exact ⟨pc, here, past₀⟩
        · exact other
      obtain ⟨moves, run⟩ := (startup_moves (some pc') stored starts past₀).run
      refine .inr ⟨pastCursor_after (starts.past past₀).1 other, x.pair, moves,
        ready_pair inv silent unconnected both, ?_⟩
      rw [talk_append, silent.talk, talk_startup]
      exact run
    · refine .inl ⟨by simp, ?_⟩
      rw [after_peer frame, after_startup]
      refine starts.unconnected stored (fun same => ?_) before
      rw [← Bool.not_eq_true]
      exact fun joined => joins ⟨joined, same⟩
  · obtain ⟨pc₀, here₀, past₀⟩ := established.past p
    obtain rfl : pc₀ = pc := Option.some.inj (here₀.symm.trans here)
    obtain ⟨ready, actions, begins, earlier⟩ := established.reached
    obtain ⟨moves, run⟩ := (startup_moves (some pc') stored starts past₀).run
    refine ⟨pastCursor_after (starts.past past₀).1 (established.past p.other), ready,
      actions ++ moves, begins, ?_⟩
    rw [talk_append, talk_startup]
    exact earlier.append run

theorem silent_call {events : List Event} {action : Pair.Action}
    {result : TwoPeers × List Pair.Event}
    (silent : Silent x events) (unconnected : ∀ q, Unconnected (x.peer q) (x.sessions q).startup)
    (proper : Proper x (.call action)) : Pair.step x.pair action ≠ some result := by
  have early : ∀ side, Pair.handshakeDone (x.pair.peers side) ≠ true := by
    intro side done
    have before : Pair.handshakeDone (x.peer (x.party side)) = true := done
    cases stored : (x.peer (x.party side)).transport with
    | none => simp [Pair.handshakeDone, stored] at before
    | some transport =>
        simp [Pair.handshakeDone, stored, ((unconnected _).sctp transport stored).1] at before
  cases action with
  | create side label protocol callbacks env => exact absurd proper (early side)
  | send side slot datatype data err => exact absurd proper (early side)
  | deliver sender position env =>
      have empty : x.pair.wire sender = [] := silent.wire _
      simp [Pair.step, empty, takeAt]
  | handshake side => exact absurd proper id

theorem call_inv {events : List Event} {action : Pair.Action} {calls : List Pair.Event}
    (inv : Inv x events) (proper : Proper x (.call action))
    (moved : Pair.step x.pair action = some (pair, calls)) :
    Inv (x.resume pair) (events ++ calls.map .pair) := by
  have frame : ∀ q, SameFrame (x.peer q) (pair.peers (x.side q)) := by
    intro q
    rw [← pair_peers]
    exact pair_frame moved _
  have parties : SameParties x.negotiation (x.resume pair).negotiation :=
    ⟨rfl, rfl, fun _ => rfl, fun q => connectionAfter_absent (frame q)⟩
  refine ⟨parties.inv inv.roles, fun q => ?_, ?_⟩
  · rw [resume_peer (pair_frame moved)]
    exact (inv.startup q).framed (frame q)
  · rcases inv.phase with ⟨silent, unconnected⟩ | established
    · exact absurd moved (silent_call silent unconnected proper)
    · refine .inr (.step action established established.past ?_)
      rw [resume_pair (pair_frame moved)]
      exact moved

section Runs

variable [DecidableEq Process] {process : Party → Process}

theorem step_inv {events emitted : List Event} {action : Action} (inv : Inv x events)
    (proper : Proper x action) (moved : step process x action = some (next, emitted)) :
    Inv next (events ++ emitted) := by
  cases action with
  | signal action =>
      obtain ⟨⟨n, calls⟩, signalled, same⟩ := Option.map_eq_some_iff.mp moved
      obtain ⟨rfl, rfl⟩ := Prod.mk.inj same
      exact signal_inv inv proper signalled
  | loop p =>
      simp only [step] at moved
      split_ifs at moved with ready
      obtain ⟨rfl, rfl⟩ := Prod.mk.inj (Option.some.inj moved)
      exact loop_inv inv ready.2.1 ready.2.2
  | negotiated p =>
      obtain ⟨rfl, rfl⟩ := Prod.mk.inj (Option.some.inj moved)
      exact flag_inv inv (negotiated_raises proper)
  | secured p =>
      obtain ⟨rfl, rfl⟩ := Prod.mk.inj (Option.some.inj moved)
      exact flag_inv inv (secured_raises _)
  | startup p associated =>
      obtain ⟨pc, here, goes⟩ := Option.bind_eq_some_iff.mp moved
      obtain ⟨⟨peer, pc', effects⟩, started, same⟩ := Option.map_eq_some_iff.mp goes
      obtain ⟨rfl, rfl⟩ := Prod.mk.inj same
      exact startup_inv inv here (fun joined waiting => proper joined (waiting ▸ here)) started
  | call action =>
      obtain ⟨⟨pair, calls⟩, called, same⟩ := Option.map_eq_some_iff.mp moved
      obtain ⟨rfl, rfl⟩ := Prod.mk.inj same
      exact call_inv inv proper called

theorem run_inv {start s : TwoParties Process} {actions : List Action} {events : List Event}
    (fresh : Fresh start) (run : RunIf Proper (step process) start actions s events) :
    Inv s events :=
  run.invariant Inv (fresh_inv fresh) fun _ _ _ _ _ inv proper moved => step_inv inv proper moved

end Runs

instance (x : TwoParties Process) (p : Party) : Decidable (PastCursor x p) :=
  inferInstanceAs (Decidable (∃ pc ∈ (x.sessions p).startup, pc.pastCursor = true))

instance (x : TwoParties Process) (action : Action) : Decidable (Proper x action) :=
  match action with
  | .signal action => inferInstanceAs (Decidable (Roles.Current x.negotiation action))
  | .loop _ | .secured _ | .call (.deliver ..) => isTrue trivial
  | .negotiated p => inferInstanceAs (Decidable (x.negotiation.parsed p = true))
  | .startup p associated => inferInstanceAs (Decidable (associated = true →
      (x.sessions p).startup = some .associate → PastCursor x p.other))
  | .call (.create side ..) | .call (.send side ..) =>
      inferInstanceAs (Decidable (Pair.handshakeDone (x.pair.peers side) = true))
  | .call (.handshake _) => isFalse id

def newParties : TwoParties Unit where
  negotiation := newPeers
  sessions := fun _ =>
    { channels := fun _ => none
      onChannel := some fun _ => ⟨true, true, false⟩
      onConnect := true
      startup := none }
  wire := fun _ => []

theorem newParties_fresh : Fresh newParties where
  negotiation := newPeers_fresh
  channels := fun _ _ => rfl
  startup := fun _ => rfl
  wire := fun _ => rfl

def bothParties (action : Party → Action) : List Action :=
  [action .first, action .second]

def firstCall : List Action :=
  offerAnswer.map .signal ++ bothParties .loop ++ bothParties .negotiated ++
    bothParties .secured ++ (List.replicate 6 (bothParties (.startup · true))).flatten ++
    Pair.greet.map .call

end Librtcdc.Establishment