import Librtcdc.Peer.OneWay
import Librtcdc.Sync.Channels
import Librtcdc.Sync.Delivery

set_option autoImplicit false

namespace Librtcdc.Sync.Channels

open Systems Pair Received

variable {p : Program} {s next start : State} {action : Action} {actions : List Action}
  {events emitted : List Event} {seen : List Pair.Event} {pair : TwoPeers}

def Program.told (p : Program) (receiver : Option Receiver) (messages : List (Datatype × Bytes)) :
    Option Receiver :=
  messages.foldl (fun receiver message => p.onMessage receiver message.2) receiver

theorem told_append (receiver : Option Receiver) (first second : List (Datatype × Bytes)) :
    p.told receiver (first ++ second) = p.told (p.told receiver first) second :=
  List.foldl_append ..

structure Reacted (p : Program) (s : State) (seen : List Pair.Event) (next : State) : Prop where
  pair : next.pair = s.pair
  connecting : next.connecting = s.connecting
  network : next.network = s.network
  receiver : next.receiver = p.told s.receiver (toldTo p.receiver seen)
  quiet : openedBy p.sender seen = [] → next.worker = s.worker ∧ next.dataChannel = s.dataChannel
  opened : ∀ slot, openedBy p.sender seen = [slot] → next.worker = .queued ∧
    next.dataChannel = if p.direction = .upload then some slot else s.dataChannel

theorem react_cases (event : Pair.Event) :
    (∃ message, toldIn p.receiver event = some message ∧ openedIn p.sender event = none ∧
        p.react s event = { s with receiver := p.onMessage s.receiver message.2 }) ∨
      (∃ slot, openedIn p.sender event = some slot ∧ toldIn p.receiver event = none ∧
        p.react s event = p.onOpen slot s) ∨
      (toldIn p.receiver event = none ∧ openedIn p.sender event = none ∧ p.react s event = s) := by
  cases event with
  | created | delivered => exact .inr (.inr ⟨rfl, rfl, rfl⟩)
  | effect at_ effect =>
      cases effect with
      | onOpen slot =>
          by_cases here : at_ = p.sender
          · exact .inr (.inl ⟨slot, by simp [openedIn, here], rfl, by simp [Program.react, here]⟩)
          · exact .inr (.inr ⟨rfl, by simp [openedIn, here], by simp [Program.react, here]⟩)
      | onMessage slot datatype data =>
          by_cases here : at_ = p.receiver
          · exact .inl ⟨(datatype, data), by simp [toldIn, here], rfl, by simp [Program.react, here]⟩
          · exact .inr (.inr ⟨by simp [toldIn, here], rfl, by simp [Program.react, here]⟩)
      | sendv | sendSctp | onChannel | onConnect => exact .inr (.inr ⟨rfl, rfl, rfl⟩)

theorem reacted (p : Program) (s : State) (seen : List Pair.Event) :
    Reacted p s seen (seen.foldl p.react s) := by
  induction seen generalizing s with
  | nil => exact ⟨rfl, rfl, rfl, rfl, fun _ => ⟨rfl, rfl⟩, by simp [openedBy]⟩
  | cons event more ih =>
      have later := ih (p.react s event)
      rw [List.foldl_cons]
      rcases react_cases (p := p) (s := s) event with
        ⟨message, told, unopened, result⟩ | ⟨slot, opens, untold, result⟩ | ⟨untold, unopened, result⟩
      · rw [result] at later ⊢
        refine ⟨later.pair, later.connecting, later.network, ?_, ?_, ?_⟩
        · have more_told : toldTo p.receiver (event :: more) = message :: toldTo p.receiver more :=
            List.filterMap_cons_some told
          rw [later.receiver, more_told]
          rfl
        · rw [openedBy, List.filterMap_cons_none unopened]
          exact later.quiet
        · rw [openedBy, List.filterMap_cons_none unopened]
          exact later.opened
      · rw [result] at later ⊢
        have kept : (p.onOpen slot s).pair = s.pair ∧ (p.onOpen slot s).connecting = s.connecting ∧
            (p.onOpen slot s).network = s.network ∧ (p.onOpen slot s).receiver = s.receiver ∧
            (p.onOpen slot s).worker = .queued ∧ (p.onOpen slot s).dataChannel =
              if p.direction = .upload then some slot else s.dataChannel := by
          unfold Program.onOpen
          cases p.direction <;> exact ⟨rfl, rfl, rfl, rfl, rfl, rfl⟩
        obtain ⟨pair, connecting, network, receiver, worker, dataChannel⟩ := kept
        refine ⟨later.pair.trans pair, later.connecting.trans connecting,
          later.network.trans network, ?_, ?_, ?_⟩
        · rw [later.receiver, receiver, toldTo, toldTo, List.filterMap_cons_none untold]
        · rw [openedBy, List.filterMap_cons_some opens]
          simp
        · intro slot' one
          rw [openedBy, List.filterMap_cons_some opens, List.cons.injEq] at one
          obtain ⟨rfl, rest⟩ := one
          obtain ⟨same_worker, same_channel⟩ := later.quiet rest
          exact ⟨same_worker.trans worker, same_channel.trans dataChannel⟩
      · rw [result] at later ⊢
        refine ⟨later.pair, later.connecting, later.network, ?_, ?_, ?_⟩
        · rw [later.receiver, toldTo, toldTo, List.filterMap_cons_none untold]
        · rw [openedBy, List.filterMap_cons_none unopened]
          exact later.quiet
        · rw [openedBy, List.filterMap_cons_none unopened]
          exact later.opened

theorem library_cases {move : Pair.Action} (called : p.library s move = some (next, emitted)) :
    ∃ pair seen, Pair.step s.pair move = some (pair, seen) ∧ emitted = seen.map .peers ∧
      Reacted p { s with pair := pair } seen next := by
  obtain ⟨⟨pair, seen⟩, moved, equal⟩ := Option.map_eq_some_iff.mp called
  obtain ⟨rfl, rfl⟩ := Prod.mk.inj equal
  exact ⟨pair, seen, moved, rfl, reacted p _ seen⟩

@[simp] theorem peerEvents_append (events emitted : List Event) :
    peerEvents (events ++ emitted) = peerEvents events ++ peerEvents emitted :=
  List.filterMap_append ..

@[simp] theorem peerEvents_peers (seen : List Pair.Event) : peerEvents (seen.map .peers) = seen := by
  induction seen with
  | nil => rfl
  | cons event more ih =>
      have first : peerEvents (.peers event :: more.map .peers) =
          event :: peerEvents (more.map .peers) := rfl
      rw [List.map_cons, first, ih]

@[simp] theorem peerEvents_sent (packet : SctpPacket) (ret : Int) :
    peerEvents [.sent packet ret] = [] := rfl

theorem library_run {move : Pair.Action} (called : p.library s move = some (next, emitted)) :
    ∃ moves, Run Pair.step s.pair moves next.pair (peerEvents emitted) := by
  obtain ⟨pair, seen, moved, rfl, reacted⟩ := library_cases called
  rw [reacted.pair, peerEvents_peers]
  exact Component.moved moved

inductive Steps (p : Program) (s : State) : Action → State → List Event → Prop
  | handshake {side : Side} {next : State} {emitted : List Event} (alive : s.alive p side)
      (called : p.library s (.handshake side) = some (next, emitted)) :
      Steps p s (.handshake side) next emitted
  | connect {env : CreateEnv} {between : State} {emitted : List Event}
      (waiting : s.connecting = .waiting)
      (shaken : handshakeDone (s.pair.peers p.sender) = true)
      (called : p.library s (.create p.sender p.label CString.empty onOpenOnly env) =
        some (between, emitted)) :
      Steps p s (.connect env) { between with
        connecting := p.connected (createdBy p.sender (peerEvents emitted)).head? } emitted
  | store {dc : Option Slot} (created : s.connecting = .created dc) :
      Steps p s .store { s with connecting := .done, dataChannel := dc } []
  | deliver {sender : Side} {position : Nat} {env : HandlerEnv} {network : Option Nat}
      {next : State} {emitted : List Event} (there : s.takes p sender position = some network)
      (called : p.library { s with network := network } (.deliver sender position env) =
        some (next, emitted)) :
      Steps p s (.deliver sender position env) next emitted
  | start {packets : List SctpPacket} (queued : s.worker = .queued)
      (made : p.direction.send p.files p.senderRepo p.diff = some packets) :
      Steps p s .start { s with worker := .sending s.dataChannel packets } []
  | refused {dataChannel : Option Slot} {packet : SctpPacket} {rest : List SctpPacket} {err : Int}
      (sending : s.worker = .sending dataChannel (packet :: rest))
      (why : dataChannel = none ∨ err < 0) :
      Steps p s (.send err) { s with worker := .sending dataChannel rest } [.sent packet (-1)]
  | sent {slot : Slot} {packet : SctpPacket} {rest : List SctpPacket} {err : Int} {next : State}
      {emitted : List Event} (sending : s.worker = .sending (some slot) (packet :: rest))
      (ok : 0 ≤ err)
      (called : p.library { s with worker := .sending (some slot) rest }
        (.send p.sender slot .string (packetBytes packet) err) = some (next, emitted)) :
      Steps p s (.send err) next (emitted ++ [.sent packet 0])
  | finish {dataChannel : Option Slot} (sending : s.worker = .sending dataChannel []) :
      Steps p s .finish { s with worker := .finished } []
  | exit {reached : Nat} (upload : p.direction = .upload) (finished : s.worker = .finished)
      (running : s.network = none) (bound : reached ≤ (s.pair.wire p.sender).length) :
      Steps p s (.exit reached) { s with network := some reached } []

theorem step_steps (taken : step p s action = some (next, emitted)) :
    Steps p s action next emitted := by
  cases action with
  | handshake side =>
      simp only [step] at taken
      split_ifs at taken with alive
      exact .handshake alive taken
  | connect env =>
      simp only [step] at taken
      split_ifs at taken with allowed
      obtain ⟨⟨between, seen⟩, called, equal⟩ := Option.map_eq_some_iff.mp taken
      obtain ⟨rfl, rfl⟩ := Prod.mk.inj equal
      exact .connect allowed.1 allowed.2 called
  | store =>
      simp only [step] at taken
      split at taken
      · rename_i dc created
        obtain ⟨rfl, rfl⟩ := Prod.mk.inj (Option.some.inj taken)
        exact .store created
      · cases taken
  | deliver sender position env =>
      obtain ⟨network, there, called⟩ := Option.bind_eq_some_iff.mp taken
      exact .deliver there called
  | start =>
      simp only [step] at taken
      split at taken
      · rename_i queued
        obtain ⟨packets, made, equal⟩ := Option.map_eq_some_iff.mp taken
        obtain ⟨rfl, rfl⟩ := Prod.mk.inj equal
        exact .start queued made
      · cases taken
  | send err =>
      simp only [step] at taken
      split at taken
      · rename_i dataChannel packet rest sending
        cases dataChannel with
        | none =>
            obtain ⟨rfl, rfl⟩ := Prod.mk.inj (Option.some.inj taken)
            exact .refused sending (.inl rfl)
        | some slot =>
            simp only at taken
            split_ifs at taken with refused
            · obtain ⟨rfl, rfl⟩ := Prod.mk.inj (Option.some.inj taken)
              exact .refused sending (.inr refused)
            · obtain ⟨⟨after, seen⟩, called, equal⟩ := Option.map_eq_some_iff.mp taken
              obtain ⟨rfl, rfl⟩ := Prod.mk.inj equal
              exact .sent sending (Int.not_lt.mp refused) called
      · cases taken
  | finish =>
      simp only [step] at taken
      split at taken
      · rename_i dataChannel sending
        obtain ⟨rfl, rfl⟩ := Prod.mk.inj (Option.some.inj taken)
        exact .finish sending
      · cases taken
  | exit reached =>
      simp only [step] at taken
      split_ifs at taken with allowed
      obtain ⟨rfl, rfl⟩ := Prod.mk.inj (Option.some.inj taken)
      exact .exit allowed.1 allowed.2.1 allowed.2.2.1 allowed.2.2.2

def Program.component (p : Program) : Component (step p) Pair.step where
  part := State.pair
  view := Event.peer
  simulates := by
    intro s action next emitted taken
    cases step_steps taken with
    | handshake _ called => exact library_run called
    | connect _ _ called =>
        obtain ⟨moves, run⟩ := library_run called
        exact ⟨moves, run⟩
    | deliver _ called =>
        obtain ⟨moves, run⟩ := library_run called
        exact ⟨moves, run⟩
    | sent _ _ called =>
        obtain ⟨moves, run⟩ := library_run called
        refine ⟨moves, ?_⟩
        rw [List.filterMap_append, List.filterMap_cons_none rfl, List.filterMap_nil,
          List.append_nil]
        exact run
    | store | start | refused | finish | exit => exact Component.still _ _

def Event.attempted : Event → Option SctpPacket
  | .peers _ => none
  | .sent packet _ => some packet

def Event.accepted : Event → Option SctpPacket
  | .peers _ => none
  | .sent packet ret => if 0 ≤ ret then some packet else none

def attempted (events : List Event) : List SctpPacket :=
  events.filterMap Event.attempted

def accepted (events : List Event) : List SctpPacket :=
  events.filterMap Event.accepted

@[simp] theorem attempted_append (events emitted : List Event) :
    attempted (events ++ emitted) = attempted events ++ attempted emitted :=
  List.filterMap_append ..

@[simp] theorem accepted_append (events emitted : List Event) :
    accepted (events ++ emitted) = accepted events ++ accepted emitted :=
  List.filterMap_append ..

@[simp] theorem attempted_peers (seen : List Pair.Event) : attempted (seen.map .peers) = [] := by
  simp [attempted, Event.attempted]

@[simp] theorem accepted_peers (seen : List Pair.Event) : accepted (seen.map .peers) = [] := by
  simp [accepted, Event.accepted]

@[simp] theorem attempted_sent (packet : SctpPacket) (ret : Int) :
    attempted [.sent packet ret] = [packet] := rfl

theorem accepted_sublist (events : List Event) :
    List.Sublist (accepted events) (attempted events) := by
  induction events with
  | nil => exact .slnil
  | cons event more ih =>
      cases event with
      | peers event => exact ih
      | sent packet ret =>
          have tried : attempted (.sent packet ret :: more) = packet :: attempted more := rfl
          by_cases ok : 0 ≤ ret
          · have taken : accepted (.sent packet ret :: more) = packet :: accepted more := by
              simp [accepted, Event.accepted, ok]
            rw [tried, taken]
            exact ih.cons_cons packet
          · have taken : accepted (.sent packet ret :: more) = accepted more := by
              simp [accepted, Event.accepted, ok]
            rw [tried, taken]
            exact ih.cons packet

def message (packet : SctpPacket) : Datatype × Bytes :=
  (.string, packetBytes packet)

def WorkerOk (p : Program) (s : State) (events : List Event) : Prop :=
  match s.worker with
  | .absent => attempted events = [] ∧ openedBy p.sender (peerEvents events) = []
  | .queued => attempted events = [] ∧ Connected p.sender s.pair
  | .sending dataChannel rest =>
      (∀ slot ∈ dataChannel, createdBy p.sender (peerEvents events) = [slot]) ∧
        p.direction.send p.files p.senderRepo p.diff = some (attempted events ++ rest) ∧
        Connected p.sender s.pair
  | .finished =>
      p.direction.send p.files p.senderRepo p.diff = some (attempted events) ∧
        Connected p.sender s.pair

structure Inv (p : Program) (start s : State) (events : List Event) : Prop where
  pair : Pair.Inv s.pair (peerEvents events)
  oneWay : OneWay p.sender s.pair (peerEvents events)
  waiting : s.connecting = .waiting → createdBy p.sender (peerEvents events) = []
  created : ∀ slot, s.connecting = .created (some slot) →
    createdBy p.sender (peerEvents events) = [slot]
  storing : ∀ dc, s.connecting = .created dc → p.direction = .download
  pointer : ∀ slot, s.dataChannel = some slot → createdBy p.sender (peerEvents events) = [slot]
  shaken : s.connecting ≠ .waiting → handshakeDone (s.pair.peers p.sender) = true
  receiver : s.receiver = p.told start.receiver (toldTo p.receiver (peerEvents events))
  said : userMessages (sentBy p.sender (peerEvents events)) = (accepted events).map message
  absent : s.worker = .absent ∨ openedBy p.sender (peerEvents events) ≠ []
  worker : WorkerOk p s events

-- Before `startup_thread` of either side calls on_connect.
structure Begins (p : Program) (start : State) : Prop where
  ready : Ready start.pair
  senderCalls : (start.pair.peers p.sender).onChannel = some p.senderOnChannel
  receiverCalls : (start.pair.peers p.receiver).onChannel = some p.receiverOnChannel
  connecting : start.connecting = .waiting
  dataChannel : start.dataChannel = none
  worker : start.worker = .absent
  network : start.network = none

theorem receiverOnChannel_listens (p : Program) (ch : RtcdcDataChannel) :
    (p.receiverOnChannel ch).onMessage = true := by
  unfold Program.receiverOnChannel
  cases p.direction <;> rfl

theorem Begins.inv (begins : Begins p start) : Inv p start start [] where
  pair := ready_inv begins.ready
  oneWay := begins.ready.oneWay ⟨_, begins.receiverCalls, receiverOnChannel_listens p⟩
  waiting := fun _ => rfl
  created := by simp [begins.connecting]
  storing := by simp [begins.connecting]
  pointer := by simp [begins.dataChannel]
  shaken := fun other => absurd begins.connecting other
  receiver := rfl
  said := rfl
  absent := .inl begins.worker
  worker := by
    rw [WorkerOk, begins.worker]
    exact ⟨rfl, rfl⟩

section Preserved

variable {before : State}

theorem Inv.still (inv : Inv p start s events) (pair : next.pair = s.pair)
    (receiver : next.receiver = s.receiver) (quiet : peerEvents emitted = [])
    (untaken : accepted emitted = [])
    (connecting : next.connecting = s.connecting ∨
      (next.connecting = .done ∧ s.connecting ≠ .waiting))
    (pointer : next.dataChannel = s.dataChannel ∨ s.connecting = .created next.dataChannel)
    (absent : s.worker ≠ .absent ∨ next.worker = s.worker)
    (worker : WorkerOk p next (events ++ emitted)) : Inv p start next (events ++ emitted) where
  pair := by rw [peerEvents_append, quiet, List.append_nil, pair]; exact inv.pair
  oneWay := by rw [peerEvents_append, quiet, List.append_nil, pair]; exact inv.oneWay
  waiting := by
    intro waiting
    rw [peerEvents_append, quiet, List.append_nil]
    rcases connecting with same | ⟨done, _⟩
    · exact inv.waiting (same ▸ waiting)
    · rw [done] at waiting
      cases waiting
  created := by
    intro slot there
    rw [peerEvents_append, quiet, List.append_nil]
    rcases connecting with same | ⟨done, _⟩
    · exact inv.created slot (same ▸ there)
    · rw [done] at there
      cases there
  storing := by
    intro dc there
    rcases connecting with same | ⟨done, _⟩
    · exact inv.storing dc (same ▸ there)
    · rw [done] at there
      cases there
  pointer := by
    intro slot there
    rw [peerEvents_append, quiet, List.append_nil]
    rcases pointer with same | created
    · exact inv.pointer slot (same ▸ there)
    · exact inv.created slot (there ▸ created)
  shaken := by
    intro called
    rw [pair]
    refine inv.shaken fun waiting => ?_
    rcases connecting with same | ⟨_, earlier⟩
    · exact called (same.trans waiting)
    · exact earlier waiting
  receiver := by rw [peerEvents_append, quiet, List.append_nil, receiver]; exact inv.receiver
  said := by
    rw [peerEvents_append, quiet, List.append_nil, accepted_append, untaken, List.append_nil]
    exact inv.said
  absent := by
    rw [peerEvents_append, quiet, List.append_nil]
    rcases absent with working | same
    · exact .inr (inv.absent.resolve_left working)
    · rw [same]
      exact inv.absent
  worker := worker

theorem Inv.called (inv : Inv p start s events) (reacted : Reacted p before seen next)
    (heard : peerEvents emitted = seen) (pairInv : Pair.Inv before.pair (peerEvents events ++ seen))
    (oneWay : OneWay p.sender before.pair (peerEvents events ++ seen))
    (connecting : before.connecting = s.connecting) (dataChannel : before.dataChannel = s.dataChannel)
    (receiver : before.receiver = s.receiver) (uncreated : createdBy p.sender seen = [])
    (shaken : handshakeDone (s.pair.peers p.sender) = true →
      handshakeDone (before.pair.peers p.sender) = true)
    (said : userMessages (sentBy p.sender seen) = (accepted emitted).map message)
    (absent : s.worker ≠ .absent ∨ before.worker = s.worker)
    (untried : openedBy p.sender seen ≠ [] → attempted emitted = [] ∧ Connected p.sender before.pair)
    (worker : openedBy p.sender seen = [] → WorkerOk p before (events ++ emitted)) :
    Inv p start next (events ++ emitted) := by
  have peers : peerEvents (events ++ emitted) = peerEvents events ++ seen := by
    rw [peerEvents_append, heard]
  have creations : createdBy p.sender (peerEvents (events ++ emitted)) =
      createdBy p.sender (peerEvents events) := by
    rw [peers, createdBy_append, uncreated, List.append_nil]
  have once := oneWay.opened_once pairInv
  rw [openedBy_append, List.length_append] at once
  -- on_open is called for the first time, or not at all
  have opening : openedBy p.sender seen = [] ∨ ∃ slot, openedBy p.sender seen = [slot] ∧
      s.worker = .absent ∧ attempted events = [] ∧
        createdBy p.sender (peerEvents events) = [slot] := by
    cases opened : openedBy p.sender seen with
    | nil => exact .inl rfl
    | cons slot more =>
        rw [opened, List.length_cons] at once
        have fresh : openedBy p.sender (peerEvents events) = [] :=
          List.length_eq_zero_iff.mp (by omega)
        have nothing : more = [] := List.length_eq_zero_iff.mp (by omega)
        have worker_absent := inv.absent.resolve_right fun old => old fresh
        have early := inv.worker
        rw [WorkerOk, worker_absent] at early
        have slot_created := oneWay.opened_created pairInv (i := slot)
          (by rw [openedBy_append, opened]; exact List.mem_append_right _ List.mem_cons_self)
        rw [createdBy_append, uncreated, List.append_nil] at slot_created
        exact .inr ⟨slot, by rw [nothing], worker_absent, early.1, slot_created⟩
  refine
    { pair := by rw [peers, reacted.pair]; exact pairInv
      oneWay := by rw [peers, reacted.pair]; exact oneWay
      waiting := fun waiting => by
        rw [reacted.connecting, connecting] at waiting
        rw [creations, inv.waiting waiting]
      created := fun slot there => by
        rw [reacted.connecting, connecting] at there
        rw [creations, inv.created slot there]
      storing := fun dc there => by
        rw [reacted.connecting, connecting] at there
        exact inv.storing dc there
      pointer := ?_
      shaken := fun called => by
        rw [reacted.connecting, connecting] at called
        rw [reacted.pair]
        exact shaken (inv.shaken called)
      receiver := by
        rw [reacted.receiver, receiver, inv.receiver, peers, toldTo_append, told_append]
      said := by
        rw [peers, sentBy_append, userMessages, List.filterMap_append, accepted_append,
          List.map_append, ← said, ← inv.said]
        rfl
      absent := ?_
      worker := ?_ }
  · intro slot there
    rw [creations]
    rcases opening with quiet | ⟨opened, one, _, _, created⟩
    · rw [(reacted.quiet quiet).2, dataChannel] at there
      exact inv.pointer slot there
    · rw [(reacted.opened opened one).2] at there
      split_ifs at there
      · rwa [← Option.some.inj there]
      · exact inv.pointer slot (dataChannel ▸ there)
  · rw [peers, openedBy_append]
    rcases opening with quiet | ⟨opened, one, _⟩
    · rw [quiet, List.append_nil, (reacted.quiet quiet).1]
      rcases absent with working | same
      · exact .inr (inv.absent.resolve_left working)
      · rw [same]
        exact inv.absent
    · rw [one]
      exact .inr (by simp)
  · rcases opening with quiet | ⟨opened, one, _, nothing, _⟩
    · rw [WorkerOk, (reacted.quiet quiet).1, reacted.pair]
      exact worker quiet
    · obtain ⟨untried, connected⟩ := untried (by simp [one])
      rw [WorkerOk, (reacted.opened opened one).1, reacted.pair]
      exact ⟨by rw [attempted_append, nothing, untried]; rfl, connected⟩

theorem WorkerOk.kept (ok : WorkerOk p s events) (worker : before.worker = s.worker)
    (untried : attempted emitted = []) (uncreated : createdBy p.sender (peerEvents emitted) = [])
    (unopened : openedBy p.sender (peerEvents emitted) = [])
    (connected : Connected p.sender s.pair → Connected p.sender before.pair) :
    WorkerOk p before (events ++ emitted) := by
  unfold WorkerOk at ok ⊢
  rw [worker, attempted_append, untried, List.append_nil, peerEvents_append, createdBy_append,
    uncreated, List.append_nil, openedBy_append, unopened, List.append_nil]
  cases there : s.worker with
  | absent =>
      rw [there] at ok
      exact ok
  | queued =>
      rw [there] at ok
      exact ⟨ok.1, connected ok.2⟩
  | sending dataChannel rest =>
      rw [there] at ok
      exact ⟨ok.1, ok.2.1, connected ok.2.2⟩
  | finished =>
      rw [there] at ok
      exact ⟨ok.1, connected ok.2⟩

theorem Inv.handshake {side : Side} (inv : Inv p start s events)
    (called : p.library s (.handshake side) = some (next, emitted)) :
    Inv p start next (events ++ emitted) := by
  obtain ⟨pair, seen, moved, rfl, reacted⟩ := library_cases called
  obtain ⟨channels, onChannel, _, rfl⟩ := step_handshake moved
  have pairInv := Pair.step_inv inv.pair moved
  refine inv.called reacted rfl pairInv (inv.oneWay.kept channels onChannel rfl) rfl rfl rfl rfl
    (fun done => ?_) rfl (.inr rfl) (fun opened => absurd rfl opened) fun _ =>
      inv.worker.kept rfl rfl rfl rfl fun connected => connected.kept (channels _)
  obtain ⟨transport, stored, equal⟩ := Option.map_eq_some_iff.mp moved
  obtain ⟨rfl, _⟩ := Prod.mk.inj equal
  refine each_side (p := fun at_ => handshakeDone (s.pair.peers at_) = true →
    handshakeDone ((s.pair.after side _ []).peers at_) = true) side ?_ ?_ p.sender done
  · intro _
    rw [after_mine]
    rfl
  · rw [after_other]
    exact id

theorem Inv.deliver {sender : Side} {position : Nat} {env : HandlerEnv} {network : Option Nat}
    (inv : Inv p start s events)
    (called : p.library { s with network := network } (.deliver sender position env) =
      some (next, emitted)) : Inv p start next (events ++ emitted) := by
  obtain ⟨pair, seen, moved, rfl, reacted⟩ := library_cases called
  have pairInv := Pair.step_inv inv.pair moved
  obtain ⟨unsaid, uncreated, shaken⟩ := deliver_unsaid inv.pair moved
  have connects (why : Connected p.sender s.pair ∨ openedBy p.sender seen ≠ []) :
      Connected p.sender pair := Connected.deliver inv.pair moved why
  refine inv.called reacted (peerEvents_peers seen) pairInv (inv.oneWay.deliver inv.pair moved)
    rfl rfl rfl (uncreated p.sender) (fun done => by rw [shaken]; exact done) ?_ (.inr rfl)
    (fun opened => ⟨attempted_peers seen, connects (.inr opened)⟩) fun quiet => ?_
  · rw [unsaid, accepted_peers]
    rfl
  · refine inv.worker.kept rfl (attempted_peers seen) ?_ ?_ fun connected => connects (.inl connected)
    · rw [peerEvents_peers, uncreated]
    · rw [peerEvents_peers, quiet]

theorem Inv.sending {slot : Slot} {rest : List SctpPacket} (inv : Inv p start s events)
    (sending : s.worker = .sending (some slot) rest) :
    ∃ ch, (s.pair.peers p.sender).channels slot = some ch ∧
      handshakeDone (s.pair.peers p.sender) = true := by
  have ok := inv.worker
  rw [WorkerOk, sending] at ok
  obtain ⟨pointer, _, i, ch, stored, _⟩ := ok
  have created := pointer slot rfl
  obtain rfl : i = slot := by simpa [created] using (inv.oneWay.own i ch stored).symm
  refine ⟨ch, stored, inv.shaken fun waiting => ?_⟩
  rw [inv.waiting waiting] at created
  cases created

theorem packetBytes_nonempty (packet : SctpPacket) : packetBytes packet ≠ [] := by
  simp [packetBytes, intBytes, le32]

theorem Inv.sent {slot : Slot} {packet : SctpPacket} {rest : List SctpPacket} {err : Int}
    (inv : Inv p start s events) (sending : s.worker = .sending (some slot) (packet :: rest))
    (called : p.library { s with worker := .sending (some slot) rest }
      (.send p.sender slot .string (packetBytes packet) err) = some (next, emitted)) :
    Inv p start next (events ++ (emitted ++ [.sent packet 0])) := by
  obtain ⟨pair, seen, moved, rfl, reacted⟩ := library_cases called
  obtain ⟨ch, stored, shaken⟩ := inv.sending sending
  obtain ⟨silent, uncreated, said⟩ := step_send_said inv.pair shaken stored moved
  obtain ⟨same, _⟩ := step_send moved
  have pairInv := Pair.step_inv inv.pair moved
  have heard : peerEvents (seen.map Event.peers ++ [.sent packet 0]) = seen := by simp
  refine inv.called reacted heard pairInv ?_ rfl rfl rfl uncreated (fun done => ?_) ?_
    (.inl (by simp [sending])) (fun opened => absurd (silent.opened _) opened) fun _ => ?_
  · exact inv.oneWay.kept (fun side => by rw [same]) (fun side => by rw [same]) uncreated
  · rw [same]
    exact done
  · rw [said, accepted_append, accepted_peers]
    rfl
  · have ok := inv.worker
    unfold WorkerOk at ok ⊢
    rw [sending] at ok
    obtain ⟨pointer, made, connected⟩ := ok
    refine ⟨fun slot' there => ?_, ?_, connected.kept (by rw [same])⟩
    · rw [peerEvents_append, heard, createdBy_append, uncreated, List.append_nil]
      exact pointer slot' there
    · rw [made, attempted_append, attempted_append, attempted_peers, attempted_sent]
      simp

theorem Inv.connect {env : CreateEnv} (inv : Inv p start s events)
    (waiting : s.connecting = .waiting)
    (shaken : handshakeDone (s.pair.peers p.sender) = true)
    (called : p.library s (.create p.sender p.label CString.empty onOpenOnly env) =
      some (next, emitted)) :
    Inv p start { next with
      connecting := p.connected (createdBy p.sender (peerEvents emitted)).head? }
      (events ++ emitted) := by
  obtain ⟨pair, seen, moved, rfl, reacted⟩ := library_cases called
  have first := inv.waiting waiting
  obtain ⟨silent, unsaid, sameDone, one⟩ := step_create inv.pair moved
  have oneWay := inv.oneWay.create inv.pair first moved
  have untouched := reacted.quiet (silent.opened _)
  have nothing : s.worker = .absent := by
    refine inv.absent.resolve_right fun opened => ?_
    obtain ⟨i, member⟩ := List.exists_mem_of_ne_nil _ opened
    have created := inv.oneWay.opened_created inv.pair member
    rw [first] at created
    cases created
  have peers : peerEvents (events ++ seen.map .peers) = peerEvents events ++ seen := by simp
  have early := inv.worker
  rw [WorkerOk, nothing] at early
  refine
    { pair := by rw [peers, reacted.pair]; exact Pair.step_inv inv.pair moved
      oneWay := by rw [peers, reacted.pair]; exact oneWay
      waiting := fun there => ?_
      created := fun slot there => ?_
      storing := fun dc there => ?_
      pointer := fun slot there => ?_
      shaken := fun _ => by rw [reacted.pair, sameDone]; exact shaken
      receiver := by
        rw [reacted.receiver, silent.told, peers, toldTo_append, silent.told, List.append_nil]
        exact inv.receiver
      said := by
        rw [peers, sentBy_append, userMessages, List.filterMap_append, accepted_append,
          accepted_peers, List.append_nil, ← inv.said]
        exact (congrArg (userMessages _ ++ ·) (unsaid p.sender)).trans (List.append_nil _)
      absent := .inl (untouched.1.trans nothing)
      worker := ?_ }
  · simp only [Program.connected] at there
    split at there <;> cases there
  · rw [peers, createdBy_append, first, List.nil_append, one]
    simp only [Program.connected, peerEvents_peers] at there
    split at there
    · cases there
    · rw [Connecting.created.inj there]
      rfl
  · simp only [Program.connected] at there
    split at there
    · cases there
    · assumption
  · have pointed := inv.pointer slot (untouched.2 ▸ there)
    rw [first] at pointed
    cases pointed
  · rw [WorkerOk]
    simp only [untouched.1.trans nothing]
    refine ⟨by rw [attempted_append, early.1, attempted_peers]; rfl, ?_⟩
    rw [peers, openedBy_append, early.2, silent.opened]
    rfl

theorem step_inv (inv : Inv p start s events) (taken : step p s action = some (next, emitted)) :
    Inv p start next (events ++ emitted) := by
  cases step_steps taken with
  | handshake _ called => exact inv.handshake called
  | connect waiting shaken called => exact inv.connect waiting shaken called
  | store created =>
      refine inv.still rfl rfl rfl rfl (.inr ⟨rfl, by simp [created]⟩) (.inr created) (.inr rfl) ?_
      exact inv.worker.kept rfl rfl rfl rfl id
  | deliver _ called => exact inv.deliver called
  | start queued made =>
      refine inv.still rfl rfl rfl rfl (.inl rfl) (.inl rfl) (.inl (by simp [queued])) ?_
      have ok := inv.worker
      rw [WorkerOk, queued] at ok
      refine ⟨fun slot there => ?_, ?_, ok.2⟩
      · rw [List.append_nil]
        exact inv.pointer slot there
      · rw [List.append_nil, ok.1]
        exact made
  | refused sending _ =>
      refine inv.still rfl rfl rfl rfl (.inl rfl) (.inl rfl) (.inl (by simp [sending])) ?_
      have ok := inv.worker
      rw [WorkerOk, sending] at ok
      obtain ⟨pointer, made, connected⟩ := ok
      refine ⟨fun slot there => ?_, ?_, connected⟩
      · rw [peerEvents_append, peerEvents_sent, List.append_nil]
        exact pointer slot there
      · rw [made, attempted_append, attempted_sent]
        simp
  | sent sending _ called => exact inv.sent sending called
  | finish sending =>
      refine inv.still rfl rfl rfl rfl (.inl rfl) (.inl rfl) (.inl (by simp [sending])) ?_
      have ok := inv.worker
      rw [WorkerOk, sending] at ok
      obtain ⟨_, made, connected⟩ := ok
      rw [List.append_nil] at made
      refine ⟨?_, connected⟩
      rw [List.append_nil]
      exact made
  | exit _ finished _ _ =>
      refine inv.still rfl rfl rfl rfl (.inl rfl) (.inl rfl) (.inr rfl) ?_
      exact inv.worker.kept rfl rfl rfl rfl id

variable {ok : State → Action → Prop}

theorem run_inv (begins : Begins p start) (run : RunIf ok (step p) start actions s events) :
    Inv p start s events :=
  run.invariant (Inv p start) begins.inv fun _ _ _ _ _ inv _ taken => step_inv inv taken

end Preserved

theorem told_packets {packets : List SctpPacket} (packed : ∀ packet ∈ packets, Packed packet)
    (r : Receiver) :
    p.told (some r) (packets.map message) = deliver p.direction p.receiverRepo r packets := by
  induction packets generalizing r with
  | nil => rfl
  | cons packet more ih =>
      have here := packetOf_packetBytes (packed packet List.mem_cons_self)
      have first : p.onMessage (some r) (packetBytes packet) =
          p.direction.onMessage p.receiverRepo r packet := by
        rw [Program.onMessage, Option.bind_some, here, Option.bind_some]
      rw [deliver, List.foldlM_cons, Program.told, List.map_cons, List.foldl_cons]
      change p.told (p.onMessage (some r) (packetBytes packet)) (more.map message) = _
      rw [first]
      cases p.direction.onMessage p.receiverRepo r packet with
      | none =>
          have crashed : p.told none (more.map message) = none := by
            clear ih packed
            induction more with
            | nil => rfl
            | cons _ _ ih => exact ih
          exact crashed
      | some between =>
          exact ih (fun packet member => packed packet (List.mem_cons_of_mem _ member)) between

end Librtcdc.Sync.Channels
