import Librtcdc.Peer.Phases
import Librtcdc.Sync.Progress

set_option autoImplicit false

namespace Librtcdc.Sync.Meeting

open Systems Pair
open Roles (Party)
open Establishment (TwoParties BothPast Late Handshakes)
open Channels (Connecting Slot Worker Begins)

-- A transfer from the creation of the two peers on: signalling, `startup_thread` and the callbacks of
-- cli_rtcdc.c and fs_rtcdc.c.

structure Plan where
  direction : Direction
  sender : Party
  files : Files
  senderRepo : Bytes
  receiverRepo : Bytes
  diff : List DiffInfo

def Plan.program (plan : Plan) (sender : Side) : Channels.Program where
  direction := plan.direction
  sender := sender
  files := plan.files
  senderRepo := plan.senderRepo
  receiverRepo := plan.receiverRepo
  diff := plan.diff

variable {Process : Type}

structure State (Process : Type) where
  parties : TwoParties Process
  connecting : Connecting
  dataChannel : Option Slot
  worker : Worker
  receiver : Option Receiver
  network : Option Nat

def State.channels (x : State Process) : Channels.State where
  pair := x.parties.pair
  connecting := x.connecting
  dataChannel := x.dataChannel
  worker := x.worker
  receiver := x.receiver
  network := x.network

def State.resume (x : State Process) (s : Channels.State) : State Process where
  parties := x.parties.resume s.pair
  connecting := s.connecting
  dataChannel := s.dataChannel
  worker := s.worker
  receiver := s.receiver
  network := s.network

def State.program (x : State Process) (plan : Plan) : Channels.Program :=
  plan.program (x.parties.side plan.sender)

inductive Action where
  | parties (action : Establishment.Action)
  | program (action : Channels.Action)

inductive Event where
  | parties (event : Establishment.Event)
  | program (event : Channels.Event)

def State.alive (x : State Process) (plan : Plan) (p : Party) : Prop :=
  p ≠ plan.sender ∨ x.network = none

instance (x : State Process) (plan : Plan) (p : Party) : Decidable (x.alive plan p) :=
  inferInstanceAs (Decidable (_ ∨ _))

variable [DecidableEq Process] (process : Party → Process) (plan : Plan) in
def step : Step (State Process) Action Event
  | x, .parties action =>
      action.actor.bind fun p =>
        if x.alive plan p then
          (Establishment.step process x.parties action).map fun (parties, events) =>
            ({ x with parties }, events.map .parties)
        else
          none
  -- the handshake is a step of `startup_thread`
  | _, .program (.handshake _) => none
  | x, .program action =>
      (Channels.step (x.program plan) x.channels action).map fun (s, events) =>
        (x.resume s, events.map .program)

def Event.ofProgram : Event → Option Channels.Event
  | .parties _ => none
  | .program event => some event

def Event.ofParties : Event → Option Establishment.Event
  | .parties event => some event
  | .program (.peers event) => some (.pair event)
  | .program (.sent ..) => none

def programEvents (events : List Event) : List Channels.Event :=
  events.filterMap Event.ofProgram

def partyEvents (events : List Event) : List Establishment.Event :=
  events.filterMap Event.ofParties

def Proper (plan : Plan) (ok : Channels.Program → Channels.State → Channels.Action → Prop)
    (x : State Process) : Action → Prop
  | .parties action => Establishment.Proper x.parties action
  | .program action => ok (x.program plan) x.channels action

structure Idle (r : Receiver) (x : State Process) : Prop where
  connecting : x.connecting = .waiting
  dataChannel : x.dataChannel = none
  worker : x.worker = .absent
  receiver : x.receiver = some r
  network : x.network = none

structure Calls (plan : Plan) (x : State Process) : Prop where
  sender : ∀ side, (x.parties.sessions plan.sender).onChannel =
    some (plan.program side).senderOnChannel
  receiver : ∀ side, (x.parties.sessions plan.sender.other).onChannel =
    some (plan.program side).receiverOnChannel

structure Fresh (plan : Plan) (r : Receiver) (x : State Process) : Prop where
  parties : Establishment.Fresh x.parties
  calls : Calls plan x
  idle : Idle r x

variable {plan : Plan} {r : Receiver} {x next start : State Process} {events emitted : List Event}
  {action : Action} {actions : List Action}
  {ok : Channels.Program → Channels.State → Channels.Action → Prop}

@[simp] theorem programEvents_append (events emitted : List Event) :
    programEvents (events ++ emitted) = programEvents events ++ programEvents emitted :=
  List.filterMap_append ..

@[simp] theorem partyEvents_append (events emitted : List Event) :
    partyEvents (events ++ emitted) = partyEvents events ++ partyEvents emitted :=
  List.filterMap_append ..

@[simp] theorem programEvents_parties (done : List Establishment.Event) :
    programEvents (done.map .parties) = [] := by
  simp [programEvents, Event.ofProgram]

@[simp] theorem partyEvents_parties (done : List Establishment.Event) :
    partyEvents (done.map .parties) = done := by
  rw [partyEvents, List.filterMap_map]
  exact List.filterMap_some

@[simp] theorem programEvents_program (done : List Channels.Event) :
    programEvents (done.map .program) = done := by
  rw [programEvents, List.filterMap_map]
  exact List.filterMap_some

@[simp] theorem partyEvents_program (done : List Channels.Event) :
    partyEvents (done.map .program) = (Channels.peerEvents done).map .pair := by
  induction done with
  | nil => rfl
  | cons event more ih =>
      cases event with
      | peers event => exact congrArg (List.cons _) ih
      | sent packet ret => exact ih

theorem side_other (x : TwoParties Process) (p : Party) : x.side p.other = (x.side p).other := by
  have sides : x.side p.other ≠ x.side p := by
    intro same
    have parties := congrArg x.party same
    rw [Establishment.party_side, Establishment.party_side] at parties
    exact p.other_ne parties
  cases mine : x.side p <;> cases yours : x.side p.other <;> simp_all [Side.other]

@[simp] theorem resume_channels {s : Channels.State} {moves : List Pair.Action}
    {seen : List Pair.Event} (run : Run Pair.step x.parties.pair moves s.pair seen) :
    (x.resume s).channels = s := by
  have pair : (x.parties.resume s.pair).pair = s.pair :=
    Establishment.resume_pair (Establishment.run_frame run)
  rw [State.channels, State.resume, pair]

theorem idle_stays {p : Channels.Program} {call : Channels.Action} {done : List Establishment.Event}
    {after : Channels.State} {seen : List Channels.Event} (idle : Idle r x)
    (silent : Establishment.Silent x.parties done)
    (unconnected : ∀ q, Establishment.Unconnected (x.parties.peer q)
      (x.parties.sessions q).startup)
    (other : ∀ side, call ≠ .handshake side) :
    Channels.step p x.channels call ≠ some (after, seen) := by
  intro taken
  cases Channels.step_steps taken with
  | handshake => exact other _ rfl
  | connect _ shaken called =>
      obtain ⟨_, _, moved, _⟩ := Channels.library_cases called
      refine Establishment.silent_call silent unconnected ?_ moved
      exact shaken
  | store created =>
      have waiting : x.connecting = _ := created
      rw [idle.connecting] at waiting
      cases waiting
  | deliver _ called =>
      obtain ⟨_, _, moved, _⟩ := Channels.library_cases called
      refine Establishment.silent_call silent unconnected ?_ moved
      exact trivial
  | start working | refused working | sent working | finish working | exit _ working =>
      have absent : x.worker = _ := working
      rw [idle.worker] at absent
      cases absent

theorem begins_of_ready (idle : Idle r x) (calls : Calls plan x) (ready : Ready x.parties.pair) :
    Begins (x.program plan) x.channels where
  ready := ready
  senderCalls := by
    refine Eq.trans ?_ (calls.sender (x.parties.side plan.sender))
    exact congrArg RtcdcPeerConnection.onChannel (Establishment.pair_peers x.parties plan.sender)
  receiverCalls := by
    refine Eq.trans ?_ (calls.receiver (x.parties.side plan.sender))
    have there := Establishment.pair_peers x.parties plan.sender.other
    rw [side_other] at there
    exact congrArg RtcdcPeerConnection.onChannel there
  connecting := idle.connecting
  dataChannel := idle.dataChannel
  worker := idle.worker
  network := idle.network

def Reached (plan : Plan) (ok : Channels.Program → Channels.State → Channels.Action → Prop)
    (r : Receiver) (x : State Process) (events : List Event) : Prop :=
  ∃ began moves, Begins (x.program plan) began ∧ began.receiver = some r ∧
    RunIf (ok (x.program plan)) (Channels.step (x.program plan)) began moves x.channels
      (programEvents events)

structure Inv (plan : Plan) (ok : Channels.Program → Channels.State → Channels.Action → Prop)
    (r : Receiver) (x : State Process) (events : List Event) : Prop where
  parties : Establishment.Inv x.parties (partyEvents events)
  calls : Calls plan x
  early : ¬ BothPast x.parties → Idle r x ∧ programEvents events = []
  late : BothPast x.parties → Reached plan ok r x events

theorem Fresh.inv (fresh : Fresh plan r x) : Inv plan ok r x [] where
  parties := Establishment.fresh_inv fresh.parties
  calls := fresh.calls
  early := fun _ => ⟨fresh.idle, rfl⟩
  late := by
    intro past
    obtain ⟨pc, here, _⟩ := past .first
    rw [fresh.parties.startup .first] at here
    cases here

theorem channels_handshake {p : Party} {pair : TwoPeers} (alive : x.alive plan p)
    (moved : Pair.step x.parties.pair (.handshake (x.parties.side p)) = some (pair, [])) :
    Channels.step (x.program plan) x.channels (.handshake (x.parties.side p)) =
      some ({ x.channels with pair }, []) := by
  have here : x.channels.alive (x.program plan) (x.parties.side p) := by
    refine alive.imp_left fun other same => other ?_
    have parties := congrArg x.parties.party same
    exact (Establishment.party_side ..).symm.trans
      (parties.trans (Establishment.party_side x.parties plan.sender))
  have library : (x.program plan).library x.channels (.handshake (x.parties.side p)) =
      some ({ x.channels with pair }, []) := by
    have peers : Pair.step x.channels.pair (.handshake (x.parties.side p)) = some (pair, []) := moved
    rw [Channels.Program.library, peers]
    rfl
  rw [Channels.step, if_pos here, library]

section Steps

variable [DecidableEq Process] {process : Party → Process}

theorem step_cases (taken : step process plan x action = some (next, emitted)) :
    (∃ move p parties done, action = .parties move ∧ move.actor = some p ∧ x.alive plan p ∧
        Establishment.step process x.parties move = some (parties, done) ∧
        next = { x with parties } ∧ emitted = done.map .parties) ∨
      ∃ call s done, action = .program call ∧ (∀ side, call ≠ .handshake side) ∧
        Channels.step (x.program plan) x.channels call = some (s, done) ∧
        next = x.resume s ∧ emitted = done.map .program := by
  cases action with
  | parties move =>
      obtain ⟨p, acts, moved⟩ := Option.bind_eq_some_iff.mp taken
      split_ifs at moved with alive
      obtain ⟨⟨parties, done⟩, goes, same⟩ := Option.map_eq_some_iff.mp moved
      obtain ⟨rfl, rfl⟩ := Prod.mk.inj same
      exact .inl ⟨move, p, parties, done, rfl, acts, alive, goes, rfl, rfl⟩
  | program call =>
      have called : (∀ side, call ≠ .handshake side) ∧
          (Channels.step (x.program plan) x.channels call).map (fun (s, events) =>
            (x.resume s, events.map Event.program)) = some (next, emitted) := by
        cases call with
        | handshake side => cases taken
        | connect | store | deliver | start | send | finish | exit => exact ⟨fun _ => nofun, taken⟩
      obtain ⟨⟨s, done⟩, moved, same⟩ := Option.map_eq_some_iff.mp called.2
      obtain ⟨rfl, rfl⟩ := Prod.mk.inj same
      exact .inr ⟨call, s, done, rfl, called.1, moved, rfl, rfl⟩

theorem Inv.partyStep {move : Establishment.Action} {p : Party} {parties : TwoParties Process}
    {done : List Establishment.Event} (inv : Inv plan ok r x events)
    (shakes : ∀ program s side, ok program s (.handshake side))
    (proper : Establishment.Proper x.parties move) (acts : move.actor = some p)
    (alive : x.alive plan p)
    (moved : Establishment.step process x.parties move = some (parties, done)) :
    Inv plan ok r { x with parties } (events ++ done.map .parties) := by
  have later := Establishment.step_inv inv.parties proper moved
  have calls : Calls plan { x with parties } :=
    ⟨fun side => (Establishment.step_onChannel moved _).trans (inv.calls.sender side),
      fun side => (Establishment.step_onChannel moved _).trans (inv.calls.receiver side)⟩
  refine ⟨by simpa using later, calls, fun early => ?_, fun past => ?_⟩
  · by_cases before : BothPast x.parties
    · exact absurd (Establishment.step_late inv.parties before proper acts moved).past early
    · obtain ⟨idle, nothing⟩ := inv.early before
      exact ⟨⟨idle.connecting, idle.dataChannel, idle.worker, idle.receiver, idle.network⟩,
        by simp [nothing]⟩
  · by_cases before : BothPast x.parties
    · obtain ⟨_, side, shaken⟩ := Establishment.step_late inv.parties before proper acts moved
      obtain ⟨began, moves, begins, begun, run⟩ := inv.late before
      have program : ({ x with parties } : State Process).program plan = x.program plan := by
        rw [State.program, side]
        rfl
      rw [Reached, program, programEvents_append, programEvents_parties, List.append_nil]
      rcases shaken with same | handshake
      · refine ⟨began, moves, begins, begun, ?_⟩
        have still : ({ x with parties } : State Process).channels = x.channels := by
          rw [State.channels, same]
          rfl
        rw [still]
        exact run
      · refine ⟨began, moves ++ [.handshake (x.parties.side p)], begins, begun, ?_⟩
        rw [← List.append_nil (programEvents events)]
        exact .snoc run (shakes ..) (channels_handshake alive handshake)
    · obtain ⟨silent, unconnected⟩ := Establishment.step_early inv.parties before proper moved
      obtain ⟨idle, nothing⟩ := inv.early before
      have ready := Establishment.ready_pair later silent unconnected past
      have still : Idle r { x with parties } :=
        ⟨idle.connecting, idle.dataChannel, idle.worker, idle.receiver, idle.network⟩
      refine ⟨_, [], begins_of_ready still calls ready, idle.receiver, ?_⟩
      rw [programEvents_append, nothing, programEvents_parties]
      exact .refl

omit [DecidableEq Process] in
theorem Inv.programStep {call : Channels.Action} {s : Channels.State} {done : List Channels.Event}
    (inv : Inv plan ok r x events) (allowed : ok (x.program plan) x.channels call)
    (other : ∀ side, call ≠ .handshake side)
    (taken : Channels.step (x.program plan) x.channels call = some (s, done)) :
    Inv plan ok r (x.resume s) (events ++ done.map .program) := by
  by_cases past : BothPast x.parties
  · obtain ⟨moves, run⟩ := (x.program plan).component.simulates taken
    have later : Establishment.Inv (x.resume s).parties
        (partyEvents events ++ (Channels.peerEvents done).map .pair) :=
      Establishment.calls_inv inv.parties past run
    refine ⟨by simpa using later, ⟨inv.calls.sender, inv.calls.receiver⟩,
      fun early => absurd past early, fun _ => ?_⟩
    obtain ⟨began, moves, begins, begun, earlier⟩ := inv.late past
    refine ⟨began, moves ++ [call], begins, begun, ?_⟩
    rw [resume_channels run, programEvents_append, programEvents_program]
    exact .snoc earlier allowed taken
  · obtain ⟨silent, unconnected⟩ := inv.parties.early past
    exact absurd taken (idle_stays (inv.early past).1 silent unconnected other)

theorem step_inv (inv : Inv plan ok r x events)
    (shakes : ∀ program s side, ok program s (.handshake side)) (proper : Proper plan ok x action)
    (taken : step process plan x action = some (next, emitted)) :
    Inv plan ok r next (events ++ emitted) := by
  rcases step_cases taken with ⟨move, p, parties, done, rfl, acts, alive, moved, rfl, rfl⟩ |
    ⟨call, s, done, rfl, other, moved, rfl, rfl⟩
  · exact inv.partyStep shakes proper acts alive moved
  · exact inv.programStep proper other moved

theorem run_inv (fresh : Fresh plan r start)
    (shakes : ∀ program s side, ok program s (.handshake side))
    (run : RunIf (Proper plan ok) (step process plan) start actions x events) :
    Inv plan ok r x events :=
  run.invariant (Inv plan ok r) fresh.inv fun _ _ _ _ _ inv proper taken =>
    step_inv inv shakes proper taken

end Steps

instance (plan : Plan) (x : State Process) :
    (action : Action) → Decidable (Proper plan (fun _ => Channels.Taken) x action)
  | .parties action => inferInstanceAs (Decidable (Establishment.Proper x.parties action))
  | .program action => inferInstanceAs (Decidable (Channels.Taken x.channels action))

def uploadPlan : Plan where
  direction := .upload
  sender := .first
  files := oneFile [104, 105]
  senderRepo := []
  receiverRepo := [114]
  diff := [lackingFile]

def newMeeting : State Unit where
  parties :=
    { Establishment.newParties with
      sessions := fun p =>
        { Establishment.newParties.sessions p with
          onChannel := some (if p = .first then Channels.uploadClientOnChannel
            else Channels.uploadFsOnChannel) } }
  connecting := .waiting
  dataChannel := none
  worker := .absent
  receiver := some freshReceiver
  network := none

theorem newMeeting_fresh : Fresh uploadPlan freshReceiver newMeeting where
  parties :=
    { negotiation := Establishment.newParties_fresh.negotiation
      channels := Establishment.newParties_fresh.channels
      startup := Establishment.newParties_fresh.startup
      wire := Establishment.newParties_fresh.wire }
  calls := ⟨fun _ => rfl, fun _ => rfl⟩
  idle := ⟨rfl, rfl, rfl, rfl, rfl⟩

def uploadMeeting : List Action :=
  (Roles.offerAnswer.map Establishment.Action.signal ++ Establishment.bothParties .loop ++
    Establishment.bothParties .negotiated ++ Establishment.bothParties .secured ++
    (List.replicate 6 (Establishment.bothParties (.startup · true))).flatten).map .parties ++
  [.connect ⟨true, true, 26⟩, .deliver .client 0 ⟨true, 1⟩, .deliver .server 0 ⟨true, 1⟩, .start,
    .send 1216, .send 1216, .send 1216, .deliver .client 0 ⟨true, 1⟩, .deliver .client 0 ⟨true, 1⟩,
    .finish, .deliver .client 0 ⟨true, 1⟩].map .program

end Librtcdc.Sync.Meeting
