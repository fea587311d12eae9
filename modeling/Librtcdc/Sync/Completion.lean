import Librtcdc.Sync.Transmission

set_option autoImplicit false

namespace Librtcdc.Sync.Channels

open Systems Pair Received

variable {p : Program} {s next start : State} {action : Action} {actions : List Action}
  {events emitted : List Event} {r : Receiver}

def Worker.channel : Worker → Option Slot
  | .sending dataChannel _ => dataChannel
  | _ => none

-- The worker has a channel to send on, and SCTP does not refuse the packet.
def Taken (s : State) : Action → Prop
  | .send err => 0 ≤ err ∧ s.worker.channel ≠ none
  | _ => True

instance (s : State) : (action : Action) → Decidable (Taken s action)
  | .send err => inferInstanceAs (Decidable (0 ≤ err ∧ s.worker.channel ≠ none))
  | .handshake _ | .connect _ | .store | .deliver .. | .start | .finish | .exit _ => instDecidableTrue

def AllTaken (_ : State) (events : List Event) : Prop :=
  accepted events = attempted events

theorem accepted_library {move : Pair.Action} (called : p.library s move = some (next, emitted)) :
    accepted emitted = [] ∧ attempted emitted = [] := by
  obtain ⟨_, seen, _, rfl, _⟩ := library_cases called
  exact ⟨accepted_peers seen, attempted_peers seen⟩

theorem step_taken (taken : step p s action = some (next, emitted)) :
    accepted emitted = attempted emitted ↔ Taken s action := by
  cases step_steps taken with
  | handshake _ called | connect _ _ called | deliver _ called =>
      obtain ⟨untaken, untried⟩ := accepted_library called
      rw [untaken, untried]
      exact iff_of_true rfl trivial
  | store | start | finish | exit => exact iff_of_true rfl trivial
  | refused sending why =>
      refine iff_of_false (by simp [accepted, Event.accepted, attempted, Event.attempted]) ?_
      rintro ⟨ok, channel⟩
      rw [sending] at channel
      rcases why with rfl | negative
      · exact channel rfl
      · omega
  | sent sending ok called =>
      obtain ⟨untaken, untried⟩ := accepted_library called
      rw [accepted_append, attempted_append, untaken, untried]
      exact iff_of_true rfl ⟨ok, by simp [sending, Worker.channel]⟩

theorem taken_iff_always :
    RunIf Taken (step p) start actions s events ↔
      Always AllTaken (step p) start actions s events := by
  refine runIf_iff_always AllTaken rfl ?_ (fun _ _ all => all) ?_
  · intro s events action next emitted all ok taken
    rw [AllTaken, accepted_append, attempted_append, all, (step_taken taken).mpr ok]
  · intro s events action next emitted all taken still
    rw [AllTaken, accepted_append, attempted_append, all] at still
    exact (step_taken taken).mp (List.append_cancel_left still)

-- What has become of the packets that SCTP took: the handler was called with the first of them, one
-- by one, and the others are in flight.
structure Heard (p : Program) (r : Receiver) (s : State) (events : List Event)
    (got coming : List SctpPacket) : Prop where
  split : accepted events = got ++ coming
  receiver : s.receiver = deliver p.direction p.receiverRepo r got
  wire : userMessages (s.pair.wire p.sender) = coming.map message
  taken : List.Sublist (accepted events) (attempted events)
  tried : attempted events ≠ [] → ∃ rest,
    p.direction.send p.files p.senderRepo p.diff = some (attempted events ++ rest)

theorem Inv.tried (inv : Inv p start s events) (some_tried : attempted events ≠ []) :
    Connected p.sender s.pair ∧ ∃ rest,
      p.direction.send p.files p.senderRepo p.diff = some (attempted events ++ rest) := by
  have ok := inv.worker
  unfold WorkerOk at ok
  split at ok
  · exact absurd ok.1 some_tried
  · exact absurd ok.1 some_tried
  · exact ⟨ok.2.2, _, ok.2.1⟩
  · exact ⟨ok.2, [], by rw [List.append_nil]; exact ok.1⟩

theorem Inv.heard (inv : Inv p start s events) (begun : start.receiver = some r) :
    ∃ got coming, Heard p r s events got coming := by
  have taken := accepted_sublist events
  have opened : Connected p.sender s.pair ∨
      userMessages (sentBy p.sender (peerEvents events)) = [] := by
    by_cases nothing : attempted events = []
    · right
      have untaken : accepted events = [] := List.sublist_nil.mp (by rw [← nothing]; exact taken)
      rw [inv.said, untaken]
      rfl
    · exact .inl (inv.tried nothing).1
  have split := inv.oneWay.heard inv.pair opened
  rw [inv.said] at split
  obtain ⟨got, coming, cut, told, wire⟩ := List.map_eq_append_iff.mp split.symm
  have packed : ∀ packet ∈ got, Packed packet := by
    intro packet member
    have tried : packet ∈ attempted events := by
      refine taken.subset ?_
      rw [cut]
      exact List.mem_append_left _ member
    obtain ⟨rest, made⟩ := (inv.tried (List.ne_nil_of_mem tried)).2
    exact send_packed made packet (List.mem_append_left _ tried)
  refine ⟨got, coming, cut, ?_, wire.symm, taken, fun nonempty => (inv.tried nonempty).2⟩
  rw [inv.receiver, begun, ← told_packets packed, told]
  rfl

/-- In every run the receiver's handler is called with the packets that SCTP took from the worker, in
their order, each once and nothing else. -/
theorem handler_hears (begins : Begins p start) (begun : start.receiver = some r)
    (run : Run (step p) start actions s events) : ∃ got coming, Heard p r s events got coming :=
  (run_inv begins run).heard begun

def beginning (p : Program) (r : Receiver) : State where
  pair :=
    { peers := fun side =>
        { readyPeer side.role side.base with
          onChannel := some (if side = p.sender then p.senderOnChannel else p.receiverOnChannel) }
      wire := fun _ => [] }
  connecting := .waiting
  dataChannel := none
  worker := .absent
  receiver := some r
  network := none

theorem beginning_begins (p : Program) (r : Receiver) : Begins p (beginning p r) where
  ready :=
    { role := fun _ => rfl
      transport := fun _ => ⟨_, rfl, Option.some_ne_none _, rfl⟩
      channels := fun _ _ => rfl
      wire := fun _ => rfl }
  senderCalls := by simp [beginning]
  receiverCalls := by simp [beginning, Program.receiver, Side.other_ne]
  connecting := rfl
  dataChannel := rfl
  worker := rfl
  network := rfl

def uploadOne : Program where
  direction := .upload
  sender := .server
  files := oneFile [104, 105]
  senderRepo := []
  receiverRepo := [114]
  diff := [lackingFile]

def uploadRun : List Action :=
  [.connect ⟨true, true, 26⟩, .deliver .server 0 ⟨true, 1⟩, .deliver .client 0 ⟨true, 1⟩, .start,
    .send 1216, .deliver .server 0 ⟨true, 1⟩, .send 1216, .send 1216, .finish,
    .deliver .server 0 ⟨true, 1⟩, .deliver .server 0 ⟨true, 1⟩]

theorem uploadOne_run : ∃ s events,
    RunIf Taken (step uploadOne) (beginning uploadOne freshReceiver) uploadRun s events ∧
      s.worker = .finished ∧ userMessages (s.pair.wire uploadOne.sender) = [] ∧
        (accepted events).length = 3 := by
  have ran : ((execIf Taken (step uploadOne) (beginning uploadOne freshReceiver) uploadRun).map
      fun last => (last.1.worker, userMessages (last.1.pair.wire uploadOne.sender),
        (accepted last.2).length)) = some (.finished, [], 3) := by decide +kernel
  obtain ⟨⟨s, events⟩, taken, same⟩ := Option.map_eq_some_iff.mp ran
  obtain ⟨finished, rest⟩ := Prod.mk.inj same
  obtain ⟨drained, count⟩ := Prod.mk.inj rest
  exact ⟨s, events, execIf_runIf taken, finished, drained, count⟩

theorem uploadOne_heard : ∃ s events got coming,
    Run (step uploadOne) (beginning uploadOne freshReceiver) uploadRun s events ∧
      Heard uploadOne freshReceiver s events got coming ∧ (accepted events).length = 3 := by
  obtain ⟨s, events, run, _, _, count⟩ := uploadOne_run
  obtain ⟨got, coming, heard⟩ := handler_hears (beginning_begins uploadOne freshReceiver) rfl run.run
  exact ⟨s, events, got, coming, run.run, heard, count⟩

theorem deliver_prefix {d : Direction} {repo : Bytes} {first second : List SctpPacket}
    {r' : Receiver} (delivered : deliver d repo r (first ++ second) = some r') :
    ∃ between, deliver d repo r first = some between ∧ deliver d repo between second = some r' := by
  unfold deliver at delivered ⊢
  rw [List.foldlM_append] at delivered
  exact Option.bind_eq_some_iff.mp delivered

theorem transfer_moved (begins : Begins p start) (begun : start.receiver = some r)
    (closed : r.pFile = none)
    (movable : ∀ file ∈ p.diff, Movable p.direction.selects p.files p.senderRepo p.receiverRepo file)
    (run : RunIf Taken (step p) start actions s events) :
    s.receiver ≠ none ∧
      (s.worker = .finished → userMessages (s.pair.wire p.sender) = [] →
        ∃ packets r', p.direction.send p.files p.senderRepo p.diff = some packets ∧
          s.receiver = some r' ∧ r'.pFile = none ∧
          Moved p.direction.selects p.files p.senderRepo p.receiverRepo p.diff r packets r') := by
  obtain ⟨packets, r', sent, arrived, moved⟩ := sendDiff_moves r movable
  have made : p.direction.send p.files p.senderRepo p.diff = some packets := by
    rw [p.direction.send_eq]
    exact sent
  have delivered : deliver p.direction p.receiverRepo r packets = some r' := by
    unfold deliver
    rw [p.direction.onMessage_eq]
    exact arrived
  have inv := run_inv begins run
  obtain ⟨got, coming, heard⟩ := inv.heard begun
  have all : accepted events = attempted events := by
    cases taken_iff_always.mp run with
    | refl here => exact here
    | snoc _ _ here => exact here
  constructor
  · by_cases nothing : attempted events = []
    · have none_got : got = [] := by
        have split := heard.split
        rw [all, nothing] at split
        exact (List.append_eq_nil_iff.mp split.symm).1
      rw [heard.receiver, none_got]
      exact Option.some_ne_none r
    · obtain ⟨rest, same⟩ := heard.tried nothing
      rw [made, ← all, heard.split, List.append_assoc] at same
      obtain rfl := Option.some.inj same
      obtain ⟨between, there, _⟩ := deliver_prefix delivered
      rw [heard.receiver, there]
      exact Option.some_ne_none between
  · intro finished drained
    have ok := inv.worker
    rw [WorkerOk, finished, made] at ok
    have none_coming : coming = [] := by
      have wire := heard.wire
      rw [drained] at wire
      exact List.map_eq_nil_iff.mp wire.symm
    have whole : got = packets := by
      have split := heard.split
      rw [none_coming, List.append_nil, all] at split
      rw [← split]
      exact (Option.some.inj ok.1).symm
    refine ⟨packets, r', made, ?_, moved.closed closed, moved⟩
    rw [heard.receiver, whole, delivered]

theorem uploadOne_movable : ∀ file ∈ uploadOne.diff,
    Movable uploadOne.direction.selects uploadOne.files uploadOne.senderRepo uploadOne.receiverRepo
      file := by
  simp only [uploadOne, List.forall_mem_cons]
  refine ⟨⟨by decide, by decide, ?_⟩, by simp⟩
  rintro - content there
  obtain rfl : [104, 105] = content := by simpa [oneFile, lackingFile] using there
  exact ⟨by decide, by decide⟩

end Librtcdc.Sync.Channels
