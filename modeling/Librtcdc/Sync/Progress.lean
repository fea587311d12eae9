import Librtcdc.Peer.Liveness
import Librtcdc.Sync.Pointers

set_option autoImplicit false

namespace Librtcdc.Sync.Channels

open Systems Pair Received

variable {p : Program} {s next start : State} {action : Action} {actions : List Action}
  {events emitted : List Event} {r : Receiver}

-- There is memory and SCTP takes the packets, a message is handled by a side whose handshake is
-- done, the worker starts with a channel, and the process stays until all it sent is on the
-- network.
def Smooth (p : Program) (s : State) : Action → Prop
  | .connect env => env.callocChannel = true ∧ env.callocReq = true
  | .deliver sender _ env => env.calloc = true ∧ handshakeDone (s.pair.peers sender.other) = true
  | .start => s.dataChannel ≠ none
  | .send err => 0 ≤ err
  | .exit reached => reached = (s.pair.wire p.sender).length
  | _ => True

instance (p : Program) (s : State) : (action : Action) → Decidable (Smooth p s action)
  | .connect env => inferInstanceAs (Decidable (env.callocChannel = true ∧ env.callocReq = true))
  | .deliver sender _ env =>
      inferInstanceAs
        (Decidable (env.calloc = true ∧ handshakeDone (s.pair.peers sender.other) = true))
  | .start => inferInstanceAs (Decidable (s.dataChannel ≠ none))
  | .send err => inferInstanceAs (Decidable (0 ≤ err))
  | .exit reached => inferInstanceAs (Decidable (reached = (s.pair.wire p.sender).length))
  | .handshake _ | .store | .finish => instDecidableTrue

structure Going (p : Program) (s : State) (events : List Event) : Prop where
  opening : s.connecting ≠ .waiting →
    (∃ label protocol sid, openSendv label protocol sid ∈ s.pair.wire p.sender) ∨
      (∃ sid, ackSendv sid ∈ s.pair.wire p.sender.other) ∨ s.worker ≠ .absent
  listens : ∀ i ch, (s.pair.peers p.sender).channels i = some ch → ch.callbacks.onOpen = true
  created : ∀ dc, s.connecting = .created dc → dc.toList = createdBy p.sender (peerEvents events)
  kept : s.connecting = .done → p.direction = .download →
    s.dataChannel.toList = createdBy p.sender (peerEvents events)
  upload : p.direction = .upload → s.worker = .queued → s.dataChannel ≠ none
  channel : ∀ rest, s.worker ≠ .sending none rest
  network : ∀ n, s.network = some n →
    n = (s.pair.wire p.sender).length ∧ s.worker = .finished

theorem Begins.going (begins : Begins p start) : Going p start [] where
  opening := fun called => absurd begins.connecting called
  listens := by
    intro i ch there
    simp [begins.ready.channels p.sender i] at there
  created := by simp [begins.connecting]
  kept := by simp [begins.connecting]
  upload := by simp [begins.worker]
  channel := by simp [begins.worker]
  network := by simp [begins.network]

theorem WorkerStep.present (moved : WorkerStep p s action next emitted)
    (present : s.worker ≠ .absent) : next.worker ≠ .absent := by
  cases moved with
  | kept _ worker => rw [worker]; exact present
  | opened _ _ worker | started _ worker | lost _ worker | sent _ worker | finished _ worker =>
      simp [worker]

theorem WorkerStep.done (moved : WorkerStep p s action next emitted)
    (finished : s.worker = .finished) : next.worker = .finished := by
  cases moved with
  | kept _ worker => rw [worker]; exact finished
  | opened _ absent => rw [finished] at absent; cases absent
  | started queued => rw [finished] at queued; cases queued
  | lost sending | sent sending | finished sending => rw [finished] at sending; cases sending

theorem WorkerStep.pointer (moved : WorkerStep p s action next emitted)
    (stored : p.direction = .upload → s.worker = .queued → s.dataChannel ≠ none) :
    p.direction = .upload → next.worker = .queued → next.dataChannel ≠ none := by
  intro upload queued
  cases moved with
  | kept _ worker same =>
      rw [same upload]
      exact stored upload (worker ▸ queued)
  | opened _ _ _ pointer => exact pointer upload
  | started _ worker | lost _ worker | sent _ worker | finished _ worker =>
      rw [worker] at queued
      cases queued

theorem WorkerStep.channel (moved : WorkerStep p s action next emitted) (smooth : Smooth p s action)
    (channel : ∀ rest, s.worker ≠ .sending none rest) :
    ∀ rest, next.worker ≠ .sending none rest := by
  intro rest sending
  cases moved with
  | kept _ worker => exact channel rest (worker ▸ sending)
  | opened _ _ worker | sent _ worker | finished _ worker =>
      rw [worker] at sending
      cases sending
  | started _ worker =>
      rw [worker] at sending
      exact smooth (Worker.sending.inj sending).1
  | lost before worker =>
      rw [worker] at sending
      obtain ⟨rfl, _⟩ := Worker.sending.inj sending
      exact channel _ before

theorem mem_takeAt {wire rest : List Sendv} {position : Nat} {m other : Sendv}
    (taken : takeAt Sendv.sndSid wire position = some (m, rest)) (member : other ∈ wire) :
    other = m ∨ other ∈ rest := by
  obtain ⟨before, after, rfl, rfl, _⟩ := takeAt_split taken
  simp only [List.mem_append, List.mem_cons] at member ⊢
  tauto

theorem takeAt_length {wire rest : List Sendv} {position : Nat} {m : Sendv}
    (taken : takeAt Sendv.sndSid wire position = some (m, rest)) :
    wire.length = rest.length + 1 := by
  obtain ⟨before, after, rfl, rfl, _⟩ := takeAt_split taken
  simp only [List.length_append, List.length_cons]
  omega

theorem deliver_opening {sender : Side} {position : Nat} {env : HandlerEnv} {pair : TwoPeers}
    {seen : List Pair.Event} (inv : Inv p start s events)
    (smooth : env.calloc = true ∧ handshakeDone (s.pair.peers sender.other) = true)
    (listens : ∀ i ch, (s.pair.peers p.sender).channels i = some ch → ch.callbacks.onOpen = true)
    (moved : Pair.step s.pair (.deliver sender position env) = some (pair, seen))
    (opening : (∃ label protocol sid, openSendv label protocol sid ∈ s.pair.wire p.sender) ∨
      ∃ sid, ackSendv sid ∈ s.pair.wire p.sender.other) :
    (∃ label protocol sid, openSendv label protocol sid ∈ pair.wire p.sender) ∨
      (∃ sid, ackSendv sid ∈ pair.wire p.sender.other) ∨ openedBy p.sender seen ≠ [] := by
  obtain ⟨m, rest, effects, taken, _, _, _, wire, wire_other⟩ := step_deliver moved
  rcases opening with ⟨label, protocol, sid, there⟩ | ⟨sid, there⟩
  · by_cases here : sender = p.sender
    · subst here
      rcases mem_takeAt taken there with rfl | later
      · exact .inr (.inl ⟨sid, inv.oneWay.open_answered inv.pair taken smooth.1 smooth.2 moved⟩)
      · exact .inl ⟨label, protocol, sid, by rw [wire]; exact later⟩
    · obtain rfl : sender = p.sender.other := by
        cases sender <;> cases at_ : p.sender <;> simp_all [Side.other]
      rw [Side.other_other] at wire_other
      exact .inl ⟨label, protocol, sid, by rw [wire_other]; exact List.mem_append_left _ there⟩
  · by_cases here : sender = p.sender.other
    · subst here
      rcases mem_takeAt taken there with rfl | later
      · exact .inr (.inr (ack_opens inv.pair taken listens moved))
      · exact .inr (.inl ⟨sid, by rw [wire]; exact later⟩)
    · obtain rfl : sender = p.sender := by
        cases sender <;> cases at_ : p.sender <;> simp_all [Side.other]
      exact .inr (.inl ⟨sid, by rw [wire_other]; exact List.mem_append_left _ there⟩)

theorem deliver_listens {sender : Side} {position : Nat} {env : HandlerEnv} {pair : TwoPeers}
    {seen : List Pair.Event} (inv : Inv p start s events)
    (listens : ∀ i ch, (s.pair.peers p.sender).channels i = some ch → ch.callbacks.onOpen = true)
    (moved : Pair.step s.pair (.deliver sender position env) = some (pair, seen)) :
    ∀ i ch, (pair.peers p.sender).channels i = some ch → ch.callbacks.onOpen = true := by
  obtain ⟨same, effects, admits, _⟩ := deliver_admits inv.pair moved
  by_cases here : sender = p.sender
  · subst here
    rw [same]
    exact listens
  · obtain rfl : sender = p.sender.other := by
      cases sender <;> cases at_ : p.sender <;> simp_all [Side.other]
    rw [Side.other_other] at admits
    intro i ch there
    rcases admits.channels i ch there with ⟨old, stored, _, callbacks⟩ | accepts
    · rw [← callbacks]
      exact listens i old stored
    · -- the receiver has opened no channel
      obtain ⟨b, found⟩ := Option.ne_none_iff_exists'.mp accepts.opened
      obtain ⟨j, _, stored, equal⟩ := channelOn_some found
      have own := (inv.oneWay.accepted j b stored).1
      rw [equal, accepts.foreign] at own
      exact absurd own p.sender.other_ne

theorem Reacted.kept_channel {before : State} {seen : List Pair.Event}
    (reacted : Reacted p before seen next) (once : (openedBy p.sender seen).length ≤ 1)
    (download : p.direction = .download) : next.dataChannel = before.dataChannel := by
  cases opened : openedBy p.sender seen with
  | nil => exact (reacted.quiet opened).2
  | cons slot more =>
      rw [opened, List.length_cons] at once
      have one : more = [] := List.length_eq_zero_iff.mp (by omega)
      rw [(reacted.opened slot (by rw [opened, one])).2, if_neg (by simp [download])]

theorem Going.still (going : Going p s events) (pair : next.pair = s.pair)
    (connecting : next.connecting = s.connecting) (pointer : next.dataChannel = s.dataChannel)
    (quiet : peerEvents emitted = []) (worker : WorkerStep p s action next emitted)
    (smooth : Smooth p s action)
    (network : ∀ n, next.network = some n →
      n = (next.pair.wire p.sender).length ∧ next.worker = .finished) :
    Going p next (events ++ emitted) where
  opening := by
    rw [connecting, pair]
    exact fun waited => (going.opening waited).imp_right (.imp_right worker.present)
  listens := by
    rw [pair]
    exact going.listens
  created := by
    rw [connecting, peerEvents_append, quiet, List.append_nil]
    exact going.created
  kept := by
    rw [connecting, pointer, peerEvents_append, quiet, List.append_nil]
    exact going.kept
  upload := worker.pointer going.upload
  channel := worker.channel smooth going.channel
  network := network

theorem step_going (inv : Inv p start s events) (going : Going p s events)
    (smooth : Smooth p s action) (taken : step p s action = some (next, emitted)) :
    Going p next (events ++ emitted) := by
  have worker := step_worker inv taken
  have upload := worker.pointer going.upload
  have channel := worker.channel smooth going.channel
  cases step_steps taken with
  | handshake alive called =>
      obtain ⟨pair, seen, moved, rfl, reacted⟩ := library_cases called
      obtain ⟨channels, _, wires, rfl⟩ := step_handshake moved
      have quiet := reacted.quiet rfl
      refine ⟨fun waited => ?_, ?_, ?_, ?_, upload, channel, fun n there => ?_⟩
      · rw [reacted.connecting] at waited
        rw [reacted.pair, wires, wires]
        exact (going.opening waited).imp_right (.imp_right worker.present)
      · rw [reacted.pair, channels]
        exact going.listens
      · rw [reacted.connecting, List.map_nil, List.append_nil]
        exact going.created
      · rw [reacted.connecting, List.map_nil, List.append_nil, quiet.2]
        exact going.kept
      · rw [reacted.network] at there
        rw [reacted.pair, wires]
        exact ⟨(going.network n there).1, worker.done (going.network n there).2⟩
  | connect waiting shaken called =>
      obtain ⟨pair, seen, moved, rfl, reacted⟩ := library_cases called
      have first := inv.waiting waiting
      obtain ⟨i, ch, stored, callbacks, created, opens⟩ :=
        inv.oneWay.create_opens inv.pair first shaken smooth moved
      have oneWay := inv.oneWay.create inv.pair first moved
      have creations : createdBy p.sender (peerEvents (events ++ seen.map .peers)) = [i] := by
        rw [peerEvents_append, peerEvents_peers, createdBy_append, first, created, List.nil_append]
      refine ⟨fun _ => .inl ⟨p.label, CString.empty, ch.sid, ?_⟩, ?_, ?_, ?_, upload, channel,
        fun n there => ?_⟩
      · simp only [reacted.pair]
        exact opens
      · simp only [reacted.pair]
        intro j other there
        rw [oneWay.only stored there, callbacks]
        rfl
      · intro dc there
        simp only [Program.connected, peerEvents_peers, created] at there
        rw [creations]
        split at there
        · cases there
        · rw [← Connecting.created.inj there]
          rfl
      · intro done download
        simp only [Program.connected, download] at done
        cases done
      · -- a process that is gone had a channel
        simp only [reacted.network] at there
        have finished := (going.network n there).2
        have ok := inv.worker
        rw [WorkerOk, finished] at ok
        obtain ⟨j, a, there', _⟩ := ok.2
        have already := inv.oneWay.own j a there'
        rw [first] at already
        cases already
  | store created =>
      refine ⟨fun _ => going.opening (by simp [created]), going.listens, by simp, ?_, upload, channel,
        going.network⟩
      intro _ _
      rw [List.append_nil]
      exact going.created _ created
  | @deliver sender position env network _ _ there called =>
      obtain ⟨pair, seen, moved, rfl, reacted⟩ := library_cases called
      obtain ⟨_, uncreated, _⟩ := deliver_unsaid inv.pair moved
      have creations : createdBy p.sender (peerEvents (events ++ seen.map .peers)) =
          createdBy p.sender (peerEvents events) := by
        rw [peerEvents_append, peerEvents_peers, createdBy_append, uncreated, List.append_nil]
      refine ⟨fun waited => ?_, ?_, ?_, ?_, upload, channel, fun n gone => ?_⟩
      · rw [reacted.connecting] at waited
        by_cases present : s.worker = .absent
        · have opening := going.opening waited
          rw [← or_assoc] at opening
          rcases deliver_opening inv smooth going.listens moved
            (opening.resolve_right fun other => other present) with opens | acks | opened
          · rw [reacted.pair]
            exact .inl opens
          · rw [reacted.pair]
            exact .inr (.inl acks)
          · refine .inr (.inr fun absent => opened ?_)
            have ok := (inv.deliver called).worker
            rw [WorkerOk, absent, peerEvents_append, peerEvents_peers, openedBy_append] at ok
            exact (List.append_eq_nil_iff.mp ok.2).2
        · exact .inr (.inr (worker.present present))
      · rw [reacted.pair]
        exact deliver_listens inv going.listens moved
      · rw [reacted.connecting, creations]
        exact going.created
      · have after := inv.deliver called
        have once := after.oneWay.opened_once after.pair
        rw [peerEvents_append, peerEvents_peers, openedBy_append, List.length_append] at once
        intro done download
        rw [reacted.connecting] at done
        rw [reacted.kept_channel (by omega) download, creations]
        exact going.kept done download
      · rw [reacted.network] at gone
        simp only at gone
        subst gone
        unfold State.takes at there
        split at there
        · cases there
        · rename_i reached running
          split_ifs at there with allowed
          obtain ⟨whole, finished⟩ := going.network reached running
          obtain ⟨m, rest, effects, taken, _, _, _, wire, _⟩ := step_deliver moved
          rw [allowed.1] at taken wire
          rw [reacted.pair, wire, ← Option.some.inj (Option.some.inj there), whole,
            takeAt_length taken]
          exact ⟨rfl, worker.done finished⟩
  | start queued made =>
      exact going.still rfl rfl rfl rfl worker smooth fun n gone => by
        rw [(going.network n gone).2] at queued
        cases queued
  | refused sending _ =>
      exact going.still rfl rfl rfl rfl worker smooth fun n gone => by
        rw [(going.network n gone).2] at sending
        cases sending
  | @sent slot packet rest err _ _ sending ok called =>
      obtain ⟨pair, seen, moved, rfl, reacted⟩ := library_cases called
      obtain ⟨ch, stored, shaken⟩ := inv.sending sending
      obtain ⟨silent, uncreated, _⟩ := step_send_said inv.pair shaken stored moved
      obtain ⟨peers, _⟩ := step_send moved
      have quiet := reacted.quiet (silent.opened _)
      have creations : createdBy p.sender (peerEvents (events ++ (seen.map .peers ++ [.sent packet 0]))) =
          createdBy p.sender (peerEvents events) := by
        rw [peerEvents_append, peerEvents_append, peerEvents_peers, peerEvents_sent, List.append_nil,
          createdBy_append, uncreated, List.append_nil]
      refine ⟨fun _ => .inr (.inr (worker.present (by simp [sending]))), ?_, ?_, ?_, upload, channel,
        fun n gone => ?_⟩
      · rw [reacted.pair, peers]
        exact going.listens
      · rw [reacted.connecting, creations]
        exact going.created
      · rw [reacted.connecting, quiet.2, creations]
        exact going.kept
      · rw [reacted.network] at gone
        have finished := (going.network n gone).2
        rw [sending] at finished
        cases finished
  | finish sending =>
      exact going.still rfl rfl rfl rfl worker smooth fun n gone => by
        rw [(going.network n gone).2] at sending
        cases sending
  | exit _ finished _ _ =>
      refine going.still rfl rfl rfl rfl worker smooth fun n gone => ?_
      rw [← Option.some.inj gone]
      exact ⟨smooth, finished⟩

theorem smooth_inv (begins : Begins p start) (run : RunIf (Smooth p) (step p) start actions s events) :
    Inv p start s events ∧ Going p s events := by
  refine run.invariant (fun s events => Inv p start s events ∧ Going p s events)
    ⟨begins.inv, begins.going⟩ fun _ _ _ _ _ both smooth taken => ?_
  exact ⟨step_inv both.1 taken, step_going both.1 both.2 smooth taken⟩

theorem smooth_taken (begins : Begins p start)
    (run : RunIf (Smooth p) (step p) start actions s events) :
    RunIf Taken (step p) start actions s events := by
  induction run with
  | refl => exact .refl
  | @snoc _ s _ _ _ action run smooth taken ih =>
      obtain ⟨inv, going⟩ := smooth_inv begins run
      refine .snoc ih ?_ taken
      cases step_worker inv taken with
      | lost sending _ why _ =>
          rcases why with rfl | negative
          · exact absurd sending (going.channel _)
          · exact absurd smooth (Int.not_le.mpr negative)
      | sent sending => exact ⟨smooth, by simp [sending, Worker.channel]⟩
      | started | finished => trivial
      | kept | opened =>
          cases action with
          | send err =>
              cases step_steps taken with
              | refused sending why =>
                  rcases why with rfl | negative
                  · exact absurd sending (going.channel _)
                  · exact absurd smooth (Int.not_le.mpr negative)
              | sent sending => exact ⟨smooth, by simp [sending, Worker.channel]⟩
          | _ => trivial

-- Both handshakes are done, and nothing can happen any more unless something fails.
structure Stuck (p : Program) (s : State) : Prop where
  shaken : ∀ side, handshakeDone (s.pair.peers side) = true
  last : ∀ action, Smooth p s action → (∀ side, action ≠ .handshake side) → step p s action = none

theorem label_short (p : Program) : p.label.val.length ≤ 65535 := by
  unfold Program.label
  cases p.direction <;> decide +kernel

theorem library_enabled {move : Pair.Action} (enabled : (Pair.step s.pair move).isSome) :
    p.library s move ≠ none := by
  obtain ⟨result, moved⟩ := Option.isSome_iff_exists.mp enabled
  rw [Program.library, moved]
  exact Option.some_ne_none _

theorem Stuck.connected (stuck : Stuck p s) : s.connecting = .done := by
  cases connecting : s.connecting with
  | done => rfl
  | waiting =>
      have none_left := stuck.last (.connect ⟨true, true, 0⟩) ⟨rfl, rfl⟩ (by simp)
      simp only [step, connecting, stuck.shaken, and_self, if_true, Option.map_eq_none_iff] at none_left
      refine absurd none_left (library_enabled ?_)
      exact create_enabled s.pair (Int.le_refl 0) (label_short p) (by decide)
  | created dc =>
      have none_left := stuck.last .store trivial (by simp)
      simp [step, connecting] at none_left

theorem Stuck.drained {side : Side} (stuck : Stuck p s) (inv : Inv p start s events)
    (open_ : s.network = none ∨
      (side = p.sender ∧ s.network = some (s.pair.wire p.sender).length)) :
    s.pair.wire side = [] := by
  cases wire : s.pair.wire side with
  | nil => rfl
  | cons m rest =>
      have taken : takeAt Sendv.sndSid (s.pair.wire side) 0 = some (m, rest) := by rw [wire]; rfl
      have enabled : (Pair.step s.pair (.deliver side 0 ⟨true, 0⟩)).isSome :=
        inv.pair.delivers taken (Int.le_refl 0)
      have none_left := stuck.last (.deliver side 0 ⟨true, 0⟩) ⟨rfl, stuck.shaken _⟩ (by simp)
      have there : ∃ network, s.takes p side 0 = some network := by
        unfold State.takes
        rcases open_ with running | ⟨rfl, gone⟩
        · rw [running]
          exact ⟨none, rfl⟩
        · rw [gone, wire]
          exact ⟨_, if_pos ⟨rfl, Nat.succ_pos _⟩⟩
      obtain ⟨network, allowed⟩ := there
      rw [step, allowed, Option.bind_some] at none_left
      exact absurd none_left (library_enabled enabled)

theorem Stuck.finished {packets : List SctpPacket} (stuck : Stuck p s) (inv : Inv p start s events)
    (going : Going p s events)
    (made : p.direction.send p.files p.senderRepo p.diff = some packets) : s.worker = .finished := by
  have done := stuck.connected
  cases worker : s.worker with
  | finished => rfl
  | absent =>
      have running : s.network = none := by
        cases network : s.network with
        | none => rfl
        | some n =>
            have finished := (going.network n network).2
            rw [worker] at finished
            cases finished
      rcases going.opening (by simp [done]) with ⟨label, protocol, sid, there⟩ | ⟨sid, there⟩ | other
      · rw [stuck.drained inv (.inl running)] at there
        cases there
      · rw [stuck.drained inv (.inl running)] at there
        cases there
      · exact absurd worker other
  | queued =>
      have stored : s.dataChannel ≠ none := by
        cases direction : p.direction with
        | upload => exact going.upload direction worker
        | download =>
            intro missing
            have created := going.kept done direction
            have ok := inv.worker
            rw [WorkerOk, worker] at ok
            obtain ⟨i, ch, there, _⟩ := ok.2
            rw [inv.oneWay.own i ch there, missing] at created
            cases created
      have none_left := stuck.last .start stored (by simp)
      simp [step, worker, made] at none_left
  | sending dataChannel rest =>
      cases rest with
      | nil =>
          have none_left := stuck.last .finish trivial (by simp)
          simp [step, worker] at none_left
      | cons packet rest =>
          cases dataChannel with
          | none => exact absurd worker (going.channel _)
          | some slot =>
              have none_left := stuck.last (.send 0) (Int.le_refl 0) (by simp)
              obtain ⟨transport, stored, _⟩ := (inv.pair.peers p.sender).transport
              simp only [step, worker, if_neg (Int.lt_irrefl 0), Option.map_eq_none_iff] at none_left
              refine absurd none_left (library_enabled ?_)
              simp [Pair.step, stored, packetBytes_nonempty]

/-- A transfer that can not go on has moved the files. -/
theorem maximal_run_completes (begins : Begins p start) (begun : start.receiver = some r)
    (closed : r.pFile = none)
    (movable : ∀ file ∈ p.diff, Movable p.direction.selects p.files p.senderRepo p.receiverRepo file)
    (run : RunIf (Smooth p) (step p) start actions s events) (stuck : Stuck p s) :
    ∃ packets r', p.direction.send p.files p.senderRepo p.diff = some packets ∧
      s.receiver = some r' ∧ r'.pFile = none ∧
      Moved p.direction.selects p.files p.senderRepo p.receiverRepo p.diff r packets r' := by
  obtain ⟨inv, going⟩ := smooth_inv begins run
  obtain ⟨packets, _, made, _⟩ := sendDiff_moves r movable
  rw [← p.direction.send_eq] at made
  have finished := stuck.finished inv going made
  have drained : s.pair.wire p.sender = [] := by
    refine stuck.drained inv ?_
    cases network : s.network with
    | none => exact .inl rfl
    | some n => exact .inr ⟨rfl, by rw [(going.network n network).1]⟩
  have taken := smooth_taken begins run
  refine (transfer_moved begins begun closed movable taken).2 finished ?_
  rw [drained]
  rfl

def downloadRun : List Action :=
  [.connect ⟨true, true, 28⟩, .store, .deliver .client 0 ⟨true, 1⟩, .deliver .server 0 ⟨true, 1⟩,
    .start, .send 1216, .send 1216, .send 1216, .finish, .deliver .client 0 ⟨true, 1⟩,
    .deliver .client 0 ⟨true, 1⟩, .deliver .client 0 ⟨true, 1⟩]

theorem downloadOne_run : ∃ s events,
    RunIf (Smooth downloadOne) (step downloadOne) (beginning downloadOne freshReceiver) downloadRun s
      events ∧ Stuck downloadOne s := by
  have ran : ((execIf (Smooth downloadOne) (step downloadOne) (beginning downloadOne freshReceiver)
      downloadRun).map fun last => (last.1.connecting, last.1.worker,
        (last.1.pair.wire .client).length, (last.1.pair.wire .server).length,
        handshakeDone (last.1.pair.peers .client), handshakeDone (last.1.pair.peers .server))) =
          some (.done, .finished, 0, 0, true, true) := by decide +kernel
  obtain ⟨⟨s, events⟩, taken, same⟩ := Option.map_eq_some_iff.mp ran
  simp only [Prod.mk.injEq, List.length_eq_zero_iff] at same
  obtain ⟨connecting, worker, client, server, clientShaken, serverShaken⟩ := same
  refine ⟨s, events, execIf_runIf taken, ?_, ?_⟩
  · intro side
    cases side
    · exact clientShaken
    · exact serverShaken
  · intro action _ other
    cases action with
    | handshake side => exact absurd rfl (other side)
    | connect => simp [step, connecting]
    | store => simp [step, connecting]
    | deliver sender position env =>
        have empty : s.pair.wire sender = [] := by
          cases sender
          · exact client
          · exact server
        simp [step, Program.library, Pair.step, takeAt, empty]
    | start | send | finish => simp [step, worker]
    | exit => simp [step, downloadOne]

theorem downloadOne_movable : ∀ file ∈ downloadOne.diff,
    Movable downloadOne.direction.selects downloadOne.files downloadOne.senderRepo
      downloadOne.receiverRepo file := by
  simp only [downloadOne, List.forall_mem_cons]
  refine ⟨⟨by decide, by decide, ?_⟩, by simp⟩
  rintro - content there
  obtain rfl : [104, 105] = content := by simpa [oneFile, lackingFile] using there
  exact ⟨by decide, by decide⟩

theorem downloadOne_completes : ∃ s events r',
    RunIf (Smooth downloadOne) (step downloadOne) (beginning downloadOne freshReceiver) downloadRun s
        events ∧
      s.receiver = some r' ∧ r'.pFile = none ∧ r'.files [114, 97] = some [104, 105] := by
  obtain ⟨s, events, run, stuck⟩ := downloadOne_run
  obtain ⟨_, r', _, there, closed, moved⟩ := maximal_run_completes
    (beginning_begins downloadOne freshReceiver) rfl rfl downloadOne_movable run stuck
  exact ⟨s, events, r', run, there, closed, moved.sent _ List.mem_cons_self rfl _ rfl⟩

end Librtcdc.Sync.Channels
