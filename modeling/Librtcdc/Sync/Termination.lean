import Librtcdc.Sync.Progress

set_option autoImplicit false

namespace Librtcdc.Sync.Channels

open Systems Pair Received

variable {p : Program} {s next start : State} {action : Action} {actions : List Action}
  {events emitted : List Event}

-- How much a transfer has still to do. A handshake may be repeated and is not counted.

def Action.counted : Action → Bool
  | .handshake _ => false
  | _ => true

def Program.packets (p : Program) : List SctpPacket :=
  (p.direction.send p.files p.senderRepo p.diff).getD []

def Connecting.rank : Connecting → Nat
  | .waiting => 4
  | .created _ => 1
  | .done => 0

def Worker.rank (p : Program) : Worker → Nat
  | .absent => 2 * p.packets.length + 4
  | .queued => 2 * p.packets.length + 3
  | .sending _ rest => 2 * rest.length + 2
  | .finished => 1

def networkRank : Option Nat → Nat
  | none => 1
  | some _ => 0

def State.rank (p : Program) (s : State) : Nat :=
  s.connecting.rank + s.worker.rank p + networkRank s.network + s.pair.weight

theorem connected_rank (p : Program) (dc : Option Slot) : (p.connected dc).rank ≤ 1 := by
  unfold Program.connected
  split <;> simp [Connecting.rank]

theorem WorkerStep.rank (moved : WorkerStep p s action next emitted)
    (untried : attempted emitted = []) (other : action ≠ .start) (last : action ≠ .finish)
    (unsent : ∀ err, action ≠ .send err) : next.worker.rank p ≤ s.worker.rank p := by
  cases moved with
  | kept _ worker => rw [worker]
  | opened _ absent worker =>
      rw [absent, worker]
      exact Nat.le_succ _
  | started => exact absurd rfl other
  | finished => exact absurd rfl last
  | lost | sent => exact absurd rfl (unsent _)

theorem handshake_weight {side : Side} {pair : TwoPeers} {seen : List Pair.Event}
    (moved : Pair.step s.pair (.handshake side) = some (pair, seen)) : pair.weight = s.pair.weight := by
  obtain ⟨_, _, wires, _⟩ := step_handshake moved
  rw [TwoPeers.weight, TwoPeers.weight, wires, wires]

theorem takes_rank {sender : Side} {position : Nat} {network : Option Nat}
    (there : s.takes p sender position = some network) : networkRank network = networkRank s.network := by
  unfold State.takes at there
  split at there
  · rename_i running
    rw [← Option.some.inj there, running]
  · rename_i reached gone
    split_ifs at there
    rw [← Option.some.inj there, gone]
    rfl

theorem step_rank (inv : Inv p start s events) (taken : step p s action = some (next, emitted)) :
    next.rank p + (if action.counted then 1 else 0) ≤ s.rank p := by
  have worker := step_worker inv taken
  unfold State.rank
  cases step_steps taken with
  | handshake _ called =>
      obtain ⟨pair, seen, moved, rfl, reacted⟩ := library_cases called
      have slower := worker.rank (attempted_peers seen) (by simp) (by simp) (by simp)
      rw [reacted.connecting, reacted.network, reacted.pair, handshake_weight moved]
      simp only [Action.counted, Bool.false_eq_true, if_false]
      omega
  | connect waiting _ called =>
      obtain ⟨pair, seen, moved, rfl, reacted⟩ := library_cases called
      have slower := worker.rank (attempted_peers seen) (by simp) (by simp) (by simp)
      have opens := create_weight inv.pair moved
      have connected := connected_rank p
        (createdBy p.sender (peerEvents (seen.map Event.peers))).head?
      rw [waiting, Connecting.rank]
      simp only [Action.counted, if_true, reacted.network, reacted.pair] at slower ⊢
      omega
  | store created =>
      rw [created]
      simp only [Action.counted, if_true, Connecting.rank]
      omega
  | deliver there called =>
      obtain ⟨pair, seen, moved, rfl, reacted⟩ := library_cases called
      have slower := worker.rank (attempted_peers seen) (by simp) (by simp) (by simp)
      have lighter := deliver_weight inv.pair moved
      rw [reacted.connecting, reacted.network, reacted.pair, takes_rank there]
      simp only [Action.counted, if_true]
      omega
  | start queued made =>
      have whole : p.packets = _ := congrArg (·.getD []) made
      rw [queued]
      simp only [Action.counted, if_true, Worker.rank, whole, Option.getD_some]
      omega
  | refused sending _ =>
      rw [sending]
      simp only [Action.counted, if_true, Worker.rank, List.length_cons]
      omega
  | sent sending _ called =>
      obtain ⟨pair, seen, moved, rfl, reacted⟩ := library_cases called
      obtain ⟨ch, stored, shaken⟩ := inv.sending sending
      have silent := (step_send_said inv.pair shaken stored moved).1
      have heavier : pair.weight ≤ s.pair.weight + 1 := send_weight moved
      rw [reacted.connecting, reacted.network, reacted.pair, (reacted.quiet (silent.opened _)).1,
        sending]
      simp only [Action.counted, if_true, Worker.rank, List.length_cons]
      omega
  | finish sending =>
      rw [sending]
      simp only [Action.counted, if_true, Worker.rank, List.length_nil]
      omega
  | exit _ _ running _ =>
      rw [running]
      simp only [Action.counted, networkRank, if_true]
      omega

/-- Every run of a transfer is finite: besides handshakes it has at most two steps for each packet
and nine more, whatever fails and in whatever order the messages arrive. -/
theorem transfer_terminates (begins : Begins p start)
    (run : Run (step p) start actions s events) :
    actions.countP Action.counted ≤ 2 * p.packets.length + 9 := by
  have bounded := run.ranked (Inv p start) (State.rank p) Action.counted begins.inv
    (fun _ _ _ _ _ inv _ taken => step_inv inv taken)
    fun _ _ _ _ _ inv _ taken => step_rank inv taken
  have empty : start.pair.weight = 0 := by
    rw [TwoPeers.weight, begins.ready.wire, begins.ready.wire]
    rfl
  have initial : start.rank p = 2 * p.packets.length + 9 := by
    rw [State.rank, begins.connecting, begins.worker, begins.network, empty]
    simp only [Connecting.rank, Worker.rank, networkRank]
    omega
  omega

theorem uploadOne_terminates : uploadRun.countP Action.counted ≤ 2 * uploadOne.packets.length + 9 := by
  obtain ⟨s, events, run, _⟩ := uploadOne_run
  exact transfer_terminates (beginning_begins uploadOne freshReceiver) run.run

end Librtcdc.Sync.Channels
