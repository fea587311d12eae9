import Librtcdc.Sync.Completion

set_option autoImplicit false

namespace Librtcdc.Sync.Channels

open Systems Pair Received

variable {p : Program} {s next start : State} {action : Action} {actions : List Action}
  {events emitted : List Event} {r : Receiver}

-- download_fs_on_connect stores `data_channel` after rtcdc_create_data_channel has returned; the
-- thread of uv_fs_download may have started before.

def Unrefused (_ : State) : Action → Prop
  | .send err => 0 ≤ err
  | _ => True

instance (s : State) : (action : Action) → Decidable (Unrefused s action)
  | .send err => inferInstanceAs (Decidable (0 ≤ err))
  | .handshake _ | .connect _ | .store | .deliver .. | .start | .finish | .exit _ => instDecidableTrue

def InTime (s : State) : Action → Prop
  | .start => s.dataChannel ≠ none
  | _ => True

def TooEarly (s : State) : Action → Prop
  | .start => s.dataChannel = none
  | _ => True

inductive WorkerStep (p : Program) (s : State) : Action → State → List Event → Prop
  | kept {action : Action} {next : State} {emitted : List Event} (other : action ≠ .start)
      (worker : next.worker = s.worker)
      (pointer : p.direction = .upload → next.dataChannel = s.dataChannel)
      (untaken : accepted emitted = []) (untried : attempted emitted = []) :
      WorkerStep p s action next emitted
  | opened {action : Action} {next : State} {emitted : List Event} (other : action ≠ .start)
      (absent : s.worker = .absent) (worker : next.worker = .queued)
      (pointer : p.direction = .upload → next.dataChannel ≠ none)
      (untaken : accepted emitted = []) (untried : attempted emitted = []) :
      WorkerStep p s action next emitted
  | started {next : State} {packets : List SctpPacket} (queued : s.worker = .queued)
      (worker : next.worker = .sending s.dataChannel packets) : WorkerStep p s .start next []
  | lost {next : State} {emitted : List Event} {dataChannel : Option Slot} {packet : SctpPacket}
      {rest : List SctpPacket} {err : Int}
      (sending : s.worker = .sending dataChannel (packet :: rest))
      (worker : next.worker = .sending dataChannel rest) (why : dataChannel = none ∨ err < 0)
      (untaken : accepted emitted = []) : WorkerStep p s (.send err) next emitted
  | sent {next : State} {emitted : List Event} {slot : Slot} {packet : SctpPacket}
      {rest : List SctpPacket} {err : Int} (sending : s.worker = .sending (some slot) (packet :: rest))
      (worker : next.worker = .sending (some slot) rest)
      (all : accepted emitted = attempted emitted) : WorkerStep p s (.send err) next emitted
  | finished {next : State} {dataChannel : Option Slot} (sending : s.worker = .sending dataChannel [])
      (worker : next.worker = .finished) : WorkerStep p s .finish next []

theorem library_worker {before : State} {seen : List Pair.Event}
    (inv : Inv p start s events) (reacted : Reacted p before seen next)
    (once : (openedBy p.sender (peerEvents events ++ seen)).length ≤ 1) (other : action ≠ .start)
    (worker : before.worker = s.worker) (pointer : before.dataChannel = s.dataChannel) :
    WorkerStep p s action next (seen.map .peers) := by
  rw [openedBy_append, List.length_append] at once
  cases opened : openedBy p.sender seen with
  | nil =>
      obtain ⟨same, channel⟩ := reacted.quiet opened
      exact .kept other (same.trans worker) (fun _ => channel.trans pointer) (accepted_peers seen)
        (attempted_peers seen)
  | cons slot more =>
      rw [opened, List.length_cons] at once
      have fresh : openedBy p.sender (peerEvents events) = [] := List.length_eq_zero_iff.mp (by omega)
      have one : more = [] := List.length_eq_zero_iff.mp (by omega)
      obtain ⟨queued, channel⟩ := reacted.opened slot (by rw [opened, one])
      refine .opened other (inv.absent.resolve_right fun old => old fresh) queued (fun upload => ?_)
        (accepted_peers seen) (attempted_peers seen)
      rw [channel, if_pos upload]
      exact Option.some_ne_none slot

theorem step_worker (inv : Inv p start s events) (taken : step p s action = some (next, emitted)) :
    WorkerStep p s action next emitted := by
  cases step_steps taken with
  | handshake alive called =>
      have after := inv.handshake called
      have once := after.oneWay.opened_once after.pair
      obtain ⟨pair, seen, _, rfl, reacted⟩ := library_cases called
      rw [peerEvents_append, peerEvents_peers] at once
      exact library_worker inv reacted once (by simp) rfl rfl
  | connect waiting shaken called =>
      have after := (inv.connect waiting shaken called)
      have once := after.oneWay.opened_once after.pair
      obtain ⟨pair, seen, _, rfl, reacted⟩ := library_cases called
      rw [peerEvents_append, peerEvents_peers] at once
      cases library_worker inv reacted once (show Action.store ≠ .start by simp) rfl rfl with
      | kept _ worker pointer untaken untried =>
          exact .kept (by simp) worker pointer untaken untried
      | opened _ absent worker pointer untaken untried =>
          exact .opened (by simp) absent worker pointer untaken untried
  | store created =>
      refine .kept (by simp) rfl (fun upload => ?_) rfl rfl
      rw [inv.storing _ created] at upload
      cases upload
  | deliver there called =>
      have after := inv.deliver called
      have once := after.oneWay.opened_once after.pair
      obtain ⟨pair, seen, _, rfl, reacted⟩ := library_cases called
      rw [peerEvents_append, peerEvents_peers] at once
      exact library_worker inv reacted once (by simp) rfl rfl
  | start queued made => exact .started queued rfl
  | refused sending why =>
      exact .lost sending rfl why (by simp [accepted, Event.accepted])
  | sent sending ok called =>
      have after := inv.sent sending called
      have once := after.oneWay.opened_once after.pair
      have opens : openedBy p.sender (peerEvents events) ≠ [] :=
        inv.absent.resolve_left (by simp [sending])
      obtain ⟨pair, seen, _, rfl, reacted⟩ := library_cases called
      rw [peerEvents_append, peerEvents_append, peerEvents_peers, peerEvents_sent, List.append_nil,
        openedBy_append, List.length_append] at once
      have quiet : openedBy p.sender seen = [] := by
        have some_opened := List.length_pos_iff.mpr opens
        exact List.length_eq_zero_iff.mp (by omega)
      refine .sent sending (reacted.quiet quiet).1 ?_
      rw [accepted_append, attempted_append, accepted_peers, attempted_peers]
      rfl
  | finish sending => exact .finished sending rfl
  | exit => exact .kept (by simp) rfl (fun _ => rfl) rfl rfl

inductive Decided (p : Program) (s : State) (events : List Event) (inTime tooEarly : Prop) : Prop
  | undecided (unstarted : s.worker = .absent ∨ s.worker = .queued)
      (stored : p.direction = .upload → s.worker = .queued → s.dataChannel ≠ none)
      (untried : attempted events = []) (soFar : inTime ∧ tooEarly)
  | whole (started : s.worker = .finished ∨ ∃ slot rest, s.worker = .sending (some slot) rest)
      (all : accepted events = attempted events) (soFar : inTime)
  | nothing (download : p.direction = .download)
      (started : s.worker = .finished ∨ ∃ rest, s.worker = .sending none rest)
      (untaken : accepted events = []) (soFar : tooEarly)

theorem step_decided {inTime tooEarly inTime' tooEarly' : Prop} (inv : Inv p start s events)
    (decided : Decided p s events inTime tooEarly) (allowed : Unrefused s action)
    (taken : step p s action = some (next, emitted))
    (more : inTime → InTime s action → inTime') (late : tooEarly → TooEarly s action → tooEarly') :
    Decided p next (events ++ emitted) inTime' tooEarly' := by
  have worker := step_worker inv taken
  cases decided with
  | undecided unstarted stored untried soFar =>
      obtain ⟨soon, early⟩ := soFar
      cases worker with
      | kept other same pointer _ nothing =>
          refine .undecided (by rw [same]; exact unstarted) (fun upload queued => ?_) ?_
            ⟨more soon ?_, late early ?_⟩
          · rw [pointer upload]
            exact stored upload (same ▸ queued)
          · rw [attempted_append, untried, nothing]
            rfl
          · cases action <;> simp_all [InTime]
          · cases action <;> simp_all [TooEarly]
      | opened other _ queued pointer _ nothing =>
          refine .undecided (.inr queued) (fun upload _ => pointer upload) ?_
            ⟨more soon ?_, late early ?_⟩
          · rw [attempted_append, untried, nothing]
            rfl
          · cases action <;> simp_all [InTime]
          · cases action <;> simp_all [TooEarly]
      | started queued sending =>
          have untaken : accepted events = [] :=
            List.sublist_nil.mp (by rw [← untried]; exact accepted_sublist events)
          cases channel : s.dataChannel with
          | some slot =>
              rw [channel] at sending
              refine .whole (.inr ⟨slot, _, sending⟩) ?_ (more soon (by simp [InTime, channel]))
              rw [List.append_nil, untaken, untried]
          | none =>
              rw [channel] at sending
              refine .nothing ?_ (.inr ⟨_, sending⟩) ?_ (late early channel)
              · cases direction : p.direction with
                | download => rfl
                | upload => exact absurd channel (stored direction queued)
              · rw [List.append_nil, untaken]
      | lost sending | sent sending | finished sending =>
          rcases unstarted with other | other <;> rw [other] at sending <;> cases sending
  | whole started all soFar =>
      cases worker with
      | kept other same _ nothing untried =>
          refine .whole (by rw [same]; exact started) ?_ (more soFar ?_)
          · rw [accepted_append, attempted_append, all, nothing, untried]
          · cases action <;> simp_all [InTime]
      | opened _ absent =>
          rcases started with other | ⟨_, _, other⟩ <;> rw [other] at absent <;> cases absent
      | started queued =>
          rcases started with other | ⟨_, _, other⟩ <;> rw [other] at queued <;> cases queued
      | lost sending _ why _ =>
          rcases started with other | ⟨slot, rest, other⟩
          · rw [other] at sending
            cases sending
          · rw [other] at sending
            obtain ⟨rfl, _⟩ := Worker.sending.inj sending
            rcases why with missing | negative
            · cases missing
            · exact absurd allowed (Int.not_le.mpr negative)
      | sent sending after taken_all =>
          refine .whole (.inr ⟨_, _, after⟩) ?_ (more soFar trivial)
          rw [accepted_append, attempted_append, all, taken_all]
      | finished sending after =>
          refine .whole (.inl after) ?_ (more soFar trivial)
          rw [List.append_nil, all]
  | nothing download started untaken soFar =>
      cases worker with
      | kept other same _ nothing untried =>
          refine .nothing download (by rw [same]; exact started) ?_ (late soFar ?_)
          · rw [accepted_append, untaken, nothing]
            rfl
          · cases action <;> simp_all [TooEarly]
      | opened _ absent => rcases started with other | ⟨_, other⟩ <;> rw [other] at absent <;> cases absent
      | started queued => rcases started with other | ⟨_, other⟩ <;> rw [other] at queued <;> cases queued
      | lost sending after _ nothing =>
          rcases started with other | ⟨rest, other⟩
          · rw [other] at sending
            cases sending
          · rw [other] at sending
            obtain ⟨rfl, _⟩ := Worker.sending.inj sending
            refine .nothing download (.inr ⟨_, after⟩) ?_ (late soFar trivial)
            rw [accepted_append, untaken, nothing]
            rfl
      | sent sending =>
          rcases started with other | ⟨rest, other⟩
          · rw [other] at sending
            cases sending
          · rw [other] at sending
            cases sending
      | finished sending after =>
          refine .nothing download (.inl after) ?_ (late soFar trivial)
          rw [List.append_nil, untaken]

/-- While SCTP refuses nothing a transfer is all or nothing. It is nothing only in a download whose
worker has started before the pointer was stored, and then the receiver's files stay as they were. -/
theorem all_or_nothing (begins : Begins p start)
    (run : RunIf Unrefused (step p) start actions s events) :
    (RunIf InTime (step p) start actions s events ∧ accepted events = attempted events) ∨
      (p.direction = .download ∧ RunIf TooEarly (step p) start actions s events ∧
        accepted events = [] ∧ s.receiver = start.receiver) := by
  have decided : Decided p s events (RunIf InTime (step p) start actions s events)
      (RunIf TooEarly (step p) start actions s events) := by
    induction run with
    | refl =>
        refine .undecided (.inl begins.worker) (fun _ queued => ?_) rfl ⟨.refl, .refl⟩
        rw [begins.worker] at queued
        cases queued
    | snoc run allowed taken ih =>
        exact step_decided (run_inv begins run) ih allowed taken
          (fun soFar here => .snoc soFar here taken) fun soFar here => .snoc soFar here taken
  cases decided with
  | undecided _ _ untried soFar =>
      refine .inl ⟨soFar.1, ?_⟩
      rw [untried]
      exact List.sublist_nil.mp (by rw [← untried]; exact accepted_sublist events)
  | whole _ all soFar => exact .inl ⟨soFar, all⟩
  | nothing download _ untaken soFar =>
      have inv := run_inv begins run
      refine .inr ⟨download, soFar, untaken, ?_⟩
      have unsaid : userMessages (sentBy p.sender (peerEvents events)) = [] := by
        rw [inv.said, untaken]
        rfl
      rw [inv.receiver, Program.receiver, (OneWay.unsaid inv.pair unsaid).1]
      rfl

def downloadOne : Program where
  direction := .download
  sender := .client
  files := oneFile [104, 105]
  senderRepo := []
  receiverRepo := [114]
  diff := [{ lackingFile with dirty := .fileDirty }]

def earlyRun : List Action :=
  [.connect ⟨true, true, 28⟩, .deliver .client 0 ⟨true, 1⟩, .deliver .server 0 ⟨true, 1⟩, .start,
    .store, .send 1216, .send 1216, .send 1216, .finish]

theorem downloadOne_lost : ∃ s events,
    RunIf Unrefused (step downloadOne) (beginning downloadOne freshReceiver) earlyRun s events ∧
      s.worker = .finished ∧ (attempted events).length = 3 ∧ accepted events = [] ∧
      s.receiver = some freshReceiver := by
  have ran : ((execIf Unrefused (step downloadOne) (beginning downloadOne freshReceiver)
      earlyRun).map fun last => (last.1.worker, (attempted last.2).length, (accepted last.2).length))
        = some (.finished, 3, 0) := by decide +kernel
  obtain ⟨⟨s, events⟩, taken, same⟩ := Option.map_eq_some_iff.mp ran
  obtain ⟨finished, rest⟩ := Prod.mk.inj same
  obtain ⟨tried, untaken⟩ := Prod.mk.inj rest
  have run := execIf_runIf taken
  have nothing : accepted events = [] := List.length_eq_zero_iff.mp untaken
  rcases all_or_nothing (beginning_begins downloadOne freshReceiver) run with
    ⟨_, all⟩ | ⟨_, _, _, unchanged⟩
  · rw [← all, nothing] at tried
    cases tried
  · exact ⟨s, events, run, finished, tried, nothing, unchanged⟩

end Librtcdc.Sync.Channels
