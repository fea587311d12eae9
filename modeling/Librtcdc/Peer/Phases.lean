import Librtcdc.Peer.Established

set_option autoImplicit false

namespace Librtcdc.Establishment

open Systems Roles
open Pair (Side TwoPeers)

-- The two phases of two parties: until both cursors are set nothing can be said, and from then on the
-- two peers go the way of a ready pair.

variable {Process : Type} {x next : TwoParties Process} {p : Party} {action : Action}
  {events emitted : List Event} {pair : TwoPeers}

def Action.actor : Action → Option Party
  | .signal (.generate p _) | .signal (.parse p _) => some p
  | .loop p | .negotiated p | .secured p | .startup p _ => some p
  | .call _ => none

def BothPast (x : TwoParties Process) : Prop :=
  ∀ q, PastCursor x q

theorem Inv.early (inv : Inv x events) (early : ¬ BothPast x) :
    Silent x events ∧ ∀ q, Unconnected (x.peer q) (x.sessions q).startup :=
  inv.phase.resolve_right fun established => early established.past

theorem Inv.late (inv : Inv x events) (past : BothPast x) : Established x events := by
  rcases inv.phase with ⟨silent, unconnected⟩ | established
  · refine ⟨past, x.pair, [], ready_pair inv silent unconnected past, ?_⟩
    rw [silent.talk]
    exact .refl
  · exact established

theorem LocalStep.side (moved : LocalStep x next p) : next.side = x.side :=
  side_congr (party_congr (moved.parties.roles .first))

structure Late (p : Party) (x next : TwoParties Process) : Prop where
  past : BothPast next
  side : next.side = x.side
  shakes : Handshakes (x.side p) x.pair next.pair

theorem flag_late {flag : Transport → Transport} {raise : RtcdcTransport → RtcdcTransport}
    (inv : Inv x events) (past : BothPast x)
    (raises : Raises flag raise (x.negotiation.parsed p)) : Late p x (x.flag p flag) where
  past := past
  side := (flag_local x p flag).side
  shakes := .inl (flag_pair inv raises (past p))

section Steps

variable [DecidableEq Process] {process : Party → Process}

theorem step_early (inv : Inv x events) (early : ¬ BothPast x) (proper : Proper x action)
    (moved : step process x action = some (next, emitted)) :
    Silent next (events ++ emitted) ∧ ∀ q, Unconnected (next.peer q) (next.sessions q).startup := by
  obtain ⟨silent, unconnected⟩ := inv.early early
  cases action with
  | signal action =>
      obtain ⟨⟨n, calls⟩, signalled, same⟩ := Option.map_eq_some_iff.mp moved
      obtain ⟨rfl, rfl⟩ := Prod.mk.inj same
      exact signal_early inv silent unconnected proper signalled
  | loop p =>
      simp only [step] at moved
      split_ifs at moved
      obtain ⟨rfl, rfl⟩ := Prod.mk.inj (Option.some.inj moved)
      exact (loop_local x p).early silent unconnected rfl (loop_unconnected (unconnected p))
  | negotiated p =>
      obtain ⟨rfl, rfl⟩ := Prod.mk.inj (Option.some.inj moved)
      exact (flag_local x p _).early silent unconnected rfl
        (flag_unconnected (negotiated_raises proper) (unconnected p))
  | secured p =>
      obtain ⟨rfl, rfl⟩ := Prod.mk.inj (Option.some.inj moved)
      exact (flag_local x p _).early silent unconnected rfl
        (flag_unconnected (secured_raises _) (unconnected p))
  | startup p associated =>
      obtain ⟨pc, here, goes⟩ := Option.bind_eq_some_iff.mp moved
      obtain ⟨⟨peer, pc', effects⟩, started, same⟩ := Option.map_eq_some_iff.mp goes
      obtain ⟨rfl, rfl⟩ := Prod.mk.inj same
      obtain ⟨transport, stored, starts⟩ := startup_starts rfl started
      have frame := starts.frame stored
      have mine := unconnected p
      rw [here] at mine
      -- the association waits for the cursor of the other side
      have waits : pc = .associate → associated = false := by
        rintro rfl
        rw [← Bool.not_eq_true]
        intro joined
        refine early fun q => ?_
        rcases p.eq_or_other q with rfl | rfl
        · exact ⟨_, here, rfl⟩
        · exact proper joined here
      refine (after_local frame).early silent unconnected (talk_startup effects) ?_
      rw [after_peer frame, after_startup]
      exact starts.unconnected stored waits mine
  | call action =>
      obtain ⟨_, called, _⟩ := Option.map_eq_some_iff.mp moved
      exact absurd called (silent_call silent unconnected proper)

theorem step_late (inv : Inv x events) (past : BothPast x) (proper : Proper x action)
    (acts : action.actor = some p) (moved : step process x action = some (next, emitted)) :
    Late p x next := by
  cases action with
  | signal action =>
      obtain ⟨⟨n, calls⟩, signalled, same⟩ := Option.map_eq_some_iff.mp moved
      obtain ⟨rfl, rfl⟩ := Prod.mk.inj same
      obtain ⟨pc, here, far⟩ := past .first
      have parsed := (inv.startup .first).parsed here (pastCursor_pastIce far)
      exact
        { past := past
          side := side_congr (party_congr (signal_roles inv.roles proper signalled parsed .first))
          shakes := .inl (pair_congr (fun q => signal_peer inv (past q) proper signalled) rfl) }
  | loop q =>
      obtain rfl := Option.some.inj acts
      simp only [step] at moved
      split_ifs at moved with ready
      obtain ⟨pc, here, _⟩ := past q
      rw [ready.2.2] at here
      cases here
  | negotiated q =>
      obtain rfl := Option.some.inj acts
      obtain ⟨rfl, rfl⟩ := Prod.mk.inj (Option.some.inj moved)
      exact flag_late inv past (negotiated_raises proper)
  | secured q =>
      obtain rfl := Option.some.inj acts
      obtain ⟨rfl, rfl⟩ := Prod.mk.inj (Option.some.inj moved)
      exact flag_late inv past (secured_raises _)
  | startup q associated =>
      obtain rfl := Option.some.inj acts
      obtain ⟨pc, here, goes⟩ := Option.bind_eq_some_iff.mp moved
      obtain ⟨⟨peer, pc', effects⟩, started, same⟩ := Option.map_eq_some_iff.mp goes
      obtain ⟨rfl, rfl⟩ := Prod.mk.inj same
      obtain ⟨transport, stored, starts⟩ := startup_starts rfl started
      obtain ⟨pc₀, here₀, far⟩ := past q
      obtain rfl : pc₀ = pc := Option.some.inj (here₀.symm.trans here)
      exact
        { past := pastCursor_after (starts.past far).1 (past q.other)
          side := (after_local (starts.frame stored)).side
          shakes := startup_moves (some pc') stored starts far }
  | call action => cases acts

theorem step_onChannel (moved : step process x action = some (next, emitted)) (q : Party) :
    (next.sessions q).onChannel = (x.sessions q).onChannel := by
  cases action with
  | signal action =>
      obtain ⟨_, _, same⟩ := Option.map_eq_some_iff.mp moved
      obtain ⟨rfl, rfl⟩ := Prod.mk.inj same
      rfl
  | loop p =>
      simp only [step] at moved
      split_ifs at moved
      obtain ⟨rfl, rfl⟩ := Prod.mk.inj (Option.some.inj moved)
      rcases p.eq_or_other q with rfl | rfl
      · simp [TwoParties.loop]
      · simp [TwoParties.loop, Function.update_of_ne p.other_ne]
  | negotiated | secured =>
      obtain ⟨rfl, rfl⟩ := Prod.mk.inj (Option.some.inj moved)
      rfl
  | startup p associated =>
      obtain ⟨_, _, goes⟩ := Option.bind_eq_some_iff.mp moved
      obtain ⟨_, _, same⟩ := Option.map_eq_some_iff.mp goes
      obtain ⟨rfl, rfl⟩ := Prod.mk.inj same
      rcases p.eq_or_other q with rfl | rfl
      · simp [TwoParties.after]
      · simp [TwoParties.after, Function.update_of_ne p.other_ne]
  | call action =>
      obtain ⟨_, _, same⟩ := Option.map_eq_some_iff.mp moved
      obtain ⟨rfl, rfl⟩ := Prod.mk.inj same
      rfl

end Steps

theorem SameFrame.trans {before between after : RtcdcPeerConnection}
    (first : SameFrame before between) (second : SameFrame between after) :
    SameFrame before after where
  exitThread := second.exitThread.trans first.exitThread
  role := second.role.trans first.role
  onChannel := second.onChannel.trans first.onChannel
  onConnect := second.onConnect.trans first.onConnect
  transport := fun transport stored => by
    obtain ⟨transport', there, ice, dtls⟩ := first.transport transport stored
    obtain ⟨transport'', later, ice', dtls'⟩ := second.transport transport' there
    exact ⟨transport'', later, ice'.trans ice, dtls'.trans dtls⟩
  absent := fun absent => second.absent (first.absent absent)

theorem run_frame {start : TwoPeers} {calls : List Pair.Action} {seen : List Pair.Event}
    (run : Run Pair.step start calls pair seen) (side : Side) :
    SameFrame (start.peers side) (pair.peers side) := by
  induction run with
  | refl => exact .refl _
  | snoc _ _ moved ih => exact ih.trans (pair_frame moved side)

theorem calls_inv {calls : List Pair.Action} {seen : List Pair.Event} (inv : Inv x events)
    (past : BothPast x) (run : Run Pair.step x.pair calls pair seen) :
    Inv (x.resume pair) (events ++ seen.map .pair) := by
  have frame : ∀ q, SameFrame (x.peer q) (pair.peers (x.side q)) := by
    intro q
    rw [← pair_peers]
    exact run_frame run _
  have parties : SameParties x.negotiation (x.resume pair).negotiation :=
    ⟨rfl, rfl, fun _ => rfl, fun q => connectionAfter_absent (frame q)⟩
  refine ⟨parties.inv inv.roles, fun q => ?_, .inr ⟨past, ?_⟩⟩
  · rw [resume_peer (run_frame run)]
    exact (inv.startup q).framed (frame q)
  · obtain ⟨ready, earlier, begins, reached⟩ := (inv.late past).reached
    refine ⟨ready, earlier ++ calls, begins, ?_⟩
    rw [resume_pair (run_frame run), talk_append, talk_pair]
    exact reached.append run

end Librtcdc.Establishment
