import Librtcdc.Shared.Trace
import Librtcdc.Peer.Sdp

set_option autoImplicit false

namespace Librtcdc.Contexts

open Systems

-- The peers of a process in the order of their creation, `none` where one was destroyed.
structure Process where
  globals : Globals
  peers : List (Option Connection)

inductive Call where
  | create (resolved calloc : Bool)
  | generateOffer (peer : Nat) (env : OfferEnv)
  | generateLocalCandidate (peer : Nat) (env : OfferEnv)
  | parseOffer (peer : Nat) (offer : Option CString) (env : ParseEnv)
  | destroy (peer : Nat) (finish : Nat → Bool)

inductive Event where
  | library (call : LibraryCall)
  -- `create_rtcdc_transport` returned -1 to a call on this peer
  | creationFailed (peer : Nat)
  deriving DecidableEq, Repr

def Process.peer (s : Process) (i : Nat) : Option Connection :=
  (s.peers[i]?).bind id

def Process.after (s : Process) (i : Nat) (g : Globals) (peer : Option Connection) : Process where
  globals := g
  peers := s.peers.set i peer

def creationFails (g : Globals) (peer : Connection) (env : TransportEnv) : Bool :=
  peer.transport.isNone && decide ((createRtcdcTransport g peer .client env).1 < 0)

def eventsOf (calls : List LibraryCall) (i : Nat) (failed : Bool) : List Event :=
  calls.map Event.library ++ if failed then [.creationFailed i] else []

def step : Step Process Call Event
  | s, .create resolved calloc =>
      let made := if resolved && calloc then [some rtcdcCreatePeerConnection] else []
      some ({ s with peers := s.peers ++ made }, [])
  | s, .generateOffer i env =>
      (s.peer i).bind fun peer =>
        (rtcdcGenerateOfferSdp s.globals peer env).map fun (_, g, next, calls) =>
          (s.after i g (some next),
            eventsOf calls i (creationFails s.globals peer env.transport))
  | s, .generateLocalCandidate i env =>
      (s.peer i).bind fun peer =>
        (rtcdcGenerateLocalCandidateSdp s.globals peer env).map fun (_, g, next, calls) =>
          (s.after i g (some next),
            eventsOf calls i (creationFails s.globals peer env.transport))
  | s, .parseOffer i offer env =>
      (s.peer i).bind fun peer =>
        (rtcdcParseOfferSdp s.globals peer offer env).map fun (_, g, next, calls) =>
          (s.after i g (some next),
            eventsOf calls i (offer.isSome && creationFails s.globals peer env.transport))
  | s, .destroy i finish =>
      (s.peer i).map fun peer =>
        let (g, calls) := rtcdcDestroyPeerConnection s.globals peer finish
        (s.after i g none, eventsOf calls i false)

def start : Process where
  globals := { dtlsContext := none, contextRef := 0, sctpRef := 0, created := 0 }
  peers := []

def contextOf (peer : Connection) : List DtlsContext :=
  (peer.transport.map Transport.ctx).toList

def users (peers : List (Option Connection)) : List DtlsContext :=
  peers.flatMap fun peer => peer.toList.flatMap contextOf

def destroyedBy : LibraryCall → Option DtlsContext
  | .destroyContext ctx => some ctx
  | _ => none

def destroyedIn (events : List Event) : List DtlsContext :=
  events.filterMap fun
    | .library call => destroyedBy call
    | .creationFailed _ => none

structure Counted (s : Process) (events : List Event) : Prop where
  count : s.globals.contextRef = (users s.peers).length
  context : s.globals.dtlsContext ≠ none ↔ 0 < (users s.peers).length
  destroyed : ∀ ctx ∈ destroyedIn events, ctx ∉ users s.peers

structure Tracks (g : Globals) (used gone : List DtlsContext) : Prop where
  count : g.contextRef = used.length
  current : ∀ ctx ∈ used, g.dtlsContext = some ctx
  unused : used = [] → g.dtlsContext = none
  made : ∀ ctx, g.dtlsContext = some ctx → ctx.number < g.created
  gone : ∀ ctx ∈ gone, ctx.number < g.created ∧ g.dtlsContext ≠ some ctx

variable {g g' : Globals} {used rest gone : List DtlsContext} {ctx : DtlsContext}
  {peer peer' : Connection} {calls : List LibraryCall} {env : TransportEnv}

theorem Tracks.perm (tracks : Tracks g used gone) (same : used.Perm rest) : Tracks g rest gone where
  count := by rw [tracks.count, same.length_eq]
  current := fun ctx member => tracks.current ctx (same.mem_iff.mpr member)
  unused := fun empty => tracks.unused (by rw [empty] at same; exact same.eq_nil)
  made := tracks.made
  gone := tracks.gone

theorem Tracks.acquire {made : Option (Vector UInt8 32)} (tracks : Tracks g used gone)
    (acquired : acquireContext g made = some (ctx, g', calls)) :
    Tracks { g' with contextRef := g'.contextRef + 1 } (ctx :: used) gone ∧
      calls.filterMap destroyedBy = [] := by
  unfold acquireContext at acquired
  cases held : g.dtlsContext with
  | some old =>
      simp only [held, Option.some.injEq, Prod.mk.injEq] at acquired
      obtain ⟨rfl, rfl, rfl⟩ := acquired
      refine ⟨⟨by simp [tracks.count], ?_, by simp, tracks.made, tracks.gone⟩, rfl⟩
      intro ctx member
      rcases List.mem_cons.mp member with rfl | before
      · exact held
      · exact tracks.current ctx before
  | none =>
      simp only [held, Option.map_eq_some_iff, Prod.mk.injEq] at acquired
      obtain ⟨digest, _, rfl, rfl, rfl⟩ := acquired
      have nobody : used = [] := List.eq_nil_iff_forall_not_mem.mpr fun ctx member => by
        rw [tracks.current ctx member] at held
        cases held
      refine ⟨⟨by simp [tracks.count], ?_, by simp, ?_, ?_⟩, rfl⟩
      · intro ctx member
        obtain rfl : ctx = _ := by simpa [nobody] using member
        rfl
      · intro ctx same
        obtain rfl := Option.some.inj same
        exact Nat.lt_succ_self _
      · intro ctx member
        have before := (tracks.gone ctx member).1
        refine ⟨Nat.lt_succ_of_lt before, fun same => ?_⟩
        obtain rfl := Option.some.inj same
        exact Nat.lt_irrefl _ before

theorem Tracks.release (tracks : Tracks g (ctx :: used) gone) :
    Tracks (releaseContext g).1 used (gone ++ (releaseContext g).2.filterMap destroyedBy) := by
  have count := tracks.count
  have held := tracks.current ctx List.mem_cons_self
  rw [List.length_cons] at count
  unfold releaseContext
  split_ifs with last
  · obtain rfl : used = [] := List.eq_nil_of_length_eq_zero (by omega)
    refine ⟨rfl, by simp, fun _ => rfl, by simp, ?_⟩
    intro old member
    refine ⟨?_, by simp⟩
    rcases List.mem_append.mp member with before | now
    · exact (tracks.gone old before).1
    · obtain rfl : old = ctx := by simpa [held, destroyedBy] using now
      exact tracks.made old held
  · simp only [List.filterMap_nil, List.append_nil]
    refine ⟨by simp only [count]; omega,
      fun old member => tracks.current old (List.mem_cons_of_mem _ member), ?_, tracks.made, tracks.gone⟩
    rintro rfl
    exact absurd count (by simp; omega)

structure SameContext (g g' : Globals) : Prop where
  context : g'.dtlsContext = g.dtlsContext
  ref : g'.contextRef = g.contextRef
  created : g'.created = g.created

theorem SameContext.trans {g'' : Globals} (first : SameContext g g') (second : SameContext g' g'') :
    SameContext g g'' :=
  ⟨second.context.trans first.context, second.ref.trans first.ref,
    second.created.trans first.created⟩

theorem Tracks.same (tracks : Tracks g used gone) (same : SameContext g g') :
    Tracks g' used gone := by
  obtain ⟨context, ref, created⟩ := same
  constructor
  · rw [ref, tracks.count]
  · rw [context]; exact tracks.current
  · rw [context]; exact tracks.unused
  · rw [context, created]; exact tracks.made
  · rw [context, created]; exact tracks.gone

theorem initCalls_context : (initCalls g).filterMap destroyedBy = [] := by
  unfold initCalls
  split_ifs <;> rfl

theorem createSctpTransport_context {attached : Bool} {env : SctpEnv} {sctp : Option SctpEndpoint}
    (created : createSctpTransport g attached env = (sctp, g', calls)) :
    SameContext g g' ∧ calls.filterMap destroyedBy = [] := by
  rcases createSctpTransport_cases g attached env with
    ⟨_, nothing⟩ | ⟨_, ⟨_, made, stored⟩ | ⟨_, failed⟩⟩
  · rw [nothing] at created
    obtain ⟨rfl, rfl, rfl⟩ : none = sctp ∧ g = g' ∧ [] = calls := by simpa using created
    exact ⟨⟨rfl, rfl, rfl⟩, rfl⟩
  · rw [stored] at created
    obtain ⟨rfl, rfl, rfl⟩ : some made = sctp ∧ _ = g' ∧ _ = calls := by simpa using created
    exact ⟨⟨rfl, rfl, rfl⟩, by simp [initCalls_context, destroyedBy]⟩
  · rw [failed] at created
    obtain ⟨rfl, rfl, rfl⟩ : none = sctp ∧ _ = g' ∧ _ = calls := by simpa using created
    exact ⟨⟨rfl, rfl, rfl⟩, by simp [initCalls_context, destroyedBy]⟩

theorem finishLoop_context (finish : Nat → Bool) (n i : Nat) :
    (finishLoop finish n i).filterMap destroyedBy = [] := by
  induction n generalizing i with
  | zero => rfl
  | succ n ih =>
      rw [finishLoop]
      split_ifs
      · rfl
      · simpa [destroyedBy] using ih (i + 1)

theorem destroySctpTransport_context {sctp : Option SctpEndpoint} {finish : Nat → Bool}
    (destroyed : destroySctpTransport g sctp finish = (g', calls)) :
    SameContext g g' ∧ calls.filterMap destroyedBy = [] := by
  unfold destroySctpTransport at destroyed
  cases sctp with
  | none =>
      obtain ⟨rfl, rfl⟩ := Prod.mk.inj destroyed
      exact ⟨⟨rfl, rfl, rfl⟩, rfl⟩
  | some sctp =>
      obtain ⟨rfl, rfl⟩ := Prod.mk.inj destroyed
      refine ⟨⟨rfl, rfl, rfl⟩, ?_⟩
      split_ifs
      · exact finishLoop_context finish 300 0
      · rfl

theorem createRtcdcTransport_cases {role : PeerRole} {ret : Int}
    (created : createRtcdcTransport g peer role env = (ret, g', peer', calls)) :
    (ret = -1 ∧ g' = g ∧ (peer' = peer ∨ peer' = { peer with role := role, transport := none }) ∧
        calls = []) ∨
      ∃ ctx g₁ g₂ contextCalls sctpCalls,
        acquireContext g env.context = some (ctx, g₁, contextCalls) ∧
        SameContext { g₁ with contextRef := g₁.contextRef + 1 } g₂ ∧
        sctpCalls.filterMap destroyedBy = [] ∧
        (dtlsNullErr g₂ { peer with role := role } (contextCalls ++ sctpCalls) =
            (ret, g', peer', calls) ∨
          ∃ transport : Transport, ret = 0 ∧ g' = g₂ ∧ transport.ctx = ctx ∧
            peer' = { transport := some transport, initialized := true, role := role } ∧
            calls = contextCalls ++ sctpCalls) := by
  unfold createRtcdcTransport at created
  cases memory : env.calloc with
  | false =>
      simp only [memory, Bool.not_false, if_true, Prod.mk.injEq] at created
      obtain ⟨rfl, rfl, rfl, rfl⟩ := created
      exact .inl ⟨rfl, rfl, .inl rfl, rfl⟩
  | true =>
      simp only [memory, Bool.not_true, if_neg Bool.false_ne_true] at created
      cases acquired : acquireContext g env.context with
      | none =>
          simp only [acquired, Prod.mk.injEq] at created
          obtain ⟨rfl, rfl, rfl, rfl⟩ := created
          exact .inl ⟨rfl, rfl, .inr rfl, rfl⟩
      | some result =>
          obtain ⟨ctx, g₁, contextCalls⟩ := result
          simp only [acquired] at created
          refine .inr ⟨ctx, g₁, ?_⟩
          split at created
          · refine ⟨_, contextCalls, [], rfl, ⟨rfl, rfl, rfl⟩, rfl, .inl ?_⟩
            rw [List.append_nil]
            exact created
          · split at created
            · rename_i g₂ sctpCalls sctp
              obtain ⟨same, silent⟩ := createSctpTransport_context sctp
              exact ⟨g₂, contextCalls, sctpCalls, rfl, same, silent, .inl created⟩
            · rename_i made g₂ sctpCalls sctp
              obtain ⟨same, silent⟩ := createSctpTransport_context sctp
              split at created
              · -- the transport of the SCTP layer is destroyed again
                generalize destroyed : destroySctpTransport g₂ (some made) env.finish = result
                  at created
                obtain ⟨g₃, finishCalls⟩ := result
                obtain ⟨same', silent'⟩ := destroySctpTransport_context destroyed
                refine ⟨g₃, contextCalls, sctpCalls ++ finishCalls, rfl, same.trans same',
                  by simp [silent, silent'], .inl ?_⟩
                rw [← List.append_assoc]
                exact created
              · simp only [Prod.mk.injEq] at created
                obtain ⟨rfl, rfl, rfl, rfl⟩ := created
                exact ⟨_, contextCalls, sctpCalls, rfl, same, silent,
                  .inr ⟨_, rfl, rfl, rfl, rfl, rfl⟩⟩

theorem createRtcdcTransport_failed {role : PeerRole} {ret : Int} (absent : peer.transport = none)
    (created : createRtcdcTransport g peer role env = (ret, g', peer', calls)) (failed : ret < 0) :
    peer'.transport = none := by
  rcases createRtcdcTransport_cases created with
    ⟨_, _, rfl | rfl, _⟩ | ⟨_, _, _, _, _, _, _, _, unwound | ⟨_, rfl, _⟩⟩
  · exact absent
  · rfl
  · simp only [dtlsNullErr, Prod.mk.injEq] at unwound
    obtain ⟨_, _, rfl, _⟩ := unwound
    rfl
  · exact absurd failed (by decide)

def Keeps (g : Globals) (peer : Connection) (g' : Globals) (peer' : Connection)
    (calls : List LibraryCall) : Prop :=
  ∀ rest gone, Tracks g (contextOf peer ++ rest) gone →
    Tracks g' (contextOf peer' ++ rest) (gone ++ calls.filterMap destroyedBy)

theorem Keeps.refl : Keeps g peer g peer [] := by
  intro rest gone tracks
  simpa using tracks

theorem createRtcdcTransport_keeps {role : PeerRole} {ret : Int} (absent : peer.transport = none)
    (created : createRtcdcTransport g peer role env = (ret, g', peer', calls)) :
    Keeps g peer g' peer' calls := by
  intro rest gone tracks
  have nobody : contextOf peer = [] := by simp [contextOf, absent]
  rw [nobody, List.nil_append] at tracks
  rcases createRtcdcTransport_cases created with
    ⟨_, rfl, same, rfl⟩ | ⟨ctx, g₁, g₂, contextCalls, sctpCalls, acquired, same, silent, unwound | done⟩
  · have still : contextOf peer' = [] := by
      rcases same with rfl | rfl
      · exact nobody
      · rfl
    simpa [still] using tracks
  · obtain ⟨counted, silent'⟩ := tracks.acquire acquired
    simp only [dtlsNullErr, Prod.mk.injEq] at unwound
    obtain ⟨_, rfl, rfl, rfl⟩ := unwound
    rw [List.filterMap_append, List.filterMap_append, silent', silent]
    exact (counted.same same).release
  · obtain ⟨counted, silent'⟩ := tracks.acquire acquired
    obtain ⟨transport, _, rfl, rfl, rfl, rfl⟩ := done
    rw [List.filterMap_append, silent', silent, List.append_nil, List.append_nil]
    exact counted.same same

theorem ensureTransport_keeps {found : Option Transport}
    (ensured : ensureTransport g peer env = (found, g', peer', calls)) :
    Keeps g peer g' peer' calls ∧ found = peer'.transport ∧
      (creationFails g peer env = true → found = none) := by
  unfold ensureTransport at ensured
  split at ensured
  · rename_i transport stored
    obtain ⟨rfl, rfl, rfl, rfl⟩ : some transport = found ∧ g = g' ∧ peer = peer' ∧ [] = calls := by
      simpa using ensured
    exact ⟨.refl, stored.symm, by simp [creationFails, stored]⟩
  · rename_i absent
    generalize created : createRtcdcTransport g peer .client env = result at ensured
    obtain ⟨ret, g₁, peer₁, made⟩ := result
    simp only [Prod.mk.injEq] at ensured
    obtain ⟨rfl, rfl, rfl, rfl⟩ := ensured
    refine ⟨?_, ?_, ?_⟩
    · intro rest gone tracks
      exact createRtcdcTransport_keeps absent created rest gone tracks
    · split_ifs with failed
      · exact (createRtcdcTransport_failed absent created failed).symm
      · rfl
    · intro fails
      simp only [creationFails, created, Bool.and_eq_true, decide_eq_true_eq] at fails
      rw [if_pos fails.2]

theorem generate_keeps {env : TransportEnv} {text : Transport → Connection → Option CString}
    {sdp : Option CString}
    (called : (match ensureTransport g peer env with
      | (none, g, peer, calls) => some (none, g, peer, calls)
      | (some transport, g, peer, calls) =>
          (text transport peer).map fun sdp => (some sdp, g, peer, calls)) =
        some (sdp, g', peer', calls)) :
    Keeps g peer g' peer' calls ∧ (creationFails g peer env = true → peer'.transport = none) := by
  split at called
  · rename_i ensured
    obtain ⟨_, rfl, rfl, rfl⟩ : none = sdp ∧ _ = g' ∧ _ = peer' ∧ _ = calls := by simpa using called
    obtain ⟨kept, found, fails⟩ := ensureTransport_keeps ensured
    exact ⟨kept, fun failed => found.symm.trans (fails failed)⟩
  · rename_i ensured
    obtain ⟨written, _, equal⟩ := Option.map_eq_some_iff.mp called
    obtain ⟨_, rfl, rfl, rfl⟩ : some written = sdp ∧ _ = g' ∧ _ = peer' ∧ _ = calls := by
      simpa using equal
    obtain ⟨kept, found, fails⟩ := ensureTransport_keeps ensured
    exact ⟨kept, fun failed => found.symm.trans (fails failed)⟩

theorem rtcdcGenerateOfferSdp_keeps {env : OfferEnv} {sdp : Option CString}
    (called : rtcdcGenerateOfferSdp g peer env = some (sdp, g', peer', calls)) :
    Keeps g peer g' peer' calls ∧
      (creationFails g peer env.transport = true → peer'.transport = none) := by
  unfold rtcdcGenerateOfferSdp at called
  exact generate_keeps called

theorem rtcdcGenerateLocalCandidateSdp_keeps {env : OfferEnv} {sdp : Option CString}
    (called : rtcdcGenerateLocalCandidateSdp g peer env = some (sdp, g', peer', calls)) :
    Keeps g peer g' peer' calls ∧
      (creationFails g peer env.transport = true → peer'.transport = none) := by
  unfold rtcdcGenerateLocalCandidateSdp at called
  exact generate_keeps called

theorem rtcdcParseOfferSdp_keeps {env : ParseEnv} {offer : Option CString} {ret : Int}
    (called : rtcdcParseOfferSdp g peer offer env = some (ret, g', peer', calls)) :
    Keeps g peer g' peer' calls ∧
      ((offer.isSome && creationFails g peer env.transport) = true → peer'.transport = none) := by
  unfold rtcdcParseOfferSdp at called
  cases offer with
  | none =>
      obtain ⟨_, rfl, rfl, rfl⟩ : -1 = ret ∧ g = g' ∧ peer = peer' ∧ [] = calls := by
        simpa using called
      exact ⟨.refl, by simp⟩
  | some offer =>
      simp only at called
      split at called
      · rename_i ensured
        obtain ⟨_, rfl, rfl, rfl⟩ : -1 = ret ∧ _ = g' ∧ _ = peer' ∧ _ = calls := by
          simpa using called
        obtain ⟨kept, found, fails⟩ := ensureTransport_keeps ensured
        exact ⟨kept, fun failed => found.symm.trans (fails (by simpa using failed))⟩
      · rename_i transport g₁ peer₁ made ensured
        obtain ⟨⟨port, role, buf⟩, _, equal⟩ := Option.map_eq_some_iff.mp called
        obtain ⟨_, rfl, rfl, rfl⟩ : _ = ret ∧ _ = g' ∧ _ = peer' ∧ _ = calls := by simpa using equal
        obtain ⟨kept, found, fails⟩ := ensureTransport_keeps ensured
        refine ⟨?_, fun failed => ?_⟩
        · intro rest gone tracks
          have same : contextOf peer₁ = [transport.ctx] := by simp [contextOf, ← found]
          have after := kept rest gone tracks
          rw [same] at after
          exact after
        · have nothing : some transport = none := fails (by simpa using failed)
          cases nothing

theorem rtcdcDestroyPeerConnection_keeps {finish : Nat → Bool}
    (tracks : Tracks g (contextOf peer ++ rest) gone)
    (called : rtcdcDestroyPeerConnection g peer finish = (g', calls)) :
    Tracks g' rest (gone ++ calls.filterMap destroyedBy) := by
  unfold rtcdcDestroyPeerConnection destroyRtcdcTransport at called
  cases stored : peer.transport with
  | none =>
      simp only [stored, Prod.mk.injEq] at called
      obtain ⟨rfl, rfl⟩ := called
      simpa [contextOf, stored] using tracks
  | some transport =>
      simp only [stored, Prod.mk.injEq] at called
      obtain ⟨rfl, rfl⟩ := called
      have held : contextOf peer = [transport.ctx] := by simp [contextOf, stored]
      rw [held] at tracks
      obtain ⟨same, silent⟩ := destroySctpTransport_context
        (Prod.mk.eta (p := destroySctpTransport g (some transport.sctp) finish)).symm
      rw [List.filterMap_append, silent]
      exact (tracks.same same).release

variable {s next : Process} {events emitted : List Event} {i : Nat}

theorem users_middle (before after : List (Option Connection)) (slot : Option Connection) :
    (users (before ++ slot :: after)).Perm
      (slot.toList.flatMap contextOf ++ (users before ++ users after)) := by
  rw [users, List.flatMap_append, List.flatMap_cons]
  exact List.perm_append_comm_assoc _ _ _

theorem users_others (found : s.peer i = some peer) : ∃ rest : List DtlsContext,
    (users s.peers).Perm (contextOf peer ++ rest) ∧
      ∀ g next, (users (s.after i g next).peers).Perm (next.toList.flatMap contextOf ++ rest) := by
  obtain ⟨slot, here, rfl⟩ := Option.bind_eq_some_iff.mp found
  obtain ⟨inside, same⟩ := List.getElem?_eq_some_iff.mp here
  refine ⟨users (s.peers.take i) ++ users (s.peers.drop (i + 1)), ?_, fun g next => ?_⟩
  · have whole : s.peers = s.peers.take i ++ some peer :: s.peers.drop (i + 1) := by
      rw [show some peer = s.peers[i] from same.symm, List.cons_getElem_drop_succ,
        List.take_append_drop]
    have split := users_middle (s.peers.take i) (s.peers.drop (i + 1)) (some peer)
    rw [← whole] at split
    simpa using split
  · rw [Process.after]
    simp only
    rw [List.set_eq_take_append_cons_drop, if_pos inside]
    exact users_middle _ _ next

structure Inv (s : Process) (events : List Event) : Prop where
  tracks : Tracks s.globals (users s.peers) (destroyedIn events)

theorem start_inv : Inv start [] :=
  ⟨⟨rfl, by simp [start, users], fun _ => rfl, by simp [start], by simp [destroyedIn]⟩⟩

theorem destroyedIn_append (events : List Event) (calls : List LibraryCall) (failed : Bool) :
    destroyedIn (events ++ eventsOf calls i failed) =
      destroyedIn events ++ calls.filterMap destroyedBy := by
  have last : destroyedIn (if failed then [.creationFailed i] else []) = [] := by
    cases failed <;> rfl
  have each : destroyedIn (calls.map Event.library) = calls.filterMap destroyedBy := by
    rw [destroyedIn, List.filterMap_map]
    rfl
  rw [destroyedIn, List.filterMap_append, eventsOf, List.filterMap_append]
  change destroyedIn events ++ (destroyedIn (calls.map Event.library) ++
    destroyedIn (if failed then [.creationFailed i] else [])) = _
  rw [each, last, List.append_nil]

theorem Keeps.inv {failed : Bool} (kept : Keeps s.globals peer g' peer' calls) (inv : Inv s events)
    (found : s.peer i = some peer) :
    Inv (s.after i g' (some peer')) (events ++ eventsOf calls i failed) := by
  obtain ⟨rest, now, later⟩ := users_others found
  have after := kept rest _ (inv.tracks.perm now)
  refine ⟨?_⟩
  rw [destroyedIn_append]
  exact after.perm (by simpa using (later g' (some peer')).symm)

theorem step_cases {call : Call} (moved : step s call = some (next, emitted)) :
    (emitted = [] ∧ next.globals = s.globals ∧ users next.peers = users s.peers) ∨
      ∃ i peer calls, s.peer i = some peer ∧
        ((∃ g' peer' failed, Keeps s.globals peer g' peer' calls ∧
            (failed = true → peer'.transport = none) ∧
            next = s.after i g' (some peer') ∧ emitted = eventsOf calls i failed) ∨
          ∃ g' finish, rtcdcDestroyPeerConnection s.globals peer finish = (g', calls) ∧
            next = s.after i g' none ∧ emitted = eventsOf calls i false) := by
  cases call with
  | create resolved calloc =>
      obtain ⟨rfl, rfl⟩ := Prod.mk.inj (Option.some.inj moved)
      refine .inl ⟨rfl, rfl, ?_⟩
      cases resolved && calloc <;> simp [users, contextOf, rtcdcCreatePeerConnection]
  | generateOffer i env =>
      obtain ⟨peer, found, called⟩ := Option.bind_eq_some_iff.mp moved
      obtain ⟨⟨_, g', peer', calls⟩, returned, equal⟩ := Option.map_eq_some_iff.mp called
      obtain ⟨rfl, rfl⟩ := Prod.mk.inj equal
      obtain ⟨kept, fails⟩ := rtcdcGenerateOfferSdp_keeps returned
      exact .inr ⟨i, peer, calls, found, .inl ⟨g', peer', _, kept, fails, rfl, rfl⟩⟩
  | generateLocalCandidate i env =>
      obtain ⟨peer, found, called⟩ := Option.bind_eq_some_iff.mp moved
      obtain ⟨⟨_, g', peer', calls⟩, returned, equal⟩ := Option.map_eq_some_iff.mp called
      obtain ⟨rfl, rfl⟩ := Prod.mk.inj equal
      obtain ⟨kept, fails⟩ := rtcdcGenerateLocalCandidateSdp_keeps returned
      exact .inr ⟨i, peer, calls, found, .inl ⟨g', peer', _, kept, fails, rfl, rfl⟩⟩
  | parseOffer i offer env =>
      obtain ⟨peer, found, called⟩ := Option.bind_eq_some_iff.mp moved
      obtain ⟨⟨_, g', peer', calls⟩, returned, equal⟩ := Option.map_eq_some_iff.mp called
      obtain ⟨rfl, rfl⟩ := Prod.mk.inj equal
      obtain ⟨kept, fails⟩ := rtcdcParseOfferSdp_keeps returned
      exact .inr ⟨i, peer, calls, found, .inl ⟨g', peer', _, kept, fails, rfl, rfl⟩⟩
  | destroy i finish =>
      obtain ⟨peer, found, equal⟩ := Option.map_eq_some_iff.mp moved
      obtain ⟨rfl, rfl⟩ := Prod.mk.inj equal
      exact .inr ⟨i, peer, _, found, .inr ⟨_, finish, rfl, rfl, rfl⟩⟩

theorem step_inv {call : Call} (inv : Inv s events) (moved : step s call = some (next, emitted)) :
    Inv next (events ++ emitted) := by
  rcases step_cases moved with ⟨rfl, globals, same⟩ | ⟨i, peer, calls, found,
    ⟨g', peer', failed, kept, _, rfl, rfl⟩ | ⟨g', finish, destroyed, rfl, rfl⟩⟩
  · refine ⟨?_⟩
    rw [List.append_nil, globals, same]
    exact inv.tracks
  · exact kept.inv inv found
  · obtain ⟨rest, now, later⟩ := users_others found
    have after := rtcdcDestroyPeerConnection_keeps (inv.tracks.perm now) destroyed
    refine ⟨?_⟩
    rw [destroyedIn_append]
    exact after.perm (by simpa using (later g' none).symm)

theorem Inv.counted (inv : Inv s events) : Counted s events where
  count := inv.tracks.count
  context := by
    constructor
    · intro held
      exact List.length_pos_iff.mpr fun nobody => held (inv.tracks.unused nobody)
    · intro somebody
      obtain ⟨ctx, member⟩ := List.exists_mem_of_length_pos somebody
      rw [inv.tracks.current ctx member]
      simp
  destroyed := by
    intro ctx gone member
    exact (inv.tracks.gone ctx gone).2 (inv.tracks.current ctx member)

theorem peer_after (found : s.peer i = some peer) (g : Globals) (slot : Option Connection) :
    (s.after i g slot).peer i = slot := by
  obtain ⟨_, here, _⟩ := Option.bind_eq_some_iff.mp found
  obtain ⟨inside, _⟩ := List.getElem?_eq_some_iff.mp here
  simp [Process.peer, Process.after, inside]

theorem creationFailed_mem {calls : List LibraryCall} {i j : Nat} {failed : Bool}
    (member : .creationFailed j ∈ eventsOf calls i failed) : j = i ∧ failed = true := by
  unfold eventsOf at member
  cases failed with
  | false => simp at member
  | true => simpa using member

theorem failed_without_transport {call : Call} (moved : step s call = some (next, emitted))
    (member : .creationFailed i ∈ emitted) :
    ∃ peer, next.peer i = some peer ∧ peer.transport = none := by
  rcases step_cases moved with ⟨rfl, _⟩ | ⟨j, peer, calls, found,
    ⟨g', peer', failed, _, absent, rfl, rfl⟩ | ⟨g', finish, _, rfl, rfl⟩⟩
  · cases member
  · obtain ⟨rfl, failed⟩ := creationFailed_mem member
    exact ⟨peer', peer_after found _ _, absent failed⟩
  · exact absurd (creationFailed_mem member).2 (by decide)

/-- After each call the count is the number of live transports, the context is there exactly while
there are any, no destroyed context is in use, and a failed creation has left no transport. -/
theorem contexts_counted {calls : List Call} (run : Run step start calls s events) :
    Counted s events ∧
      ∀ call next emitted i, step s call = some (next, emitted) → .creationFailed i ∈ emitted →
        ∃ peer, next.peer i = some peer ∧ peer.transport = none :=
  ⟨(run.invariant Inv start_inv fun _ _ _ _ _ inv _ moved => step_inv inv moved).counted,
    fun _ _ _ _ moved failed => failed_without_transport moved failed⟩

def offerEnv (ice : Bool) : OfferEnv where
  transport :=
    { calloc := true
      context := some (Vector.replicate 32 0)
      dtls := true
      sctp :=
        { calloc := true
          rand := 0
          socket := true
          incomingBio := true
          outgoingBio := true
          finish := true }
      ice := ice
      finish := fun _ => true }
  rands := fun _ => 0
  lsdp := CString.empty

def oneOfTwo : List Call :=
  [.create true true, .create true true, .generateOffer 0 (offerEnv true),
    .generateOffer 1 (offerEnv false), .destroy 0 fun _ => true]

theorem oneOfTwo_counted :
    ∃ last events, Run step start oneOfTwo last events ∧ .creationFailed 1 ∈ events ∧
      Counted last events := by
  have moved : ((exec step start oneOfTwo).map fun last =>
      decide (Event.creationFailed 1 ∈ last.2)) = some true := by decide +kernel
  obtain ⟨⟨last, events⟩, taken, failed⟩ := Option.map_eq_some_iff.mp moved
  have run := exec_run taken
  exact ⟨last, events, run, of_decide_eq_true failed, (contexts_counted run).1⟩

end Librtcdc.Contexts
