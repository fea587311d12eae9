import Librtcdc.Peer.Contexts
import Librtcdc.Peer.Rtcdc

set_option autoImplicit false

namespace Librtcdc.Roles

open Systems

inductive Party where
  | first | second
  deriving DecidableEq, Repr

def Party.other : Party → Party
  | .first => .second
  | .second => .first

@[simp] theorem Party.other_other (p : Party) : p.other.other = p := by
  cases p <;> rfl

theorem Party.other_ne (p : Party) : p.other ≠ p := by
  cases p <;> decide

theorem Party.eq_or_other (p q : Party) : q = p ∨ q = p.other := by
  cases p <;> cases q <;> decide

-- The peers may live in one process or in two: a process has its own static variables.
variable {Process : Type}

structure Negotiation (Process : Type) where
  globals : Process → Globals
  peers : Party → Connection
  -- the SDP that each party generated last, with its role at that moment
  latest : Party → Option (CString × PeerRole)
  -- whether each party has parsed an SDP of the other
  parsed : Party → Bool

inductive Action where
  | generate (party : Party) (env : OfferEnv)
  | parse (party : Party) (env : ParseEnv)

def statedBy (sdp : Option CString) (role : PeerRole) (before : Option (CString × PeerRole)) :
    Option (CString × PeerRole) :=
  match sdp with
  | some text => some (text, role)
  | none => before

variable [DecidableEq Process] (process : Party → Process) in
def step : Step (Negotiation Process) Action LibraryCall
  | x, .generate p env =>
      (rtcdcGenerateOfferSdp (x.globals (process p)) (x.peers p) env).map
        fun (sdp, globals, peer, calls) =>
          ({ globals := Function.update x.globals (process p) globals
             peers := Function.update x.peers p peer
             latest := Function.update x.latest p (statedBy sdp peer.role (x.latest p))
             parsed := x.parsed }, calls)
  | x, .parse p env =>
      (x.latest p.other).bind fun offer =>
        (rtcdcParseOfferSdp (x.globals (process p)) (x.peers p) (some offer.1) env).map
          fun (_, globals, peer, calls) =>
            ({ globals := Function.update x.globals (process p) globals
               peers := Function.update x.peers p peer
               latest := x.latest
               parsed := Function.update x.parsed p (x.parsed p || peer.transport.isSome) }, calls)

structure Fresh (x : Negotiation Process) : Prop where
  peers : ∀ p, x.peers p = rtcdcCreatePeerConnection
  latest : ∀ p, x.latest p = none
  parsed : ∀ p, x.parsed p = false

def Opposite (a b : PeerRole) : Prop :=
  (a = .client ∧ b = .server) ∨ (a = .server ∧ b = .client)

instance (a b : PeerRole) : Decidable (Opposite a b) := inferInstanceAs (Decidable (_ ∨ _))

def Complementary (x : Negotiation Process) (_ : List LibraryCall) : Prop :=
  (∀ p, x.parsed p = true) → Opposite (x.peers .first).role (x.peers .second).role

-- The SDP to parse states the role that its sender has.
def Current (x : Negotiation Process) : Action → Prop
  | .generate .. => True
  | .parse p _ => ∀ text role, x.latest p.other = some (text, role) → role = (x.peers p.other).role

instance (x : Negotiation Process) (action : Action) : Decidable (Current x action) :=
  match action with
  | .generate .. => isTrue trivial
  | .parse p _ =>
      match offered : x.latest p.other with
      | none => isTrue fun text role found => by rw [offered] at found; cases found
      | some (text, role) =>
          decidable_of_iff (role = (x.peers p.other).role)
            ⟨fun same _ _ found => by rw [offered] at found; cases found; exact same,
              fun current => current text role offered⟩

def Decided (role : PeerRole) : Prop := role = .client ∨ role = .server

theorem Opposite.symm {a b : PeerRole} (opposite : Opposite a b) : Opposite b a := by
  rcases opposite with ⟨ha, hb⟩ | ⟨ha, hb⟩
  · exact .inr ⟨hb, ha⟩
  · exact .inl ⟨hb, ha⟩

theorem opposite_either {x : Negotiation Process} (p : Party) :
    Opposite (x.peers p).role (x.peers p.other).role ↔
      Opposite (x.peers .first).role (x.peers .second).role := by
  cases p with
  | first => exact Iff.rfl
  | second => exact ⟨Opposite.symm, Opposite.symm⟩

theorem opposite_of_ne {a b c : PeerRole} (opposite : Opposite a b) (decided : Decided c)
    (differ : b ≠ c) : c = a := by
  rcases opposite with ⟨rfl, rfl⟩ | ⟨rfl, rfl⟩ <;> rcases decided with rfl | rfl
  · rfl
  · exact absurd rfl differ
  · exact absurd rfl differ
  · rfl

theorem Opposite.ne {a b : PeerRole} (opposite : Opposite a b) : a ≠ b := by
  rcases opposite with ⟨rfl, rfl⟩ | ⟨rfl, rfl⟩ <;> decide

def States (text : CString) (role : PeerRole) : Prop :=
  ∃ transport rands lsdp, generateLocalSdp transport (role = .client) rands lsdp = some text

theorem setupRole_opposite {role stated : PeerRole} (decided : Decided role)
    (decided' : Decided stated) :
    Opposite (setupRole role (if stated = .client then lit "active" else lit "passive")) stated := by
  rcases decided with rfl | rfl <;> rcases decided' with rfl | rfl <;> decide +kernel

theorem opposite_parities {a b a' b' : RtcdcPeerConnection} {pc pc' : StartupPc}
    {associated associated' : Bool} {effects effects' : List Effect}
    (opposite : Opposite a.role b.role)
    (moved : startupThread a .setCursor associated = some (a', pc, effects))
    (moved' : startupThread b .setCursor associated' = some (b', pc', effects')) :
    ∃ transport transport', a'.transport = some transport ∧ b'.transport = some transport' ∧
      transport.sctp.streamCursor % 2 ≠ transport'.sctp.streamCursor % 2 := by
  obtain ⟨_, _, _, transport, _, stored, _, ⟨_, _, cursor⟩ | ⟨other, _⟩⟩ := startupThread_cases moved
  · obtain ⟨_, _, _, transport', _, stored', _, ⟨_, _, cursor'⟩ | ⟨other, _⟩⟩ :=
      startupThread_cases moved'
    · refine ⟨transport, transport', stored, stored', ?_⟩
      rw [cursor, cursor']
      rcases opposite with ⟨client, server⟩ | ⟨server, client⟩ <;> simp [client, server]
    · exact absurd rfl other
  · exact absurd rfl other

variable {g g' : Globals} {peer peer' : Connection} {calls : List LibraryCall}

theorem ensureTransport_role {env : TransportEnv} {found : Option Transport}
    (ensured : ensureTransport g peer env = (found, g', peer', calls)) :
    (peer.transport ≠ none → peer' = peer) ∧
      (peer.transport = none → peer'.transport ≠ none → peer'.role = .client) := by
  unfold ensureTransport at ensured
  split at ensured
  · rename_i transport stored
    simp only [Prod.mk.injEq] at ensured
    exact ⟨fun _ => ensured.2.2.1.symm, fun absent => by rw [absent] at stored; cases stored⟩
  · rename_i absent
    generalize created : createRtcdcTransport g peer .client env = result at ensured
    obtain ⟨ret, g₁, peer₁, made⟩ := result
    simp only [Prod.mk.injEq] at ensured
    obtain ⟨_, rfl, rfl, rfl⟩ := ensured
    refine ⟨fun there => absurd absent there, fun _ there => ?_⟩
    rcases Contexts.createRtcdcTransport_cases created with
      ⟨rfl, _⟩ | ⟨_, _, _, _, _, _, _, _, unwound | ⟨_, _, _, _, rfl, _⟩⟩
    · exact absurd (Contexts.createRtcdcTransport_failed absent created (by decide)) there
    · simp only [dtlsNullErr, Prod.mk.injEq] at unwound
      obtain ⟨_, _, rfl, _⟩ := unwound
      exact absurd rfl there
    · rfl

theorem rtcdcGenerateOfferSdp_role {env : OfferEnv} {sdp : Option CString}
    (called : rtcdcGenerateOfferSdp g peer env = some (sdp, g', peer', calls)) :
    (peer.transport ≠ none → peer' = peer) ∧
      (peer.transport = none → peer'.transport ≠ none → peer'.role = .client) ∧
      ∀ text, sdp = some text → peer'.transport ≠ none ∧ States text peer'.role := by
  unfold rtcdcGenerateOfferSdp at called
  split at called
  · rename_i ensured
    obtain ⟨rfl, rfl, rfl, rfl⟩ : none = sdp ∧ _ = g' ∧ _ = peer' ∧ _ = calls := by
      simpa using called
    obtain ⟨kept, new⟩ := ensureTransport_role ensured
    exact ⟨kept, new, by simp⟩
  · rename_i transport _ _ _ ensured
    obtain ⟨text, generated, equal⟩ := Option.map_eq_some_iff.mp called
    obtain ⟨rfl, rfl, rfl, rfl⟩ : some text = sdp ∧ _ = g' ∧ _ = peer' ∧ _ = calls := by
      simpa using equal
    obtain ⟨kept, new⟩ := ensureTransport_role ensured
    have found := (Contexts.ensureTransport_keeps ensured).2.1
    refine ⟨kept, new, fun same text_eq => ⟨by simp [← found], ?_⟩⟩
    obtain rfl := Option.some.inj text_eq
    exact ⟨transport, env.rands, env.lsdp, generated⟩

theorem rtcdcParseOfferSdp_role {env : ParseEnv} {text : CString} {stated : PeerRole} {ret : Int}
    (called : rtcdcParseOfferSdp g peer (some text) env = some (ret, g', peer', calls))
    (states : States text stated) (decided' : Decided stated)
    (decided : peer.transport ≠ none → Decided peer.role) :
    (peer.transport = none ∧ peer'.transport = none) ∨
      (peer'.transport ≠ none ∧ Opposite peer'.role stated) := by
  unfold rtcdcParseOfferSdp at called
  simp only at called
  split at called
  · rename_i ensured
    obtain ⟨_, rfl, rfl, rfl⟩ : -1 = ret ∧ _ = g' ∧ _ = peer' ∧ _ = calls := by simpa using called
    have found := (Contexts.ensureTransport_keeps ensured).2.1
    refine .inl ⟨?_, found.symm⟩
    by_contra there
    rw [(ensureTransport_role ensured).1 there] at found
    exact there found.symm
  · rename_i transport _ peer₁ _ ensured
    obtain ⟨⟨port, role, buf⟩, parsed, equal⟩ := Option.map_eq_some_iff.mp called
    obtain ⟨_, rfl, rfl, rfl⟩ : _ = ret ∧ _ = g' ∧ _ = peer' ∧ _ = calls := by simpa using equal
    obtain ⟨kept, new⟩ := ensureTransport_role ensured
    have found := (Contexts.ensureTransport_keeps ensured).2.1
    have before : Decided peer₁.role := by
      by_cases absent : peer.transport = none
      · exact .inl (new absent (by simp [← found]))
      · rw [kept absent]
        exact decided absent
    obtain ⟨sender, rands, lsdp, generated⟩ := states
    obtain ⟨buf', expected⟩ := parse_generated transport.sctp.remotePort peer₁.role generated
    rw [expected] at parsed
    simp only [decide_eq_true_eq] at parsed
    obtain ⟨_, rfl, _⟩ : _ = port ∧ _ = role ∧ _ = buf := by simpa using parsed
    exact .inr ⟨by simp, setupRole_opposite before decided'⟩

structure PartyOk (peer : Connection) (offer : Option (CString × PeerRole)) (done : Bool) :
    Prop where
  decided : peer.transport ≠ none → Decided peer.role
  latest : ∀ text role, offer = some (text, role) →
    peer.transport ≠ none ∧ Decided role ∧ States text role
  parsed : done = true → peer.transport ≠ none
  unparsed : done = false → peer.transport ≠ none → peer.role = .client
  stated : done = false → ∀ text role, offer = some (text, role) → role = .client

structure Inv (x : Negotiation Process) : Prop where
  party : ∀ p, PartyOk (x.peers p) (x.latest p) (x.parsed p)
  offered : ∀ p, x.parsed p = true → x.latest p.other ≠ none
  opposite : (∃ p, x.parsed p = true) → Opposite (x.peers .first).role (x.peers .second).role

variable {x next : Negotiation Process} {emitted : List LibraryCall}

theorem fresh_inv (fresh : Fresh x) : Inv x := by
  refine ⟨fun p => ?_, fun p parsed => ?_, fun ⟨p, parsed⟩ => ?_⟩
  · rw [fresh.peers p, fresh.latest p, fresh.parsed p]
    constructor <;> simp [rtcdcCreatePeerConnection]
  · rw [fresh.parsed p] at parsed
    cases parsed
  · rw [fresh.parsed p] at parsed
    cases parsed

theorem Inv.has_transport (inv : Inv x) (somebody : ∃ q, x.parsed q = true) (p : Party) :
    (x.peers p).transport ≠ none := by
  obtain ⟨q, parsed⟩ := somebody
  rcases p.eq_or_other q with rfl | rfl
  · exact (inv.party q).parsed parsed
  · have offered := inv.offered _ parsed
    rw [Party.other_other] at offered
    obtain ⟨offer, found⟩ := Option.ne_none_iff_exists'.mp offered
    exact ((inv.party p).latest offer.1 offer.2 found).1

theorem Inv.not_parsed (inv : Inv x) {p : Party} (absent : (x.peers p).transport = none)
    (q : Party) : x.parsed q = false := by
  by_contra parsed
  exact inv.has_transport ⟨q, by simpa using parsed⟩ p absent

theorem update_party (inv : Inv x) (p : Party) {peer : Connection}
    {offer : Option (CString × PeerRole)} {done : Bool} (mine : PartyOk peer offer done) (q : Party) :
    PartyOk (Function.update x.peers p peer q) (Function.update x.latest p offer q)
      (Function.update x.parsed p done q) := by
  rcases p.eq_or_other q with rfl | rfl
  · simpa using mine
  · simpa [Function.update_of_ne p.other_ne] using inv.party p.other

section Runs

variable [DecidableEq Process] {process : Party → Process}

theorem generate_inv {p : Party} {env : OfferEnv} (inv : Inv x)
    (moved : step process x (.generate p env) = some (next, emitted)) : Inv next := by
  obtain ⟨⟨sdp, globals, peer, calls⟩, called, equal⟩ := Option.map_eq_some_iff.mp moved
  obtain ⟨rfl, rfl⟩ := Prod.mk.inj equal
  obtain ⟨kept, new, states⟩ := rtcdcGenerateOfferSdp_role called
  have party := inv.party p
  have before : PartyOk peer (x.latest p) (x.parsed p) := by
    by_cases absent : (x.peers p).transport = none
    · have nothing : x.latest p = none := by
        by_contra something
        obtain ⟨offer, found⟩ := Option.ne_none_iff_exists'.mp something
        exact (party.latest offer.1 offer.2 found).1 absent
      rw [nothing, inv.not_parsed absent p]
      exact ⟨fun there => .inl (new absent there), by simp, by simp, fun _ => new absent, by simp⟩
    · rw [kept absent]
      exact party
  have mine : PartyOk peer (statedBy sdp peer.role (x.latest p)) (x.parsed p) := by
    cases sdp with
    | none => exact before
    | some text =>
        obtain ⟨there, text_states⟩ := states text rfl
        refine ⟨before.decided, ?_, before.parsed, before.unparsed, ?_⟩
        · rintro _ _ ⟨rfl, rfl⟩
          exact ⟨there, before.decided there, text_states⟩
        · rintro unparsed _ _ ⟨rfl, rfl⟩
          exact before.unparsed unparsed there
  refine ⟨fun q => ?_, fun q parsed => ?_, fun somebody => ?_⟩
  · simpa using update_party inv p mine q
  · have offered := inv.offered q parsed
    rcases p.eq_or_other q.other with here | there
    · simp only [here, Function.update_self]
      rw [here] at offered
      cases sdp with
      | none => exact offered
      | some text => simp [statedBy]
    · simpa only [there, Function.update_of_ne p.other_ne] using offered
  · have same : peer = x.peers p := kept (inv.has_transport somebody p)
    simpa [same] using inv.opposite somebody

theorem parse_cases {p : Party} {env : ParseEnv} (inv : Inv x)
    (moved : step process x (.parse p env) = some (next, emitted)) :
    ∃ text stated peer, x.latest p.other = some (text, stated) ∧
      next.peers = Function.update x.peers p peer ∧ next.latest = x.latest ∧
      next.parsed = Function.update x.parsed p (x.parsed p || peer.transport.isSome) ∧
      (((x.peers p).transport = none ∧ peer.transport = none) ∨
        (peer.transport ≠ none ∧ Opposite peer.role stated)) := by
  obtain ⟨⟨text, stated⟩, offered, called⟩ := Option.bind_eq_some_iff.mp moved
  obtain ⟨⟨ret, globals, peer, calls⟩, returned, equal⟩ := Option.map_eq_some_iff.mp called
  obtain ⟨rfl, rfl⟩ := Prod.mk.inj equal
  obtain ⟨_, decided, states⟩ := (inv.party p.other).latest text stated offered
  exact ⟨text, stated, peer, offered, rfl, rfl, rfl,
    rtcdcParseOfferSdp_role returned states decided (inv.party p).decided⟩

theorem Opposite.decided {a b : PeerRole} (opposite : Opposite a b) : Decided a :=
  opposite.imp And.left And.left

theorem parse_inv {p : Party} {env : ParseEnv} (inv : Inv x) (current : Current x (.parse p env))
    (moved : step process x (.parse p env) = some (next, emitted)) : Inv next := by
  obtain ⟨text, stated, peer, offered, peers, latest, parsed, result⟩ := parse_cases inv moved
  have party := inv.party p
  have others : next.peers p.other = x.peers p.other := by
    rw [peers, Function.update_of_ne p.other_ne]
  rcases result with ⟨absent, still⟩ | ⟨there, opposite⟩
  · -- the creation of the transport failed: nobody has parsed
    have nobody := inv.not_parsed absent
    have same : next.parsed = x.parsed := by
      rw [parsed, still]
      simp
    refine ⟨fun q => ?_, fun q done => ?_, fun ⟨q, done⟩ => ?_⟩
    · rw [same, latest]
      rcases p.eq_or_other q with rfl | rfl
      · rw [peers, Function.update_self, nobody q]
        have before := party
        rw [nobody q] at before
        refine ⟨fun t => absurd still t, fun text role found => ?_, by simp,
          fun _ t => absurd still t, before.stated⟩
        exact absurd absent (before.latest text role found).1
      · rw [others]
        exact inv.party _
    · rw [same, nobody q] at done
      cases done
    · rw [same, nobody q] at done
      cases done
  · have agreed : stated = (x.peers p.other).role := current text stated offered
    have done : (x.parsed p || peer.transport.isSome) = true := by
      simp [Option.isSome_iff_ne_none.mpr there]
    rw [done] at parsed
    refine ⟨fun q => ?_, fun q done => ?_, fun _ => ?_⟩
    · have mine : PartyOk peer (x.latest p) true :=
        ⟨fun _ => opposite.decided, fun text role found =>
          ⟨there, (party.latest text role found).2⟩, fun _ => there, by simp, by simp⟩
      have every := update_party inv p mine q
      rw [peers, latest, parsed]
      simpa using every
    · rw [latest]
      rcases p.eq_or_other q with rfl | rfl
      · simp [offered]
      · rw [parsed, Function.update_of_ne p.other_ne] at done
        exact inv.offered _ done
    · rw [← opposite_either p, others, peers, Function.update_self, ← agreed]
      exact opposite

theorem step_inv {action : Action} (inv : Inv x) (current : Current x action)
    (moved : step process x action = some (next, emitted)) : Inv next := by
  cases action with
  | generate p env => exact generate_inv inv moved
  | parse p env => exact parse_inv inv current moved

theorem stale_parse_fails {action : Action} {events : List LibraryCall} (inv : Inv x)
    (moved : step process x action = some (next, emitted)) (here : Complementary next events) :
    Current x action := by
  cases action with
  | generate => trivial
  | parse p env =>
      intro text role offered
      obtain ⟨text', stated, peer, offered', peers, _, parsed, result⟩ := parse_cases inv moved
      obtain ⟨rfl, rfl⟩ : text = text' ∧ role = stated := by simpa [offered] using offered'
      by_contra differ
      have sender := inv.party p.other
      obtain ⟨there, decided, _⟩ := sender.latest text role offered
      have changed : x.parsed p.other = true := by
        by_contra unparsed
        have unparsed : x.parsed p.other = false := by simpa using unparsed
        rw [sender.stated unparsed text role offered, sender.unparsed unparsed there] at differ
        exact differ rfl
      have mine := inv.has_transport ⟨_, changed⟩ p
      rcases result with ⟨absent, _⟩ | ⟨got, opposite⟩
      · exact mine absent
      · have all (q : Party) : next.parsed q = true := by
          rw [parsed]
          rcases p.eq_or_other q with rfl | rfl
          · simp [Option.isSome_iff_ne_none.mpr got]
          · simpa [Function.update_of_ne p.other_ne] using changed
        have apart := (opposite_either p).mpr (here all)
        rw [peers, Function.update_self, Function.update_of_ne p.other_ne] at apart
        exact apart.ne (opposite_of_ne opposite (sender.decided there) differ).symm

/-- The roles are complementary all along exactly when each parsed SDP states its sender's role. -/
theorem complementary_iff {start s : Negotiation Process} {actions : List Action}
    {calls : List LibraryCall} (fresh : Fresh start) :
    RunIf Current (step process) start actions s calls ↔
      Always Complementary (step process) start actions s calls :=
  runIf_iff_always (fun x _ => Inv x) (fresh_inv fresh)
    (fun _ _ _ _ _ inv current moved => step_inv inv current moved)
    (fun _ _ inv all => inv.opposite ⟨.first, all .first⟩)
    (fun _ _ _ _ _ inv moved here => stale_parse_fails inv moved here)

end Runs

def newPeers : Negotiation Unit where
  globals := fun _ => Contexts.start.globals
  peers := fun _ => rtcdcCreatePeerConnection
  latest := fun _ => none
  parsed := fun _ => false

theorem newPeers_fresh : Fresh newPeers := ⟨fun _ => rfl, fun _ => rfl, fun _ => rfl⟩

def parseEnv : ParseEnv where
  transport := (Contexts.offerEnv true).transport
  agent := fun _ => 0

def offerAnswer : List Action :=
  [.generate .first (Contexts.offerEnv true), .parse .second parseEnv,
    .generate .second (Contexts.offerEnv true), .parse .first parseEnv]

theorem offerAnswer_complementary :
    ∃ last calls, (last.peers .first).role = .client ∧ (last.peers .second).role = .server ∧
      Always Complementary (step fun _ => ()) newPeers offerAnswer last calls := by
  have moved : ((execIf Current (step fun _ => ()) newPeers offerAnswer).map fun last =>
      ((last.1.peers .first).role, (last.1.peers .second).role)) = some (.client, .server) := by
    decide +kernel
  obtain ⟨⟨last, calls⟩, taken, roles⟩ := Option.map_eq_some_iff.mp moved
  obtain ⟨first, second⟩ := Prod.mk.inj roles
  exact ⟨last, calls, first, second,
    (complementary_iff newPeers_fresh).mp (execIf_runIf taken)⟩

def bothOffer : List Action :=
  [.generate .first (Contexts.offerEnv true), .generate .second (Contexts.offerEnv true),
    .parse .first parseEnv, .parse .second parseEnv]

theorem bothOffer_servers :
    ¬ ∀ actions last calls, Run (step fun _ : Party => ()) newPeers actions last calls →
      Complementary last calls := by
  intro law
  have moved : ((exec (step fun _ => ()) newPeers bothOffer).map fun last =>
      ((last.1.parsed .first, last.1.parsed .second),
        ((last.1.peers .first).role, (last.1.peers .second).role))) =
      some ((true, true), (.server, .server)) := by decide +kernel
  obtain ⟨⟨last, calls⟩, taken, ends⟩ := Option.map_eq_some_iff.mp moved
  obtain ⟨done, roles⟩ := Prod.mk.inj ends
  obtain ⟨first, second⟩ := Prod.mk.inj done
  obtain ⟨server, server'⟩ := Prod.mk.inj roles
  have opposite := law _ _ _ (exec_run taken) (by
    intro p
    cases p
    · exact first
    · exact second)
  exact opposite.ne (server.trans server'.symm)

end Librtcdc.Roles
