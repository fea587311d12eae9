import Librtcdc.Peer.Establishment

set_option autoImplicit false

namespace Librtcdc.Establishment

open Systems Roles

variable {Process : Type} {p : Party}

def freshView : RtcdcTransport where
  ice := { negotiationDone := false }
  dtls := { handshakeDone := false }
  sctp := { handshakeDone := false, deferredMessages := some [], streamCursor := 0 }

structure Signalled (before after : Connection) : Prop where
  there : ∀ transport, before.transport = some transport → ∃ transport',
    after.transport = some transport' ∧ transportView transport' = transportView transport
  absent : before.transport = none → ∀ transport, after.transport = some transport →
    transportView transport = freshView

theorem Signalled.refl (connection : Connection) : Signalled connection connection where
  there := fun transport stored => ⟨transport, stored, rfl⟩
  absent := fun absent _ there => by
    rw [absent] at there
    cases there

variable {g g' : Globals} {earlier later : Connection} {calls : List LibraryCall}

theorem createSctpTransport_fresh {attached : Bool} {env : SctpEnv} {sctp : SctpEndpoint}
    (created : createSctpTransport g attached env = (some sctp, g', calls)) :
    sctp.toSctpTransport = freshView.sctp := by
  unfold createSctpTransport at created
  dsimp only at created
  split_ifs at created
  · cases created
  · obtain rfl := Option.some.inj (Prod.mk.inj created).1
    rfl
  · cases created

theorem createRtcdcTransport_fresh {role : PeerRole} {env : TransportEnv} {transport : Transport}
    (absent : earlier.transport = none)
    (there : (createRtcdcTransport g earlier role env).2.2.1.transport = some transport) :
    transportView transport = freshView := by
  unfold createRtcdcTransport at there
  split at there
  · rw [absent] at there
    cases there
  · split at there
    · cases there
    · split at there
      · cases there
      · dsimp only at there
        generalize outcome : createSctpTransport _ true env.sctp = layer at there
        obtain ⟨sctp, g₂, sctpCalls⟩ := layer
        cases sctp with
        | none => cases there
        | some sctp =>
            dsimp only at there
            split_ifs at there
            · cases there
            · obtain rfl := Option.some.inj there
              rw [transportView, createSctpTransport_fresh outcome]
              rfl

theorem ensureTransport_signalled {env : TransportEnv} {found : Option Transport}
    (ensured : ensureTransport g earlier env = (found, g', later, calls)) :
    Signalled earlier later := by
  unfold ensureTransport at ensured
  split at ensured
  · simp only [Prod.mk.injEq] at ensured
    obtain ⟨_, _, rfl, _⟩ := ensured
    exact .refl _
  · rename_i absent
    simp only [Prod.mk.injEq] at ensured
    obtain ⟨_, _, rfl, _⟩ := ensured
    refine ⟨fun transport stored => ?_, fun _ transport there => ?_⟩
    · rw [absent] at stored
      cases stored
    · exact createRtcdcTransport_fresh absent there

theorem generate_signalled {env : OfferEnv} {sdp : Option CString}
    (called : rtcdcGenerateOfferSdp g earlier env = some (sdp, g', later, calls)) :
    Signalled earlier later := by
  unfold rtcdcGenerateOfferSdp at called
  split at called
  · rename_i ensured
    obtain ⟨_, _, rfl, _⟩ : _ ∧ _ ∧ _ = later ∧ _ := by simpa using called
    exact ensureTransport_signalled ensured
  · rename_i ensured
    obtain ⟨text, _, same⟩ := Option.map_eq_some_iff.mp called
    obtain ⟨_, _, rfl, _⟩ : _ ∧ _ ∧ _ = later ∧ _ := by simpa using same
    exact ensureTransport_signalled ensured

theorem parse_signalled {env : ParseEnv} {offer : Option CString} {ret : Int}
    (called : rtcdcParseOfferSdp g earlier offer env = some (ret, g', later, calls)) :
    Signalled earlier later := by
  unfold rtcdcParseOfferSdp at called
  split at called
  · obtain ⟨_, _, rfl, _⟩ : _ ∧ _ ∧ _ = later ∧ _ := by simpa using called
    exact .refl _
  · split at called
    · rename_i ensured
      obtain ⟨_, _, rfl, _⟩ : _ ∧ _ ∧ _ = later ∧ _ := by simpa using called
      exact ensureTransport_signalled ensured
    · rename_i transport _ made _ ensured
      obtain ⟨⟨port, role, buf⟩, _, same⟩ := Option.map_eq_some_iff.mp called
      obtain ⟨_, _, rfl, _⟩ : _ ∧ _ ∧ _ = later ∧ _ := by simpa using same
      have found : some transport = made.transport := (Contexts.ensureTransport_keeps ensured).2.1
      obtain ⟨kept, new⟩ := ensureTransport_signalled ensured
      refine ⟨fun old stored => ⟨_, rfl, ?_⟩, fun absent _ there => ?_⟩
      · obtain ⟨transport', there, same⟩ := kept old stored
        obtain rfl : transport = transport' := Option.some.inj (found.trans there)
        exact same
      · obtain rfl := Option.some.inj there
        exact new absent transport found.symm

section Signals

variable {n n' : Negotiation Process} [DecidableEq Process] {process : Party → Process}
  {action : Roles.Action}

theorem signal_signalled (moved : Roles.step process n action = some (n', calls)) :
    ∃ p, n'.peers p.other = n.peers p.other ∧ Signalled (n.peers p) (n'.peers p) ∧
      ∀ q, n.parsed q = true → n'.parsed q = true := by
  cases action with
  | generate p env =>
      obtain ⟨⟨sdp, g', later, calls'⟩, called, same⟩ := Option.map_eq_some_iff.mp moved
      obtain ⟨rfl, rfl⟩ := Prod.mk.inj same
      refine ⟨p, Function.update_of_ne p.other_ne .., ?_, fun q parsed => parsed⟩
      simpa using generate_signalled called
  | parse p env =>
      obtain ⟨offer, _, parsing⟩ := Option.bind_eq_some_iff.mp moved
      obtain ⟨⟨ret, g', later, calls'⟩, called, same⟩ := Option.map_eq_some_iff.mp parsing
      obtain ⟨rfl, rfl⟩ := Prod.mk.inj same
      refine ⟨p, Function.update_of_ne p.other_ne .., ?_, fun q parsed => ?_⟩
      · simpa using parse_signalled called
      · rcases p.eq_or_other q with rfl | rfl
        · simp [parsed]
        · simpa [Function.update_of_ne p.other_ne] using parsed

theorem signal_each (moved : Roles.step process n action = some (n', calls)) (q : Party) :
    Signalled (n.peers q) (n'.peers q) := by
  obtain ⟨p, others, signalled, _⟩ := signal_signalled moved
  rcases p.eq_or_other q with rfl | rfl
  · exact signalled
  · rw [others]
    exact .refl _

theorem opposite_unique {a b c : PeerRole} (first : Opposite a c) (second : Opposite b c) :
    a = b := by
  rcases first with ⟨rfl, rfl⟩ | ⟨rfl, rfl⟩ <;> rcases second with ⟨rfl, same⟩ | ⟨rfl, same⟩ <;>
    first | rfl | cases same

theorem signal_roles (inv : Roles.Inv n) (current : Roles.Current n action)
    (moved : Roles.step process n action = some (n', calls)) (parsed : n.parsed p = true)
    (q : Party) : (n'.peers q).role = (n.peers q).role := by
  obtain ⟨r, others, _, still⟩ := signal_signalled moved
  have opposite := (opposite_either r).mpr (inv.opposite ⟨p, parsed⟩)
  have opposite' := (opposite_either r).mpr
    ((Roles.step_inv inv current moved).opposite ⟨p, still p parsed⟩)
  rw [others] at opposite'
  rcases r.eq_or_other q with rfl | rfl
  · exact opposite_unique opposite' opposite
  · rw [others]

end Signals

end Librtcdc.Establishment
