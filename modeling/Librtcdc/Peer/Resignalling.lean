import Mathlib.Logic.Relation
import Librtcdc.Peer.Offers
import Librtcdc.Peer.Roles

set_option autoImplicit false

namespace Librtcdc.Offers

open Systems Roles

-- Offers parsed one after the other: the last line of a kind decides, whatever was there before.

def statedRole (role : PeerRole) (lines : List CString) : PeerRole :=
  match (setups lines).getLast? with
  | none => role
  | some setup => if setup = lit "active" then .server else .client

def MediaPorts (lines : List CString) : Prop :=
  ∀ line ∈ lines, isMedia line = true → (mediaPort line).any (fun port => decide (0 < port)) = true

instance : DecidablePred MediaPorts := fun _ => inferInstanceAs (Decidable (∀ _ ∈ _, _))

variable {g g' g₁ : Globals} {peer peer' peer₁ : Connection} {transport : Transport}
  {offer : CString} {env : ParseEnv} {calls : List LibraryCall} {lines : List CString}
  {role : PeerRole}

theorem lastRole_stated (decided : Decided role) : lastRole role lines = statedRole role lines := by
  unfold lastRole statedRole
  cases ends : (setups lines).getLast? with
  | none => rfl
  | some setup =>
      have differ : lit "passive" ≠ lit "active" := by decide +kernel
      rcases of_decide_eq_true (setups_change (List.mem_of_getLast? ends)) with rfl | rfl
      · rcases decided with rfl | rfl <;> simp [setupRole, differ.symm]
      · rcases decided with rfl | rfl <;> simp [setupRole, differ]

theorem statedRole_decided (decided : Decided role) : Decided (statedRole role lines) := by
  unfold statedRole
  split
  · exact decided
  · split_ifs
    · exact .inr rfl
    · exact .inl rfl

theorem statedRole_again (role : PeerRole) (lines : List CString) :
    statedRole (statedRole role lines) lines = statedRole role lines := by
  unfold statedRole
  cases (setups lines).getLast? <;> rfl

theorem statedRole_any (stated : setups lines ≠ []) (role other : PeerRole) :
    statedRole role lines = statedRole other lines := by
  obtain ⟨setup, ends⟩ := Option.ne_none_iff_exists'.mp (mt List.getLast?_eq_none_iff.mp stated)
  simp [statedRole, ends]

theorem lastPort_again (port : Int) (lines : List CString) :
    lastPort (lastPort port lines) lines = lastPort port lines := by
  unfold lastPort
  cases (ports lines).getLast? <;> rfl

theorem lastPort_any (named : ports lines ≠ []) (port other : Int) :
    lastPort port lines = lastPort other lines := by
  obtain ⟨last, ends⟩ := Option.ne_none_iff_exists'.mp (mt List.getLast?_eq_none_iff.mp named)
  simp [lastPort, ends]

theorem MediaPorts.port {line : CString} (media : MediaPorts lines) (member : line ∈ lines)
    (isMediaLine : isMedia line = true) : ∃ port, mediaPort line = some port ∧ 0 < port := by
  obtain ⟨port, found, positive⟩ := (Option.any_eq_true _ _).mp (media line member isMediaLine)
  exact ⟨port, found, of_decide_eq_true positive⟩

theorem MediaPorts.seen (media : MediaPorts lines) : seen lines = lines := by
  apply List.takeWhile_eq_self_iff.mpr
  intro line member
  cases isMediaLine : isMedia line with
  | false => simp [refused, isMediaLine]
  | true =>
      obtain ⟨port, found, positive⟩ := media.port member isMediaLine
      simpa [refused, isMediaLine, found] using positive

theorem MediaPorts.readable_iff (media : MediaPorts lines) :
    Readable 0 lines ↔ filled lines < bufferSize := by
  constructor
  · intro readable
    have room := readable.room
    rwa [media.seen, Nat.zero_add] at room
  · intro room
    refine ⟨fun line member isMediaLine => ?_, by rwa [media.seen, Nat.zero_add]⟩
    rw [media.seen] at member
    obtain ⟨port, found, _⟩ := media.port member isMediaLine
    rw [found]
    exact nofun

def portOf (peer : Connection) : Int :=
  (remotePort peer).getD 0

theorem createSctpTransport_port {attached : Bool} {env : SctpEnv} {sctp : SctpEndpoint}
    (created : createSctpTransport g attached env = (some sctp, g', calls)) :
    sctp.remotePort = 0 := by
  unfold createSctpTransport at created
  dsimp only at created
  split_ifs at created
  · cases created
  · obtain rfl := Option.some.inj (Prod.mk.inj created).1
    rfl
  · cases created

theorem createRtcdcTransport_port {role : PeerRole} {env : TransportEnv} {ret : Int}
    (absent : peer.transport = none)
    (created : createRtcdcTransport g peer role env = (ret, g', peer', calls))
    (there : peer'.transport = some transport) : transport.sctp.remotePort = 0 := by
  have made : (createRtcdcTransport g peer role env).2.2.1.transport = some transport := by
    rw [created]
    exact there
  unfold createRtcdcTransport at made
  split at made
  · rw [absent] at made
    cases made
  · split at made
    · cases made
    · split at made
      · cases made
      · dsimp only at made
        generalize outcome : createSctpTransport _ true env.sctp = layer at made
        obtain ⟨sctp, g₂, sctpCalls⟩ := layer
        cases sctp with
        | none => cases made
        | some sctp =>
            dsimp only at made
            split_ifs at made
            · cases made
            · obtain rfl := Option.some.inj made
              exact createSctpTransport_port outcome

theorem ensureTransport_some {env : TransportEnv}
    (made : ensureTransport g peer env = (some transport, g', peer', calls)) :
    peer.transport = some transport ∧ peer' = peer ∨
      peer.transport = none ∧ transport.sctp.remotePort = 0 ∧ peer'.role = .client := by
  have found : some transport = peer'.transport := (Contexts.ensureTransport_keeps made).2.1
  have client := (ensureTransport_role made).2
  unfold ensureTransport at made
  split at made
  · rename_i stored
    simp only [Prod.mk.injEq] at made
    obtain ⟨same, rfl, rfl, rfl⟩ := made
    exact .inl ⟨stored.trans same, rfl⟩
  · rename_i absent
    generalize created : createRtcdcTransport g peer .client env = result at made
    obtain ⟨ret, g₂, peer₂, creating⟩ := result
    simp only [Prod.mk.injEq] at made
    obtain ⟨_, rfl, rfl, rfl⟩ := made
    refine .inr ⟨absent, createRtcdcTransport_port absent created found.symm, client absent ?_⟩
    rw [← found]
    exact nofun

theorem ensureTransport_none {env : TransportEnv}
    (failed : ensureTransport g peer env = (none, g', peer', calls)) : peer'.transport = none :=
  (Contexts.ensureTransport_keeps failed).2.1.symm

theorem ensureTransport_decided {env : TransportEnv} {found : Option Transport}
    (ensured : ensureTransport g peer env = (found, g', peer', calls))
    (decided : Decided peer.role) : Decided peer'.role := by
  unfold ensureTransport at ensured
  split at ensured
  · simp only [Prod.mk.injEq] at ensured
    rw [← ensured.2.2.1]
    exact decided
  · generalize created : createRtcdcTransport g peer .client env = result at ensured
    obtain ⟨ret, g₂, peer₂, creating⟩ := result
    simp only [Prod.mk.injEq] at ensured
    obtain ⟨_, rfl, rfl, rfl⟩ := ensured
    rcases Contexts.createRtcdcTransport_cases created with
      ⟨_, _, rfl | rfl, _⟩ | ⟨_, _, _, _, _, _, _, _, unwound | ⟨_, _, _, _, rfl, _⟩⟩
    · exact decided
    · exact .inl rfl
    · simp only [dtlsNullErr, Prod.mk.injEq] at unwound
      rw [← unwound.2.2.1]
      exact .inl rfl
    · exact .inl rfl

theorem rtcdcParseOfferSdp_failed
    (failed : ensureTransport g peer env.transport = (none, g', peer', calls)) :
    rtcdcParseOfferSdp g peer (some offer) env = some (-1, g', peer', calls) := by
  simp only [rtcdcParseOfferSdp, failed]

theorem rtcdcParseOfferSdp_made {ret : Int} {g₂ : Globals} {made : List LibraryCall}
    (ensured : ensureTransport g peer env.transport = (some transport, g₂, peer₁, made))
    (returned : rtcdcParseOfferSdp g peer (some offer) env = some (ret, g', peer', calls)) :
    Readable 0 (offer.split crlf) ∧
      peer'.role = lastRole peer₁.role (seen (offer.split crlf)) ∧
      remotePort peer' = some (lastPort transport.sctp.remotePort (seen (offer.split crlf))) := by
  by_cases readable : Readable 0 (offer.split crlf)
  · rw [rtcdcParseOfferSdp_readable env.agent ensured readable] at returned
    obtain ⟨_, _, rfl, _⟩ := by simpa using returned
    exact ⟨readable, rfl, rfl⟩
  · rw [rtcdcParseOfferSdp_unreadable env.agent ensured readable] at returned
    cases returned

theorem rtcdcParseOfferSdp_decided {ret : Int} (decided : Decided peer.role)
    (returned : rtcdcParseOfferSdp g peer (some offer) env = some (ret, g', peer', calls)) :
    Decided peer'.role := by
  rcases ensured : ensureTransport g peer env.transport with ⟨found, g₂, peer₁, made⟩
  have before := ensureTransport_decided ensured decided
  cases found with
  | none =>
      rw [rtcdcParseOfferSdp_failed ensured] at returned
      obtain ⟨_, _, rfl, _⟩ := by simpa using returned
      exact before
  | some transport =>
      obtain ⟨_, role, _⟩ := rtcdcParseOfferSdp_made ensured returned
      rw [role, lastRole_stated before]
      exact statedRole_decided before

def Parses (before after : Globals × Connection) : Prop :=
  ∃ offer env ret calls, rtcdcParseOfferSdp before.1 before.2 (some offer) env =
    some (ret, after.1, after.2, calls)

abbrev ParsesMany : Globals × Connection → Globals × Connection → Prop :=
  Relation.ReflTransGen Parses

theorem ParsesMany.decided {before after : Globals × Connection}
    (parsed : ParsesMany before after) (decided : Decided before.2.role) :
    Decided after.2.role := by
  induction parsed with
  | refl => exact decided
  | tail _ step ih =>
      obtain ⟨_, _, _, _, returned⟩ := step
      exact rtcdcParseOfferSdp_decided ih returned

structure LastWins (g : Globals) (peer : Connection) (offer : CString) (env : ParseEnv)
    (g' : Globals) (peer' : Connection) : Prop where
  returned : ∃ ret calls,
    rtcdcParseOfferSdp g peer (some offer) env = some (ret, g', peer', calls)
  role : peer'.role = statedRole peer.role (offer.split crlf)
  port : remotePort peer' = some (lastPort (portOf peer) (offer.split crlf))
  again : ∀ env', ∃ ret g'' peer'' calls,
    rtcdcParseOfferSdp g' peer' (some offer) env' = some (ret, g'', peer'', calls) ∧
      Untouched peer' peer''
  independent : setups (offer.split crlf) ≠ [] → ports (offer.split crlf) ≠ [] →
    ∀ g₁ peer₁ env₁, ParsesMany (g, peer) (g₁, peer₁) →
      (ensureTransport g₁ peer₁ env₁.transport).1 ≠ none →
      ∃ ret g'' peer'' calls,
        rtcdcParseOfferSdp g₁ peer₁ (some offer) env₁ = some (ret, g'', peer'', calls) ∧
          Untouched peer' peer''

-- The peer has a transport or gets one, it is not a server that becomes the client with its
-- transport, and the offer's lines fit in the buffer.
structure Parsable (g : Globals) (peer : Connection) (offer : CString) (env : ParseEnv) :
    Prop where
  transport : (ensureTransport g peer env.transport).1 ≠ none
  role : peer.transport = none → peer.role = .server → setups (offer.split crlf) ≠ []
  room : filled (offer.split crlf) < bufferSize

theorem Parsable.parse (parsable : Parsable g peer offer env)
    (media : MediaPorts (offer.split crlf)) (decided : Decided peer.role) :
    ∃ ret g' peer' calls, rtcdcParseOfferSdp g peer (some offer) env =
        some (ret, g', peer', calls) ∧
      peer'.role = statedRole peer.role (offer.split crlf) ∧
      remotePort peer' = some (lastPort (portOf peer) (offer.split crlf)) := by
  rcases ensured : ensureTransport g peer env.transport with ⟨found, g₁, peer₁, made⟩
  obtain ⟨transport, rfl⟩ : ∃ transport, found = some transport := by
    have there := parsable.transport
    rw [ensured] at there
    exact Option.ne_none_iff_exists'.mp there
  refine ⟨_, _, _, _, rtcdcParseOfferSdp_readable env.agent ensured
    (media.readable_iff.mpr parsable.room), ?_⟩
  rw [media.seen]
  have before := ensureTransport_decided ensured decided
  rcases ensureTransport_some ensured with ⟨stored, rfl⟩ | ⟨absent, fresh, client⟩
  · refine ⟨lastRole_stated decided, ?_⟩
    simp [remotePort, portOf, stored]
  · constructor
    · have stated : lastRole peer₁.role (offer.split crlf) = _ := lastRole_stated before
      rcases decided with same | server
      · rw [same, ← client]
        exact stated
      · exact stated.trans (statedRole_any (parsable.role absent server) _ _)
    · simp [remotePort, portOf, absent, fresh]

theorem remotePort_there {port : Int} (known : remotePort peer = some port) :
    ∃ transport, peer.transport = some transport ∧ portOf peer = port := by
  obtain ⟨transport, stored, _⟩ := Option.map_eq_some_iff.mp known
  exact ⟨transport, stored, by rw [portOf, known, Option.getD_some]⟩

theorem parsable_there (stored : peer.transport = some transport)
    (room : filled (offer.split crlf) < bufferSize) : Parsable g peer offer env where
  transport := by
    rw [ensureTransport, stored]
    exact Option.some_ne_none transport
  role absent := by
    rw [stored] at absent
    cases absent
  room := room

theorem Parsable.lastWins (parsable : Parsable g peer offer env)
    (media : MediaPorts (offer.split crlf)) (decided : Decided peer.role) :
    ∃ g' peer', LastWins g peer offer env g' peer' := by
  obtain ⟨ret, g', peer', calls, returned, role, port⟩ := parsable.parse media decided
  refine ⟨g', peer', ⟨ret, calls, returned⟩, role, port, ?_, ?_⟩
  · intro env'
    obtain ⟨transport, stored, known⟩ := remotePort_there port
    have parsable' : Parsable g' peer' offer env' := parsable_there stored parsable.room
    have decided' := rtcdcParseOfferSdp_decided decided returned
    obtain ⟨_, _, _, _, returned', role', port'⟩ := parsable'.parse media decided'
    refine ⟨_, _, _, _, returned', ?_, ?_⟩
    · rw [role', role, statedRole_again]
    · rw [port', known, port, lastPort_again]
  · intro stated named g₁ peer₁ env₁ parsed there
    have parsable₁ : Parsable g₁ peer₁ offer env₁ := ⟨there, fun _ _ => stated, parsable.room⟩
    have decided₁ : Decided peer₁.role := parsed.decided decided
    obtain ⟨_, _, _, _, returned₁, role₁, port₁⟩ := parsable₁.parse media decided₁
    refine ⟨_, _, _, _, returned₁, ?_, ?_⟩
    · rw [role₁, role]
      exact statedRole_any stated _ _
    · rw [port₁, port]
      exact congrArg some (lastPort_any named _ _)

theorem LastWins.parsable (wins : LastWins g peer offer env g' peer')
    (media : MediaPorts (offer.split crlf)) : Parsable g peer offer env := by
  obtain ⟨ret, calls, returned⟩ := wins.returned
  have port := wins.port
  rcases ensured : ensureTransport g peer env.transport with ⟨found, g₁, peer₁, made⟩
  cases found with
  | none =>
      rw [rtcdcParseOfferSdp_failed ensured] at returned
      obtain ⟨_, _, rfl, _⟩ := by simpa using returned
      rw [remotePort, ensureTransport_none ensured] at port
      cases port
  | some transport =>
      obtain ⟨readable, role, _⟩ := rtcdcParseOfferSdp_made ensured returned
      refine ⟨?_, fun absent server unstated => ?_, media.readable_iff.mp readable⟩
      · rw [ensured]
        exact Option.some_ne_none transport
      · rcases ensureTransport_some ensured with ⟨stored, _⟩ | ⟨_, _, client⟩
        · rw [stored] at absent
          cases absent
        · have expected := wins.role
          rw [role, media.seen, client, server, lastRole, statedRole, unstated] at expected
          cases expected

/-- The last role and the last port win exactly where there is a transport to put them into and the
offer's lines fit in the buffer. -/
theorem lastWins_iff_parsable (media : MediaPorts (offer.split crlf))
    (decided : Decided peer.role) :
    (∃ g' peer', LastWins g peer offer env g' peer') ↔ Parsable g peer offer env := by
  constructor
  · rintro ⟨g', peer', wins⟩
    exact wins.parsable media
  · intro parsable
    exact parsable.lastWins media decided

def activeOn5000 : CString := lit "m=application 1 DTLS/SCTP 5000\r\na=setup:active"

theorem activeOn5000_wins : ∃ g' peer',
    LastWins sampleGlobals samplePeer activeOn5000 ⟨sampleEnv, fun _ => 0⟩ g' peer' := by
  have parsable : Parsable sampleGlobals samplePeer activeOn5000 ⟨sampleEnv, fun _ => 0⟩ :=
    { transport := Option.some_ne_none _
      role := by
        intro absent
        cases absent
      room := by decide +kernel }
  exact (lastWins_iff_parsable (by decide +kernel) (.inl rfl)).mpr parsable

def longOffer : CString :=
  ⟨List.replicate bufferSize 97, fun nul => by cases (List.mem_replicate.mp nul).2⟩

theorem longOffer_split : longOffer.split crlf = [longOffer] := by
  have present : longOffer.val ≠ [] := by
    intro empty
    have length : longOffer.val.length = bufferSize := List.length_replicate
    rw [empty] at length
    exact absurd length (by decide)
  have clean : 10 ∉ longOffer.val := fun member => by cases (List.mem_replicate.mp member).2
  have vals : (longOffer.split crlf).map Subtype.val = [longOffer.val] := by
    have words : crlf.val = [13] ++ [10] := rfl
    rw [CString.split_vals, words, strsplit, if_neg present, splitFrom_last clean,
      List.nil_append]
  obtain ⟨line, whole, same⟩ := List.map_eq_singleton_iff.mp vals
  rw [whole, Subtype.ext same]

theorem longOffer_fails :
    ¬∀ (g : Globals) (peer : Connection) (offer : CString) (env : ParseEnv),
      MediaPorts (offer.split crlf) → Decided peer.role →
        ∃ g' peer', LastWins g peer offer env g' peer' := by
  intro law
  have plain : isMedia longOffer = false := by
    rw [← Bool.not_eq_true]
    intro starts
    have first : 109 ∈ longOffer.val :=
      (List.isPrefixOf_iff_prefix.mp starts).subset (by decide +kernel)
    cases (List.mem_replicate.mp first).2
  have media : MediaPorts (longOffer.split crlf) := by
    rw [longOffer_split]
    intro line member isMediaLine
    rw [List.mem_singleton.mp member, plain] at isMediaLine
    cases isMediaLine
  obtain ⟨g', peer', wins⟩ :=
    law sampleGlobals samplePeer longOffer ⟨sampleEnv, fun _ => 0⟩ media (.inl rfl)
  have room := (wins.parsable media).room
  rw [longOffer_split] at room
  have length : filled [longOffer] = bufferSize + 1 := by
    rw [filled, List.map_singleton, List.sum_singleton]
    exact congrArg (· + 1) List.length_replicate
  omega

end Librtcdc.Offers
