import Librtcdc.Peer.Offers
import Librtcdc.Peer.Roles

set_option autoImplicit false

namespace Librtcdc.OfferAnswer

open Systems Offers

def sdpLines (transport : Transport) (client : Bool) (env : OfferEnv) : List CString :=
  localSdpLines transport client (randomNumberString env.rands sessionIdSize) env.lsdp

def facing (transport other : Transport) : Transport :=
  { transport with sctp := { transport.sctp with remotePort := other.sctp.localPort.val } }

variable {g g' : Globals} {peer peer' : Connection} {transport other : Transport}
  {calls : List LibraryCall} {client : Bool} {env : OfferEnv}

theorem agentText_append (first second : List CString) :
    agentText (first ++ second) = agentText first ++ agentText second := by
  induction first with
  | nil => exact Subtype.ext rfl
  | cons line rest ih =>
      apply Subtype.ext
      have head : (agentText (line :: rest)).val = (line ++ lineFeed).val ++ (agentText rest).val := rfl
      have joined : (agentText (line :: rest ++ second)).val =
          (line ++ lineFeed).val ++ (agentText (rest ++ second)).val := rfl
      rw [joined, ih, CString.append_val (agentText (line :: rest)), head, List.append_assoc]
      rfl

theorem generateLocalSdp_short
    (short : (sdpText (sdpLines transport client env)).val.length < bufferSize) :
    generateLocalSdp transport client env.rands env.lsdp =
      some (sdpText (sdpLines transport client env)) :=
  if_pos short

theorem rtcdcGenerateOfferSdp_short
    (made : ensureTransport g peer env.transport = (some transport, g', peer', calls))
    (client_role : decide (peer'.role = .client) = client)
    (short : (sdpText (sdpLines transport client env)).val.length < bufferSize) :
    rtcdcGenerateOfferSdp g peer env =
      some (some (sdpText (sdpLines transport client env)), g', peer', calls) := by
  simp only [rtcdcGenerateOfferSdp, made, client_role, generateLocalSdp_short short,
    Option.map_some]

theorem rtcdcParseOfferSdp_generated {transportEnv : TransportEnv} (agent : CString → Int)
    (made : ensureTransport g peer transportEnv = (some transport, g', peer', calls))
    (short : (sdpText (sdpLines other client env)).val.length < bufferSize) :
    rtcdcParseOfferSdp g peer (some (sdpText (sdpLines other client env))) ⟨transportEnv, agent⟩ =
      some (agent (agentText (sdpLines other client env) ++ lineFeed), g',
        { peer' with
          transport := some (facing transport other)
          role := setupRole peer'.role (if client then lit "active" else lit "passive") },
        calls) := by
  obtain ⟨buf, parsed⟩ := parse_generated transport.sctp.remotePort peer'.role
    (generateLocalSdp_short short)
  have split : (sdpText (sdpLines other client env)).split crlf =
      sdpLines other client env ++ [CString.empty] :=
    sdpText_split localSdpLines_ne_nil localSdpLines_clean
  have text : buf = agentText (sdpLines other client env) ++ lineFeed := by
    rcases parseOfferLines_cases ((sdpText (sdpLines other client env)).split crlf)
        transport.sctp.remotePort peer'.role CString.empty (by decide) with
      ⟨_, whole⟩ | ⟨_, nothing⟩
    · rw [parsed, split, agentText_append] at whole
      have handed := (Prod.mk.inj (Prod.mk.inj (Option.some.inj whole)).2).2
      split_ifs at handed
      rw [Option.some.inj handed]
      exact Subtype.ext rfl
    · rw [parsed] at nothing
      cases nothing
  simp only [rtcdcParseOfferSdp, made, parsed, Option.map_some, text]
  rfl

def localPort (peer : Connection) : Option Int :=
  peer.transport.map fun transport => (transport.sctp.localPort.val : Int)

structure Agreed (first second : Connection) : Prop where
  firstPort : ∃ port, localPort second = some port ∧ remotePort first = some port
  secondPort : ∃ port, localPort first = some port ∧ remotePort second = some port
  firstRole : first.role = .client
  secondRole : second.role = .server

theorem fresh_made {transportEnv : TransportEnv}
    (made : ensureTransport g rtcdcCreatePeerConnection transportEnv =
      (some transport, g', peer', calls)) :
    peer'.transport = some transport ∧ peer'.role = .client := by
  have found := (Contexts.ensureTransport_keeps made).2.1
  have there : peer'.transport ≠ none := by
    rw [← found]
    exact nofun
  exact ⟨found.symm, (Roles.ensureTransport_role made).2 rfl there⟩

theorem ensureTransport_there (transportEnv : TransportEnv)
    (there : peer.transport = some transport) :
    ensureTransport g peer transportEnv = (some transport, g, peer, []) := by
  simp only [ensureTransport, there]

/-- One offer and one answer between fresh peers, in one process or in two: the static variables
at each call are any. -/
theorem offer_answer_agree {g₁ g₁' g₂ g₂' : Globals} (g₃ g₄ : Globals) {first second : Connection}
    {t₁ t₂ : Transport} {calls₁ calls₂ : List LibraryCall} (offerEnv answerEnv : OfferEnv)
    (parseOffer parseAnswer : ParseEnv)
    (firstMade : ensureTransport g₁ rtcdcCreatePeerConnection offerEnv.transport =
      (some t₁, g₁', first, calls₁))
    (secondMade : ensureTransport g₂ rtcdcCreatePeerConnection parseOffer.transport =
      (some t₂, g₂', second, calls₂))
    (offerShort : (sdpText (sdpLines t₁ true offerEnv)).val.length < bufferSize)
    (answerShort : (sdpText (sdpLines t₂ false answerEnv)).val.length < bufferSize) :
    ∃ first' second',
      rtcdcGenerateOfferSdp g₁ rtcdcCreatePeerConnection offerEnv =
        some (some (sdpText (sdpLines t₁ true offerEnv)), g₁', first, calls₁) ∧
      rtcdcParseOfferSdp g₂ rtcdcCreatePeerConnection
          (some (sdpText (sdpLines t₁ true offerEnv))) parseOffer =
        some (parseOffer.agent (agentText (sdpLines t₁ true offerEnv) ++ lineFeed), g₂', second',
          calls₂) ∧
      rtcdcGenerateOfferSdp g₃ second' answerEnv =
        some (some (sdpText (sdpLines t₂ false answerEnv)), g₃, second', []) ∧
      rtcdcParseOfferSdp g₄ first (some (sdpText (sdpLines t₂ false answerEnv))) parseAnswer =
        some (parseAnswer.agent (agentText (sdpLines t₂ false answerEnv) ++ lineFeed), g₄, first',
          []) ∧
      Agreed first' second' := by
  obtain ⟨firstThere, firstRole⟩ := fresh_made firstMade
  obtain ⟨_, secondRole⟩ := fresh_made secondMade
  have active : setupRole second.role (lit "active") = .server := by
    rw [secondRole]
    decide +kernel
  have passive : setupRole first.role (lit "passive") = .client := by
    rw [firstRole]
    decide +kernel
  let second' : Connection :=
    { second with
      transport := some (facing t₂ t₁)
      role := setupRole second.role (lit "active") }
  have answering : ensureTransport g₃ second' answerEnv.transport =
      (some (facing t₂ t₁), g₃, second', []) := ensureTransport_there _ rfl
  have server : decide (second'.role = .client) = false := by
    have role : second'.role = .server := active
    rw [role]
    rfl
  have same : sdpLines (facing t₂ t₁) false answerEnv = sdpLines t₂ false answerEnv := rfl
  have answered := rtcdcGenerateOfferSdp_short answering server (same ▸ answerShort)
  rw [same] at answered
  refine ⟨_, second', rtcdcGenerateOfferSdp_short firstMade (by rw [firstRole]; rfl) offerShort,
    rtcdcParseOfferSdp_generated parseOffer.agent secondMade offerShort,
    answered,
    rtcdcParseOfferSdp_generated parseAnswer.agent
      (ensureTransport_there parseAnswer.transport firstThere) answerShort, ?_⟩
  exact ⟨⟨_, rfl, rfl⟩, ⟨_, rfl, rfl⟩, passive, active⟩

def emptyGlobals : Globals where
  dtlsContext := none
  contextRef := 0
  sctpRef := 0
  created := 0

def offerEnv : OfferEnv where
  transport := { sampleEnv with context := some sampleTransport.ctx.digest }
  rands := id
  lsdp := lit "a=ice-ufrag:A:B\na=ice-pwd:c d\n"

theorem sample_agree :
    ∃ offer g second' calls first',
      rtcdcParseOfferSdp sampleGlobals rtcdcCreatePeerConnection (some offer)
        ⟨sampleEnv, fun _ => 0⟩ = some (0, g, second', calls) ∧ Agreed first' second' := by
  have firstMade : ensureTransport emptyGlobals rtcdcCreatePeerConnection offerEnv.transport =
      (some sampleTransport, sampleGlobals, samplePeer,
        [.createContext sampleTransport.ctx, .usrsctpInit, .usrsctpSocket]) := by decide +kernel
  have secondMade : ensureTransport sampleGlobals rtcdcCreatePeerConnection sampleEnv =
      (some sampleTransport, { sampleGlobals with contextRef := 2, sctpRef := 2 }, samplePeer,
        [.usrsctpSocket]) := by decide +kernel
  obtain ⟨first', second', _, parsed, _, _, agreed⟩ :=
    offer_answer_agree sampleGlobals sampleGlobals offerEnv offerEnv ⟨sampleEnv, fun _ => 0⟩
      ⟨sampleEnv, fun _ => 0⟩ firstMade secondMade (by decide +kernel) (by decide +kernel)
  exact ⟨_, _, second', _, first', parsed, agreed⟩

end Librtcdc.OfferAnswer
