import Librtcdc.Peer.Offers
import Librtcdc.Sync.Candidates

set_option autoImplicit false

namespace Librtcdc.Sync

open Systems

-- An agent of libnice with its stream: what it makes of a line, and what a call of
-- `nice_agent_set_remote_candidates` returns and does.
structure NiceAgent (Agent Candidate : Type) where
  parseRemoteCandidateSdp : CString → Option Candidate
  setRemoteCandidates : Agent → Nat → List Candidate → Int × Agent

section Definitions

variable {Agent Candidate : Type} (nice : NiceAgent Agent Candidate)

-- sdp.c; the list's length stands where libnice takes the id of a component.
def parseRemoteCandidateSdp (agent : Agent) (candidates : Option CString) : Int × Agent :=
  match candidates with
  | none => (-1, agent)
  | some candidates =>
      let list := (candidates.split crlf).filterMap nice.parseRemoteCandidateSdp
      nice.setRemoteCandidates agent list.length list

-- rtcdc.c
def rtcdcParseCandidateSdp (peer : Option Librtcdc.Connection) (agent : Agent)
    (candidates : Option CString) : Int × Agent :=
  match peer.bind Librtcdc.Connection.transport with
  | none => (-1, agent)
  | some _ => parseRemoteCandidateSdp nice agent candidates

-- sy_rtcdc.c: `parse_candidates` with its calls, whose results it drops.
def passCandidates (peer : Librtcdc.Connection) (agent : Agent) (candidates : Bytes) :
    Except MemoryFault Agent := do
  let lines ← parseCandidates candidates
  return lines.foldl (fun agent line =>
    (rtcdcParseCandidateSdp nice (some peer) agent (some ⟨cText line, cText_nulFree line⟩)).2) agent

def NiceAgent.addEach (agent : Agent) (candidates : List Candidate) : Agent :=
  candidates.foldl (fun agent candidate => (nice.setRemoteCandidates agent 1 [candidate]).2) agent

-- libnice takes no line for a candidate that does not begin as one, and a stream that was added
-- with one component has no other.
structure NiceAgent.OneComponent : Prop where
  recognised : ∀ line candidate, nice.parseRemoteCandidateSdp line = some candidate →
    hasPrefix line.val (lit "a=candidate:").val = true
  component : ∀ agent componentId candidates, componentId ≠ 1 →
    nice.setRemoteCandidates agent componentId candidates = (-1, agent)

end Definitions

variable {Agent Candidate : Type} {nice : NiceAgent Agent Candidate} {agent : Agent}
  {peer : Librtcdc.Connection} {line : CString} {lines candidates : List CString} {lsdp : CString}

theorem NiceAgent.OneComponent.empty (one : nice.OneComponent) :
    nice.parseRemoteCandidateSdp CString.empty = none := by
  cases parsed : nice.parseRemoteCandidateSdp CString.empty with
  | none => rfl
  | some candidate =>
      have begins := one.recognised CString.empty candidate parsed
      have not : hasPrefix CString.empty.val (lit "a=candidate:").val = false := by decide +kernel
      rw [not] at begins
      cases begins

theorem split_line (clean : 10 ∉ line.val) :
    line.split crlf = if line = CString.empty then [] else [line] := by
  have vals : (line.split crlf).map Subtype.val =
      (if line = CString.empty then [] else [line]).map Subtype.val := by
    rw [CString.split_vals, strsplit]
    by_cases empty : line = CString.empty
    · subst empty
      rfl
    · have present : line.val ≠ [] := fun same => empty (Subtype.ext same)
      have whole : splitFrom ([13] ++ [10]) 0 [] line.val = [[] ++ line.val] := splitFrom_last clean
      rw [if_neg present, if_neg empty]
      exact whole
  exact List.map_injective_iff.mpr Subtype.val_injective vals

theorem rtcdcParseCandidateSdp_line (one : nice.OneComponent) (there : peer.transport.isSome)
    (clean : 10 ∉ line.val) :
    (rtcdcParseCandidateSdp nice (some peer) agent (some line)).2 =
      nice.addEach agent (nice.parseRemoteCandidateSdp line).toList := by
  obtain ⟨transport, stored⟩ := Option.isSome_iff_exists.mp there
  simp only [rtcdcParseCandidateSdp, Option.bind_some, stored, parseRemoteCandidateSdp,
    split_line clean]
  by_cases empty : line = CString.empty
  · subst empty
    rw [if_pos rfl, one.empty, List.filterMap_nil, List.length_nil,
      one.component agent 0 [] Nat.zero_ne_one]
    rfl
  · rw [if_neg empty, List.filterMap_cons, List.filterMap_nil]
    cases nice.parseRemoteCandidateSdp line with
    | none => exact congrArg Prod.snd (one.component agent 0 [] Nat.zero_ne_one)
    | some candidate => rfl

theorem passLines (one : nice.OneComponent) (there : peer.transport.isSome)
    (clean : ∀ line ∈ lines, 10 ∉ line.val) :
    (lines.map Subtype.val).foldl (fun agent line => (rtcdcParseCandidateSdp nice (some peer) agent
        (some ⟨cText line, cText_nulFree line⟩)).2) agent =
      nice.addEach agent (lines.filterMap nice.parseRemoteCandidateSdp) := by
  induction lines generalizing agent with
  | nil => rfl
  | cons line rest ih =>
      rw [List.forall_mem_cons] at clean
      have text : (⟨cText line.val, cText_nulFree line.val⟩ : CString) = line :=
        Subtype.ext (cText_of_nulFree line.2)
      rw [List.map_cons, List.foldl_cons, text, rtcdcParseCandidateSdp_line one there clean.1,
        ih clean.2, List.filterMap_cons]
      cases nice.parseRemoteCandidateSdp line <;> rfl

theorem gathered_pass (one : nice.OneComponent) (there : peer.transport.isSome) (agent : Agent)
    (clean : ∀ candidate ∈ candidates, newline ∉ candidate.val)
    (short : ∀ candidate ∈ candidates, candidate.val.length < candidateLineSize)
    (fits : (candidateLines candidates).length < sdpSize) :
    ∃ localCandidates, gatherCandidates candidates = .ok localCandidates ∧ ∀ rest,
      passCandidates nice peer agent (cText localCandidates ++ 0 :: rest) =
        .ok (nice.addEach agent (candidates.filterMap nice.parseRemoteCandidateSdp)) := by
  have empty : Gathered (List.replicate sdpSize 0) [] :=
    ⟨List.length_replicate, List.mem_replicate.mpr ⟨by decide, rfl⟩, cText_append_zeros [] sdpSize⟩
  obtain ⟨buffer, gathered, filled⟩ := gather_gathered empty List.not_mem_nil fits
  refine ⟨buffer, gathered, fun rest => ?_⟩
  have text : cText buffer = candidateLines candidates := filled.text
  have parsed : parseCandidates (candidateLines candidates ++ 0 :: rest) =
      .ok (candidates.map Subtype.val) := parse_candidateLines clean short
  rw [passCandidates, text, parsed]
  exact congrArg Except.ok (passLines one there clean)

theorem sdpText_length (lines : List CString) :
    (sdpText lines).val.length = (candidateLines lines).length + lines.length := by
  induction lines with
  | nil => rfl
  | cons line rest ih =>
      have text : (sdpText (line :: rest)).val = (line ++ crlf).val ++ (sdpText rest).val := rfl
      have gathered : candidateLines (line :: rest) =
          line.val ++ [newline] ++ candidateLines rest := List.flatMap_cons
      simp only [text, gathered, crlf, CString.append_val, List.length_append, List.length_cons,
        List.length_nil, ih]
      omega

theorem rtcdcParseCandidateSdp_whole (one : nice.OneComponent) (there : peer.transport.isSome)
    (clean : ∀ line ∈ lines, 10 ∉ line.val) :
    rtcdcParseCandidateSdp nice (some peer) agent (some (sdpText lines)) =
      nice.setRemoteCandidates agent (lines.filterMap nice.parseRemoteCandidateSdp).length
        (lines.filterMap nice.parseRemoteCandidateSdp) := by
  have list : ((sdpText lines).split crlf).filterMap nice.parseRemoteCandidateSdp =
      lines.filterMap nice.parseRemoteCandidateSdp := by
    cases lines with
    | nil => rfl
    | cons line rest =>
        have last : [CString.empty].filterMap nice.parseRemoteCandidateSdp = [] := by
          rw [List.filterMap_cons, one.empty, List.filterMap_nil]
        rw [sdpText_split (List.cons_ne_nil line rest) clean, List.filterMap_append, last,
          List.append_nil]
  obtain ⟨transport, stored⟩ := Option.isSome_iff_exists.mp there
  simp only [rtcdcParseCandidateSdp, Option.bind_some, stored, parseRemoteCandidateSdp, list]

theorem generateLocalCandidateSdp_fits
    (fits : (candidateLines (linesWith [lit "a=candidate:"] lsdp)).length < sdpSize) :
    generateLocalCandidateSdp lsdp = some (sdpText (linesWith [lit "a=candidate:"] lsdp)) := by
  refine if_pos ?_
  have number : ∀ lines : List CString, lines.length ≤ (candidateLines lines).length := by
    intro lines
    rw [candidateLines_length]
    induction lines with
    | nil => exact Nat.le_refl 0
    | cons line rest ih =>
        rw [List.map_cons, List.sum_cons, List.length_cons]
        omega
  have lines := number (linesWith [lit "a=candidate:"] lsdp)
  rw [sdpText_length]
  simp only [sdpSize, bufferSize] at fits ⊢
  omega

/-- Gathered and passed on line by line, every candidate that the other side's agent takes for one
is added there, once and in order. The whole text in one call leaves the agent as that does exactly
when there is at most one, unless they would change nothing. -/
theorem whole_agrees_iff (one : nice.OneComponent) (there : peer.transport.isSome) (agent : Agent)
    (lsdp : CString)
    (short : ∀ line ∈ linesWith [lit "a=candidate:"] lsdp, line.val.length < candidateLineSize)
    (fits : (candidateLines (linesWith [lit "a=candidate:"] lsdp)).length < sdpSize) :
    let found := (linesWith [lit "a=candidate:"] lsdp).filterMap nice.parseRemoteCandidateSdp
    ∃ localCandidates sdp,
      gatherCandidates (linesWith [lit "a=candidate:"] lsdp) = .ok localCandidates ∧
      generateLocalCandidateSdp lsdp = some sdp ∧
      (∀ rest, passCandidates nice peer agent (cText localCandidates ++ 0 :: rest) =
        .ok (nice.addEach agent found)) ∧
      ((rtcdcParseCandidateSdp nice (some peer) agent (some sdp)).2 = nice.addEach agent found ↔
        found.length ≤ 1 ∨ nice.addEach agent found = agent) := by
  intro found
  obtain ⟨localCandidates, gathered, passed⟩ :=
    gathered_pass one there agent linesWith_clean short fits
  refine ⟨localCandidates, _, gathered, generateLocalCandidateSdp_fits fits, passed, ?_⟩
  rw [rtcdcParseCandidateSdp_whole one there linesWith_clean]
  change (nice.setRemoteCandidates agent found.length found).2 = _ ↔ _
  rcases found with _ | ⟨candidate, _ | ⟨next, more⟩⟩
  · simp [one.component agent 0 [] Nat.zero_ne_one, NiceAgent.addEach]
  · simp [NiceAgent.addEach]
  · have several : (candidate :: next :: more).length ≠ 1 := by simp
    rw [one.component agent _ _ several]
    simp [eq_comm]

def listing : NiceAgent (List CString) CString where
  parseRemoteCandidateSdp line :=
    if hasPrefix line.val (lit "a=candidate:").val then some line else none
  setRemoteCandidates agent componentId candidates :=
    if componentId = 1 then (candidates.length, agent ++ candidates) else (-1, agent)

theorem listing_oneComponent : listing.OneComponent where
  recognised line candidate parsed := by
    by_contra absent
    have nothing : listing.parseRemoteCandidateSdp line = none := if_neg absent
    rw [nothing] at parsed
    cases parsed
  component agent componentId candidates other := if_neg other

def twoCandidates : CString := lit "a=candidate:1 host\na=mid:data\na=candidate:2 relay\n"

theorem twoCandidates_differ :
    (rtcdcParseCandidateSdp listing (some Offers.samplePeer) []
      (generateLocalCandidateSdp twoCandidates)).2 ≠
        listing.addEach [] [lit "a=candidate:1 host", lit "a=candidate:2 relay"] := by
  have there : Offers.samplePeer.transport.isSome := rfl
  obtain ⟨_, sdp, _, made, _, agrees⟩ := whole_agrees_iff listing_oneComponent there []
    twoCandidates (by decide +kernel) (by decide +kernel)
  have found : (linesWith [lit "a=candidate:"] twoCandidates).filterMap
      listing.parseRemoteCandidateSdp = [lit "a=candidate:1 host", lit "a=candidate:2 relay"] := by
    decide +kernel
  rw [found] at agrees
  rw [made]
  intro same
  rcases agrees.mp same with few | unchanged
  · cases few with
    | step none => cases none
  · cases unchanged

end Librtcdc.Sync
