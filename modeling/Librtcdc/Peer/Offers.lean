import Librtcdc.Peer.Sdp

set_option autoImplicit false

namespace Librtcdc.Offers

open Systems

def isMedia (line : CString) : Bool := hasPrefix line.val (lit "m=application").val

def isSetup (line : CString) : Bool := hasPrefix line.val (lit "a=setup:").val

-- `none` when there is no fourth column or its number is no `int`.
def mediaPort (line : CString) : Option Int :=
  (line.split (lit " "))[3]?.bind fun column => atoi column.val

def refused (line : CString) : Bool :=
  isMedia line && (mediaPort line).any fun port => decide (port ≤ 0)

-- The two setups that may change the role; "actpass" and all others do nothing.
def changesRole (setup : CString) : Bool :=
  decide (setup = lit "active" ∨ setup = lit "passive")

def setupOf (line : CString) : Option CString :=
  if isMedia line then none
  else if isSetup line then (line.split (lit ":"))[1]?.filter changesRole
  else none

def seen (lines : List CString) : List CString :=
  lines.takeWhile fun line => !refused line

def agentText (lines : List CString) : CString :=
  CString.concat (lines.map fun line => line ++ lineFeed)

def ports (lines : List CString) : List Int :=
  (lines.filter isMedia).filterMap mediaPort

def setups (lines : List CString) : List CString :=
  lines.filterMap setupOf

def lastPort (port : Int) (lines : List CString) : Int :=
  (ports lines).getLast?.getD port

def lastRole (role : PeerRole) (lines : List CString) : PeerRole :=
  (setups lines).getLast?.elim role (setupRole role)

-- Each media line that the loop comes to has a port, and the buffer has room for the lines that it
-- gets past, after what is written already.
structure Readable (written : Nat) (lines : List CString) : Prop where
  columns : ∀ line ∈ seen lines, isMedia line = true → mediaPort line ≠ none
  room : written + filled (seen lines) < bufferSize

variable {port : Int} {role : PeerRole} {line : CString} {lines rest : List CString}
  {written : Nat}

theorem setup_column (setup : isSetup line = true) :
    ∃ column, (line.split (lit ":"))[1]? = some column := by
  obtain ⟨rest, equal⟩ := List.isPrefixOf_iff_prefix.mp setup
  have colon : (lit ":").val = [] ++ [58] := by decide +kernel
  have words : (lit "a=setup:").val = (lit "a=setup").val ++ ([] ++ [58]) := by decide +kernel
  have vals : (line.split (lit ":")).map Subtype.val =
      (lit "a=setup").val :: splitFrom ([] ++ [58]) 0 [] rest := by
    have present : (lit "a=setup").val ++ ([] ++ [58]) ++ rest ≠ [] := by simp
    rw [CString.split_vals, colon, ← equal, words, strsplit, if_neg present,
      splitFrom_line List.not_mem_nil (by decide +kernel), List.nil_append]
  have length := congrArg List.length vals
  have more : 0 < (splitFrom ([] ++ [58]) 0 [] rest).length :=
    List.length_pos_of_ne_nil splitFrom_ne_nil
  rw [List.length_map, List.length_cons] at length
  exact ⟨_, List.getElem?_eq_getElem (by omega)⟩

theorem setupRole_other (role : PeerRole) {setup : CString} (other : changesRole setup = false) :
    setupRole role setup = role := by
  rw [changesRole, decide_eq_false_iff_not, not_or] at other
  simp [setupRole, other.1, other.2]

theorem setupRole_setupRole (role : PeerRole) {first second : CString}
    (changes : changesRole second = true) :
    setupRole (setupRole role first) second = setupRole role second := by
  have differ : lit "active" ≠ lit "passive" := by decide +kernel
  have roles : setupRole role first = role ∨
      (role = .client ∧ setupRole role first = .server) ∨
      (role = .server ∧ setupRole role first = .client) := by
    unfold setupRole
    split_ifs with active passive
    · exact .inr (.inl ⟨active.2, rfl⟩)
    · exact .inr (.inr ⟨passive.2, rfl⟩)
    · exact .inl rfl
  rcases roles with same | ⟨rfl, changed⟩ | ⟨rfl, changed⟩
  · rw [same]
  all_goals
    rw [changed]
    rcases of_decide_eq_true changes with rfl | rfl <;> simp [setupRole, differ, differ.symm]

theorem setups_change {setup : CString} (member : setup ∈ setups lines) :
    changesRole setup = true := by
  obtain ⟨line, _, told⟩ := List.mem_filterMap.mp member
  unfold setupOf at told
  split_ifs at told
  exact (Option.filter_eq_some_iff.mp told).2

theorem lastPort_cons (port : Int) (line : CString) (rest : List CString) :
    lastPort port (line :: rest) = lastPort (lastPort port [line]) rest := by
  have split : ports (line :: rest) = ports [line] ++ ports rest := by
    rw [ports, ← List.singleton_append, List.filter_append, List.filterMap_append]
    rfl
  rw [lastPort, split, List.getLast?_append]
  cases ends : (ports rest).getLast? <;> simp [lastPort, ends]

theorem lastRole_cons (role : PeerRole) (line : CString) (rest : List CString) :
    lastRole role (line :: rest) = lastRole (lastRole role [line]) rest := by
  have split : setups (line :: rest) = setups [line] ++ setups rest := by
    rw [setups, ← List.singleton_append, List.filterMap_append]
    rfl
  rw [lastRole, split, List.getLast?_append]
  cases ends : (setups rest).getLast? with
  | none => simp [lastRole, ends]
  | some setup =>
      have changes := setups_change (List.mem_of_getLast? ends)
      simp only [lastRole, ends, Option.some_or, Option.elim_some]
      cases (setups [line]).getLast? with
      | none => rfl
      | some first => exact (setupRole_setupRole role changes).symm

theorem parseOfferLine_media (media : isMedia line = true) :
    parseOfferLine port role line =
      (mediaPort line).map fun port => if port ≤ 0 then none else some (port, role) := by
  have branch : hasPrefix line.val (lit "m=application").val = true := media
  rw [parseOfferLine, if_pos branch, mediaPort, Option.map_bind]
  rfl

theorem lastRole_single (role : PeerRole) (line : CString) :
    lastRole role [line] = (setupOf line).elim role (setupRole role) := by
  cases told : setupOf line <;> simp [lastRole, setups, told]

theorem parseOfferLine_other (other : isMedia line = false) :
    parseOfferLine port role line = some (some (port, lastRole role [line])) := by
  have branch : hasPrefix line.val (lit "m=application").val = false := other
  rw [parseOfferLine, branch, if_neg Bool.false_ne_true, lastRole_single, setupOf, other,
    if_neg Bool.false_ne_true]
  by_cases setup : isSetup line = true
  · obtain ⟨column, found⟩ := setup_column setup
    have there : hasPrefix line.val (lit "a=setup:").val = true := setup
    rw [if_pos there, if_pos setup, found]
    cases changes : changesRole column with
    | false => simp [Option.filter, changes, setupRole_other role changes]
    | true => simp [Option.filter, changes]
  · have absent : hasPrefix line.val (lit "a=setup:").val ≠ true := setup
    rw [if_neg absent, if_neg setup]
    rfl

theorem parseOfferLine_refused (stops : refused line = true) :
    parseOfferLine port role line = some none := by
  rw [refused, Bool.and_eq_true, Option.any_eq_true] at stops
  obtain ⟨media, number, found, negative⟩ := stops
  rw [parseOfferLine_media media, found, Option.map_some, if_pos (of_decide_eq_true negative)]

theorem parseOfferLine_seen (passes : refused line = false)
    (column : isMedia line = true → mediaPort line ≠ none) :
    parseOfferLine port role line = some (some (lastPort port [line], lastRole role [line])) := by
  cases media : isMedia line with
  | false =>
      have no_port : ports [line] = [] := by simp [ports, media]
      rw [parseOfferLine_other media, lastPort, no_port]
      rfl
  | true =>
      obtain ⟨number, found⟩ := Option.ne_none_iff_exists'.mp (column media)
      have positive : ¬ number ≤ 0 := by simpa [refused, media, found] using passes
      have one_port : ports [line] = [number] := by simp [ports, media, found]
      have no_setup : setups [line] = [] := by simp [setups, setupOf, media]
      rw [parseOfferLine_media media, found, Option.map_some, if_neg positive, lastPort, one_port,
        lastRole, no_setup]
      rfl

theorem seen_cons_refused (stops : refused line = true) : seen (line :: rest) = [] := by
  simp [seen, stops]

theorem seen_cons_seen (passes : refused line = false) :
    seen (line :: rest) = line :: seen rest := by
  simp [seen, passes]

theorem readable_refused (stops : refused line = true) (room : written < bufferSize) :
    Readable written (line :: rest) := by
  constructor
  · intro l member
    rw [seen_cons_refused stops] at member
    cases member
  · rw [seen_cons_refused stops]
    exact room

theorem readable_cons (passes : refused line = false) :
    Readable written (line :: rest) ↔
      (isMedia line = true → mediaPort line ≠ none) ∧
        Readable (written + (line.val.length + 1)) rest := by
  have all : filled (line :: seen rest) = line.val.length + 1 + filled (seen rest) := by
    simp [filled]
  constructor
  · intro readable
    have columns := readable.columns
    have room := readable.room
    rw [seen_cons_seen passes] at columns room
    exact ⟨columns line List.mem_cons_self,
      fun l later => columns l (List.mem_cons_of_mem _ later), by omega⟩
  · rintro ⟨here, later⟩
    have room := later.room
    constructor <;> rw [seen_cons_seen passes]
    · intro l member
      rcases List.mem_cons.mp member with rfl | inside
      · exact here
      · exact later.columns l inside
    · omega

theorem parseOfferLines_cases (lines : List CString) (port : Int) (role : PeerRole)
    (buf : CString) (room : buf.val.length < bufferSize) :
    (Readable buf.val.length lines ∧
        parseOfferLines port role buf lines =
          some (lastPort port (seen lines), lastRole role (seen lines),
            if lines.any refused then none else some (buf ++ agentText lines))) ∨
      (¬ Readable buf.val.length lines ∧ parseOfferLines port role buf lines = none) := by
  induction lines generalizing port role buf with
  | nil =>
      have same : buf ++ agentText [] = buf := Subtype.ext (List.append_nil _)
      refine .inl ⟨⟨by simp [seen], room⟩, ?_⟩
      rw [List.any_nil, if_neg Bool.false_ne_true, same]
      rfl
  | cons line rest ih =>
      cases stops : refused line with
      | true =>
          refine .inl ⟨readable_refused stops room, ?_⟩
          rw [parseOfferLines, parseOfferLine_refused stops, seen_cons_refused stops,
            List.any_cons, stops]
          rfl
      | false =>
          rw [readable_cons stops]
          by_cases column : isMedia line = true → mediaPort line ≠ none
          · have length : (buf ++ (line ++ lineFeed)).val.length =
                buf.val.length + (line.val.length + 1) := by simp [lineFeed]
            have text : buf ++ (line ++ lineFeed) ++ agentText rest =
                buf ++ agentText (line :: rest) := Subtype.ext (List.append_assoc _ _ _)
            rw [parseOfferLines, parseOfferLine_seen stops column, seen_cons_seen stops,
              lastPort_cons port line (seen rest), lastRole_cons role line (seen rest), List.any_cons,
              stops, Bool.false_or, ← length, ← text]
            by_cases fits : (buf ++ (line ++ lineFeed)).val.length < bufferSize
            · simp only [inBuffer, if_pos fits, Option.bind_some]
              rcases ih (lastPort port [line]) (lastRole role [line]) _ fits with
                ⟨readable, parsed⟩ | ⟨unreadable, parsed⟩
              · exact .inl ⟨⟨column, readable⟩, parsed⟩
              · exact .inr ⟨fun readable => unreadable readable.2, parsed⟩
            · refine .inr ⟨fun readable => ?_, ?_⟩
              · have within := readable.2.room
                omega
              · simp only [inBuffer, if_neg fits, Option.bind_none]
          · have here : isMedia line = true ∧ mediaPort line = none := by
              simpa using column
            refine .inr ⟨fun readable => column readable.1, ?_⟩
            rw [parseOfferLines, parseOfferLine_media here.1, here.2]
            rfl

section Parse

variable {g g' : Globals} {peer peer' : Connection} {transport : Transport} {offer : CString}
  {env : TransportEnv} {calls : List LibraryCall} {ret : Int}

theorem rtcdcParseOfferSdp_readable (agent : CString → Int)
    (made : ensureTransport g peer env = (some transport, g', peer', calls))
    (readable : Readable 0 (offer.split crlf)) :
    rtcdcParseOfferSdp g peer (some offer) ⟨env, agent⟩ =
      some (if (offer.split crlf).any refused then -1 else agent (agentText (offer.split crlf)), g',
        { peer' with
          transport := some { transport with sctp := { transport.sctp with
            remotePort := lastPort transport.sctp.remotePort (seen (offer.split crlf)) } }
          role := lastRole peer'.role (seen (offer.split crlf)) }, calls) := by
  rcases parseOfferLines_cases (offer.split crlf) transport.sctp.remotePort peer'.role
      CString.empty (by decide) with ⟨_, parsed⟩ | ⟨unreadable, _⟩
  · have text : CString.empty ++ agentText (offer.split crlf) = agentText (offer.split crlf) :=
      Subtype.ext (List.nil_append _)
    simp only [rtcdcParseOfferSdp, made, parsed, text, Option.map_some]
    split_ifs <;> rfl
  · exact absurd readable unreadable

theorem rtcdcParseOfferSdp_unreadable (agent : CString → Int)
    (made : ensureTransport g peer env = (some transport, g', peer', calls))
    (unreadable : ¬ Readable 0 (offer.split crlf)) :
    rtcdcParseOfferSdp g peer (some offer) ⟨env, agent⟩ = none := by
  rcases parseOfferLines_cases (offer.split crlf) transport.sctp.remotePort peer'.role
      CString.empty (by decide) with ⟨readable, _⟩ | ⟨_, parsed⟩
  · exact absurd readable unreadable
  · simp only [rtcdcParseOfferSdp, made, parsed, Option.map_none]

-- Whatever libnice makes of the text, the call returns, and what it returns is negative or is what
-- libnice makes of the offer's lines in order, each ended by a newline.
def Safe (g : Globals) (peer : Connection) (offer : CString) (env : TransportEnv) : Prop :=
  ∀ agent, ∃ ret g' peer' calls,
    rtcdcParseOfferSdp g peer (some offer) ⟨env, agent⟩ = some (ret, g', peer', calls) ∧
      (ret < 0 ∨ ret = agent (agentText (offer.split crlf)))

theorem Safe.readable (safe : Safe g peer offer env)
    (made : ensureTransport g peer env = (some transport, g', peer', calls)) :
    Readable 0 (offer.split crlf) := by
  by_contra unreadable
  obtain ⟨_, _, _, _, returned, _⟩ := safe fun _ => 0
  rw [rtcdcParseOfferSdp_unreadable _ made unreadable] at returned
  cases returned

/-- Parsing is safe exactly when no transport can be made, or the offer's lines are readable. -/
theorem safe_iff_readable :
    Safe g peer offer env ↔
      (ensureTransport g peer env).1 = none ∨ Readable 0 (offer.split crlf) := by
  rcases made : ensureTransport g peer env with ⟨transport, g', peer', calls⟩
  cases transport with
  | none =>
      refine ⟨fun _ => .inl rfl, fun _ agent => ⟨-1, g', peer', calls, ?_, .inl (by decide)⟩⟩
      simp only [rtcdcParseOfferSdp, made]
  | some transport =>
      constructor
      · exact fun safe => .inr (safe.readable made)
      · rintro (nothing | readable) agent
        · cases nothing
        · refine ⟨_, _, _, _, rtcdcParseOfferSdp_readable agent made readable, ?_⟩
          split_ifs
          · exact .inl (by decide)
          · exact .inr rfl

def SafetyLaw : Prop :=
  ∀ (g : Globals) (peer : Connection) (offer : CString) (env : TransportEnv),
    Safe g peer offer env

def remotePort (peer : Connection) : Option Int :=
  peer.transport.map fun transport => transport.sctp.remotePort

structure Untouched (peer peer' : Connection) : Prop where
  role : peer'.role = peer.role
  remotePort : remotePort peer' = remotePort peer

structure Accepted (lines : List CString) (agent : CString → Int) : Prop where
  unrefused : lines.any refused = false
  taken : 0 ≤ agent (agentText lines)

structure Restores (port : Int) (role : PeerRole) (lines : List CString) : Prop where
  port : ∀ last, (ports lines).getLast? = some last → last = port
  role : ∀ setup, (setups lines).getLast? = some setup → setupRole role setup = role

theorem restores_iff :
    Restores port role lines ↔ lastPort port lines = port ∧ lastRole role lines = role := by
  unfold lastPort lastRole
  constructor
  · rintro ⟨samePort, sameRole⟩
    constructor
    · cases ends : (ports lines).getLast? with
      | none => rfl
      | some last => exact samePort last ends
    · cases ends : (setups lines).getLast? with
      | none => rfl
      | some setup => exact sameRole setup ends
  · rintro ⟨samePort, sameRole⟩
    constructor
    · intro last ends
      simpa [ends] using samePort
    · intro setup ends
      simpa [ends] using sameRole

/-- An offer that fails leaves no trace exactly when the lines that came before its failure say
last what was there before. -/
theorem failed_untouched_iff {agent : CString → Int} (stored : peer.transport = some transport)
    (returned : rtcdcParseOfferSdp g peer (some offer) ⟨env, agent⟩ =
      some (ret, g', peer', calls)) :
    (ret < 0 → Untouched peer peer') ↔
      Accepted (offer.split crlf) agent ∨
        Restores transport.sctp.remotePort peer.role (seen (offer.split crlf)) := by
  have made : ensureTransport g peer env = (some transport, g, peer, []) := by
    simp only [ensureTransport, stored]
  have readable : Readable 0 (offer.split crlf) := by
    by_contra unreadable
    rw [rtcdcParseOfferSdp_unreadable agent made unreadable] at returned
    cases returned
  rw [rtcdcParseOfferSdp_readable agent made readable] at returned
  simp only [Option.some.injEq, Prod.mk.injEq] at returned
  obtain ⟨rfl, rfl, rfl, rfl⟩ := returned
  have fails : (if (offer.split crlf).any refused then -1 else agent (agentText (offer.split crlf)))
      < 0 ↔ ¬ Accepted (offer.split crlf) agent := by
    split_ifs with stops
    · exact ⟨fun _ accepted => by simp [accepted.unrefused] at stops, fun _ => by decide⟩
    · have all : (offer.split crlf).any refused = false := by simpa using stops
      exact ⟨fun negative accepted => absurd accepted.taken (Int.not_le.mpr negative),
        fun rejected => Int.not_le.mp fun taken => rejected ⟨all, taken⟩⟩
  rw [fails, restores_iff, imp_iff_not_or, not_not]
  refine or_congr_right ⟨fun untouched => ?_, fun ⟨samePort, sameRole⟩ => ⟨sameRole, ?_⟩⟩
  · have samePort := untouched.remotePort
    rw [remotePort, remotePort, stored] at samePort
    exact ⟨Option.some.inj samePort, untouched.role⟩
  · rw [remotePort, remotePort, stored]
    exact congrArg some samePort

end Parse

def sampleTransport : Transport where
  ctx := { number := 0, digest := Vector.replicate 32 0 }
  ice := { negotiationDone := false }
  dtls := { handshakeDone := false }
  sctp :=
    { handshakeDone := false
      deferredMessages := some []
      streamCursor := 0
      localPort := ⟨10000, by decide⟩
      remotePort := 0 }

def samplePeer : Connection where
  transport := some sampleTransport
  initialized := true
  role := .client

def sampleGlobals : Globals where
  dtlsContext := some sampleTransport.ctx
  contextRef := 1
  sctpRef := 1
  created := 1

def sampleEnv : TransportEnv where
  calloc := true
  context := none
  dtls := true
  sctp :=
    { calloc := true, rand := 0, socket := true, incomingBio := true, outgoingBio := true,
      finish := true }
  ice := true
  finish := fun _ => true

theorem short_media_unsafe : ¬ SafetyLaw := by
  intro law
  have made : ensureTransport sampleGlobals samplePeer sampleEnv =
      (some sampleTransport, sampleGlobals, samplePeer, []) := rfl
  have readable := (law _ _ (lit "m=application") _).readable made
  have media : lit "m=application" ∈ seen ((lit "m=application").split crlf) := by decide +kernel
  exact readable.columns _ media (by decide +kernel) (by decide +kernel)

def refusedOffer : CString := lit "m=application 1 DTLS/SCTP 0"

def activeOffer : CString := lit "a=setup:active\r\nm=application 1 DTLS/SCTP 0"

theorem refusedOffer_untouched :
    ∃ peer', rtcdcParseOfferSdp sampleGlobals samplePeer (some refusedOffer)
        ⟨sampleEnv, fun _ => 0⟩ = some (-1, sampleGlobals, peer', []) ∧
      Untouched samplePeer peer' := by
  have returned : rtcdcParseOfferSdp sampleGlobals samplePeer (some refusedOffer)
      ⟨sampleEnv, fun _ => 0⟩ = some (-1, sampleGlobals, samplePeer, []) := by decide +kernel
  have nothing_seen : seen (refusedOffer.split crlf) = [] := by decide +kernel
  refine ⟨samplePeer, returned, (failed_untouched_iff rfl returned).mpr (.inr ?_) (by decide)⟩
  rw [nothing_seen]
  exact ⟨nofun, nofun⟩

def TracelessLaw : Prop :=
  ∀ (g g' : Globals) (peer peer' : Connection) (transport : Transport) (offer : CString)
    (env : ParseEnv) (calls : List LibraryCall) (ret : Int), peer.transport = some transport →
    rtcdcParseOfferSdp g peer (some offer) env = some (ret, g', peer', calls) →
    ret < 0 → Untouched peer peer'

theorem activeOffer_half_applied : ¬ TracelessLaw := by
  intro law
  have returned : rtcdcParseOfferSdp sampleGlobals samplePeer (some activeOffer)
      ⟨sampleEnv, fun _ => 0⟩ =
        some (-1, sampleGlobals, { samplePeer with role := .server }, []) := by decide +kernel
  have untouched := law _ _ _ _ _ _ _ _ _ rfl returned (by decide)
  exact absurd untouched.role (by decide)

end Librtcdc.Offers
