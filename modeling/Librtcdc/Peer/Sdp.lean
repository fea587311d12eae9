import Librtcdc.Shared.Text
import Librtcdc.Peer.Transport

set_option autoImplicit false

namespace Librtcdc

open Systems

-- common.h

def bufferSize : Nat := 65536
def sessionIdSize : Nat := 16

-- `rands` are the results of the calls of `rand`.
def randomNumberString (rands : Nat → Nat) (len : Nat) : CString :=
  ⟨(List.range len).flatMap fun i => natText (rands i % 10), fun member => by
    obtain ⟨i, _, nul⟩ := List.mem_flatMap.mp member
    exact natText_nulFree _ nul⟩

-- "%02X:" for each byte, with the last colon cut off
def fingerprintBytes (digest : List UInt8) : Bytes :=
  (digest.flatMap fun b => [hexDigit (b / 16), hexDigit (b % 16), 58]).dropLast

theorem hexDigit_plain (b : UInt8) : ∀ c ∈ [hexDigit (b / 16), hexDigit (b % 16), 58],
    c ≠ 0 ∧ c ≠ 10 := by
  have each : ∀ b : UInt8, [hexDigit (b / 16), hexDigit (b % 16), 58].all (fun c =>
      decide (c ≠ 0 ∧ c ≠ 10)) = true := forall_byte (by decide +kernel)
  exact fun c member => of_decide_eq_true (List.all_eq_true.mp (each b) c member)

theorem fingerprintBytes_plain {digest : List UInt8} :
    ∀ c ∈ fingerprintBytes digest, c ≠ 0 ∧ c ≠ 10 := by
  intro c member
  obtain ⟨b, _, digit⟩ := List.mem_flatMap.mp (List.mem_of_mem_dropLast member)
  exact hexDigit_plain b c digit

def DtlsContext.fingerprint (ctx : DtlsContext) : CString :=
  ⟨fingerprintBytes ctx.digest.toList, fun nul => (fingerprintBytes_plain 0 nul).1 rfl⟩

-- sdp.c

abbrev lit (s : String) : CString := CString.literal s

def crlf : CString := ⟨[13, 10], by decide⟩

def lineFeed : CString := ⟨[10], by decide⟩

def linesWith (starts : List CString) (lsdp : CString) : List CString :=
  (lsdp.split lineFeed).filter fun line => starts.any fun start => hasPrefix line.val start.val

def sdpText (lines : List CString) : CString :=
  CString.concat (lines.map fun line => line ++ crlf)

def setupLine (client : Bool) : CString :=
  lit "a=setup:" ++ if client then lit "active" else lit "passive"

-- The lines before those of the ICE agent.
def sessionLines (sessid : CString) (localPort : LocalPort) : List CString :=
  [lit "v=0",
    lit "o=- " ++ (sessid ++ lit " 2 IN IP4 127.0.0.1"),
    lit "s=-",
    lit "t=0 0",
    lit "a=msid-semantic: WMS",
    lit "m=application" ++ (lit " 1 DTLS/SCTP " ++ CString.ofNat localPort.val),
    lit "c=IN IP4 0.0.0.0"]

def channelLines (ctx : DtlsContext) (client : Bool) (localPort : LocalPort) : List CString :=
  [lit "a=fingerprint:sha-256 " ++ ctx.fingerprint,
    setupLine client,
    lit "a=mid:data",
    lit "a=sctpmap:" ++ (CString.ofNat localPort.val ++ lit " webrtc-datachannel 1024")]

-- `lsdp` is what `nice_agent_generate_local_sdp` returns.
def localSdpLines (transport : Transport) (client : Bool) (sessid lsdp : CString) : List CString :=
  sessionLines sessid transport.sctp.localPort ++
    linesWith [lit "a=ice-ufrag:", lit "a=ice-pwd:"] lsdp ++
    channelLines transport.ctx client transport.sctp.localPort

-- The text in a buffer of BUFFER_SIZE bytes, `none` when it overflows.
def inBuffer (text : CString) : Option CString :=
  if text.val.length < bufferSize then some text else none

def generateLocalSdp (transport : Transport) (client : Bool) (rands : Nat → Nat) (lsdp : CString) :
    Option CString :=
  let sessid := randomNumberString rands sessionIdSize
  inBuffer (sdpText (localSdpLines transport client sessid lsdp))

def generateLocalCandidateSdp (lsdp : CString) : Option CString :=
  inBuffer (sdpText (linesWith [lit "a=candidate:"] lsdp))

-- rtcdc.c

def rtcdcCreatePeerConnection : Connection where
  transport := none
  initialized := false
  role := .unknown

-- What each of the three functions below does first; `none` when the creation fails.
def ensureTransport (g : Globals) (peer : Connection) (env : TransportEnv) :
    Option Transport × Globals × Connection × List LibraryCall :=
  match peer.transport with
  | some transport => (some transport, g, peer, [])
  | none =>
      let (ret, g, peer, calls) := createRtcdcTransport g peer .client env
      (if ret < 0 then none else peer.transport, g, peer, calls)

structure OfferEnv where
  transport : TransportEnv
  rands : Nat → Nat
  lsdp : CString

-- The whole result is `none` when a buffer overflows.
def rtcdcGenerateOfferSdp (g : Globals) (peer : Connection) (env : OfferEnv) :
    Option (Option CString × Globals × Connection × List LibraryCall) :=
  match ensureTransport g peer env.transport with
  | (none, g, peer, calls) => some (none, g, peer, calls)
  | (some transport, g, peer, calls) =>
      (generateLocalSdp transport (peer.role = .client) env.rands env.lsdp).map fun sdp =>
        (some sdp, g, peer, calls)

def rtcdcGenerateLocalCandidateSdp (g : Globals) (peer : Connection) (env : OfferEnv) :
    Option (Option CString × Globals × Connection × List LibraryCall) :=
  match ensureTransport g peer env.transport with
  | (none, g, peer, calls) => some (none, g, peer, calls)
  | (some _, g, peer, calls) =>
      (generateLocalCandidateSdp env.lsdp).map fun sdp => (some sdp, g, peer, calls)

def setupRole (role : PeerRole) (setup : CString) : PeerRole :=
  if setup = lit "active" ∧ role = .client then .server
  else if setup = lit "passive" ∧ role = .server then .client
  else role

-- The remote port and the role after a line, `none` when the loop returns -1. The whole result is
-- `none` when a column is missing or its number is no `int`.
def parseOfferLine (port : Int) (role : PeerRole) (line : CString) :
    Option (Option (Int × PeerRole)) :=
  if hasPrefix line.val (lit "m=application").val then
    (line.split (lit " "))[3]?.bind fun column =>
      (atoi column.val).map fun port => if port ≤ 0 then none else some (port, role)
  else if hasPrefix line.val (lit "a=setup:").val then
    (line.split (lit ":"))[1]?.map fun column => some (port, setupRole role column)
  else
    some (some (port, role))

-- The loop over the lines, with the text for the ICE agent.
def parseOfferLines : Int → PeerRole → CString → List CString →
    Option (Int × PeerRole × Option CString)
  | port, role, buf, [] => some (port, role, some buf)
  | port, role, buf, line :: rest =>
      match parseOfferLine port role line with
      | none => none
      | some none => some (port, role, none)
      | some (some (port, role)) =>
          (inBuffer (buf ++ (line ++ lineFeed))).bind fun buf => parseOfferLines port role buf rest

-- `agent` is `nice_agent_parse_remote_sdp`.
structure ParseEnv where
  transport : TransportEnv
  agent : CString → Int

def rtcdcParseOfferSdp (g : Globals) (peer : Connection) (offer : Option CString) (env : ParseEnv) :
    Option (Int × Globals × Connection × List LibraryCall) :=
  match offer with
  | none => some (-1, g, peer, [])
  | some offer =>
      match ensureTransport g peer env.transport with
      | (none, g, peer, calls) => some (-1, g, peer, calls)
      | (some transport, g, peer, calls) =>
          (parseOfferLines transport.sctp.remotePort peer.role CString.empty (offer.split crlf)).map
            fun (port, role, buf) =>
              let transport :=
                { transport with sctp := { transport.sctp with remotePort := port } }
              ((buf.map env.agent).getD (-1), g,
                { peer with transport := some transport, role := role }, calls)

-- The peer is freed.
def rtcdcDestroyPeerConnection (g : Globals) (peer : Connection) (finish : Nat → Bool) :
    Globals × List LibraryCall :=
  destroyRtcdcTransport g peer.transport finish

variable {port port' port'' : Int} {role role' role'' : PeerRole} {lines more : List CString}
  {line : CString} {transport : Transport} {client : Bool} {sessid lsdp text : CString}

def filled (lines : List CString) : Nat :=
  (lines.map fun line => line.val.length + 1).sum

def ParsesTo (port : Int) (role : PeerRole) (lines : List CString) (port' : Int)
    (role' : PeerRole) : Prop :=
  ∀ buf : CString, buf.val.length + filled lines < bufferSize → ∀ rest,
    ∃ buf' : CString, buf'.val.length = buf.val.length + filled lines ∧
      parseOfferLines port role buf (lines ++ rest) = parseOfferLines port' role' buf' rest

theorem ParsesTo.nil : ParsesTo port role [] port role :=
  fun buf _ _ => ⟨buf, rfl, rfl⟩

theorem ParsesTo.cons (here : parseOfferLine port role line = some (some (port', role')))
    (later : ParsesTo port' role' lines port'' role'') :
    ParsesTo port role (line :: lines) port'' role'' := by
  intro buf room rest
  have all : filled (line :: lines) = line.val.length + 1 + filled lines := by simp [filled]
  have length : (buf ++ (line ++ lineFeed)).val.length = buf.val.length + (line.val.length + 1) := by
    simp [lineFeed]
  obtain ⟨buf', length', parsed⟩ := later (buf ++ (line ++ lineFeed)) (by omega) rest
  refine ⟨buf', by omega, ?_⟩
  rw [List.cons_append, parseOfferLines, here]
  simp only [inBuffer]
  rw [if_pos (by omega), Option.bind_some, parsed]

theorem ParsesTo.append (first : ParsesTo port role lines port' role')
    (second : ParsesTo port' role' more port'' role'') :
    ParsesTo port role (lines ++ more) port'' role'' := by
  intro buf room rest
  have all : filled (lines ++ more) = filled lines + filled more := by simp [filled]
  obtain ⟨buf', length', parsed⟩ := first buf (by omega) (more ++ rest)
  obtain ⟨buf'', length'', parsed'⟩ := second buf' (by omega) rest
  exact ⟨buf'', by omega, by rw [List.append_assoc, parsed, parsed']⟩

def Plain (line : CString) : Prop :=
  hasPrefix line.val (lit "m=application").val = false ∧
    hasPrefix line.val (lit "a=setup:").val = false

instance : DecidablePred Plain := fun _ => inferInstanceAs (Decidable (_ ∧ _))

theorem parseOfferLine_plain (plain : Plain line) :
    parseOfferLine port role line = some (some (port, role)) := by
  simp [parseOfferLine, plain.1, plain.2]

theorem ParsesTo.plain (plain : ∀ line ∈ lines, Plain line) : ParsesTo port role lines port role := by
  induction lines with
  | nil => exact .nil
  | cons line rest ih =>
      exact .cons (parseOfferLine_plain (plain line List.mem_cons_self))
        (ih fun l later => plain l (List.mem_cons_of_mem _ later))

theorem plain_append {start : CString}
    (differs : (lit "m=application").val.take start.val.length ≠
        start.val.take (lit "m=application").val.length ∧
      (lit "a=setup:").val.take start.val.length ≠ start.val.take (lit "a=setup:").val.length)
    (rest : CString) : Plain (start ++ rest) :=
  ⟨hasPrefix_differs differs.1 _, hasPrefix_differs differs.2 _⟩

theorem linesWith_plain {starts : List CString}
    (differ : ∀ start ∈ starts, (lit "m=application").val.take start.val.length ≠
        start.val.take (lit "m=application").val.length ∧
      (lit "a=setup:").val.take start.val.length ≠ start.val.take (lit "a=setup:").val.length) :
    ∀ line ∈ linesWith starts lsdp, Plain line := by
  intro line member
  obtain ⟨_, started⟩ := List.mem_filter.mp member
  obtain ⟨start, among, found⟩ := List.any_eq_true.mp started
  obtain ⟨rest, equal⟩ := List.isPrefixOf_iff_prefix.mp found
  have nulFree : 0 ∉ rest := fun nul =>
    line.property (by rw [← equal]; exact List.mem_append_right _ nul)
  have same : line = start ++ ⟨rest, nulFree⟩ := Subtype.ext equal.symm
  rw [same]
  exact plain_append (differ start among) _

theorem natText_clean {n : Nat} {b : UInt8} (other : isDigit b = false) : b ∉ natText n := by
  intro member
  rw [digits_isDigit b member] at other
  cases other

theorem port_column (localPort : LocalPort) :
    ((lit "m=application" ++ (lit " 1 DTLS/SCTP " ++ CString.ofNat localPort.val)).split
      (lit " "))[3]? = some (CString.ofNat localPort.val) := by
  let columns : List Bytes := ["m=application", "1", "DTLS/SCTP"].map fun s => (lit s).val
  have text : (lit "m=application" ++ (lit " 1 DTLS/SCTP " ++ CString.ofNat localPort.val)).val =
      columns.flatMap (· ++ ([] ++ [32])) ++ natText localPort.val := by
    have words : (lit "m=application").val ++ (lit " 1 DTLS/SCTP ").val =
        columns.flatMap (· ++ ([] ++ [32])) := by decide +kernel
    rw [CString.append_val, CString.append_val, ← List.append_assoc, words]
    rfl
  have blank : (lit " ").val = [] ++ [32] := by decide +kernel
  have vals : ((lit "m=application" ++ (lit " 1 DTLS/SCTP " ++
      CString.ofNat localPort.val)).split (lit " ")).map Subtype.val =
        columns ++ [natText localPort.val] := by
    rw [CString.split_vals, text, blank, strsplit, if_neg (by simp [columns]),
      splitFrom_lines List.not_mem_nil (by decide +kernel),
      splitFrom_last (natText_clean (by decide)), List.nil_append]
  have column := congrArg (fun pieces => pieces[3]?) vals
  simp only [List.getElem?_map, columns] at column
  obtain ⟨piece, found, same⟩ := Option.map_eq_some_iff.mp column
  rw [found, Option.some.injEq]
  exact Subtype.ext same

theorem parseOfferLine_port (localPort : LocalPort) :
    parseOfferLine port role
        (lit "m=application" ++ (lit " 1 DTLS/SCTP " ++ CString.ofNat localPort.val)) =
      some (some ((localPort.val : Int), role)) := by
  have number : atoi (CString.ofNat localPort.val).val = some (localPort.val : Int) :=
    atoi_natText (localPort.property.2.trans (by decide))
  have positive : ¬ (localPort.val : Int) ≤ 0 := by
    have low := localPort.property.1
    omega
  have media : hasPrefix (lit "m=application" ++
      (lit " 1 DTLS/SCTP " ++ CString.ofNat localPort.val)).val (lit "m=application").val = true :=
    hasPrefix_append _ _
  rw [parseOfferLine, if_pos media, port_column, Option.bind_some, number, Option.map_some,
    if_neg positive]

theorem parseOfferLine_setup :
    parseOfferLine port role (setupLine client) =
      some (some (port, setupRole role (if client then lit "active" else lit "passive"))) := by
  have media : hasPrefix (setupLine client).val (lit "m=application").val = false := by
    cases client <;> decide +kernel
  have setup : hasPrefix (setupLine client).val (lit "a=setup:").val = true := hasPrefix_append _ _
  have column : ((setupLine client).split (lit ":"))[1]? =
      some (if client then lit "active" else lit "passive") := by
    cases client <;> decide +kernel
  rw [parseOfferLine, media, if_neg Bool.false_ne_true, if_pos setup, column]
  rfl

theorem append_clean {a b : CString} (first : 10 ∉ a.val) (second : 10 ∉ b.val) :
    10 ∉ (a ++ b).val := by
  simp [first, second]

theorem linesWith_clean {starts : List CString} : ∀ line ∈ linesWith starts lsdp, 10 ∉ line.val := by
  intro line member
  have piece : line.val ∈ strsplit lsdp.val lineFeed.val := by
    rw [← CString.split_vals]
    exact List.mem_map_of_mem (List.mem_of_mem_filter member)
  rw [strsplit] at piece
  split_ifs at piece
  · cases piece
  · exact splitFrom_clean List.not_mem_nil piece

theorem localSdpLines_clean {rands : Nat → Nat} :
    ∀ line ∈ localSdpLines transport client (randomNumberString rands sessionIdSize) lsdp,
      10 ∉ line.val := by
  have number (n : Nat) : 10 ∉ natText n := natText_clean (by decide)
  have port : 10 ∉ (CString.ofNat transport.sctp.localPort.val).val := number _
  have sessid : 10 ∉ (randomNumberString rands sessionIdSize).val := by
    intro member
    obtain ⟨i, _, digit⟩ := List.mem_flatMap.mp member
    exact number _ digit
  have fingerprint : 10 ∉ transport.ctx.fingerprint.val := fun member =>
    (fingerprintBytes_plain 10 member).2 rfl
  have setup : 10 ∉ (setupLine client).val := by cases client <;> decide +kernel
  simp only [localSdpLines, sessionLines, channelLines, List.forall_mem_append,
    List.forall_mem_cons]
  refine ⟨⟨⟨?_, append_clean ?_ (append_clean sessid ?_), ?_, ?_, ?_,
    append_clean ?_ (append_clean ?_ port), ?_, by simp⟩, linesWith_clean⟩,
    append_clean ?_ fingerprint, setup, ?_, append_clean ?_ (append_clean port ?_), by simp⟩ <;>
  decide +kernel

theorem localSdpLines_ne_nil : localSdpLines transport client sessid lsdp ≠ [] := by
  simp [localSdpLines, sessionLines]

theorem sdpText_bytes (lines : List CString) :
    (sdpText lines).val = (lines.map Subtype.val).flatMap (· ++ ([13] ++ [10])) := by
  induction lines with
  | nil => rfl
  | cons line rest ih =>
      have rest' : (CString.concat (rest.map fun line => line ++ crlf)).val = _ := ih
      rw [sdpText, List.map_cons, CString.concat_cons, rest']
      rfl

theorem sdpText_split (present : lines ≠ []) (clean : ∀ line ∈ lines, 10 ∉ line.val) :
    (sdpText lines).split crlf = lines ++ [CString.empty] := by
  have vals : ((sdpText lines).split crlf).map Subtype.val =
      (lines ++ [CString.empty]).map Subtype.val := by
    have some_text : (sdpText lines).val ≠ [] := by
      cases lines with
      | nil => exact absurd rfl present
      | cons line rest => simp [sdpText_bytes]
    have bytes : splitFrom ([13] ++ [10]) 0 []
        ((lines.map Subtype.val).flatMap (· ++ ([13] ++ [10])) ++ []) =
          lines.map Subtype.val ++ splitFrom ([13] ++ [10]) 0 [] [] :=
      splitFrom_lines (by decide) (by simpa using clean)
    rw [CString.split_vals, strsplit, if_neg some_text, sdpText_bytes]
    rw [List.append_nil] at bytes
    exact bytes.trans (by simp [splitFrom, CString.empty])
  exact List.map_injective_iff.mpr Subtype.val_injective vals

theorem filled_sdpText (present : lines ≠ []) :
    filled (lines ++ [CString.empty]) ≤ (sdpText lines).val.length := by
  have each : ∀ ls : List CString, filled ls + ls.length = (sdpText ls).val.length := by
    intro ls
    induction ls with
    | nil => rfl
    | cons line rest ih =>
        have tail : (sdpText (line :: rest)).val =
            (line ++ crlf).val ++ (sdpText rest).val := rfl
        simp only [filled, List.map_cons, List.sum_cons, List.length_cons, List.length_nil, tail,
          crlf, CString.append_val, List.length_append] at ih ⊢
        omega
  have whole := each lines
  have positive := List.length_pos_iff.mpr present
  have all : filled (lines ++ [CString.empty]) = filled lines + 1 := by
    simp [filled, CString.empty]
  omega

theorem sessionLines_parse (sessid : CString) (localPort : LocalPort) :
    ParsesTo port role (sessionLines sessid localPort) localPort.val role := by
  have copied {line : CString} (plain : Plain line) {port : Int} :
      parseOfferLine port role line = some (some (port, role)) := parseOfferLine_plain plain
  refine .cons (copied ?_) (.cons (copied (plain_append ?_ _)) (.cons (copied ?_)
    (.cons (copied ?_) (.cons (copied ?_)
      (.cons (parseOfferLine_port _) (.cons (copied ?_) .nil)))))) <;> decide +kernel

theorem channelLines_parse (ctx : DtlsContext) (localPort : LocalPort) :
    ParsesTo port role (channelLines ctx client localPort) port
      (setupRole role (if client then lit "active" else lit "passive")) := by
  have copied {line : CString} (plain : Plain line) {role : PeerRole} :
      parseOfferLine port role line = some (some (port, role)) := parseOfferLine_plain plain
  refine .cons (copied (plain_append ?_ _)) (.cons parseOfferLine_setup
    (.cons (copied ?_) (.cons (copied (plain_append ?_ _)) .nil))) <;> decide +kernel

theorem localSdpLines_parse (transport : Transport) (client : Bool) (sessid lsdp : CString) :
    ParsesTo port role (localSdpLines transport client sessid lsdp ++ [CString.empty])
      transport.sctp.localPort.val
      (setupRole role (if client then lit "active" else lit "passive")) := by
  have ice : ∀ line ∈ linesWith [lit "a=ice-ufrag:", lit "a=ice-pwd:"] lsdp, Plain line :=
    linesWith_plain (by decide +kernel)
  have session : ParsesTo port role _ transport.sctp.localPort.val role :=
    (sessionLines_parse sessid transport.sctp.localPort).append (.plain ice)
  exact (session.append (channelLines_parse _ _)).append (.plain (by decide +kernel))

theorem parse_generated (port : Int) (role : PeerRole) {rands : Nat → Nat}
    (generated : generateLocalSdp transport client rands lsdp = some text) :
    ∃ buf, parseOfferLines port role CString.empty (text.split crlf) =
      some ((transport.sctp.localPort.val : Int),
        setupRole role (if client then lit "active" else lit "passive"), some buf) := by
  simp only [generateLocalSdp, inBuffer] at generated
  split_ifs at generated with fits
  obtain rfl := Option.some.inj generated
  have room := (filled_sdpText localSdpLines_ne_nil).trans_lt fits
  rw [sdpText_split localSdpLines_ne_nil localSdpLines_clean]
  have lines : ParsesTo port role _ _ _ :=
    localSdpLines_parse transport client (randomNumberString rands sessionIdSize) lsdp
  obtain ⟨buf, _, parsed⟩ := lines CString.empty (by simpa [CString.empty] using room) []
  rw [List.append_nil] at parsed
  exact ⟨buf, parsed⟩

end Librtcdc
