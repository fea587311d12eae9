import Mathlib.Data.List.GetD
import Librtcdc.Shared.Trace
import Librtcdc.Sync.Packet

set_option autoImplicit false

namespace Librtcdc.Sync.Received

open Systems

-- The handlers on messages as they come from the network: bytes of any number, which they take for
-- a `struct sctp_packet_t`.

-- The handler's static variable. It keeps its value after `fclose`.
inductive FileHandle where
  | null
  | opened (path : Bytes)
  | closed
  deriving DecidableEq, Repr

-- `beyond` lies in memory after the message, and zeros after that; `fopen` tells whether that call
-- succeeds.
structure Message where
  data : Bytes
  beyond : Bytes
  fopen : Bool
  deriving DecidableEq, Repr

-- What a call does to memory and to files.
inductive Access where
  | read (offset count len : Nat)
  | compose (size : Nat)
  | write (pFile : FileHandle) (count : Nat) (data : Bytes)
  | close (pFile : FileHandle)
  deriving DecidableEq, Repr

-- The fields of `struct sctp_packet_t`.
def bufOffset : Nat := 4
def bufLenOffset : Nat := bufOffset + sctpBufSize
def packetSize : Nat := bufLenOffset + 4

def intAt (memory : Bytes) (offset : Nat) : Int :=
  int32 (ofLe32 (memory.getD offset 0) (memory.getD (offset + 1) 0) (memory.getD (offset + 2) 0)
    (memory.getD (offset + 3) 0)).toNat

-- An `int` as the `size_t` that `fwrite` takes.
def sizeT (n : Int) : Nat :=
  (n % 18446744073709551616).toNat

def FileHandle.afterClose : FileHandle → FileHandle
  | .opened _ => .closed
  | other => other

namespace Message

def len (message : Message) : Nat := message.data.length

def memory (message : Message) : Bytes := message.data ++ message.beyond

def index (message : Message) : Int := intAt message.memory 0

def buf (message : Message) : Bytes := message.memory.drop bufOffset

def bufLen (message : Message) : Int := intAt message.memory bufLenOffset

end Message

def onMessage (localRepoPath : CString) : Step FileHandle Message Access :=
  fun pFile recvdPacket =>
    let len := recvdPacket.len
    let readIndex := Access.read 0 4 len
    if recvdPacket.index = 0 then
      let localFilePath := localRepoPath.val ++ cText recvdPacket.buf
      some (if recvdPacket.fopen then .opened localFilePath else .null,
        [readIndex, .read bufOffset ((cText recvdPacket.buf).length + 1) len,
          .compose (localFilePath.length + 1)])
    else if recvdPacket.index = -1 then
      some (pFile.afterClose, [readIndex, .close pFile])
    else if recvdPacket.index > 0 then
      let count := sizeT recvdPacket.bufLen
      some (pFile, [readIndex, .read bufLenOffset 4 len, .read bufOffset count len,
        .write pFile count (recvdPacket.buf.take count)])
    else
      some (pFile, [readIndex])

def uploadFsOnMessage : CString → Step FileHandle Message Access := onMessage

def downloadClientOnMessage : CString → Step FileHandle Message Access := onMessage

def onMessageOf : Direction → CString → Step FileHandle Message Access
  | .upload => uploadFsOnMessage
  | .download => downloadClientOnMessage

-- Reads lie inside the message, the path fits its buffer, and only an open file is written to, with
-- at most a packet's bytes, or closed.
def Access.Safe : Access → Prop
  | .read offset count len => offset + count ≤ len
  | .compose size => size ≤ localPathSize
  | .write pFile count _ => (∃ path, pFile = .opened path) ∧ count ≤ sctpBufSize
  | .close pFile => ∃ path, pFile = .opened path

-- A message that the handler can take in this state of its file.
structure Orderly (localRepoPath : CString) (pFile : FileHandle) (message : Message) : Prop where
  short : 4 ≤ message.data.length
  name : intAt message.data 0 = 0 →
    0 ∈ message.data.drop bufOffset ∧
      localRepoPath.val.length + (cText (message.data.drop bufOffset)).length < localPathSize
  file : intAt message.data 0 = -1 ∨ 0 < intAt message.data 0 → ∃ path, pFile = .opened path
  packet : 0 < intAt message.data 0 → packetSize ≤ message.data.length
  bufLen : 0 < intAt message.data 0 →
    0 ≤ intAt message.data bufLenOffset ∧ intAt message.data bufLenOffset ≤ sctpBufSize

variable {localRepoPath : CString} {pFile next : FileHandle} {message : Message}
  {accesses : List Access} {data beyond : Bytes} {offset : Nat}

theorem intAt_append (inside : offset + 4 ≤ data.length) :
    intAt (data ++ beyond) offset = intAt data offset := by
  have each (i : Nat) (low : i < data.length) : (data ++ beyond).getD i 0 = data.getD i 0 :=
    List.getD_append _ _ _ _ low
  rw [intAt, intAt, each _ (by omega), each _ (by omega), each _ (by omega), each _ (by omega)]

theorem sizeT_int32_le (n : Int) :
    sizeT (int32 n) ≤ sctpBufSize ↔ 0 ≤ int32 n ∧ int32 n ≤ sctpBufSize := by
  unfold sizeT int32 sctpBufSize
  omega

theorem cText_append_nul {s rest : Bytes} (nul : 0 ∈ s) : cText (s ++ rest) = cText s := by
  induction s with
  | nil => cases nul
  | cons b more ih =>
      by_cases zero : b = 0
      · simp [cText, zero]
      · have later : 0 ∈ more := (List.mem_cons.mp nul).resolve_left (Ne.symm zero)
        simpa [cText, zero] using ih later

theorem name_inside {s rest : Bytes} :
    (cText (s ++ rest)).length + 1 ≤ s.length ↔ 0 ∈ s := by
  constructor
  · intro inside
    by_contra nulFree
    rw [cText_append nulFree, List.length_append] at inside
    omega
  · intro nul
    rw [cText_append_nul nul]
    exact cText_length_lt nul

theorem onMessage_name (localRepoPath : CString) (pFile : FileHandle)
    (name : message.index = 0) :
    onMessage localRepoPath pFile message =
      some (if message.fopen then .opened (localRepoPath.val ++ cText message.buf) else .null,
        [.read 0 4 message.len, .read bufOffset ((cText message.buf).length + 1) message.len,
          .compose ((localRepoPath.val ++ cText message.buf).length + 1)]) := by
  simp only [onMessage, if_pos name]

theorem onMessage_last (localRepoPath : CString) (pFile : FileHandle)
    (last : message.index = -1) :
    onMessage localRepoPath pFile message =
      some (pFile.afterClose, [.read 0 4 message.len, .close pFile]) := by
  have name : ¬ message.index = 0 := by omega
  simp only [onMessage, if_neg name, if_pos last]

theorem onMessage_piece (localRepoPath : CString) (pFile : FileHandle)
    (piece : message.index > 0) :
    onMessage localRepoPath pFile message =
      some (pFile, [.read 0 4 message.len, .read bufLenOffset 4 message.len,
        .read bufOffset (sizeT message.bufLen) message.len,
        .write pFile (sizeT message.bufLen) (message.buf.take (sizeT message.bufLen))]) := by
  have name : ¬ message.index = 0 := by omega
  have last : ¬ message.index = -1 := by omega
  simp only [onMessage, if_neg name, if_neg last, if_pos piece]

theorem onMessage_other (localRepoPath : CString) (pFile : FileHandle)
    (other : message.index < -1) :
    onMessage localRepoPath pFile message = some (pFile, [.read 0 4 message.len]) := by
  have name : ¬ message.index = 0 := by omega
  have last : ¬ message.index = -1 := by omega
  have piece : ¬ message.index > 0 := by omega
  simp only [onMessage, if_neg name, if_neg last, if_neg piece]

theorem index_cases (index : Int) : index = 0 ∨ index = -1 ∨ index > 0 ∨ index < -1 := by
  omega

theorem read_safe {count len : Nat} :
    (Access.read offset count len).Safe ↔ offset + count ≤ len := Iff.rfl

theorem close_safe : (Access.close pFile).Safe ↔ ∃ path, pFile = .opened path := Iff.rfl

theorem readIndex_first (called : onMessage localRepoPath pFile message = some (next, accesses)) :
    .read 0 4 message.len ∈ accesses := by
  rcases index_cases message.index with name | last | piece | other
  · rw [onMessage_name _ _ name] at called
    rw [← (Prod.mk.inj (Option.some.inj called)).2]
    exact List.mem_cons_self
  · rw [onMessage_last _ _ last] at called
    rw [← (Prod.mk.inj (Option.some.inj called)).2]
    exact List.mem_cons_self
  · rw [onMessage_piece _ _ piece] at called
    rw [← (Prod.mk.inj (Option.some.inj called)).2]
    exact List.mem_cons_self
  · rw [onMessage_other _ _ other] at called
    rw [← (Prod.mk.inj (Option.some.inj called)).2]
    exact List.mem_cons_self

theorem name_safe_iff (short : 4 ≤ message.data.length) :
    (Access.read bufOffset ((cText message.buf).length + 1) message.len).Safe ∧
        (Access.compose ((localRepoPath.val ++ cText message.buf).length + 1)).Safe ↔
      0 ∈ message.data.drop bufOffset ∧
        localRepoPath.val.length + (cText (message.data.drop bufOffset)).length <
          localPathSize := by
  have buf : message.buf = message.data.drop bufOffset ++ message.beyond :=
    List.drop_append_of_le_length short
  have rest : (message.data.drop bufOffset).length = message.data.length - bufOffset :=
    List.length_drop
  have fits : bufOffset ≤ message.data.length := short
  have inside : bufOffset + ((cText message.buf).length + 1) ≤ message.len ↔
      0 ∈ message.data.drop bufOffset := by
    rw [← name_inside, ← buf, rest, Message.len]
    omega
  rw [read_safe, inside]
  refine and_congr_right fun nul => ?_
  rw [buf, cText_append_nul nul, Access.Safe, List.length_append]
  omega

theorem piece_safe_iff :
    (Access.read bufLenOffset 4 message.len).Safe ∧
        (Access.read bufOffset (sizeT message.bufLen) message.len).Safe ∧
        (Access.write pFile (sizeT message.bufLen)
          (message.buf.take (sizeT message.bufLen))).Safe ↔
      packetSize ≤ message.data.length ∧ (∃ path, pFile = .opened path) ∧
        0 ≤ intAt message.data bufLenOffset ∧
        intAt message.data bufLenOffset ≤ sctpBufSize := by
  rw [read_safe, read_safe, Access.Safe]
  change packetSize ≤ message.data.length ∧ _ ↔ _
  refine and_congr_right fun whole => ?_
  have bufLen : message.bufLen = intAt message.data bufLenOffset := intAt_append whole
  rw [bufLen, intAt, sizeT_int32_le]
  constructor
  · rintro ⟨_, safe⟩
    exact safe
  · rintro ⟨opened, few⟩
    have count := (sizeT_int32_le _).mpr few
    refine ⟨?_, opened, few⟩
    unfold packetSize bufLenOffset at whole
    unfold Message.len
    omega

theorem orderly_name_iff (short : 4 ≤ message.data.length) (name : intAt message.data 0 = 0) :
    Orderly localRepoPath pFile message ↔ 0 ∈ message.data.drop bufOffset ∧
      localRepoPath.val.length + (cText (message.data.drop bufOffset)).length < localPathSize := by
  constructor
  · intro orderly
    exact orderly.name name
  · intro named
    refine ⟨short, fun _ => named, fun file => ?_, fun piece => ?_, fun piece => ?_⟩ <;> omega

theorem orderly_last_iff (short : 4 ≤ message.data.length) (last : intAt message.data 0 = -1) :
    Orderly localRepoPath pFile message ↔ ∃ path, pFile = .opened path := by
  constructor
  · intro orderly
    exact orderly.file (.inl last)
  · intro opened
    refine ⟨short, fun name => ?_, fun _ => opened, fun piece => ?_, fun piece => ?_⟩ <;> omega

theorem orderly_piece_iff (short : 4 ≤ message.data.length) (piece : 0 < intAt message.data 0) :
    Orderly localRepoPath pFile message ↔ packetSize ≤ message.data.length ∧
      (∃ path, pFile = .opened path) ∧
      0 ≤ intAt message.data bufLenOffset ∧ intAt message.data bufLenOffset ≤ sctpBufSize := by
  constructor
  · intro orderly
    exact ⟨orderly.packet piece, orderly.file (.inr piece), orderly.bufLen piece⟩
  · rintro ⟨whole, opened, bufLen⟩
    refine ⟨short, fun name => ?_, fun _ => opened, fun _ => whole, fun _ => bufLen⟩
    omega

theorem orderly_other (short : 4 ≤ message.data.length) (other : intAt message.data 0 < -1) :
    Orderly localRepoPath pFile message := by
  refine ⟨short, fun name => ?_, fun file => ?_, fun piece => ?_, fun piece => ?_⟩ <;> omega

theorem onMessage_safe_iff
    (called : onMessage localRepoPath pFile message = some (next, accesses)) :
    (∀ access ∈ accesses, access.Safe) ↔ Orderly localRepoPath pFile message := by
  by_cases short : 4 ≤ message.data.length
  · have readIndex : (Access.read 0 4 message.len).Safe := by
      rw [read_safe, Nat.zero_add]
      exact short
    have index : message.index = intAt message.data 0 := intAt_append short
    rcases index_cases message.index with name | last | piece | other
    · rw [onMessage_name _ _ name] at called
      rw [← (Prod.mk.inj (Option.some.inj called)).2, orderly_name_iff short (index ▸ name),
        ← name_safe_iff short]
      simp [readIndex]
    · rw [onMessage_last _ _ last] at called
      rw [← (Prod.mk.inj (Option.some.inj called)).2, orderly_last_iff short (index ▸ last),
        ← close_safe]
      simp [readIndex]
    · rw [onMessage_piece _ _ piece] at called
      rw [← (Prod.mk.inj (Option.some.inj called)).2, orderly_piece_iff short (index ▸ piece),
        ← piece_safe_iff]
      simp [readIndex]
    · rw [onMessage_other _ _ other] at called
      rw [← (Prod.mk.inj (Option.some.inj called)).2]
      refine ⟨fun _ => orderly_other short (index ▸ other), fun _ => ?_⟩
      simpa using readIndex
  · constructor
    · intro safe
      have inside : 0 + 4 ≤ message.data.length := safe _ (readIndex_first called)
      omega
    · intro orderly
      exact absurd orderly.short short

variable {messages : List Message} {direction : Direction}

def AllSafe (_ : FileHandle) (accesses : List Access) : Prop :=
  ∀ access ∈ accesses, access.Safe

/-- A run of either handler is safe in every state exactly when it takes orderly messages only. -/
theorem receiver_safe_iff :
    RunIf (Orderly localRepoPath) (onMessageOf direction localRepoPath) pFile messages next
        accesses ↔
      Always AllSafe (onMessageOf direction localRepoPath) pFile messages next accesses := by
  have step : onMessageOf direction localRepoPath = onMessage localRepoPath := by
    cases direction <;> rfl
  rw [step]
  apply runIf_iff_always AllSafe
  · intro access member
    cases member
  · intro s before message s' made safe orderly called access member
    rcases List.mem_append.mp member with earlier | now
    · exact safe access earlier
    · exact (onMessage_safe_iff called).mpr orderly access now
  · exact fun _ _ safe => safe
  · intro s before message s' made _ called safe
    exact (onMessage_safe_iff called).mp fun access member =>
      safe access (List.mem_append_right _ member)

def terminator : Message where
  data := [255, 255, 255, 255]
  beyond := []
  fopen := true

def SafetyLaw : Prop :=
  ∀ (direction : Direction) (localRepoPath : CString) (messages : List Message)
    (last : FileHandle) (accesses : List Access),
    Run (onMessageOf direction localRepoPath) .null messages last accesses → AllSafe last accesses

theorem early_terminator_unsafe : ¬SafetyLaw := by
  intro law
  have moved : (exec (onMessageOf .upload CString.empty) .null [terminator]).map Prod.snd =
      some [.read 0 4 4, .close .null] := by decide +kernel
  obtain ⟨last, run⟩ := exec_events moved
  obtain ⟨path, opened⟩ := law _ _ _ _ _ run (.close .null) (by simp)
  cases opened

def intBytes (n : Int) : Bytes :=
  le32 (UInt32.ofNat (n % 4294967296).toNat)

def packetBytes (packet : SctpPacket) : Bytes :=
  intBytes packet.index ++ packet.buf ++ intBytes packet.bufLen

def FileHandle.path : FileHandle → Option Bytes
  | .opened path => some path
  | _ => none

structure Packed (packet : SctpPacket) : Prop where
  index : int32 packet.index = packet.index
  size : packet.buf.length = sctpBufSize
  bufLen : 0 ≤ packet.bufLen ∧ packet.bufLen ≤ sctpBufSize

theorem Packed.name_ends {packet : SctpPacket} (packed : Packed packet) {before : Nat}
    (short : before + (cText packet.buf).length < localPathSize) : 0 ∈ packet.buf := by
  by_contra nulFree
  rw [cText_of_nulFree nulFree, packed.size] at short
  unfold sctpBufSize localPathSize at short
  omega

theorem Packed.count {packet : SctpPacket} (packed : Packed packet) :
    sizeT packet.bufLen = packet.bufLen.toNat := by
  have bounds := packed.bufLen
  unfold sctpBufSize at bounds
  unfold sizeT
  omega

theorem intAt_intBytes (front : Bytes) (n : Int) (rest : Bytes) :
    intAt (front ++ intBytes n ++ rest) front.length = int32 n := by
  have bound : (n % 4294967296).toNat < 4294967296 := by omega
  have value : (UInt32.ofNat (n % 4294967296).toNat).toNat = (n % 4294967296).toNat := by
    rw [UInt32.toNat_ofNat']
    omega
  have whole : intAt (front ++ intBytes n ++ rest) front.length =
      int32 (UInt32.ofNat (n % 4294967296).toNat).toNat := by
    rw [List.append_assoc, intAt]
    have each (i : Nat) : (front ++ (intBytes n ++ rest)).getD (front.length + i) 0 =
        (intBytes n ++ rest).getD i 0 := by
      rw [List.getD_append_right _ _ _ _ (Nat.le_add_right _ _), Nat.add_sub_cancel_left]
    have first := each 0
    rw [Nat.add_zero] at first
    rw [first, each, each, each]
    exact congrArg (fun word : UInt32 => int32 word.toNat) (ofLe32_le32 _)
  rw [whole, value]
  unfold int32
  omega

theorem intBytes_length (n : Int) : (intBytes n).length = 4 := rfl

def ofPacket (packet : SctpPacket) : Message where
  data := packetBytes packet
  beyond := []
  fopen := true

variable {packet : SctpPacket} {r r' : Receiver}

theorem ofPacket_index (packed : Packed packet) : (ofPacket packet).index = packet.index := by
  have first : intAt ([] ++ intBytes packet.index ++ (packet.buf ++ intBytes packet.bufLen ++ []))
      0 = int32 packet.index := intAt_intBytes [] _ _
  rw [← packed.index, ← first, Message.index, Message.memory, ofPacket, packetBytes]
  simp

theorem ofPacket_buf (packet : SctpPacket) :
    (ofPacket packet).buf = packet.buf ++ intBytes packet.bufLen := by
  rw [Message.buf, Message.memory, ofPacket, packetBytes, List.append_nil, List.append_assoc]
  exact List.drop_left' (intBytes_length packet.index)

theorem ofPacket_bufLen (packed : Packed packet) : (ofPacket packet).bufLen = packet.bufLen := by
  have front : (intBytes packet.index ++ packet.buf).length = bufLenOffset := by
    rw [List.length_append, intBytes_length, packed.size]
    rfl
  have last := intAt_intBytes (intBytes packet.index ++ packet.buf) packet.bufLen []
  rw [front] at last
  have bounds := packed.bufLen
  have fits : int32 packet.bufLen = packet.bufLen := by
    unfold int32
    unfold sctpBufSize at bounds
    omega
  rw [← fits, ← last]
  rfl

theorem ofPacket_length (packed : Packed packet) : (ofPacket packet).data.length = packetSize := by
  change (intBytes packet.index ++ packet.buf ++ intBytes packet.bufLen).length = _
  rw [List.length_append, List.length_append, packed.size]
  rfl

theorem ofPacket_orderly (packed : Packed packet)
    (name : packet.index = 0 → localRepoPath.val.length + (cText packet.buf).length < localPathSize)
    (file : packet.index = -1 ∨ 0 < packet.index → ∃ path, pFile = .opened path) :
    Orderly localRepoPath pFile (ofPacket packet) := by
  have memory : (ofPacket packet).memory = (ofPacket packet).data := List.append_nil _
  have index : intAt (ofPacket packet).data 0 = packet.index := by
    rw [← memory]
    exact ofPacket_index packed
  have buf : (ofPacket packet).data.drop bufOffset = packet.buf ++ intBytes packet.bufLen := by
    rw [← memory]
    exact ofPacket_buf packet
  have bufLen : intAt (ofPacket packet).data bufLenOffset = packet.bufLen := by
    rw [← memory]
    exact ofPacket_bufLen packed
  have length := ofPacket_length packed
  refine ⟨?_, ?_, ?_, fun _ => length.ge, fun _ => ?_⟩
  · rw [length]
    decide
  · intro zero
    rw [index] at zero
    have short := name zero
    have nul : 0 ∈ packet.buf := packed.name_ends short
    rw [buf, cText_append_nul nul]
    exact ⟨List.mem_append_left _ nul, short⟩
  · rw [index]
    exact file
  · rw [bufLen]
    exact packed.bufLen

theorem FileHandle.path_some {path : Bytes} (known : pFile.path = some path) :
    pFile = .opened path := by
  cases pFile with
  | opened path' => rw [Option.some.inj known]
  | null | closed => cases known

theorem onPacket_received (packed : Packed packet) (same : r.pFile = pFile.path)
    (taken : onPacket localRepoPath.val r packet = some r') :
    ∃ next accesses, onMessage localRepoPath pFile (ofPacket packet) = some (next, accesses) ∧
      r'.pFile = next.path ∧ AllSafe next accesses ∧
      ∀ file count data, .write file count data ∈ accesses →
        data = packet.buf.take packet.bufLen.toNat := by
  have index := ofPacket_index packed
  rcases index_cases packet.index with name | last | piece | other
  · rw [onPacket, if_pos name, localFilePath] at taken
    obtain ⟨path, composed, rfl⟩ := Option.map_eq_some_iff.mp taken
    split_ifs at composed with short
    obtain rfl := Option.some.inj composed
    have nul : 0 ∈ packet.buf := packed.name_ends short
    have called := onMessage_name localRepoPath pFile (index.trans name)
    refine ⟨_, _, called, ?_, (onMessage_safe_iff called).mpr
      (ofPacket_orderly packed (fun _ => short) (by omega)), ?_⟩
    · rw [ofPacket_buf, cText_append_nul nul]
      rfl
    · intro file count data written
      simp at written
  · have zero : ¬ packet.index = 0 := by omega
    rw [onPacket, if_neg zero, if_pos last] at taken
    obtain ⟨path, known, rfl⟩ := Option.map_eq_some_iff.mp taken
    obtain rfl := FileHandle.path_some (same.symm.trans known)
    have called := onMessage_last localRepoPath (.opened path) (index.trans last)
    refine ⟨_, _, called, rfl, (onMessage_safe_iff called).mpr
      (ofPacket_orderly packed (by omega) fun _ => ⟨path, rfl⟩), ?_⟩
    intro file count data written
    simp at written
  · have zero : ¬ packet.index = 0 := by omega
    have inside : ¬ packet.index = -1 := by omega
    rw [onPacket, if_neg zero, if_neg inside, if_pos piece] at taken
    obtain ⟨path, known, rfl⟩ := Option.map_eq_some_iff.mp taken
    have opened := FileHandle.path_some (same.symm.trans known)
    have called := onMessage_piece localRepoPath pFile (index ▸ piece)
    refine ⟨_, _, called, same, (onMessage_safe_iff called).mpr
      (ofPacket_orderly packed (by omega) fun _ => ⟨path, opened⟩), ?_⟩
    intro file count data written
    simp only [List.mem_cons, reduceCtorEq, Access.write.injEq, List.not_mem_nil, or_false,
      false_or] at written
    rw [written.2.2, ofPacket_bufLen packed, ofPacket_buf, packed.count]
    have few : packet.bufLen.toNat ≤ packet.buf.length := by
      have bounds := packed.bufLen
      have size := packed.size
      omega
    rw [List.take_append_of_le_length few]
  · have zero : ¬ packet.index = 0 := by omega
    have inside : ¬ packet.index = -1 := by omega
    have negative : ¬ packet.index > 0 := by omega
    rw [onPacket, if_neg zero, if_neg inside, if_neg negative] at taken
    obtain rfl := Option.some.inj taken
    have called := onMessage_other localRepoPath pFile (index ▸ other)
    refine ⟨_, _, called, same, (onMessage_safe_iff called).mpr
      (ofPacket_orderly packed (by omega) (by omega)), ?_⟩
    intro file count data written
    simp at written

end Librtcdc.Sync.Received
