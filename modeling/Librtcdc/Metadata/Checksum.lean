import Librtcdc.Shared.Streaming
import Librtcdc.Metadata.Server

set_option autoImplicit false

namespace Librtcdc.Metadata

open Systems Librtcdc.Sync

def md5LineSize : Nat := 32
def md5DigestLength : Nat := 16

abbrev Md5 := StreamingHash md5DigestLength

def memset (mem : Bytes) (byte : UInt8) (n : Nat) : Bytes :=
  List.replicate n byte ++ mem.drop n

-- `fread` puts what it has read at the start of the buffer.
def fread (buf chunk : Bytes) : Bytes :=
  chunk ++ buf.drop chunk.length

-- What the calls of `fread` return until one returns nothing.
structure Chunked (content : Bytes) (chunks : List Bytes) : Prop where
  whole : chunks.flatten = content
  some_there : ∀ chunk ∈ chunks, chunk ≠ []
  fits : ∀ chunk ∈ chunks, chunk.length ≤ md5LineSize

variable {Ctx : Type}

def md5Loop (md5Update : Ctx → Bytes → Ctx) : Bytes → Ctx → List Bytes → Ctx
  | _, ctx, [] => ctx
  | buf, ctx, chunk :: rest =>
      let nread := chunk.length
      let buf := memset (fread buf chunk) 0 md5LineSize
      md5Loop md5Update buf (md5Update ctx (buf.take nread)) rest

-- `pFile` is what can be read from the file, `none` when `fopen` fails.
def genMd5Of (md5 : Md5) (pFile : Option (List Bytes)) : CString :=
  let buf := memset [] 0 md5LineSize
  let ctx :=
    match pFile with
    | some chunks => md5Loop md5.update buf md5.init chunks
    | none => md5.init
  hexText (md5.final ctx)

-- cli/sy.c opens the file with "rb", fs/file_server.c with "r".

def clientGenMd5 : Md5 → Option (List Bytes) → CString := genMd5Of

def fsGenMd5 : Md5 → Option (List Bytes) → CString := genMd5Of

def fed (chunks : List Bytes) : Bytes :=
  md5Loop (· ++ ·) (memset [] 0 md5LineSize) [] chunks

variable {content first second : Bytes} {chunks others : List Bytes}

theorem cleared_chunk {chunk : Bytes} (fits : chunk.length ≤ md5LineSize) (buf : Bytes) :
    (memset (fread buf chunk) 0 md5LineSize).take chunk.length =
      List.replicate chunk.length 0 := by
  rw [memset, List.take_append_of_le_length (by simpa using fits), List.take_replicate,
    Nat.min_eq_left fits]

theorem md5Loop_zeros (md5Update : Ctx → Bytes → Ctx) (buf : Bytes) (ctx : Ctx)
    (fits : ∀ chunk ∈ chunks, chunk.length ≤ md5LineSize) :
    md5Loop md5Update buf ctx chunks =
      (chunks.map fun chunk => List.replicate chunk.length 0).foldl md5Update ctx := by
  induction chunks generalizing buf ctx with
  | nil => rfl
  | cons chunk rest ih =>
      rw [md5Loop, List.map_cons, List.foldl_cons, ih _ _ fun c later =>
        fits c (List.mem_cons_of_mem _ later), cleared_chunk (fits chunk List.mem_cons_self)]

theorem zeros_flatten (chunks : List Bytes) :
    (chunks.map fun chunk => List.replicate chunk.length (0 : UInt8)).flatten =
      List.replicate chunks.flatten.length 0 := by
  induction chunks with
  | nil => rfl
  | cons chunk rest ih =>
      rw [List.map_cons, List.flatten_cons, ih, List.flatten_cons, List.length_append,
        List.replicate_add]

theorem genMd5Of_zeros (md5 : Md5) (reads : Chunked content chunks) :
    genMd5Of md5 (some chunks) = hexText (md5.digest (List.replicate content.length 0)) := by
  rw [genMd5Of, md5Loop_zeros _ _ _ reads.fits, md5.update_pieces, zeros_flatten, reads.whole]
  rfl

theorem fed_zeros (reads : Chunked content chunks) :
    fed chunks = List.replicate content.length 0 := by
  have joined : ∀ (pieces : List Bytes) (seen : Bytes),
      pieces.foldl (· ++ ·) seen = seen ++ pieces.flatten := by
    intro pieces
    induction pieces with
    | nil => simp
    | cons piece rest ih => simp [ih]
  rw [fed, md5Loop_zeros _ _ _ reads.fits, joined, zeros_flatten, reads.whole, List.nil_append]

theorem reads_bytes (content : Bytes) : Chunked content (content.map fun b => [b]) where
  whole := by
    induction content with
    | nil => rfl
    | cons b rest ih => rw [List.map_cons, List.flatten_cons, ih, List.singleton_append]
  some_there := by simp
  fits := by simp [md5LineSize]

def DigestsFile (content : Bytes) : Prop :=
  ∀ (md5 : Md5) (chunks : List Bytes), Chunked content chunks →
    clientGenMd5 md5 (some chunks) = hexText (md5.digest content) ∧
      fsGenMd5 md5 (some chunks) = hexText (md5.digest content)

theorem digestsFile_iff : DigestsFile content ↔ ∀ b ∈ content, b = 0 := by
  constructor
  · intro digests
    let md5 : Md5 := StreamingHash.detecting md5DigestLength content
    have right := (digests md5 _ (reads_bytes content)).1
    rw [clientGenMd5, genMd5Of_zeros md5 (reads_bytes content)] at right
    simp only [md5, StreamingHash.detecting_digest, if_true] at right
    split_ifs at right with zeros
    · intro b member
      rw [← zeros] at member
      exact List.eq_of_mem_replicate member
    · exact absurd right (by decide)
  · intro zeros md5 chunks reads
    have same : List.replicate content.length 0 = content :=
      (List.eq_replicate_of_mem zeros).symm
    rw [clientGenMd5, fsGenMd5, genMd5Of_zeros md5 reads, same]
    exact ⟨rfl, rfl⟩

-- Two files are digested as they are, and files of one length that differ feed different bytes to
-- the hash.
structure TellsApart (first second : Bytes) : Prop where
  digests : DigestsFile first ∧ DigestsFile second
  streams : first.length = second.length → first ≠ second →
    ∀ chunks others, Chunked first chunks → Chunked second others → fed chunks ≠ fed others

/-- Only files of zeros get the digest of their bytes. -/
theorem tellsApart_iff :
    TellsApart first second ↔ (∀ b ∈ first, b = 0) ∧ (∀ b ∈ second, b = 0) := by
  constructor
  · intro apart
    exact apart.digests.imp digestsFile_iff.mp digestsFile_iff.mp
  · rintro ⟨zeros, zeros'⟩
    refine ⟨⟨digestsFile_iff.mpr zeros, digestsFile_iff.mpr zeros'⟩, fun length differ => ?_⟩
    have same : first = second := by
      rw [List.eq_replicate_of_mem zeros, List.eq_replicate_of_mem zeros', length]
    exact absurd same differ

theorem one_byte_files_alike :
    ¬ TellsApart [97] [98] := by
  intro apart
  have reads : Chunked [97] [[97]] := reads_bytes [97]
  have reads' : Chunked [98] [[98]] := reads_bytes [98]
  exact apart.streams rfl (by decide) _ _ reads reads' (by decide)

theorem changed_file_clean (md5 : Md5) (length : first.length = second.length)
    (reads : Chunked first chunks) (reads' : Chunked second others) :
    fileStatus (clientGenMd5 md5 (some chunks)) (fsGenMd5 md5 (some others)) = .fileClean := by
  rw [clientGenMd5, fsGenMd5, genMd5Of_zeros md5 reads, genMd5Of_zeros md5 reads', length]
  simp [fileStatus]

end Librtcdc.Metadata
