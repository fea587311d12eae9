import Mathlib.Algebra.GroupWithZero.Nat
import Librtcdc.Sync.Packet

set_option autoImplicit false

namespace Librtcdc.Sync

open Systems

def numbered : Int → List Bytes → List SctpPacket
  | _, [] => []
  | index, piece :: more => piecePacket (int32 (index + 1)) piece :: numbered (index + 1) more

theorem int32_succ (index : Int) : int32 (int32 index + 1) = int32 (index + 1) := by
  unfold int32
  omega

theorem int32_small {index : Int} (positive : 0 ≤ index) (small : index < 2147483648) :
    int32 index = index := by
  unfold int32
  omega

def piecesOf (content : Bytes) : List Bytes :=
  pieces (sctpBufSize - 1) (sctpBufSize - 1) content

theorem sendPieces_eof {pFile : Stream} {index : Int} (ended : pFile.eof = true) :
    sendPieces index pFile = [] := by
  unfold sendPieces
  simp [ended]

theorem sendPieces_numbered {content : Bytes} {index : Int} :
    sendPieces (int32 index) (fopen content) = numbered index (piecesOf content) := by
  induction length : content.length using Nat.strong_induction_on generalizing content index with
  | _ bound ih =>
      subst length
      unfold sendPieces
      rw [if_neg (by simp [fopen])]
      split
      · rename_i got
        have ended : content = [] := fgets_none got
        rw [ended]
        rfl
      · rename_i piece next got
        obtain ⟨line, present, rfl⟩ := fgets_some got
        have shorter := fgets_shorter got
        have some_there : content ≠ [] := by
          rintro rfl
          exact present (line.trans (takeLine_nil _))
        have first : takeLine (sctpBufSize - 1) content = piece := line.symm
        have cut : piecesOf content = piece :: piecesOf (content.drop piece.length) := by
          rw [← first]
          exact pieces_cons some_there
        rw [int32_succ, cut, numbered]
        refine congrArg _ ?_
        cases ends : hitsEnd (sctpBufSize - 1) content with
        | false =>
            simp only [fopen, ends, Bool.or_false]
            exact ih _ shorter rfl
        | true =>
            have nothing : content.drop piece.length = [] := by
              rw [← first]
              exact drop_of_hitsEnd ends
            rw [nothing]
            exact sendPieces_eof (by simpa [fopen] using ends)

theorem sendFile_numbered (filename content : Bytes) :
    sendFile filename content =
      namePacket filename :: numbered 0 (piecesOf content) ++ [endPacket] := by
  rw [sendFile, ← sendPieces_numbered]
  rfl

-- The content holds no NUL and is cut into fewer pieces than an `int` can number.
structure Transferable (content : Bytes) : Prop where
  nulFree : 0 ∉ content
  pieces : (piecesOf content).length < 2147483648

theorem cText_zeroPadded (size : Nat) (text : Bytes) :
    cText (zeroPadded size text) = cText text :=
  cText_append_zeros ..

variable {localRepoPath path : Bytes} {r r' : Receiver} {index : Int} {piece : Bytes}

theorem onPacket_piece (nulFree : 0 ∉ piece) (positive : 0 < index)
    (opened : r.pFile = some path) :
    onPacket localRepoPath r (piecePacket index piece) =
      some (r.write path ((r.files path).getD [] ++ piece)) := by
  have written : (zeroPadded sctpBufSize piece).take piece.length = piece := by
    simp [zeroPadded]
  simp [onPacket, piecePacket, opened, cText_zeroPadded, cText_of_nulFree nulFree, written,
    show index ≠ 0 by omega, show index ≠ -1 by omega, positive]

theorem numbered_delivered {parts : List Bytes} {written : Bytes} (positive : 0 ≤ index)
    (few : index + parts.length < 2147483648) (nulFree : ∀ piece ∈ parts, 0 ∉ piece)
    (opened : r.pFile = some path) (so_far : r.files path = some written) :
    (numbered index parts).foldlM (onPacket localRepoPath) r =
      some (r.write path (written ++ parts.flatten)) := by
  induction parts generalizing index r written with
  | nil =>
      have same : r.write path written = r := by
        rw [Receiver.write, ← so_far, Function.update_eq_self]
      simp [numbered, same]
  | cons piece more ih =>
      rw [List.length_cons] at few
      have small : int32 (index + 1) = index + 1 := int32_small (by omega) (by omega)
      rw [numbered, List.foldlM_cons, small,
        onPacket_piece (nulFree piece List.mem_cons_self) (by omega) opened, so_far]
      have wrote : (r.write path (written ++ piece)).files path = some (written ++ piece) := by
        simp [Receiver.write]
      have still : (r.write path (written ++ piece)).pFile = some path := opened
      have later : (numbered (index + 1) more).foldlM (onPacket localRepoPath)
          (r.write path (written ++ piece)) = _ := ih (by omega) (by omega)
        (fun p member => nulFree p (List.mem_cons_of_mem _ member)) still wrote
      simpa [Receiver.write] using later

theorem onPacket_name {filename : Bytes} (nulFree : 0 ∉ filename)
    (target : localFilePath localRepoPath filename = some path) :
    onPacket localRepoPath r (namePacket filename) =
      some { r.write path [] with pFile := some path } := by
  simp [onPacket, namePacket, cText_zeroPadded, cText_of_nulFree nulFree, target]

theorem onPacket_end (opened : r.pFile = some path) :
    onPacket localRepoPath r endPacket = some { r with pFile := none } := by
  simp [onPacket, endPacket, opened]

theorem sendFile_delivered {filename content : Bytes} (nulFree : 0 ∉ filename)
    (target : localFilePath localRepoPath filename = some path)
    (transferable : Transferable content) :
    (sendFile filename content).foldlM (onPacket localRepoPath) r =
      some { r.write path content with pFile := none } := by
  have parts : (piecesOf content).flatten = content := pieces_flatten
  have clean : ∀ piece ∈ piecesOf content, 0 ∉ piece := by
    intro piece member zero
    refine transferable.nulFree ?_
    rw [← parts]
    exact List.mem_flatten.mpr ⟨piece, member, zero⟩
  have few := transferable.pieces
  let started : Receiver := { r.write path [] with pFile := some path }
  have opened : started.pFile = some path := rfl
  have empty : started.files path = some [] := by simp [started, Receiver.write]
  have body : (numbered 0 (piecesOf content)).foldlM (onPacket localRepoPath) started =
      some (started.write path ([] ++ (piecesOf content).flatten)) :=
    numbered_delivered (by omega) (by omega) clean opened empty
  have ended : onPacket localRepoPath (started.write path ([] ++ (piecesOf content).flatten))
      endPacket = some { r.write path content with pFile := none } := by
    have still : (started.write path ([] ++ (piecesOf content).flatten)).pFile = some path := rfl
    rw [onPacket_end still, parts]
    simp [started, Receiver.write]
  rw [sendFile_numbered, List.cons_append, List.foldlM_cons, onPacket_name nulFree target]
  rw [Option.bind_eq_bind, Option.bind_some, List.foldlM_append, body]
  simpa using ended

def sizeAt (r : Receiver) (path : Bytes) : Nat :=
  ((r.files path).getD []).length

def gain (packet : SctpPacket) : Nat :=
  if packet.index > 0 then packet.bufLen.toNat else 0

theorem onPacket_size {packet : SctpPacket} (moved : onPacket localRepoPath r packet = some r') :
    sizeAt r' path ≤ sizeAt r path + gain packet := by
  unfold onPacket at moved
  split_ifs at moved with opens closes writes
  · obtain ⟨target, _, rfl⟩ := Option.map_eq_some_iff.mp moved
    by_cases same : path = target <;> simp [sizeAt, Receiver.write, same]
  · obtain ⟨target, _, rfl⟩ := Option.map_eq_some_iff.mp moved
    exact Nat.le_add_right _ _
  · obtain ⟨target, _, rfl⟩ := Option.map_eq_some_iff.mp moved
    by_cases same : path = target
    · subst same
      have taken : (packet.buf.take packet.bufLen.toNat).length ≤ packet.bufLen.toNat :=
        List.length_take_le _ _
      simp only [sizeAt, Receiver.write, Function.update_self, Option.getD_some, List.length_append,
        gain, writes, if_true]
      exact Nat.add_le_add_left taken _
    · simp [sizeAt, Receiver.write, same]
  · obtain rfl := Option.some.inj moved
    exact Nat.le_add_right _ _

theorem packets_size {packets : List SctpPacket}
    (moved : packets.foldlM (onPacket localRepoPath) r = some r') :
    sizeAt r' path ≤ sizeAt r path + (packets.map gain).sum := by
  induction packets generalizing r with
  | nil =>
      obtain rfl : r = r' := by simpa using moved
      simp
  | cons packet more ih =>
      rw [List.foldlM_cons] at moved
      obtain ⟨between, first, rest⟩ := Option.bind_eq_some_iff.mp moved
      have here : sizeAt between path ≤ sizeAt r path + gain packet := onPacket_size first
      have later := ih rest
      rw [List.map_cons, List.sum_cons]
      omega

theorem gain_piece : gain (piecePacket index piece) =
    if index > 0 then (cText piece).length else 0 := by
  simp [gain, piecePacket, cText_zeroPadded]

theorem gain_piece_le : gain (piecePacket index piece) ≤ piece.length := by
  rw [gain_piece]
  split_ifs
  · exact cText_length_le piece
  · exact Nat.zero_le _

theorem gain_piece_lt (present : piece ≠ []) (lossy : 0 ∈ piece ∨ index ≤ 0) :
    gain (piecePacket index piece) < piece.length := by
  rw [gain_piece]
  split_ifs with positive
  · exact cText_length_lt (lossy.resolve_right (Int.not_le.mpr positive))
  · exact List.length_pos_iff.mpr present

theorem gains_le {parts : List Bytes} :
    ((numbered index parts).map gain).sum ≤ parts.flatten.length := by
  induction parts generalizing index with
  | nil => exact Nat.le_refl _
  | cons piece more ih =>
      have here : gain (piecePacket (int32 (index + 1)) piece) ≤ piece.length := gain_piece_le
      have later : ((numbered (index + 1) more).map gain).sum ≤ more.flatten.length := ih
      simp only [numbered, List.map_cons, List.sum_cons, List.flatten_cons, List.length_append]
      omega

theorem gains_lt {before after : List Bytes} (present : piece ≠ [])
    (lossy : 0 ∈ piece ∨ int32 (index + before.length + 1) ≤ 0) :
    ((numbered index (before ++ piece :: after)).map gain).sum <
      (before ++ piece :: after).flatten.length := by
  induction before generalizing index with
  | nil =>
      have here : gain (piecePacket (int32 (index + 1)) piece) < piece.length :=
        gain_piece_lt present (by simpa using lossy)
      have later : ((numbered (index + 1) after).map gain).sum ≤ after.flatten.length := gains_le
      simp only [List.nil_append, numbered, List.map_cons, List.sum_cons, List.flatten_cons,
        List.length_append]
      omega
  | cons head tail ih =>
      have here : gain (piecePacket (int32 (index + 1)) head) ≤ head.length := gain_piece_le
      have shifted : index + 1 + tail.length + 1 = index + (head :: tail).length + 1 := by
        rw [List.length_cons]
        omega
      have later : ((numbered (index + 1) (tail ++ piece :: after)).map gain).sum <
          (tail ++ piece :: after).flatten.length := ih (by rwa [shifted])
      simp only [List.cons_append, numbered, List.map_cons, List.sum_cons, List.flatten_cons,
        List.length_append] at later ⊢
      omega

theorem gains_lossy {content : Bytes} (lossy : ¬ Transferable content) :
    ((numbered 0 (piecesOf content)).map gain).sum < content.length := by
  have parts : (piecesOf content).flatten = content := pieces_flatten
  have whole : ∀ piece ∈ piecesOf content, piece ≠ [] := pieces_nonempty
  by_cases nul : 0 ∈ content
  · rw [← parts] at nul
    obtain ⟨piece, member, zero⟩ := List.mem_flatten.mp nul
    obtain ⟨before, after, split⟩ := List.append_of_mem member
    have lost : ((numbered 0 (before ++ piece :: after)).map gain).sum <
        (before ++ piece :: after).flatten.length := gains_lt (whole piece member) (.inl zero)
    rwa [← split, parts] at lost
  · have many : 2147483648 ≤ (piecesOf content).length := by
      by_contra few
      exact lossy ⟨nul, Nat.not_le.mp few⟩
    -- the piece whose number is past the largest `int`
    have bound : 2147483647 < (piecesOf content).length := many
    have split : (piecesOf content).take 2147483647 ++
        (piecesOf content)[2147483647] :: (piecesOf content).drop (2147483647 + 1) =
          piecesOf content := by
      rw [← List.drop_eq_getElem_cons bound, List.take_append_drop]
    have position : ((piecesOf content).take 2147483647).length = 2147483647 :=
      List.length_take_of_le (Nat.le_of_lt bound)
    have past : int32 (0 + ((piecesOf content).take 2147483647).length + 1) ≤ 0 := by
      rw [position]
      decide
    have lost : ((numbered 0 ((piecesOf content).take 2147483647 ++ (piecesOf content)[2147483647] ::
        (piecesOf content).drop (2147483647 + 1))).map gain).sum < _ :=
      gains_lt (whole _ (List.getElem_mem bound)) (.inr past)
    rwa [split, parts] at lost

theorem sendFile_loses {filename content : Bytes} (nulFree : 0 ∉ filename)
    (target : localFilePath localRepoPath filename = some path) (lossy : ¬ Transferable content)
    (moved : (sendFile filename content).foldlM (onPacket localRepoPath) r = some r') :
    sizeAt r' path < content.length := by
  have lost := gains_lossy lossy
  rw [sendFile_numbered, List.cons_append, List.foldlM_cons, onPacket_name nulFree target] at moved
  rw [Option.bind_eq_bind, Option.bind_some] at moved
  have size : sizeAt r' path ≤ _ := packets_size moved
  have ending : gain endPacket = 0 := rfl
  have empty : sizeAt { r.write path [] with pFile := some path } path = 0 := by
    simp [sizeAt, Receiver.write]
  rw [List.map_append, List.sum_append, List.map_singleton, List.sum_singleton, ending] at size
  omega

theorem sendDiff_append (selected : FileStatus → Bool) (files : Files) (repo : Bytes)
    (first second : List DiffInfo) :
    sendDiff selected files repo (first ++ second) =
      (sendDiff selected files repo first).bind fun sent =>
        (sendDiff selected files repo second).map fun more => sent ++ more := by
  induction first with
  | nil => cases later : sendDiff selected files repo second <;> simp [sendDiff, later]
  | cons file rest ih =>
      rw [List.cons_append, sendDiff, sendDiff]
      cases localFilePath repo file.filename.val with
      | none => rfl
      | some path =>
          rw [ih]
          cases sendDiff selected files repo rest <;>
            cases sendDiff selected files repo second <;> simp

theorem sendDiff_file {selected : FileStatus → Bool} {files : Files} {repo : Bytes}
    {file : DiffInfo} {content : Bytes} (chosen : selected file.dirty = true)
    (source : localFilePath repo file.filename.val = some path)
    (read : files path = some content) :
    sendDiff selected files repo [file] = some (sendFile file.filename.val content) := by
  simp [sendDiff, source, chosen, read]

def Arrives (d : Direction) (localRepoPath : Bytes) (r : Receiver) (packets : List SctpPacket)
    (target content : Bytes) : Prop :=
  ∃ r', deliver d localRepoPath r packets = some r' ∧ r'.files target = some content

/-- A file that is sent arrives unchanged exactly when it is transferable. -/
theorem arrives_iff (d : Direction) {files : Files} {senderRepo receiverRepo : Bytes}
    {file : DiffInfo} {earlier later : List DiffInfo} {source target content : Bytes}
    {packets : List SctpPacket} (selected : d.selects file.dirty = true)
    (sourcePath : localFilePath senderRepo file.filename.val = some source)
    (read : files source = some content)
    (targetPath : localFilePath receiverRepo file.filename.val = some target)
    (sent : d.send files senderRepo (earlier ++ file :: later) = some packets) :
    ∃ before own after, packets = before ++ (own ++ after) ∧
      d.send files senderRepo [file] = some own ∧
      ∀ r, Arrives d receiverRepo r own target content ↔ Transferable content := by
  have single : d.send files senderRepo [file] =
      some (sendFile file.filename.val content) := by
    rw [d.send_eq]
    exact sendDiff_file selected sourcePath read
  have nulFree := file.filename.property
  rw [d.send_eq, sendDiff_append, ← List.singleton_append, sendDiff_append, ← d.send_eq] at sent
  obtain ⟨before, _, rest⟩ := Option.bind_eq_some_iff.mp sent
  rw [single, Option.bind_some, Option.map_map] at rest
  obtain ⟨after, _, rfl⟩ := Option.map_eq_some_iff.mp rest
  refine ⟨before, _, after, rfl, single, fun r => ?_⟩
  unfold Arrives deliver
  rw [d.onMessage_eq]
  constructor
  · rintro ⟨r', moved, written⟩
    by_contra lossy
    have size := sendFile_loses nulFree targetPath lossy moved
    rw [sizeAt, written] at size
    exact Nat.lt_irrefl _ size
  · intro transferable
    exact ⟨_, sendFile_delivered nulFree targetPath transferable, by simp [Receiver.write]⟩

def lackingFile : DiffInfo where
  filename := ⟨[97], by decide⟩
  dirty := .fileFsLack

def oneFile (content : Bytes) : Files :=
  fun path => if path = [97] then some content else none

def freshReceiver : Receiver where
  files := fun _ => none
  pFile := none

theorem upload_lacking (content : Bytes) :
    Direction.upload.send (oneFile content) [] [lackingFile] = some (sendFile [97] content) := by
  have path : localFilePath [] lackingFile.filename.val = some [97] := rfl
  have read : oneFile content [97] = some content := rfl
  have chosen : Direction.upload.selects lackingFile.dirty = true := rfl
  rw [Direction.send_eq]
  exact sendDiff_file chosen path read

theorem text_arrives : ∃ own,
    uvClientUpload (oneFile [104, 105, 10, 33]) [] [lackingFile] = some own ∧
      Arrives .upload [] freshReceiver own [97] [104, 105, 10, 33] := by
  have transferable : Transferable [104, 105, 10, 33] := ⟨by decide, by decide⟩
  have path : localFilePath [] lackingFile.filename.val = some [97] := rfl
  have read : oneFile [104, 105, 10, 33] [97] = some [104, 105, 10, 33] := rfl
  have sent : Direction.upload.send (oneFile [104, 105, 10, 33]) [] ([] ++ lackingFile :: []) = _ :=
    upload_lacking _
  obtain ⟨_, own, _, _, single, arrives⟩ := arrives_iff .upload rfl path read path sent
  exact ⟨own, single, (arrives freshReceiver).mpr transferable⟩

def TransferLaw : Prop :=
  ∀ (d : Direction) (files : Files) (senderRepo receiverRepo source target content : Bytes)
    (file : DiffInfo) (own : List SctpPacket) (r : Receiver),
    d.selects file.dirty = true → localFilePath senderRepo file.filename.val = some source →
    files source = some content → localFilePath receiverRepo file.filename.val = some target →
    d.send files senderRepo [file] = some own → Arrives d receiverRepo r own target content

theorem nul_lost : ¬ TransferLaw := by
  intro law
  have path : localFilePath [] lackingFile.filename.val = some [97] := rfl
  obtain ⟨r', moved, written⟩ := law .upload (oneFile [97, 0, 98]) [] [] [97] [97] [97, 0, 98]
    lackingFile _ freshReceiver rfl rfl rfl rfl (upload_lacking _)
  have lossy : ¬ Transferable [97, 0, 98] := fun transferable => transferable.nulFree (by decide)
  have size : sizeAt r' [97] < 3 :=
    sendFile_loses lackingFile.filename.property path lossy moved
  rw [sizeAt, written] at size
  exact absurd size (by decide)

end Librtcdc.Sync
