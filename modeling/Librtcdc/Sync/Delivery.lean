import Mathlib.Algebra.Ring.Int.Defs
import Librtcdc.Sync.Transfer

set_option autoImplicit false

namespace Librtcdc.Sync

open Systems

def Direction.sender {α : Type} (d : Direction) (client fs : α) : α :=
  match d with
  | .upload => client
  | .download => fs

def Direction.receiver {α : Type} (d : Direction) (client fs : α) : α :=
  match d with
  | .upload => fs
  | .download => client

def Direction.lacking : Direction → FileStatus
  | .upload => .fileFsLack
  | .download => .fileClientLack

def Direction.spare : Direction → FileStatus
  | .upload => .fileClientLack
  | .download => .fileFsLack

variable {d : Direction} {dirty : FileStatus} {selected : FileStatus → Bool} {files : Files}
  {senderRepo receiverRepo filename : Bytes} {diff : List DiffInfo}

theorem Direction.selects_eq_false :
    d.selects dirty = false ↔ dirty ≠ d.lacking ∧ dirty ≠ .fileDirty := by
  cases d <;> cases dirty <;> decide

theorem Direction.not_selects (kept : dirty = .fileClean ∨ dirty = d.spare) :
    d.selects dirty = false := by
  rcases kept with rfl | rfl <;> cases d <;> rfl

theorem localFilePath_fits (fits : senderRepo.length + filename.length < localPathSize) :
    localFilePath senderRepo filename = some (senderRepo ++ filename) := by
  simp [localFilePath, fits]

structure Sendable (selected : FileStatus → Bool) (files : Files) (senderRepo receiverRepo : Bytes)
    (file : DiffInfo) : Prop where
  sourceFits : senderRepo.length + file.filename.val.length < localPathSize
  targetFits : receiverRepo.length + file.filename.val.length < localPathSize
  content : selected file.dirty = true →
    ∃ content, files (senderRepo ++ file.filename.val) = some content ∧ Transferable content

-- What a receiver has after a diff: the selected files of the sender, and else what it had.
structure Mirrors (selected : FileStatus → Bool) (files : Files) (senderRepo receiverRepo : Bytes)
    (diff : List DiffInfo) (before after : Files) : Prop where
  sent : ∀ file ∈ diff, selected file.dirty = true →
    after (receiverRepo ++ file.filename.val) = files (senderRepo ++ file.filename.val)
  kept : ∀ path, (∀ file ∈ diff, selected file.dirty = true →
    receiverRepo ++ file.filename.val ≠ path) → after path = before path

-- A file of a diff that both sides have room for, and that can be sent if it can be opened.
structure Movable (selected : FileStatus → Bool) (files : Files) (senderRepo receiverRepo : Bytes)
    (file : DiffInfo) : Prop where
  sourceFits : senderRepo.length + file.filename.val.length < localPathSize
  targetFits : receiverRepo.length + file.filename.val.length < localPathSize
  content : selected file.dirty = true → ∀ content,
    files (senderRepo ++ file.filename.val) = some content → Transferable content

def handles (packet : SctpPacket) : Int :=
  if packet.index = 0 then 1
  else if packet.index = -1 then -1
  else 0

-- What the packets of a diff do to a receiver: it gets the selected files that the sender could
-- open, keeps all its other files, and leaves no file open.
structure Moved (selected : FileStatus → Bool) (files : Files) (senderRepo receiverRepo : Bytes)
    (diff : List DiffInfo) (r : Receiver) (packets : List SctpPacket) (r' : Receiver) : Prop where
  sent : ∀ file ∈ diff, selected file.dirty = true → ∀ content,
    files (senderRepo ++ file.filename.val) = some content →
      r'.files (receiverRepo ++ file.filename.val) = some content
  kept : ∀ path, (∀ file ∈ diff, selected file.dirty = true →
    (files (senderRepo ++ file.filename.val)).isSome →
      receiverRepo ++ file.filename.val ≠ path) → r'.files path = r.files path
  closed : r.pFile = none → r'.pFile = none
  balanced : (packets.map handles).sum = 0

variable {r between r' : Receiver} {file : DiffInfo} {rest : List DiffInfo}
  {own more : List SctpPacket} {content : Bytes}

theorem Moved.unsent (skipped : selected file.dirty = true →
    files (senderRepo ++ file.filename.val) = none) :
    Moved selected files senderRepo receiverRepo [file] r [] r where
  sent := by
    intro other member chosen content there
    obtain rfl : other = file := by simpa using member
    rw [skipped chosen] at there
    cases there
  kept _ _ := rfl
  closed := id
  balanced := rfl

theorem Moved.cons (here : Moved selected files senderRepo receiverRepo [file] r own between)
    (later : Moved selected files senderRepo receiverRepo rest between more r') :
    Moved selected files senderRepo receiverRepo (file :: rest) r (own ++ more) r' where
  sent := by
    intro other member chosen content there
    by_cases again : ∃ same ∈ rest, selected same.dirty = true ∧
        receiverRepo ++ same.filename.val = receiverRepo ++ other.filename.val
    · obtain ⟨same, below, chosenSame, path⟩ := again
      have name := List.append_cancel_left path
      rw [← name] at there ⊢
      exact later.sent same below chosenSame content there
    · rcases List.mem_cons.mp member with rfl | below
      · rw [later.kept _ fun same below chosenSame _ path => again ⟨same, below, chosenSame, path⟩]
        exact here.sent other List.mem_cons_self chosen content there
      · exact absurd ⟨other, below, chosen, rfl⟩ again
  kept := by
    intro path elsewhere
    rw [later.kept path fun other below => elsewhere other (List.mem_cons_of_mem _ below),
      here.kept path fun other member => elsewhere other
        (List.mem_cons.mpr (.inl (List.mem_singleton.mp member)))]
  closed := fun none_open => later.closed (here.closed none_open)
  balanced := by
    rw [List.map_append, List.sum_append, here.balanced, later.balanced]
    rfl

theorem handles_numbered {index : Int} {parts : List Bytes} (positive : 0 ≤ index)
    (few : index + parts.length < 2147483648) : ((numbered index parts).map handles).sum = 0 := by
  induction parts generalizing index with
  | nil => rfl
  | cons piece more ih =>
      rw [List.length_cons] at few
      have small : int32 (index + 1) = index + 1 := int32_small (by omega) (by omega)
      have inside : handles (piecePacket (index + 1) piece) = 0 := by
        simp [handles, piecePacket, show index + 1 ≠ 0 by omega, show index + 1 ≠ -1 by omega]
      rw [numbered, List.map_cons, List.sum_cons, small, inside, ih (by omega) (by omega)]
      rfl

theorem handles_sendFile (filename : Bytes) (transferable : Transferable content) :
    ((sendFile filename content).map handles).sum = 0 := by
  have few := transferable.pieces
  have pieces : ((numbered 0 (piecesOf content)).map handles).sum = 0 :=
    handles_numbered (Int.le_refl 0) (by omega)
  have ends : handles (namePacket filename) + handles endPacket = 0 := rfl
  rw [sendFile_numbered, List.map_append, List.sum_append, List.map_cons, List.sum_cons, pieces,
    List.map_singleton, List.sum_singleton, Int.add_zero, ends]

theorem Moved.written (chosen : selected file.dirty = true)
    (there : files (senderRepo ++ file.filename.val) = some content)
    (transferable : Transferable content) :
    Moved selected files senderRepo receiverRepo [file] r (sendFile file.filename.val content)
      { r.write (receiverRepo ++ file.filename.val) content with pFile := none } where
  sent := by
    intro other member _ content' there'
    obtain rfl : other = file := by simpa using member
    obtain rfl : content = content' := by simpa [there] using there'
    simp [Receiver.write]
  kept := by
    intro path elsewhere
    have different := elsewhere file List.mem_cons_self chosen (by simp [there])
    simp [Receiver.write, Function.update_of_ne different.symm]
  closed := fun _ => rfl
  balanced := handles_sendFile _ transferable

theorem sendDiff_one (r : Receiver)
    (movable : Movable selected files senderRepo receiverRepo file) :
    ∃ packets r', sendDiff selected files senderRepo [file] = some packets ∧
      packets.foldlM (onPacket receiverRepo) r = some r' ∧
        Moved selected files senderRepo receiverRepo [file] r packets r' := by
  have source := localFilePath_fits movable.sourceFits
  cases chosen : selected file.dirty with
  | false =>
      refine ⟨[], r, by simp [sendDiff, source, chosen], rfl, .unsent fun other => ?_⟩
      rw [chosen] at other
      cases other
  | true =>
      cases there : files (senderRepo ++ file.filename.val) with
      | none => exact ⟨[], r, by simp [sendDiff, source, there], rfl, .unsent fun _ => there⟩
      | some content =>
          have transferable := movable.content chosen content there
          have target := localFilePath_fits movable.targetFits
          exact ⟨_, _, sendDiff_file chosen source there,
            sendFile_delivered file.filename.property target transferable,
            .written chosen there transferable⟩

theorem sendDiff_moves (r : Receiver)
    (movable : ∀ file ∈ diff, Movable selected files senderRepo receiverRepo file) :
    ∃ packets r', sendDiff selected files senderRepo diff = some packets ∧
      packets.foldlM (onPacket receiverRepo) r = some r' ∧
        Moved selected files senderRepo receiverRepo diff r packets r' := by
  induction diff generalizing r with
  | nil => exact ⟨[], r, rfl, rfl, nofun, fun _ _ => rfl, id, rfl⟩
  | cons file rest ih =>
      obtain ⟨own, between, sentOwn, arrivesOwn, here⟩ :=
        sendDiff_one r (movable file List.mem_cons_self)
      obtain ⟨more, r', sentMore, arrivesMore, later⟩ :=
        ih between fun file member => movable file (List.mem_cons_of_mem _ member)
      refine ⟨own ++ more, r', ?_, ?_, here.cons later⟩
      · rw [← List.singleton_append, sendDiff_append, sentOwn, sentMore]
        rfl
      · rw [List.foldlM_append, arrivesOwn]
        exact arrivesMore

/-- A whole transfer, in either direction, moves the right files and leaves none open. -/
theorem transfer_moves (d : Direction) (closed : r.pFile = none)
    (movable : ∀ file ∈ diff, Movable d.selects files senderRepo receiverRepo file) :
    ∃ packets r', d.send files senderRepo diff = some packets ∧
      deliver d receiverRepo r packets = some r' ∧ r'.pFile = none ∧
        Moved d.selects files senderRepo receiverRepo diff r packets r' := by
  rw [d.send_eq]
  unfold deliver
  rw [d.onMessage_eq]
  obtain ⟨packets, r', sent, arrived, moved⟩ := sendDiff_moves r movable
  exact ⟨packets, r', sent, arrived, moved.closed closed, moved⟩

def missingFile : DiffInfo where
  filename := ⟨[98], by decide⟩
  dirty := .fileDirty

theorem opened_file_moves : ∃ packets r',
    uvClientUpload (oneFile [104, 105]) [] [lackingFile, missingFile] = some packets ∧
      deliver .upload [114] freshReceiver packets = some r' ∧ r'.pFile = none ∧
        r'.files [114, 97] = some [104, 105] ∧ r'.files [114, 98] = none := by
  have movable : ∀ file ∈ [lackingFile, missingFile],
      Movable Direction.upload.selects (oneFile [104, 105]) [] [114] file := by
    simp only [List.forall_mem_cons]
    refine ⟨⟨by decide, by decide, ?_⟩, ⟨by decide, by decide, ?_⟩, by simp⟩
    · rintro - content there
      obtain rfl : [104, 105] = content := by simpa [oneFile, lackingFile] using there
      exact ⟨by decide, by decide⟩
    · rintro - content there
      simp [oneFile, missingFile] at there
  obtain ⟨packets, r', sent, arrived, closed, moved⟩ :=
    transfer_moves .upload (r := freshReceiver) rfl movable
  refine ⟨packets, r', sent, arrived, closed, ?_, ?_⟩
  · exact moved.sent lackingFile List.mem_cons_self rfl _ rfl
  · rw [moved.kept]
    · rfl
    · simp only [List.forall_mem_cons]
      refine ⟨?_, ?_, by simp⟩
      · rintro - -
        decide
      · rintro - opened
        simp [oneFile, missingFile] at opened

theorem Sendable.movable (sendable : Sendable selected files senderRepo receiverRepo file) :
    Movable selected files senderRepo receiverRepo file where
  sourceFits := sendable.sourceFits
  targetFits := sendable.targetFits
  content := by
    intro chosen content there
    obtain ⟨content', there', transferable⟩ := sendable.content chosen
    obtain rfl : content = content' := by simpa [there] using there'
    exact transferable

theorem Moved.mirrors (moved : Moved selected files senderRepo receiverRepo diff r own r')
    (sendable : ∀ file ∈ diff, Sendable selected files senderRepo receiverRepo file) :
    Mirrors selected files senderRepo receiverRepo diff r.files r'.files where
  sent := by
    intro file member chosen
    obtain ⟨content, there, _⟩ := (sendable file member).content chosen
    rw [there]
    exact moved.sent file member chosen content there
  kept := fun path elsewhere =>
    moved.kept path fun file member chosen _ => elsewhere file member chosen

theorem diff_delivered (d : Direction) (before : Files)
    (sendable : ∀ file ∈ diff, Sendable d.selects files senderRepo receiverRepo file) :
    ∃ packets r', d.send files senderRepo diff = some packets ∧
      deliver d receiverRepo { files := before, pFile := none } packets = some r' ∧
        Mirrors d.selects files senderRepo receiverRepo diff before r'.files := by
  rw [d.send_eq]
  unfold deliver
  rw [d.onMessage_eq]
  obtain ⟨packets, r', sent, arrived, moved⟩ :=
    sendDiff_moves ⟨before, none⟩ fun file member => (sendable file member).movable
  exact ⟨packets, r', sent, arrived, moved.mirrors sendable⟩

end Librtcdc.Sync
