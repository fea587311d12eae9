import Librtcdc.Metadata.Listing
import Librtcdc.Sync.Delivery

set_option autoImplicit false

namespace Librtcdc.Metadata

open Systems Sync

-- Two directories as the contents of their files by name, the diff between them, and what sending
-- the diff does to it.

def contents (files : Files) (directory : Bytes) (name : CString) : Option Bytes :=
  if name = dot ∨ name = dotDot then none else files (directory ++ name.val)

-- `readdir` goes over the regular files of the directory, and perhaps over `.` and `..`.
structure Lists (files : Files) (directory : Bytes) (entries : List CString) : Prop where
  distinct : entries.Nodup
  complete : ∀ name, name ∈ realNames entries ↔ (contents files directory name).isSome

-- A file that is not there has the empty checksum.
def checksumOf (checksum : Bytes → CString) (content : Option Bytes) : CString :=
  (content.map checksum).getD CString.empty

def statusOf (checksum : Bytes → CString) (client fs : Option Bytes) : FileStatus :=
  fileStatus (checksumOf checksum client) (checksumOf checksum fs)

structure IsDiff (checksum : Bytes → CString) (client fs : CString → Option Bytes)
    (diff : List DiffInfo) : Prop where
  listed : ∀ name, name ∈ diff.map DiffInfo.filename ↔ (client name).isSome ∨ (fs name).isSome
  status : ∀ file ∈ diff, file.dirty = statusOf checksum (client file.filename) (fs file.filename)

variable {d : Direction} {checksum : Bytes → CString} {client fs : Option Bytes} {name : CString}
  {files before after senderFiles : Files} {senderRepo receiverRepo directory : Bytes}
  {first second : List DiffInfo}

theorem selects_fileStatus {client fs : CString} :
    d.selects (fileStatus client fs) = true ↔
      d.sender client fs ≠ d.receiver client fs ∧ d.sender client fs ≠ CString.empty := by
  unfold fileStatus
  cases d <;> simp only [Direction.sender, Direction.receiver] <;> split_ifs <;>
    simp_all [Direction.selects, eq_comm]

theorem selects_statusOf : d.selects (statusOf checksum client fs) = true ↔
    checksumOf checksum (d.sender client fs) ≠ checksumOf checksum (d.receiver client fs) ∧
      checksumOf checksum (d.sender client fs) ≠ CString.empty := by
  rw [statusOf, selects_fileStatus]
  cases d <;> rfl

theorem sent_exists {sender : Option Bytes} (present : checksumOf checksum sender ≠ CString.empty) :
    sender.isSome := by
  cases sender with
  | none => exact absurd rfl present
  | some content => rfl

def mirrored (d : Direction) (diff : List DiffInfo) (sender receiver : CString → Option Bytes)
    (name : CString) : Option Bytes :=
  if ∃ file ∈ diff, file.filename = name ∧ d.selects file.dirty = true then sender name
  else receiver name

theorem sender_apply {client fs : CString → Option Bytes} :
    d.sender (client name) (fs name) = d.sender client fs name := by
  cases d <;> rfl

theorem receiver_apply {client fs : CString → Option Bytes} :
    d.receiver (client name) (fs name) = d.receiver client fs name := by
  cases d <;> rfl

theorem next_selects_none {client fs client' fs' : CString → Option Bytes}
    (sent : IsDiff checksum client fs first) (next : IsDiff checksum client' fs' second)
    (same : d.sender client' fs' = d.sender client fs)
    (arrived : d.receiver client' fs' =
      mirrored d first (d.sender client fs) (d.receiver client fs)) :
    ∀ file ∈ second, d.selects file.dirty = false := by
  intro file member
  by_contra selected
  rw [Bool.not_eq_false, next.status file member, selects_statusOf, sender_apply, receiver_apply,
    same, arrived] at selected
  obtain ⟨different, present⟩ := selected
  by_cases chosen : ∃ other ∈ first, other.filename = file.filename ∧ d.selects other.dirty = true
  · rw [mirrored, if_pos chosen] at different
    exact different rfl
  · rw [mirrored, if_neg chosen] at different
    have there := sent_exists present
    have listed : file.filename ∈ first.map DiffInfo.filename := by
      rw [sent.listed]
      cases d
      · exact .inl there
      · exact .inr there
    obtain ⟨other, below, name⟩ := List.mem_map.mp listed
    refine chosen ⟨other, below, name, ?_⟩
    rw [sent.status other below, name, selects_statusOf, sender_apply, receiver_apply]
    exact ⟨different, present⟩

theorem contents_mirrored
    (mirrors : Mirrors d.selects senderFiles senderRepo receiverRepo first before after) :
    contents after receiverRepo =
      mirrored d first (contents senderFiles senderRepo) (contents before receiverRepo) := by
  funext name
  by_cases special : name = dot ∨ name = dotDot
  · simp [mirrored, contents, special]
  · simp only [mirrored, contents, if_neg special]
    split_ifs with chosen
    · obtain ⟨file, member, rfl, selected⟩ := chosen
      exact mirrors.sent file member selected
    · refine mirrors.kept _ fun file member selected path => ?_
      exact chosen ⟨file, member, Subtype.ext (List.append_cancel_left path), selected⟩

theorem unselected_kept {client fs : CString → Option Bytes} {file : DiffInfo}
    (mirrors : Mirrors d.selects senderFiles senderRepo receiverRepo first before after)
    (sent : IsDiff checksum client fs first) (member : file ∈ first)
    (unselected : d.selects file.dirty = false) :
    after (receiverRepo ++ file.filename.val) = before (receiverRepo ++ file.filename.val) := by
  refine mirrors.kept _ fun other below selected path => ?_
  have name : other.filename = file.filename := Subtype.ext (List.append_cancel_left path)
  rw [sent.status other below, name, ← sent.status file member, unselected] at selected
  cases selected

theorem mirrored_all {client fs : CString → Option Bytes} (sent : IsDiff checksum client fs first)
    (nonempty : ∀ content, d.sender client fs name = some content → checksum content ≠ CString.empty)
    (faithful : ∀ content other, d.sender client fs name = some content →
      d.receiver client fs name = some other → checksum content = checksum other → content = other) :
    mirrored d first (d.sender client fs) (d.receiver client fs) name =
      (d.sender client fs name).or (d.receiver client fs name) := by
  unfold mirrored
  split_ifs with chosen
  · obtain ⟨file, member, rfl, selected⟩ := chosen
    rw [sent.status file member, selects_statusOf, sender_apply] at selected
    obtain ⟨content, there⟩ := Option.isSome_iff_exists.mp (sent_exists selected.2)
    rw [there, Option.some_or]
  · cases there : d.sender client fs name with
    | none => rw [Option.none_or]
    | some content =>
        have listed : name ∈ first.map DiffInfo.filename := by
          have either : (d.sender client fs name).isSome := by rw [there]; rfl
          rw [sent.listed]
          cases d
          · exact .inl either
          · exact .inr either
        obtain ⟨file, member, rfl⟩ := List.mem_map.mp listed
        have unselected : d.selects file.dirty ≠ true := fun selected =>
          chosen ⟨file, member, rfl, selected⟩
        rw [sent.status file member, Ne, selects_statusOf, sender_apply, receiver_apply, there,
          not_and_not_right] at unselected
        have present : checksumOf checksum (some content) ≠ CString.empty := nonempty content there
        have same : checksumOf checksum (some content) =
            checksumOf checksum (d.receiver client fs file.filename) := by
          by_contra different
          exact present (unselected different)
        cases other : d.receiver client fs file.filename with
        | none =>
            rw [other] at same
            exact absurd same present
        | some kept =>
            rw [other] at same
            rw [Option.some_or, faithful content kept there other same]

variable {entries : List CString} {content : Bytes}

theorem contents_some (there : contents files directory name = some content) :
    files (directory ++ name.val) = some content := by
  rw [contents] at there
  split_ifs at there
  exact there

theorem listed_entries {key : String} (lists : Lists files directory entries) :
    ((realNames entries).map fun name =>
        entry key name (genMd5 checksum files (directory ++ name.val))) =
      (realNames entries).map fun name =>
        entry key name (checksumOf checksum (contents files directory name)) := by
  refine List.map_congr_left fun name member => ?_
  obtain ⟨content, there⟩ := Option.isSome_iff_exists.mp ((lists.complete name).mp member)
  rw [there, genMd5, contents_some there]
  rfl

theorem unlisted_empty (lists : Lists files directory entries) (absent : name ∉ realNames entries) :
    checksumOf checksum (contents files directory name) = CString.empty := by
  rw [lists.complete, Bool.not_eq_true, Option.isSome_eq_false_iff, Option.isNone_iff_eq_none]
    at absent
  rw [absent]
  rfl

end Librtcdc.Metadata
