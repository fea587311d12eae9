import Librtcdc.Metadata.Listing
import Librtcdc.Shared.Text

set_option autoImplicit false

namespace Librtcdc.Metadata

open Systems Sync

-- `struct sy_diff_t`, as sy_status and the SY_DOWNLOAD of the file server build it from an array.

structure SyDiff where
  num : UInt8
  filesDiff : List DiffInfo

-- An entry fresh from calloc.
def blankInfo : DiffInfo where
  filename := CString.empty
  dirty := .fileClean

-- The loop over the elements; `vars` are its variables `filename` and `dirty`.
def fillDiff : List (Option Json) → Nat → List DiffInfo → List Json → Except Fault (List DiffInfo)
  | _, _, filesDiff, [] => .ok filesDiff
  | vars, index, filesDiff, element :: rest =>
      let vars := element.unpack [("filename", .s), ("dirty", .i)] vars
      match vars.mapM id with
      | none => .error .uninitialised
      | some values => do
          let info ← diffInfo values
          if index < filesDiff.length then
            fillDiff vars (index + 1) (filesDiff.set index info) rest
          else
            .error .overflow

-- The two builders allocate differently many entries more than the array has.
def buildDiff (spare : Nat) (array : Option Json) : Except Fault SyDiff := do
  let size := (Json.elements array).length
  let filesDiff ← fillDiff [none, none] 0 (List.replicate (size + spare) blankInfo)
    (Json.elements array)
  return { num := UInt8.ofNat size, filesDiff }

def syStatusSessionDiff (recvd : Json) : Except Fault SyDiff :=
  buildDiff 1 (recvd.get "files")

def syDownloadSessionDiff (recvd : Json) : Except Fault SyDiff :=
  buildDiff 0 (recvd.get "diff")

-- What the loops of uv_client_upload and uv_fs_download look at; nothing is there past the end.
def SyDiff.visited (diff : SyDiff) : List (Option DiffInfo) :=
  (List.range diff.num.toNat).map fun i => diff.filesDiff[i]?

structure SyDiff.Represents (diff : SyDiff) (entries : List DiffInfo) : Prop where
  num : diff.num.toNat = entries.length
  filesDiff : ∀ i < entries.length, diff.filesDiff[i]? = entries[i]?
  visited : diff.visited = entries.map some

def Representable (entries : List DiffInfo) : Prop :=
  entries.length < 256 ∧ ∀ file ∈ entries, file.filename.val.length < fileNameSize

variable {vars : List (Option Json)} {filled blank filesDiff infos entries : List DiffInfo}
  {elements : List Json} {rows : List (List Json)} {spare : Nat} {array : Option Json}
  {diff : SyDiff}

theorem set_next (filled blank : List DiffInfo) (old info : DiffInfo) :
    (filled ++ old :: blank).set filled.length info = filled ++ [info] ++ blank := by
  rw [List.set_append_right _ _ (Nat.le_refl _), Nat.sub_self, List.append_assoc]
  rfl

theorem fillDiff_next {element : Json} {values : List Json} (old : DiffInfo) (rest : List Json)
    (read : (element.unpack [("filename", .s), ("dirty", .i)] vars).mapM id = some values) :
    fillDiff vars filled.length (filled ++ old :: blank) (element :: rest) = (do
      let info ← diffInfo values
      fillDiff (element.unpack [("filename", .s), ("dirty", .i)] vars) (filled ++ [info]).length
        (filled ++ [info] ++ blank) rest) := by
  have inside : filled.length < (filled ++ old :: blank).length := by simp
  rw [fillDiff, read]
  dsimp only
  congr 1
  funext info
  rw [if_pos inside, set_next, List.length_append, List.length_singleton]

theorem fillDiff_ok (vars : List (Option Json)) (filled : List DiffInfo)
    (room : elements.length ≤ blank.length) :
    fillDiff vars filled.length (filled ++ blank) elements = .ok filesDiff ↔
      ∃ rows infos, unpackEach [("filename", .s), ("dirty", .i)] vars elements = .ok rows ∧
        rows.mapM diffInfo = .ok infos ∧ infos.length = elements.length ∧
        filesDiff = filled ++ infos ++ blank.drop elements.length := by
  induction elements generalizing vars filled blank with
  | nil =>
      constructor
      · intro same
        obtain rfl : filled ++ blank = filesDiff := Except.ok.inj same
        exact ⟨[], [], rfl, rfl, rfl, by simp⟩
      · rintro ⟨_, _, unpacked, copied, _, rfl⟩
        obtain rfl := Except.ok.inj unpacked
        obtain rfl := return_ok.mp copied
        simp [fillDiff]
  | cons element rest ih =>
      cases blank with
      | nil => simp at room
      | cons old blank =>
          have below : rest.length ≤ blank.length := by simpa using room
          cases read : (element.unpack [("filename", .s), ("dirty", .i)] vars).mapM id with
          | none => simp [fillDiff, unpackEach, read]
          | some values =>
              rw [fillDiff_next old rest read, unpackEach, read]
              simp only [bind_ok, return_ok, ih _ _ below]
              constructor
              · rintro ⟨info, here, rows, infos, unpacked, copied, width, rfl⟩
                refine ⟨values :: rows, info :: infos, ⟨rows, unpacked, rfl⟩, ?_, ?_, by simp⟩
                · rw [List.mapM_cons, here, copied]
                  rfl
                · rw [List.length_cons, List.length_cons, width]
              · rintro ⟨_, _, ⟨rows, unpacked, rfl⟩, copied, width, rfl⟩
                rw [List.mapM_cons] at copied
                obtain ⟨info, here, later⟩ := bind_ok.mp copied
                obtain ⟨infos, last, made⟩ := bind_ok.mp later
                obtain rfl := return_ok.mp made
                exact ⟨info, here, rows, infos, unpacked, last, Nat.succ.inj width, by simp⟩

theorem map_range_take {k : Nat} (inside : k ≤ infos.length) (rest : List DiffInfo) :
    ((List.range k).map fun i => (infos ++ rest)[i]?) = (infos.take k).map some := by
  apply List.ext_getElem
  · simp [inside]
  · intro i below _
    have there : i < infos.length := by
      rw [List.length_map, List.length_range] at below
      omega
    simp [List.getElem?_append_left there]

theorem buildDiff_read : buildDiff spare array = .ok diff ↔
    ∃ rows infos, unpackEach [("filename", .s), ("dirty", .i)] [none, none] (Json.elements array) =
        .ok rows ∧
      rows.mapM diffInfo = .ok infos ∧ infos.length = (Json.elements array).length ∧
      diff = { num := UInt8.ofNat infos.length
               filesDiff := infos ++ List.replicate spare blankInfo } := by
  have room : (Json.elements array).length ≤
      (List.replicate ((Json.elements array).length + spare) blankInfo).length := by simp
  have rest : (List.replicate ((Json.elements array).length + spare) blankInfo).drop
      (Json.elements array).length = List.replicate spare blankInfo := by simp
  constructor
  · intro built
    obtain ⟨filesDiff, filled, made⟩ := bind_ok.mp built
    obtain rfl := return_ok.mp made
    obtain ⟨rows, infos, unpacked, copied, width, rfl⟩ := (fillDiff_ok _ [] room).mp filled
    refine ⟨rows, infos, unpacked, copied, width, ?_⟩
    rw [rest, width, List.nil_append]
  · rintro ⟨rows, infos, unpacked, copied, width, rfl⟩
    have filled := (fillDiff_ok _ [] room).mpr ⟨rows, infos, unpacked, copied, width, rfl⟩
    refine bind_ok.mpr ⟨_, filled, ?_⟩
    rw [rest, width]
    rfl

theorem buildDiff_visited (built : buildDiff spare array = .ok diff) :
    ∃ seen, readDiff array = .ok seen ∧ diff.visited = seen.map some := by
  obtain ⟨rows, infos, unpacked, copied, _, rfl⟩ := buildDiff_read.mp built
  refine ⟨infos.take (infos.length % 256), ?_, ?_⟩
  · rw [readDiff, unpacked, ok_bind, copied]
    rfl
  · rw [SyDiff.visited, UInt8.toNat_ofNat']
    exact map_range_take (Nat.mod_le _ _) _

def builtDiff (spare : Nat) (entries : List DiffInfo) : SyDiff where
  num := UInt8.ofNat entries.length
  filesDiff := entries ++ List.replicate spare blankInfo

theorem buildDiff_ok :
    buildDiff spare (some (diffValue entries)) = .ok diff ↔
      (∀ file ∈ entries, file.filename.val.length < fileNameSize) ∧
        diff = builtDiff spare entries := by
  rw [buildDiff_read, diffValue_unpack]
  constructor
  · rintro ⟨_, infos, unpacked, copied, _, rfl⟩
    obtain rfl := Except.ok.inj unpacked
    obtain ⟨short, rfl⟩ := (diffRows_fit entries).eq_ok_iff.mp copied
    exact ⟨short, rfl⟩
  · rintro ⟨short, rfl⟩
    have copied := (diffRows_fit entries).eq_ok_iff.mpr ⟨short, rfl⟩
    exact ⟨_, _, rfl, copied, (List.length_map _).symm, rfl⟩

theorem builtDiff_visited :
    (builtDiff spare entries).visited = (entries.take (entries.length % 256)).map some := by
  rw [SyDiff.visited, builtDiff, UInt8.toNat_ofNat']
  exact map_range_take (Nat.mod_le _ _) _

theorem builtDiff_represents :
    (builtDiff spare entries).Represents entries ↔ entries.length < 256 := by
  constructor
  · intro represents
    have count := represents.num
    rw [builtDiff, UInt8.toNat_ofNat'] at count
    omega
  · intro few
    refine ⟨?_, fun i inside => List.getElem?_append_left inside, ?_⟩
    · rw [builtDiff, UInt8.toNat_ofNat', Nat.mod_eq_of_lt few]
    · rw [builtDiff_visited, Nat.mod_eq_of_lt few, List.take_length]

def Represented (built : Except Fault SyDiff) (entries : List DiffInfo) : Prop :=
  ∃ diff, built = .ok diff ∧ diff.Represents entries

theorem buildDiff_represented :
    Represented (buildDiff spare (some (diffValue entries))) entries ↔ Representable entries := by
  constructor
  · rintro ⟨diff, built, represents⟩
    obtain ⟨short, rfl⟩ := buildDiff_ok.mp built
    exact ⟨builtDiff_represents.mp represents, short⟩
  · rintro ⟨few, short⟩
    exact ⟨_, buildDiff_ok.mpr ⟨short, rfl⟩, builtDiff_represents.mpr few⟩

variable {answered downloaded : Json}

/-- Both builders represent a received diff exactly when its length fits their counter and each of
its names the field for it. -/
theorem diffs_represented_iff (files : answered.get "files" = some (diffValue entries))
    (diff : downloaded.get "diff" = some (diffValue entries)) :
    (Represented (syStatusSessionDiff answered) entries ↔ Representable entries) ∧
      (Represented (syDownloadSessionDiff downloaded) entries ↔ Representable entries) := by
  rw [syStatusSessionDiff, syDownloadSessionDiff, files, diff]
  exact ⟨buildDiff_represented, buildDiff_represented⟩

def statusAnswer (entries : List DiffInfo) : Json :=
  object .syStatusOk [("files", diffValue entries)]

def downloadRequest (entries : List DiffInfo) : Json :=
  object .syDownload [("diff", diffValue entries)]

def numberedFiles (count : Nat) : List DiffInfo :=
  (List.range count).map fun i =>
    { filename := CString.literal "file" ++ CString.ofNat i, dirty := .fileFsLack }

theorem three_files_represented :
    Represented (syStatusSessionDiff (statusAnswer (numberedFiles 3))) (numberedFiles 3) ∧
      Represented (syDownloadSessionDiff (downloadRequest (numberedFiles 3))) (numberedFiles 3) := by
  have representable : Representable (numberedFiles 3) := ⟨by decide, by decide +kernel⟩
  obtain ⟨answered, downloaded⟩ :
      (Represented (syStatusSessionDiff (statusAnswer (numberedFiles 3))) (numberedFiles 3) ↔ _) ∧
      (Represented (syDownloadSessionDiff (downloadRequest (numberedFiles 3)))
        (numberedFiles 3) ↔ _) :=
    diffs_represented_iff rfl rfl
  exact ⟨answered.mpr representable, downloaded.mpr representable⟩

def DiffLaw : Prop :=
  ∀ (entries : List DiffInfo) (answered downloaded : Json),
    answered.get "files" = some (diffValue entries) →
    downloaded.get "diff" = some (diffValue entries) →
    Represented (syStatusSessionDiff answered) entries ∧
      Represented (syDownloadSessionDiff downloaded) entries

-- A name of 32 bytes.
def longNamed : DiffInfo where
  filename := ⟨List.replicate 32 97, by decide⟩
  dirty := .fileFsLack

theorem long_name_overruns : ¬ DiffLaw := by
  intro law
  have represented := (law [longNamed] (statusAnswer _) (downloadRequest _) rfl rfl).1
  have short := (buildDiff_represented.mp represented).2 longNamed (List.mem_singleton_self _)
  exact absurd short (by decide)

end Librtcdc.Metadata
