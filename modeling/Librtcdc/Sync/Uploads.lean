import Librtcdc.Shared.Interleaving
import Librtcdc.Shared.Trace
import Librtcdc.Sync.Transfer

set_option autoImplicit false

namespace Librtcdc.Sync

open Systems

-- Upload sessions of one file server process, whose handler has one static `pFILE`.

def SctpPacket.mark (packet : SctpPacket) : Mark :=
  if packet.index = 0 then .opens
  else if packet.index = -1 then .closes
  else .inside

structure Upload where
  name : SctpPacket
  data : List SctpPacket
  last : SctpPacket
  name_index : name.index = 0
  data_index : ∀ packet ∈ data, 0 < packet.index
  data_size : ∀ packet ∈ data, 0 ≤ packet.bufLen ∧ packet.bufLen ≤ packet.buf.length
  last_index : last.index = -1

def Upload.packets (upload : Upload) : List SctpPacket :=
  upload.name :: (upload.data ++ [upload.last])

def SctpPacket.payload (packet : SctpPacket) : Bytes :=
  packet.buf.take packet.bufLen.toNat

def Upload.content (upload : Upload) : Bytes :=
  upload.data.flatMap SctpPacket.payload

def pathOf (localRepoPath : Bytes) (upload : Upload) : Bytes :=
  localRepoPath ++ cText upload.name.buf

-- The uploads of several sessions, with paths that fit and that no two sessions share.
structure Sessions (ι : Type) where
  localRepoPath : ι → Bytes
  uploads : ι → List Upload
  fits : ∀ i, ∀ upload ∈ uploads i, (pathOf (localRepoPath i) upload).length < localPathSize
  separate : ∀ i j, i ≠ j → ∀ u ∈ uploads i, ∀ v ∈ uploads j,
    pathOf (localRepoPath i) u ≠ pathOf (localRepoPath j) v

variable {ι : Type}

def Sessions.path (sessions : Sessions ι) (i : ι) (upload : Upload) : Bytes :=
  pathOf (sessions.localRepoPath i) upload

-- As if each channel had a path of its own. `none` when a file is written to or closed while
-- `pFILE` is not open.
def serveOwn (localRepoPath : ι → Bytes) (r : Receiver) (arrivals : Arrivals ι SctpPacket) :
    Option Receiver :=
  arrivals.foldlM (fun r arrival => uploadFsOnMessage (localRepoPath arrival.1) r arrival.2) r

theorem serve_piece (repo : ι → Bytes) (r : Receiver) (i : ι) (packets : List SctpPacket)
    (later : Arrivals ι SctpPacket) :
    serveOwn repo r (packets.map (fun packet => (i, packet)) ++ later) =
      (packets.foldlM (onPacket (repo i)) r).bind fun r => serveOwn repo r later := by
  rw [serveOwn, List.foldlM_append, List.foldlM_map]
  rfl

variable [DecidableEq ι] {sessions : Sessions ι} {arrivals : Arrivals ι SctpPacket}

def slash : UInt8 := 47

theorem repository_of_path {repo repo' name name' : Bytes} (plain : slash ∉ name)
    (plain' : slash ∉ name') (same : repo ++ slash :: name = repo' ++ slash :: name') :
    repo = repo' := by
  -- what one repository has beyond the other would put its slash into the other's name
  have nothing {more left right : Bytes} (clean : slash ∉ left)
      (same : slash :: left = more ++ slash :: right) : more = [] := by
    cases more with
    | nil => rfl
    | cons first tail =>
        rw [(List.cons.inj same).2] at clean
        simp at clean
  rcases List.append_eq_append_iff.mp same with ⟨more, longer, rest⟩ | ⟨more, longer, rest⟩
  · rw [longer, nothing plain rest, List.append_nil]
  · rw [longer, nothing plain' rest, List.append_nil]

def Sessions.ofRepositories (repo : ι → Bytes) (own : Function.Injective repo)
    (uploads : ι → List Upload)
    (plain : ∀ i, ∀ upload ∈ uploads i, slash ∉ cText upload.name.buf)
    (fits : ∀ i, ∀ upload ∈ uploads i,
      (pathOf (repo i ++ [slash]) upload).length < localPathSize) : Sessions ι where
  localRepoPath := fun i => repo i ++ [slash]
  uploads := uploads
  fits := fits
  separate := by
    intro i j other u memberU v memberV same
    refine other (own (repository_of_path (plain i u memberU) (plain j v memberV) ?_))
    simpa [pathOf] using same

def Interleaves (sessions : Sessions ι) (arrivals : Arrivals ι SctpPacket) : Prop :=
  ∀ i, sentBy i arrivals = (sessions.uploads i).flatMap Upload.packets

-- Each file is what its last upload in its session sent, and no other file is touched.
structure Unmixed (sessions : Sessions ι) (before after : Files) : Prop where
  written : ∀ i earlier upload later, sessions.uploads i = earlier ++ upload :: later →
    (∀ other ∈ later, sessions.path i other ≠ sessions.path i upload) →
      after (sessions.path i upload) = some upload.content
  kept : ∀ path, (∀ i, ∀ upload ∈ sessions.uploads i, sessions.path i upload ≠ path) →
    after path = before path

theorem Upload.mark_data {upload : Upload} : ∀ packet ∈ upload.data, packet.mark = .inside := by
  intro packet member
  have positive := upload.data_index packet member
  rw [SctpPacket.mark, if_neg (by omega), if_neg (by omega)]

theorem Upload.mark_name (upload : Upload) : upload.name.mark = .opens := by
  rw [SctpPacket.mark, if_pos upload.name_index]

theorem Upload.mark_last (upload : Upload) : upload.last.mark = .closes := by
  rw [SctpPacket.mark, if_neg (by rw [upload.last_index]; decide), if_pos upload.last_index]

variable {localRepoPath path : Bytes} {r r' : Receiver}

theorem data_served {data : List SctpPacket} {written : Bytes}
    (positive : ∀ packet ∈ data, 0 < packet.index) (opened : r.pFile = some path)
    (so_far : r.files path = some written) :
    data.foldlM (onPacket localRepoPath) r =
      some (r.write path (written ++ data.flatMap SctpPacket.payload)) := by
  induction data generalizing r written with
  | nil =>
      have same : r.write path written = r := by
        rw [Receiver.write, ← so_far, Function.update_eq_self]
      simp [same]
  | cons packet rest ih =>
      have index := positive packet List.mem_cons_self
      have one : onPacket localRepoPath r packet =
          some (r.write path (written ++ packet.payload)) := by
        simp [onPacket, opened, so_far, index, SctpPacket.payload,
          show packet.index ≠ 0 by omega, show packet.index ≠ -1 by omega]
      have more := ih (fun p member => positive p (List.mem_cons_of_mem _ member))
        (show (r.write path (written ++ packet.payload)).pFile = some path from opened)
        (show (r.write path (written ++ packet.payload)).files path =
          some (written ++ packet.payload) by simp [Receiver.write])
      rw [List.foldlM_cons, one, Option.bind_eq_bind, Option.bind_some, more]
      simp [Receiver.write]

theorem upload_served {upload : Upload}
    (fits : (pathOf localRepoPath upload).length < localPathSize) :
    upload.packets.foldlM (onPacket localRepoPath) r =
      some { r.write (pathOf localRepoPath upload) upload.content with pFile := none } := by
  let path := pathOf localRepoPath upload
  rw [pathOf, List.length_append] at fits
  let started : Receiver := { r.write path [] with pFile := some path }
  have named : onPacket localRepoPath r upload.name = some started := by
    simp [onPacket, upload.name_index, localFilePath, fits, started, path, pathOf]
  have body : upload.data.foldlM (onPacket localRepoPath) started =
      some (started.write path ([] ++ upload.content)) :=
    data_served upload.data_index rfl (by simp [started, Receiver.write])
  have ended : onPacket localRepoPath (started.write path ([] ++ upload.content)) upload.last =
      some { r.write path upload.content with pFile := none } := by
    simp [onPacket, upload.last_index, started, Receiver.write]
  rw [Upload.packets, List.foldlM_cons, named, Option.bind_eq_bind, Option.bind_some,
    List.foldlM_append, body]
  simpa using ended

def Sessions.next (sessions : Sessions ι) (i : ι) (more : List Upload)
    (shorter : ∀ upload ∈ more, upload ∈ sessions.uploads i) : Sessions ι where
  localRepoPath := sessions.localRepoPath
  uploads := Function.update sessions.uploads i more
  fits := by
    intro j upload member
    rw [Function.update_apply] at member
    split_ifs at member with same
    · rw [same]
      exact sessions.fits i upload (shorter upload member)
    · exact sessions.fits j upload member
  separate := by
    have earlier (j : ι) (upload : Upload)
        (member : upload ∈ Function.update sessions.uploads i more j) :
        upload ∈ sessions.uploads j := by
      rw [Function.update_apply] at member
      split_ifs at member with same
      · rw [same]
        exact shorter upload member
      · exact member
    exact fun j k other u memberU v memberV =>
      sessions.separate j k other u (earlier j u memberU) v (earlier k v memberV)

section Next

variable {i j : ι} {upload : Upload} {more : List Upload}
  {shorter : ∀ upload ∈ more, upload ∈ sessions.uploads i}

theorem next_uploads_self : (sessions.next i more shorter).uploads i = more :=
  Function.update_self ..

theorem next_uploads_other (other : j ≠ i) :
    (sessions.next i more shorter).uploads j = sessions.uploads j :=
  Function.update_of_ne other ..

theorem mem_of_mem_next (member : upload ∈ (sessions.next i more shorter).uploads j) :
    upload ∈ sessions.uploads j := by
  by_cases same : j = i
  · subst same
    rw [next_uploads_self] at member
    exact shorter upload member
  · rw [next_uploads_other same] at member
    exact member

end Next

theorem Unmixed.cons {i : ι} {upload : Upload} {more : List Upload} {before after : Files}
    (first : sessions.uploads i = upload :: more)
    (shorter : ∀ upload ∈ more, upload ∈ sessions.uploads i)
    (later : Unmixed (sessions.next i more shorter)
      (Function.update before (sessions.path i upload) (some upload.content)) after) :
    Unmixed sessions before after where
  written := by
    intro j earlier file others uploads last
    by_cases same : j = i
    · subst same
      cases earlier with
      | nil =>
          obtain ⟨rfl, rfl⟩ := List.cons.inj (first.symm.trans uploads)
          refine (later.kept _ fun k other member => ?_).trans (Function.update_self ..)
          by_cases mine : k = j
          · subst mine
            rw [next_uploads_self] at member
            exact last other member
          · have here : upload ∈ sessions.uploads j := by
              rw [first]
              exact List.mem_cons_self
            exact sessions.separate k j mine other (mem_of_mem_next member) upload here
      | cons head earlier =>
          obtain ⟨rfl, rest⟩ := List.cons.inj (first.symm.trans uploads)
          exact later.written j earlier file others (next_uploads_self.trans rest) last
    · exact later.written j earlier file others ((next_uploads_other same).trans uploads) last
  kept := by
    intro path elsewhere
    have there : path ≠ sessions.path i upload := by
      refine (elsewhere i upload ?_).symm
      rw [first]
      exact List.mem_cons_self
    refine (later.kept path fun j file member => ?_).trans (Function.update_of_ne there ..)
    exact elsewhere j file (mem_of_mem_next member)

theorem exclusive_unmixed (interleaves : Interleaves sessions arrivals)
    (exclusive : Exclusive SctpPacket.mark none arrivals) :
    ∃ r', serveOwn sessions.localRepoPath r arrivals = some r' ∧ Unmixed sessions r.files r'.files := by
  induction length : arrivals.length using Nat.strong_induction_on
    generalizing arrivals sessions r with
  | _ bound ih =>
      subst length
      cases arrivals with
      | nil =>
          refine ⟨r, rfl, fun i earlier upload later uploads _ => ?_, fun _ _ => rfl⟩
          have nothing := interleaves i
          rw [uploads] at nothing
          simp [sentBy, Upload.packets] at nothing
      | cons arrival rest =>
          obtain ⟨i, packet⟩ := arrival
          have own := interleaves i
          rw [sentBy_self] at own
          cases first : sessions.uploads i with
          | nil =>
              rw [first] at own
              cases own
          | cons upload more =>
              rw [first, List.flatMap_cons, Upload.packets, List.cons_append] at own
              obtain ⟨rfl, rest_own⟩ := List.cons.inj own
              have open_section := exclusive.2
              rw [upload.mark_name] at open_section
              have pieced : sentBy i rest =
                  upload.data ++ upload.last :: more.flatMap Upload.packets := by
                rw [rest_own, List.append_assoc, List.singleton_append]
              obtain ⟨later, rfl, exclusive', later_own⟩ :=
                open_section.piece pieced Upload.mark_data upload.mark_last
              have shorter : ∀ other ∈ more, other ∈ sessions.uploads i := fun other member => by
                rw [first]
                exact List.mem_cons_of_mem _ member
              have interleaves' : Interleaves (sessions.next i more shorter) later := by
                intro j
                by_cases same : j = i
                · subst same
                  rw [later_own, next_uploads_self]
                · have there := interleaves j
                  rw [sentBy_other (Ne.symm same), sentBy_append, sentBy_none (Ne.symm same),
                    List.nil_append] at there
                  rw [there, next_uploads_other same]
              have fits := sessions.fits i upload (by rw [first]; exact List.mem_cons_self)
              let after : Receiver :=
                { r.write (sessions.path i upload) upload.content with pFile := none }
              obtain ⟨r', served, unmixed⟩ : ∃ r',
                  serveOwn sessions.localRepoPath after later = some r' ∧
                    Unmixed (sessions.next i more shorter) after.files r'.files :=
                ih later.length (by simp; omega) interleaves' exclusive' rfl
              refine ⟨r', ?_, unmixed.cons first shorter⟩
              rw [← served]
              have piece := serve_piece sessions.localRepoPath r i upload.packets later
              rw [upload_served fits] at piece
              exact piece

omit [DecidableEq ι] in
theorem closes_served {repo : ι → Bytes} (served : serveOwn repo r arrivals = some r') :
    marked SctpPacket.mark .closes arrivals ≤
      marked SctpPacket.mark .opens arrivals + r.pFile.toList.length := by
  induction arrivals generalizing r with
  | nil => exact Nat.zero_le _
  | cons arrival rest ih =>
      obtain ⟨i, packet⟩ := arrival
      rw [serveOwn, List.foldlM_cons] at served
      obtain ⟨next, moved, later⟩ := Option.bind_eq_some_iff.mp served
      have counted := ih later
      unfold uploadFsOnMessage onPacket at moved
      rw [marked_cons, marked_cons]
      split_ifs at moved with opens closes
      · have here : packet.mark = .opens := if_pos opens
        obtain ⟨path, _, rfl⟩ := Option.map_eq_some_iff.mp moved
        rw [Option.toList_some, List.length_singleton] at counted
        rw [here, if_neg (by decide), if_pos rfl]
        omega
      · have here : packet.mark = .closes := by rw [SctpPacket.mark, if_neg opens, if_pos closes]
        obtain ⟨path, opened, rfl⟩ := Option.map_eq_some_iff.mp moved
        rw [Option.toList_none, List.length_nil] at counted
        rw [here, if_pos rfl, if_neg (by decide), opened, Option.toList_some, List.length_singleton]
        omega
      · have here : packet.mark = .inside := by rw [SctpPacket.mark, if_neg opens, if_neg closes]
        obtain ⟨path, opened, rfl⟩ := Option.map_eq_some_iff.mp moved
        rw [here, if_neg (by decide), if_neg (by decide)]
        exact counted
      · have here : packet.mark = .inside := by rw [SctpPacket.mark, if_neg opens, if_neg closes]
        obtain rfl := Option.some.inj moved
        rw [here, if_neg (by decide), if_neg (by decide)]
        exact counted

omit [DecidableEq ι] in
theorem onPacket_holder {localRepoPath : Bytes} {packet : SctpPacket} {i : ι} {holder : Option ι}
    (moved : onPacket localRepoPath r packet = some r')
    (same : r.pFile.isSome = holder.isSome) :
    r'.pFile.isSome = (packet.mark.after i holder).isSome := by
  unfold onPacket at moved
  unfold SctpPacket.mark
  split_ifs at moved ⊢
  · obtain ⟨path, _, rfl⟩ := Option.map_eq_some_iff.mp moved
    rfl
  · obtain ⟨path, _, rfl⟩ := Option.map_eq_some_iff.mp moved
    rfl
  · obtain ⟨path, _, rfl⟩ := Option.map_eq_some_iff.mp moved
    exact same
  · obtain rfl := Option.some.inj moved
    exact same

theorem served_exclusive {repo : ι → Bytes} {holder : Option ι}
    (held : Held SctpPacket.mark holder arrivals) (same : r.pFile.isSome = holder.isSome)
    (served : serveOwn repo r arrivals = some r') : Exclusive SctpPacket.mark holder arrivals := by
  induction arrivals generalizing holder r with
  | nil => trivial
  | cons arrival rest ih =>
      obtain ⟨i, packet⟩ := arrival
      rw [serveOwn, List.foldlM_cons] at served
      obtain ⟨next, moved, later⟩ := Option.bind_eq_some_iff.mp served
      have mine : ∀ j ∈ holder, j = i := by
        rintro j rfl
        by_contra other
        obtain ⟨_, counted⟩ := held.intruder (Ne.symm other)
        have closed := closes_served later
        have few := Option.length_toList_le (o := next.pFile)
        omega
      exact ⟨mine, ih (held.next mine) (onPacket_holder moved same) later⟩

theorem upload_sections (uploads : List Upload) :
    Sections SctpPacket.mark false (uploads.flatMap Upload.packets) := by
  induction uploads with
  | nil => exact .done
  | cons upload rest ih =>
      rw [List.flatMap_cons, Upload.packets, List.cons_append, List.append_assoc]
      refine .opens upload.mark_name ?_
      have inside := upload.mark_data
      generalize upload.data = data at inside
      induction data with
      | nil => exact .closes upload.mark_last ih
      | cons packet more body =>
          refine .inside (inside packet List.mem_cons_self) ?_
          exact body fun p member => inside p (List.mem_cons_of_mem _ member)

theorem unmixed_iff_exclusive (closed : r.pFile = none)
    (interleaves : Interleaves sessions arrivals) :
    (∃ r', serveOwn sessions.localRepoPath r arrivals = some r' ∧
      Unmixed sessions r.files r'.files) ↔ Exclusive SctpPacket.mark none arrivals := by
  constructor
  · rintro ⟨r', served, _⟩
    refine served_exclusive (fun i => ?_) (by rw [closed]; rfl) served
    rw [interleaves i]
    exact upload_sections (sessions.uploads i)
  · exact exclusive_unmixed interleaves

-- callback_fileserver writes the path of a session into its frame, and the channel's user_data points
-- there. The frame is dead once the callback returns, and what runs next writes over it.
inductive Happening (ι Address : Type) where
  | syUpload (i : ι)
  | overwrites (address : Address) (contents : Bytes)
  | packet (i : ι) (packet : SctpPacket)

structure Process (Address : Type) where
  memory : Address → Bytes
  receiver : Receiver

section Frames

variable {Address : Type} [DecidableEq Address]

def opening (i : ι) (localRepoPath : Bytes) (packet : SctpPacket) : Arrivals ι Bytes :=
  if packet.index = 0 then [(i, localRepoPath ++ cText packet.buf)] else []

def serve (repo : ι → Bytes) (frame : ι → Address) :
    Step (Process Address) (Happening ι Address) (ι × Bytes)
  | p, .syUpload i => some ({ p with memory := Function.update p.memory (frame i) (repo i) }, [])
  | p, .overwrites address contents =>
      some ({ p with memory := Function.update p.memory address contents }, [])
  | p, .packet i packet =>
      (uploadFsOnMessage (p.memory (frame i)) p.receiver packet).map fun receiver =>
        ({ p with receiver }, opening i (p.memory (frame i)) packet)

def packetsOf : List (Happening ι Address) → Arrivals ι SctpPacket
  | [] => []
  | .packet i packet :: rest => (i, packet) :: packetsOf rest
  | _ :: rest => packetsOf rest

-- Whenever a session's file begins, its user_data still points to its path.
def Undisturbed (repo : ι → Bytes) (frame : ι → Address) :
    (Address → Bytes) → List (Happening ι Address) → Prop
  | _, [] => True
  | memory, .syUpload i :: rest =>
      Undisturbed repo frame (Function.update memory (frame i) (repo i)) rest
  | memory, .overwrites address contents :: rest =>
      Undisturbed repo frame (Function.update memory address contents) rest
  | memory, .packet i packet :: rest =>
      (packet.index = 0 → memory (frame i) = repo i) ∧ Undisturbed repo frame memory rest

def decideUndisturbed (repo : ι → Bytes) (frame : ι → Address) :
    (memory : Address → Bytes) → (happenings : List (Happening ι Address)) →
      Decidable (Undisturbed repo frame memory happenings)
  | _, [] => .isTrue trivial
  | memory, .syUpload i :: rest =>
      decideUndisturbed repo frame (Function.update memory (frame i) (repo i)) rest
  | memory, .overwrites address contents :: rest =>
      decideUndisturbed repo frame (Function.update memory address contents) rest
  | memory, .packet _ _ :: rest =>
      letI := decideUndisturbed repo frame memory rest
      inferInstanceAs (Decidable (_ ∧ _))

instance (repo : ι → Bytes) (frame : ι → Address) (memory : Address → Bytes)
    (happenings : List (Happening ι Address)) :
    Decidable (Undisturbed repo frame memory happenings) :=
  decideUndisturbed repo frame memory happenings

-- No crash, each file in its own session's repository, and with its own session's data.
def Upheld (sessions : Sessions ι) (frame : ι → Address) (p : Process Address)
    (happenings : List (Happening ι Address)) : Prop :=
  ∃ p' opened, exec (serve sessions.localRepoPath frame) p happenings = some (p', opened) ∧
    (∀ i, sentBy i opened = (sessions.uploads i).map (sessions.path i)) ∧
    Unmixed sessions p.receiver.files p'.receiver.files

variable {repo : ι → Bytes} {frame : ι → Address} {p p' : Process Address}
  {happenings : List (Happening ι Address)} {opened : Arrivals ι Bytes}

omit [DecidableEq ι] [DecidableEq Address] in
theorem onPacket_path {localRepoPath localRepoPath' : Bytes} {packet : SctpPacket}
    (same : packet.index = 0 → localRepoPath = localRepoPath') :
    onPacket localRepoPath r packet = onPacket localRepoPath' r packet := by
  unfold onPacket
  split_ifs with named
  · rw [same named]
  all_goals rfl

omit [DecidableEq ι] in
theorem undisturbed_serves (undisturbed : Undisturbed repo frame p.memory happenings) :
    (exec (serve repo frame) p happenings).map (fun last => last.1.receiver) =
      serveOwn repo p.receiver (packetsOf happenings) := by
  induction happenings generalizing p with
  | nil => rfl
  | cons happening rest ih =>
      cases happening with
      | syUpload i =>
          have later := ih (p := { p with memory := Function.update p.memory (frame i) (repo i) })
            undisturbed
          simpa [exec, serve, Option.map_map, Function.comp_def, packetsOf] using later
      | overwrites address contents =>
          have later := ih (p := { p with memory := Function.update p.memory address contents })
            undisturbed
          simpa [exec, serve, Option.map_map, Function.comp_def, packetsOf] using later
      | packet i packet =>
          obtain ⟨here, undisturbed⟩ := undisturbed
          have path : uploadFsOnMessage (p.memory (frame i)) p.receiver packet =
              uploadFsOnMessage (repo i) p.receiver packet := onPacket_path here
          rw [packetsOf, serveOwn, List.foldlM_cons]
          dsimp only
          rw [← path]
          cases moved : uploadFsOnMessage (p.memory (frame i)) p.receiver packet with
          | none => simp [exec, serve, moved]
          | some receiver =>
              have later := ih (p := { p with receiver }) undisturbed
              simp only [serveOwn] at later
              simpa [exec, serve, moved, Option.map_map, Function.comp_def] using later

def openings (repo : ι → Bytes) : Arrivals ι SctpPacket → Arrivals ι Bytes
  | [] => []
  | (i, packet) :: rest => opening i (repo i) packet ++ openings repo rest

theorem sentBy_opening_other {i j : ι} {localRepoPath : Bytes} {packet : SctpPacket}
    (other : j ≠ i) : sentBy i (opening j localRepoPath packet) = [] := by
  unfold opening
  split_ifs
  · exact sentBy_other other ..
  · rfl

theorem undisturbed_iff (served : exec (serve repo frame) p happenings = some (p', opened)) :
    Undisturbed repo frame p.memory happenings ↔
      ∀ i, sentBy i opened = sentBy i (openings repo (packetsOf happenings)) := by
  induction happenings generalizing p opened with
  | nil =>
      obtain ⟨rfl, rfl⟩ : p = p' ∧ [] = opened := by simpa [exec] using served
      simp [Undisturbed, packetsOf, openings]
  | cons happening rest ih =>
      simp only [exec] at served
      split at served
      · cases served
      · rename_i next emitted moved
        obtain ⟨⟨_, later⟩, tail, same⟩ := Option.map_eq_some_iff.mp served
        obtain ⟨rfl, rfl⟩ := Prod.mk.inj same
        cases happening with
        | syUpload i | overwrites address contents =>
            obtain ⟨rfl, rfl⟩ := Prod.mk.inj (Option.some.inj moved)
            exact ih tail
        | packet i packet =>
            obtain ⟨receiver, _, same⟩ := Option.map_eq_some_iff.mp moved
            obtain ⟨rfl, rfl⟩ := Prod.mk.inj same
            rw [Undisturbed, ih tail, packetsOf, openings]
            simp only [sentBy_append]
            by_cases named : packet.index = 0
            · simp only [opening, named, if_true, true_implies]
              constructor
              · rintro ⟨path, later⟩ j
                rw [path, later]
              · intro all
                have own := all i
                simp only [sentBy_self, List.cons_append] at own
                have path := List.append_cancel_right (List.cons.inj own).1
                refine ⟨path, fun j => ?_⟩
                have theirs := all j
                rw [path] at theirs
                exact List.append_cancel_left theirs
            · simp only [opening, if_neg named, sentBy, List.nil_append]
              exact ⟨And.right, fun later => ⟨fun index => absurd index named, later⟩⟩

theorem sentBy_openings (i : ι) :
    sentBy i (openings repo arrivals) =
      ((sentBy i arrivals).filter fun packet => packet.index = 0).map fun packet =>
        repo i ++ cText packet.buf := by
  induction arrivals with
  | nil => rfl
  | cons arrival rest ih =>
      obtain ⟨j, packet⟩ := arrival
      rw [openings, sentBy_append, ih]
      by_cases same : j = i
      · subst same
        rw [sentBy_self, opening]
        by_cases named : packet.index = 0 <;> simp [named, sentBy]
      · rw [sentBy_opening_other same, sentBy_other same, List.nil_append]

theorem Upload.names (upload : Upload) :
    upload.packets.filter (fun packet => packet.index = 0) = [upload.name] := by
  have data : upload.data.filter (fun packet => packet.index = 0) = [] := by
    refine List.filter_eq_nil_iff.mpr fun packet member => ?_
    have positive := upload.data_index packet member
    simp
    omega
  simp [Upload.packets, upload.name_index, upload.last_index, data]

theorem openings_paths (interleaves : Interleaves sessions arrivals) (i : ι) :
    sentBy i (openings sessions.localRepoPath arrivals) =
      (sessions.uploads i).map (sessions.path i) := by
  rw [sentBy_openings, interleaves i, List.filter_flatMap]
  simp only [Upload.names]
  rw [← List.map_eq_flatMap, List.map_map]
  rfl

end Frames

def oneByte (b : UInt8) : Upload where
  name := namePacket [102]
  data := [piecePacket 1 [b]]
  last := endPacket
  name_index := rfl
  data_index := by simp [piecePacket]
  data_size := by
    have short := cText_length_le (zeroPadded sctpBufSize [b])
    simpa [piecePacket] using short
  last_index := rfl

theorem oneByte_name (b : UInt8) : cText (oneByte b).name.buf = [102] :=
  (cText_zeroPadded sctpBufSize [102]).trans rfl

def twoRepositories : Sessions Bool :=
  .ofRepositories (fun second => if second then [98] else [97]) (by decide)
    (fun second => [oneByte (if second then 2 else 1)])
    (by simp [oneByte_name, slash])
    (by simp [oneByte_name, pathOf, localPathSize, apply_ite])

def oneFrame : Bool → Unit := fun _ => ()

def freshProcess : Process Unit where
  memory := fun _ => []
  receiver := freshReceiver

def packets (second : Bool) (upload : Upload) : List (Happening Bool Unit) :=
  upload.packets.map (.packet second)

def inTurn : List (Happening Bool Unit) :=
  .syUpload false :: packets false (oneByte 1) ++ .syUpload true :: packets true (oneByte 2)

def UploadLaw : Prop :=
  ∀ (sessions : Sessions Bool) (frame : Bool → Unit) (p : Process Unit)
    (happenings : List (Happening Bool Unit)), p.receiver.pFile = none →
      Interleaves sessions (packetsOf happenings) → Upheld sessions frame p happenings

def bothBegun : List (Happening Bool Unit) :=
  [.syUpload false, .packet false (namePacket [102]), .syUpload true,
    .packet true (namePacket [102]), .packet false (piecePacket 1 [1]),
    .packet true (piecePacket 1 [2]), .packet false endPacket, .packet true endPacket]

def bothAsked : List (Happening Bool Unit) :=
  [.syUpload false, .syUpload true] ++ packets false (oneByte 1) ++ packets true (oneByte 2)

end Librtcdc.Sync
