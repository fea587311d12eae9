import Librtcdc.Metadata.Main
import Librtcdc.Shared.Hub

set_option autoImplicit false

namespace Librtcdc.Metadata

open Systems Sync

-- Many clients of one repository, each on a machine of its own. A program connects, asks for the
-- status and makes one transfer, in whose rtcdc_loop it ends.

structure Visit (Client : Type) where
  client : Client
  connect : ConnectCall
  status : StatusCall
  direction : Direction
  transfer : TransferCall

structure Network (Client : Type) where
  metadataServer : Loop Db
  fileServer : Loop FsStore
  fsFiles : Files
  files : Client → Files

section Definitions

variable {Client : Type} [DecidableEq Client] (J : Jansson)

def Network.view (n : Network Client) (client : Client) : Parties where
  metadataServer := n.metadataServer
  fileServer := n.fileServer
  clientFiles := n.files client
  fsFiles := n.fsFiles

def Network.put (n : Network Client) (client : Client) (p : Parties) : Network Client where
  metadataServer := p.metadataServer
  fileServer := p.fileServer
  fsFiles := p.fsFiles
  files := Function.update n.files client p.clientFiles

def visit (fileserver : Connection) (checksum : Bytes → CString) (platform : Platform)
    (uriCode : CString) (args : OpenArgs) (n : Network Client) (v : Visit Client) :
    Except Fault (Network Client) := do
  let (p, sySession) ← syConnect J v.connect uriCode args (n.view v.client)
  let e := v.connect.setting fileserver checksum platform sySession.toSySession
  let (p, sySessionDiff) ← syStatus J e v.status p
  let p ← transferUntilLoop J v.direction e v.transfer sySessionDiff p
  return n.put v.client p

def visits (fileserver : Connection) (checksum : Bytes → CString) (platform : Platform)
    (uriCode : CString) (args : OpenArgs) (vs : List (Visit Client)) (n : Network Client) :
    Except Fault (Network Client) :=
  vs.foldlM (visit J fileserver checksum platform uriCode args) n

abbrev Directories (Client : Type) := Hub Client CString Bytes

def hubOf (n : Network Client) (repoName : CString) : Directories Client where
  central := contents n.fsFiles (repoDirectory repoName)
  locals client := contents (n.files client) localRepoPath.val

def Visit.move (v : Visit Client) : Hub.Move Client :=
  match v.direction with
  | .upload => .push v.client
  | .download => .pull v.client

end Definitions

variable {Client : Type} [DecidableEq Client] {J : Jansson} {checksum : Bytes → CString}
  {repoName uriCode : CString} {all : List CString} {stock : CString → Bytes → Prop}
  {n n' : Network Client} {p p' : Parties} {client : Client} {e : Setting} {row : SessionRow}
  {v : Visit Client} {vs : List (Visit Client)} {fileserver : Connection} {platform : Platform}
  {known : FilesysRow} {args : OpenArgs} {moves : List (Hub.Move Client)}

-- Files of text with names from a list, few and short enough; their checksums tell them apart.
structure Stock (J : Jansson) (checksum : Bytes → CString) (repoName : CString)
    (all : List CString) (stock : CString → Bytes → Prop) : Prop where
  text : ∀ name content, stock name content → Transferable content
  named : ∀ name content, stock name content → name ∈ all
  carried : ∀ name content, stock name content →
    J.accepts name = true ∧ J.accepts (checksum content) = true
  nonempty : ∀ name content, stock name content → checksum content ≠ CString.empty
  equal : ∀ name content other, stock name content → stock name other →
    checksum content = checksum other → content = other
  short : ∀ name ∈ all, name.val.length < fileNameSize
  fits : ∀ name ∈ all, (repoDirectory repoName).length + name.val.length < localPathSize
  few : all.length < 256

structure Visit.Sound (v : Visit Client) (J : Jansson) (n : Network Client) (all : List CString) :
    Prop where
  connect : Dials (n.view v.client) v.connect.client
  status : Dials (n.view v.client) v.status.client
  transfer : Dials (n.view v.client) v.transfer.client
  fresh : findSession n.metadataServer.store v.connect.sessionId.val = none
  accepted : J.accepts v.connect.sessionId.val = true
  carried : v.transfer.Carried J
  reads : Reads all v.status.clientReaddir ∧ Reads all v.status.fsReaddir

structure Published (J : Jansson) (fileserver : Connection) (uriCode : CString) (known : FilesysRow)
    (n : Network Client) : Prop where
  found : findOne FilesysRow.uriCode uriCode n.metadataServer.store.filesys = some known
  server : ofInt32 known.fileserverWsi = fileserver.server
  registered : n.metadataServer.isOpen fileserver.server = true
  running : n.fileServer.isOpen fileserver.own = true
  uriCode : J.accepts uriCode = true
  repoName : J.accepts known.repoName = true

theorem put_held (within : Hub.Within stock (hubOf (n.put client p) repoName)) {name : CString}
    {content : Bytes} (held : Held p repoName name content) : stock name content := by
  have own : (hubOf (n.put client p) repoName).locals client = clientDirectory p := by
    simp only [hubOf, Network.put, Function.update_self]
    rfl
  rcases held with there | there
  · exact within.locals client name content ((congrFun own name).trans there)
  · exact within.central name content there

@[simp] theorem put_view : n.put client (n.view client) = n := by
  simp only [Network.put, Network.view, Function.update_eq_self]

theorem put_undisturbed (undisturbed : Undisturbed p p') :
    hubOf (n.put client p') repoName = hubOf (n.put client p) repoName := by
  simp only [hubOf, Network.put, undisturbed.clientFiles, undisturbed.fsFiles]

theorem mirrored_hub {row' : SessionRow}
    (mirrored : SessionMirrored J v.direction e p repoName row' p') :
    hubOf (n.put v.client p') repoName = (hubOf (n.put v.client p) repoName).after v.move := by
  obtain ⟨client, connect, status, direction, transfer⟩ := v
  cases direction with
  | upload =>
      have sender : p'.clientFiles = p.clientFiles := mirrored.sender
      have receiver : contents p'.fsFiles (repoDirectory repoName) =
          Hub.overlay (contents p.clientFiles localRepoPath.val)
            (contents p.fsFiles (repoDirectory repoName)) := funext mirrored.receiver
      simp only [hubOf, Network.put, Visit.move, Hub.after, sender, receiver,
        Function.update_self]
  | download =>
      have sender : p'.fsFiles = p.fsFiles := mirrored.sender
      have receiver : contents p'.clientFiles localRepoPath.val =
          Hub.overlay (contents p.fsFiles (repoDirectory repoName))
            (contents p.clientFiles localRepoPath.val) := funext mirrored.receiver
      simp only [hubOf, Network.put, Visit.move, Hub.after, sender, Hub.mk.injEq,
        true_and]
      funext other
      by_cases here : other = client
      · subst here
        simp only [Function.update_self, receiver]
      · simp only [Function.update_of_ne here]

theorem OnlyOwn.other {sessionId other : CString} {db db' : Db} (own : OnlyOwn sessionId db db')
    (different : other ≠ sessionId) : findSession db' other = findSession db other := by
  rw [findSession_eq, findSession_eq, ← findOne_removeOne_other different, own.session,
    findOne_removeOne_other different]

structure Visited (fileserver : Connection) (repoName : CString) (vs : List (Visit Client))
    (n n' : Network Client) : Prop where
  hub : hubOf n' repoName = (hubOf n repoName).afterAll (vs.map Visit.move)
  session : ∀ id, (∀ v ∈ vs, id ≠ v.connect.sessionId.val) →
    findSession n'.metadataServer.store id = findSession n.metadataServer.store id
  left : ∀ v ∈ vs, (findSession n'.metadataServer.store v.connect.sessionId.val).isSome
  filesys : n'.metadataServer.store.filesys = n.metadataServer.store.filesys
  connections : n'.metadataServer.isOpen = n.metadataServer.isOpen
  running : n'.fileServer.isOpen fileserver.own = true
  transfers : n'.fileServer.store.transfers.length =
    n.fileServer.store.transfers.length + vs.length

theorem visit_yields (lossless : J.Lossless) (carries : platform.Carries)
    (thread : platform.runs (n.fileServer.store.transfers.length + 1) = true)
    (published : Published J fileserver uriCode known n) (carried : args.Carried J)
    (path : args.localRepoPath = localRepoPath)
    (stocked : Stock J checksum known.repoName all stock)
    (within : Hub.Within stock (hubOf n known.repoName)) (sound : v.Sound J n all) :
    Yields (visit J fileserver checksum platform uriCode args n v)
      (Visited fileserver known.repoName [v] n) := by
  unfold visit
  refine (syConnect_yields lossless sound.connect published.found carried sound.accepted
    published.uriCode).bind ?_
  rintro ⟨p, session⟩ ⟨opens, rfl⟩
  let e := v.connect.setting fileserver checksum platform
    { sessionId := v.connect.sessionId.val, localRepoPath := args.localRepoPath }
  have ready : Ready J e p (v.connect.sessionRow known) := by
    refine opens.ready sound.fresh ?_ published.registered published.running rfl sound.accepted
      published.repoName
    have same : toInt32 (ofInt32 known.fileserverWsi) = known.fileserverWsi := toInt32_ofInt32 _
    exact (congrArg ofInt32 same).trans published.server
  have begun : hubOf (n.put v.client p) known.repoName = hubOf n known.repoName := by
    rw [put_undisturbed opens.undisturbed, put_view]
  have held {name : CString} {content : Bytes} (held : Held p known.repoName name content) :
      stock name content := put_held (begun ▸ within) held
  have regular : Regular p known.repoName all :=
    { text := fun name content there => stocked.text name content (held there)
      named := fun name content there => stocked.named name content (held there)
      short := stocked.short
      fits := stocked.fits
      few := stocked.few }
  have faithful : Faithful checksum p known.repoName :=
    { nonempty := fun name content there => stocked.nonempty name content (held there)
      equal := fun name content other there kept =>
        stocked.equal name content other (held there) (held kept) }
  have thread' : e.platform.runs (p.fileServer.store.transfers.length + 1) = true := by
    rw [opens.undisturbed.fsStore]
    exact thread
  refine (session_mirrors v.direction v.status v.transfer lossless carries thread' ready path
    (opens.undisturbed.dials sound.status) (opens.undisturbed.dials sound.transfer) sound.carried
    sound.reads regular (fun name content there => stocked.carried name content (held there))
    faithful).bind ?_
  rintro ⟨between, diff⟩ ⟨_, transfers⟩
  refine transfers.bind ?_
  rintro p' ⟨row', mirrored⟩
  refine .value ⟨?_, fun id others => ?_, ?_, ?_, ?_, mirrored.ready.running, ?_⟩
  · exact begun ▸ mirrored_hub mirrored
  · have different := others v List.mem_cons_self
    have before : findSession p.metadataServer.store id = findSession n.metadataServer.store id := by
      rw [findSession_eq, findSession_eq, opens.session]
      exact findOne_append_other different.symm
    exact (mirrored.own.other different).trans before
  · rw [List.forall_mem_singleton]
    exact Option.isSome_of_eq_some mirrored.ready.found
  · refine mirrored.own.filesys.trans ?_
    rw [opens.filesys, List.append_nil]
    rfl
  · exact mirrored.connections.trans opens.undisturbed.metadataServer
  · refine mirrored.transfers.trans ?_
    rw [opens.undisturbed.fsStore]
    rfl

theorem Visited.published (visited : Visited fileserver repoName vs n n')
    (published : Published J fileserver uriCode known n) :
    Published J fileserver uriCode known n' where
  found := visited.filesys ▸ published.found
  server := published.server
  registered := (congrFun visited.connections _).trans published.registered
  running := visited.running
  uriCode := published.uriCode
  repoName := published.repoName

theorem Visited.sound (visited : Visited fileserver repoName vs n n')
    (different : ∀ other ∈ vs, v.connect.sessionId.val ≠ other.connect.sessionId.val)
    (sound : v.Sound J n all) : v.Sound J n' all where
  connect := sound.connect.transport visited.connections
  status := sound.status.transport visited.connections
  transfer := sound.transfer.transport visited.connections
  fresh := (visited.session _ different).trans sound.fresh
  accepted := sound.accepted
  carried := sound.carried
  reads := sound.reads

theorem Platform.runs_le {few many : Nat} (enough : platform.runs many = true)
    (fewer : few ≤ many) : platform.runs few = true := by
  simp only [Platform.runs, Bool.or_eq_true, decide_eq_true_eq] at enough ⊢
  exact enough.imp_right fewer.trans

abbrev Distinct (vs : List (Visit Client)) : Prop :=
  vs.Pairwise fun v later => v.connect.sessionId.val ≠ later.connect.sessionId.val

theorem visits_yield (lossless : J.Lossless) (carries : platform.Carries)
    (threads : platform.runs (n.fileServer.store.transfers.length + vs.length) = true)
    (published : Published J fileserver uriCode known n) (carried : args.Carried J)
    (path : args.localRepoPath = localRepoPath)
    (stocked : Stock J checksum known.repoName all stock)
    (within : Hub.Within stock (hubOf n known.repoName)) (distinct : Distinct vs)
    (sound : ∀ v ∈ vs, v.Sound J n all) :
    Yields (visits J fileserver checksum platform uriCode args vs n)
      (Visited fileserver known.repoName vs n) := by
  induction vs generalizing n with
  | nil => exact .value ⟨rfl, fun _ _ => rfl, by simp, rfl, rfl, published.running, rfl⟩
  | cons v rest ih =>
      rw [List.forall_mem_cons] at sound
      rw [List.length_cons] at threads
      obtain ⟨apart, distinct⟩ := List.pairwise_cons.mp distinct
      have thread := Platform.runs_le threads (Nat.add_le_add_left (Nat.le_add_left 1 _) _)
      rw [visits, List.foldlM_cons]
      refine (visit_yields lossless carries thread published carried path stocked within
        sound.1).bind ?_
      intro between first
      have within' : Hub.Within stock (hubOf between known.repoName) := by
        rw [first.hub]
        exact within.afterAll
      have threads' : platform.runs (between.fileServer.store.transfers.length + rest.length) =
          true := by
        rw [first.transfers, List.length_singleton, Nat.add_assoc, Nat.add_comm 1]
        exact threads
      have sound' : ∀ later ∈ rest, later.Sound J between all := fun later member =>
        first.sound (by simpa using (apart later member).symm) (sound.2 later member)
      refine (ih threads' (first.published published) within' distinct sound').weaken
        fun n' later => ?_
      refine ⟨?_, fun id others => ?_, ?_, later.filesys.trans first.filesys,
        later.connections.trans first.connections, later.running, ?_⟩
      · rw [later.hub, first.hub, ← Hub.afterAll_append]
        rfl
      · rw [List.forall_mem_cons] at others
        rw [later.session id others.2, first.session id (by simpa using others.1)]
      · rw [List.forall_mem_cons]
        refine ⟨?_, later.left⟩
        rw [later.session _ apart]
        exact first.left v List.mem_cons_self
      · rw [later.transfers, first.transfers, List.length_singleton, List.length_cons]
        omega

structure Sharing (J : Jansson) (fileserver : Connection) (checksum : Bytes → CString)
    (platform : Platform) (uriCode : CString) (known : FilesysRow) (args : OpenArgs)
    (all : List CString) (stock : CString → Bytes → Prop) (n : Network Client)
    (vs : List (Visit Client)) : Prop where
  lossless : J.Lossless
  carries : platform.Carries
  threads : platform.runs (n.fileServer.store.transfers.length + vs.length) = true
  published : Published J fileserver uriCode known n
  carried : args.Carried J
  path : args.localRepoPath = localRepoPath
  stocked : Stock J checksum known.repoName all stock
  within : Hub.Within stock (hubOf n known.repoName)
  distinct : Distinct vs
  sound : ∀ v ∈ vs, v.Sound J n all
  fits : visits J fileserver checksum platform uriCode args vs n ≠ .error .overflow

theorem Sharing.yields
    (sharing : Sharing J fileserver checksum platform uriCode known args all stock n vs) :
    Yields (visits J fileserver checksum platform uriCode args vs n)
      (Visited fileserver known.repoName vs n) :=
  visits_yield sharing.lossless sharing.carries sharing.threads sharing.published sharing.carried
    sharing.path sharing.stocked sharing.within sharing.distinct sharing.sound

theorem Sharing.fit
    (sharing : Sharing J fileserver checksum platform uriCode known args all stock n vs) :
    ∀ fault, fault = Fault.overflow →
      visits J fileserver checksum platform uriCode args vs n ≠ .error fault := by
  rintro _ rfl
  exact sharing.fits

/-- The visits of any number of clients, as many as the file server has threads, do to all directories
what pushes and pulls do to a hub; each leaves its session, and changes nothing else. -/
theorem visits_refine
    (sharing : Sharing J fileserver checksum platform uriCode known args all stock n vs) :
    ∃ n', visits J fileserver checksum platform uriCode args vs n = .ok n' ∧
      Visited fileserver known.repoName vs n n' :=
  sharing.yields.result sharing.fit

omit [DecidableEq Client] in
theorem move_push : v.move = .push v.client ↔ v.direction = .upload := by
  rw [Visit.move]
  cases v.direction <;> simp

omit [DecidableEq Client] in
theorem move_pull : v.move = .pull v.client ↔ v.direction = .download := by
  rw [Visit.move]
  cases v.direction <;> simp

/-- Once nobody uploads any more, all clients that have uploaded at some time and have downloaded
since hold exactly the repository. -/
theorem clients_agree {early late : List (Visit Client)}
    (sharing : Sharing J fileserver checksum platform uriCode known args all stock n
      (early ++ late))
    (uploads : ∃ v ∈ early, v.client = client ∧ v.direction = .upload)
    (downloads : ∃ v ∈ late, v.client = client ∧ v.direction = .download)
    (quiet : ∀ v ∈ late, v.direction = .download) :
    ∃ n', visits J fileserver checksum platform uriCode args (early ++ late) n = .ok n' ∧
      contents (n'.files client) localRepoPath.val =
        contents n'.fsFiles (repoDirectory known.repoName) := by
  obtain ⟨n', returned, visited⟩ := sharing.yields.result sharing.fit
  refine ⟨n', returned, ?_⟩
  have hub := visited.hub
  rw [List.map_append] at hub
  have pushed : .push client ∈ early.map Visit.move := by
    obtain ⟨v, member, rfl, direction⟩ := uploads
    exact List.mem_map.mpr ⟨v, member, move_push.mpr direction⟩
  have pulled : .pull client ∈ late.map Visit.move := by
    obtain ⟨v, member, rfl, direction⟩ := downloads
    exact List.mem_map.mpr ⟨v, member, move_pull.mpr direction⟩
  have silent : ∀ other, .push other ∉ late.map Visit.move := by
    intro other member
    obtain ⟨v, isVisit, same⟩ := List.mem_map.mp member
    rw [Visit.move, quiet v isVisit] at same
    cases same
  have agrees := Hub.client_agrees (h := hubOf n known.repoName) pushed pulled silent
  rw [← hub] at agrees
  exact agrees

/-- A file that a client uploads is at every client that downloads before another one has uploaded,
whatever was there. -/
theorem upload_reaches {receiver : Client} {name : CString} {content : Bytes}
    (sharing : Sharing J fileserver checksum platform uriCode known args all stock n vs)
    (there : contents (n.files client) localRepoPath.val name = some content)
    (inOrder : vs.map Visit.move = .push client :: moves ++ [.pull receiver])
    (alone : ∀ other, .push other ∈ moves → other = client) :
    ∃ n', visits J fileserver checksum platform uriCode args vs n = .ok n' ∧
      contents (n'.files receiver) localRepoPath.val name = some content := by
  obtain ⟨n', returned, visited⟩ := sharing.yields.result sharing.fit
  refine ⟨n', returned, ?_⟩
  have reaches : ((hubOf n known.repoName).afterAll
      (.push client :: moves ++ [.pull receiver])).locals receiver name = some content :=
    Hub.push_reaches there alone
  rw [← inOrder, ← visited.hub] at reaches
  exact reaches

def sharedCode : FilesysRow where
  uriCode := CString.literal "000000000000000000000009"
  fileserverWsi := 1
  repoName := mainRepoName

def sharedStart : Network Bool where
  metadataServer :=
    { Loop.start
        { insertFileserver (Db.empty .inOrder) fileserverDns 1 with filesys := [sharedCode] } with
      isOpen := fun wsi => wsi = 1 }
  fileServer := { Loop.start { transfers := [] } with isOpen := fun wsi => wsi = 1 }
  fsFiles := filesAt (repoDirectory mainRepoName) []
  files client := filesAt localRepoPath.val (if client then clientStored else fsStored)

def sampleVisit (digit : UInt8) (nonzero : 0 ≠ digit) (client : Bool) (direction : Direction) :
    Visit Bool where
  client := client
  connect := { client := { server := 4, own := 1 }, sessionId := mainOid digit nonzero }
  status := (sampleCalls storedNames).first
  direction := direction
  transfer := (sampleCalls storedNames).transfer

theorem sharedStart_dials {client : Bool} {wsi : Wsi} (different : wsi ≠ 1)
    (present : wsi ≠ Wsi.null) (survives : Survives wsi) :
    Dials (sharedStart.view client) { server := wsi, own := 1 } :=
  ⟨present, by simpa [sharedStart, Network.view] using different, survives⟩

theorem sampleVisit_sound {digit : UInt8} {nonzero : 0 ≠ digit} (client : Bool)
    (direction : Direction)
    (accepted : Jansson.canonical.accepts (mainOid digit nonzero).val = true) :
    (sampleVisit digit nonzero client direction).Sound Jansson.canonical sharedStart
      storedNames where
  connect := sharedStart_dials (by decide) (by decide) (by decide)
  status := sharedStart_dials (by decide) (by decide) (by decide)
  transfer := sharedStart_dials (by decide) (by decide) (by decide)
  fresh := rfl
  accepted := accepted
  carried := (sample_sound clientStored fsStored storedNames_checked.1).carried
  reads :=
    have reads := readAll_reads storedNames_checked.1
    ⟨reads, reads⟩

def SampleStock (name : CString) (content : Bytes) : Prop :=
  (name, content) ∈ clientStored ++ fsStored

theorem sampleStock : Stock Jansson.canonical sampleSetting.checksum sharedCode.repoName storedNames
    SampleStock where
  text _ _ there := ⟨stored_nulFree _ there, stored_pieces _ there⟩
  named _ _ there := (stored_checked _ there).1
  carried _ _ there := (stored_checked _ there).2
  nonempty _ content _ := sample_checksum content
  equal _ _ _ there kept :=
    (by decide +kernel : ∀ file ∈ clientStored ++ fsStored, ∀ other ∈ clientStored ++ fsStored,
      file.1 = other.1 → sampleSetting.checksum file.2 = sampleSetting.checksum other.2 →
        file.2 = other.2) _ there _ kept rfl
  short name there := (storedNames_checked.2 name there).1
  fits := by decide +kernel
  few := by decide

theorem sharedStart_within : Hub.Within SampleStock (hubOf sharedStart sharedCode.repoName) where
  central name content there := by
    have empty : (name, content) ∈ ([] : List (CString × Bytes)) :=
      filesAt_held (show contents (filesAt (repoDirectory mainRepoName) []) _ name = _ from there)
    cases empty
  locals client name content there := by
    have stored : (name, content) ∈ if client then clientStored else fsStored := filesAt_held there
    cases client with
    | false => exact List.mem_append_right _ stored
    | true => exact List.mem_append_left _ stored

theorem sampleVisits_sharing {vs : List (Visit Bool)} (few : vs.length ≤ 4)
    (distinct : Distinct vs) (sound : ∀ v ∈ vs, v.Sound Jansson.canonical sharedStart storedNames)
    (fits : stopsWith .overflow (visits Jansson.canonical { server := 1, own := 1 }
      sampleSetting.checksum (.asBuilt true true 4) sharedCode.uriCode mainArgs vs sharedStart) =
        false) :
    Sharing Jansson.canonical { server := 1, own := 1 } sampleSetting.checksum
      (.asBuilt true true 4) sharedCode.uriCode sharedCode mainArgs storedNames SampleStock
      sharedStart vs where
  lossless := Jansson.canonical_lossless
  carries := ⟨rfl, rfl⟩
  threads := by simpa [Platform.runs, Platform.asBuilt, sharedStart, Loop.start] using few
  published :=
    ⟨findOne_cons.trans (if_pos rfl), rfl, rfl, rfl, by decide +kernel, by decide +kernel⟩
  carried := ⟨by decide +kernel, by decide +kernel⟩
  path := rfl
  stocked := sampleStock
  within := sharedStart_within
  distinct := distinct
  sound := sound
  fits := not_stopsWith fits

def sharedUploads : List (Visit Bool) :=
  [sampleVisit 56 (by decide) true .upload, sampleVisit 57 (by decide) false .upload]

def sharedDownloads : List (Visit Bool) :=
  [sampleVisit 54 (by decide) true .download, sampleVisit 55 (by decide) false .download]

theorem sharedVisits_sharing : Sharing Jansson.canonical { server := 1, own := 1 }
    sampleSetting.checksum (.asBuilt true true 4) sharedCode.uriCode sharedCode mainArgs storedNames
    SampleStock sharedStart (sharedUploads ++ sharedDownloads) := by
  refine sampleVisits_sharing (by decide) (by decide +kernel) ?_ (by decide +kernel)
  simp only [sharedUploads, sharedDownloads, List.cons_append, List.nil_append,
    List.forall_mem_cons]
  exact ⟨sampleVisit_sound _ _ (by decide), sampleVisit_sound _ _ (by decide),
    sampleVisit_sound _ _ (by decide), sampleVisit_sound _ _ (by decide), by simp⟩

theorem sharedVisits_refine : ∃ n', visits Jansson.canonical { server := 1, own := 1 }
      sampleSetting.checksum (.asBuilt true true 4) sharedCode.uriCode mainArgs
        (sharedUploads ++ sharedDownloads) sharedStart = .ok n' ∧
    contents n'.fsFiles (repoDirectory mainRepoName) (CString.literal "notes") =
      some [111, 108, 100] ∧
    ∀ v ∈ sharedUploads ++ sharedDownloads,
      (findSession n'.metadataServer.store v.connect.sessionId.val).isSome := by
  obtain ⟨n', returned, visited⟩ := visits_refine sharedVisits_sharing
  refine ⟨n', returned, ?_, visited.left⟩
  have hub := congrFun (congrArg Hub.central visited.hub) (CString.literal "notes")
  refine hub.trans ?_
  decide +kernel

theorem sharedVisits_agree : ∃ n', visits Jansson.canonical { server := 1, own := 1 }
      sampleSetting.checksum (.asBuilt true true 4) sharedCode.uriCode mainArgs
        (sharedUploads ++ sharedDownloads) sharedStart = .ok n' ∧
    contents (n'.files true) localRepoPath.val =
      contents n'.fsFiles (repoDirectory sharedCode.repoName) :=
  clients_agree sharedVisits_sharing ⟨_, List.mem_cons_self, rfl, rfl⟩
    ⟨_, List.mem_cons_self, rfl, rfl⟩ (by simp [sharedDownloads, sampleVisit])

theorem sharedVisits_reaches : ∃ n', visits Jansson.canonical { server := 1, own := 1 }
      sampleSetting.checksum (.asBuilt true true 4) sharedCode.uriCode mainArgs
        [sampleVisit 56 (by decide) true .upload, sampleVisit 57 (by decide) false .download]
        sharedStart = .ok n' ∧
    contents (n'.files false) localRepoPath.val (CString.literal "notes") =
      some [110, 101, 119, 10, 33] := by
  have there : contents (sharedStart.files true) localRepoPath.val (CString.literal "notes") =
      some [110, 101, 119, 10, 33] := by decide +kernel
  have inOrder : [sampleVisit 56 (by decide) true .upload,
      sampleVisit 57 (by decide) false .download].map Visit.move =
        Hub.Move.push true :: [] ++ [.pull false] := rfl
  refine upload_reaches (sampleVisits_sharing (by decide) (by decide) ?_
    (by decide +kernel)) there inOrder (by simp)
  simp only [List.forall_mem_cons]
  exact ⟨sampleVisit_sound _ _ (by decide), sampleVisit_sound _ _ (by decide),
    by simp⟩

end Librtcdc.Metadata
