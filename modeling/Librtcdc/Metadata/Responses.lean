import Librtcdc.Metadata.FileServer
import Librtcdc.Metadata.Handling
import Librtcdc.Shared.JsonText

set_option autoImplicit false

namespace Librtcdc.Metadata

open Systems

def composedOf (wsi : Wsi) : Event → Option WriteData
  | .composed w m => if w = wsi then some m.writeData else none
  | _ => none

def composedOn (wsi : Wsi) (events : List Event) : List WriteData :=
  events.filterMap (composedOf wsi)

def writtenOf (wsi : Wsi) : Event → Option WriteData
  | .written w data => if w = wsi then some data else none
  | _ => none

def writtenOn (wsi : Wsi) (events : List Event) : List WriteData :=
  events.filterMap (writtenOf wsi)

variable {Store Input : Type}

def Loop.pendingOn (s : Loop Store) (wsi : Wsi) : List WriteData :=
  if s.requested wsi then [s.writeData wsi] else []

-- What the handlers composed is what was written, once each, and then what waits to be written.
def NothingLost (s : Loop Store) (events : List Event) : Prop :=
  ∀ wsi, composedOn wsi events = writtenOn wsi events ++ s.pendingOn wsi

def answers (service : Service Store Input) (store : Store) (wsi : Wsi) (input : Input) : Bool :=
  match service.receive store wsi input with
  | .ok served => served.sent.isSome
  | .error _ => false

-- Where a message still waits, nothing arrives that has an answer and nothing closes.
def Unhurried (service : Service Store Input) (s : Loop Store) : Action Input → Prop
  | .receive wsi input => s.requested wsi = true → answers service s.store wsi input = false
  | .closed wsi => s.requested wsi = false
  | _ => True

instance (service : Service Store Input) (s : Loop Store) (action : Action Input) :
    Decidable (Unhurried service s action) := by
  cases action <;> unfold Unhurried <;> infer_instance

variable {service : Service Store Input} {s next : Loop Store} {wsi w : Wsi}
  {events emitted : List Event} {served : Served Store} {m : Message} {action : Action Input}

theorem composedOn_append (first second : List Event) :
    composedOn wsi (first ++ second) = composedOn wsi first ++ composedOn wsi second :=
  List.filterMap_append ..

theorem writtenOn_append (first second : List Event) :
    writtenOn wsi (first ++ second) = writtenOn wsi first ++ writtenOn wsi second :=
  List.filterMap_append ..

@[simp] theorem composedOn_notes (notes : List Note) : composedOn wsi (notes.map .note) = [] := by
  simp [composedOn, List.filterMap_map, composedOf]

@[simp] theorem writtenOn_notes (notes : List Note) : writtenOn wsi (notes.map .note) = [] := by
  simp [writtenOn, List.filterMap_map, writtenOf]

@[simp] theorem composedOn_composed :
    composedOn wsi [.composed w m] = if w = wsi then [m.writeData] else [] := by
  by_cases here : w = wsi <;> simp [composedOn, composedOf, here]

@[simp] theorem writtenOn_composed : writtenOn wsi [.composed w m] = [] := rfl

@[simp] theorem composedOn_written (data : WriteData) : composedOn wsi [.written w data] = [] := rfl

@[simp] theorem writtenOn_written (data : WriteData) :
    writtenOn wsi [.written w data] = if w = wsi then [data] else [] := by
  by_cases here : w = wsi <;> simp [writtenOn, writtenOf, here]

theorem pendingOn_idle (idle : s.requested wsi = false) : s.pendingOn wsi = [] := by
  simp [Loop.pendingOn, idle]

theorem pendingOn_due (due : s.requested wsi = true) : s.pendingOn wsi = [s.writeData wsi] := by
  simp [Loop.pendingOn, due]

theorem pendingOn_same (requested : next.requested wsi = s.requested wsi)
    (writeData : next.writeData wsi = s.writeData wsi) : next.pendingOn wsi = s.pendingOn wsi := by
  rw [Loop.pendingOn, Loop.pendingOn, requested, writeData]

theorem commit_pendingOn_other (other : wsi ≠ w) :
    (s.commit wsi served).1.pendingOn w = s.pendingOn w := by
  cases sends : served.sent with
  | none =>
      rw [commit_none sends]
      rfl
  | some m =>
      rw [commit_some sends]
      exact pendingOn_same (Function.update_of_ne other.symm ..) (Function.update_of_ne other.symm ..)

theorem NothingLost.commit (kept : NothingLost s events)
    (free : served.sent ≠ none → s.requested wsi = false) :
    NothingLost (s.commit wsi served).1 (events ++ (s.commit wsi served).2) := by
  intro w
  have before := kept w
  rw [composedOn_append, writtenOn_append]
  cases sends : served.sent with
  | none =>
      have same : s.pendingOn w = (s.commit wsi served).1.pendingOn w := by
        rw [commit_none sends]
        rfl
      rw [before, same, commit_none sends]
      simp
  | some m =>
      have idle := free (by simp [sends])
      by_cases here : wsi = w
      · subst here
        rw [pendingOn_idle idle] at before
        rw [commit_some sends, composedOn_append, writtenOn_append, before]
        simp [pendingOn_due]
      · rw [commit_pendingOn_other here, before, commit_some sends, composedOn_append,
          writtenOn_append]
        simp [here]

theorem NothingLost.opened (kept : NothingLost s events) (idle : s.requested wsi = false) :
    NothingLost (s.opened wsi) events := by
  intro w
  rw [kept w]
  by_cases here : w = wsi
  · subst here
    rw [pendingOn_idle idle, pendingOn_idle (by simp [Loop.opened])]
  · have same : (s.opened wsi).pendingOn w = s.pendingOn w :=
      pendingOn_same (Function.update_of_ne here ..) (Function.update_of_ne here ..)
    rw [same]

theorem NothingLost.drop (kept : NothingLost s events) (idle : s.requested wsi = false)
    (store : Store) : NothingLost (s.drop wsi store) events := by
  intro w
  rw [kept w]
  by_cases here : w = wsi
  · subst here
    rw [pendingOn_idle idle, pendingOn_idle (by simp [Loop.drop])]
  · have same : (s.drop wsi store).pendingOn w = s.pendingOn w :=
      pendingOn_same (Function.update_of_ne here ..) rfl
    rw [same]

theorem NothingLost.flush (kept : NothingLost s events) (due : s.requested wsi = true)
    (after : WriteData) :
    NothingLost (s.flush wsi after) (events ++ [.written wsi (s.writeData wsi)]) := by
  intro w
  rw [composedOn_append, writtenOn_append, kept w]
  by_cases here : w = wsi
  · subst here
    rw [pendingOn_due due, pendingOn_idle (by simp [Loop.flush])]
    simp
  · have same : (s.flush wsi after).pendingOn w = s.pendingOn w :=
      pendingOn_same (Function.update_of_ne here ..) (Function.update_of_ne here ..)
    rw [same]
    simp [Ne.symm here]

structure Waiting (s : Loop Store) : Prop where
  isOpen : ∀ wsi, s.requested wsi = true → s.isOpen wsi = true
  nonempty : ∀ wsi, s.requested wsi = true → (s.writeData wsi).data ≠ CString.empty

theorem Waiting.idle (waiting : Waiting s) (absent : s.isOpen wsi = false) :
    s.requested wsi = false := by
  by_contra due
  rw [waiting.isOpen wsi (by simpa using due)] at absent
  cases absent

theorem Waiting.commit (waiting : Waiting s) (there : s.isOpen wsi = true)
    (sends : ∀ m ∈ served.sent, m.data ≠ CString.empty) :
    Waiting (s.commit wsi served).1 := by
  cases sent : served.sent with
  | none =>
      rw [commit_none sent]
      exact ⟨waiting.isOpen, waiting.nonempty⟩
  | some m =>
      rw [commit_some sent]
      constructor
      · intro w due
        by_cases here : w = wsi
        · exact here ▸ there
        · exact waiting.isOpen w (by simpa [here] using due)
      · intro w due
        by_cases here : w = wsi
        · subst here
          simpa using sends m (by simp [sent])
        · simpa [here] using waiting.nonempty w (by simpa [here] using due)

theorem anyStep_waiting (waiting : Waiting s)
    (moved : anyStep service s action = some (next, emitted)) : Waiting next := by
  cases action with
  | established wsi =>
      obtain ⟨_, absent, served, outcome, committed⟩ := anyStep_established moved
      have opened : Waiting (s.opened wsi) := by
        constructor <;> intro w due <;> by_cases here : w = wsi
        · simp [Loop.opened, here]
        · simpa [Loop.opened, here] using waiting.isOpen w (by simpa [Loop.opened, here] using due)
        · simp [Loop.opened, here] at due
        · simpa [Loop.opened, here] using
            waiting.nonempty w (by simpa [Loop.opened, here] using due)
      have there : (s.opened wsi).isOpen wsi = true := by simp [Loop.opened]
      have kept := opened.commit there (service.established_sends _ _ _ outcome)
      rwa [committed] at kept
  | closed wsi =>
      obtain ⟨_, rfl, _⟩ := anyStep_closed moved
      constructor <;> intro w due <;> by_cases here : w = wsi
      · simp [Loop.drop, here] at due
      · simpa [Loop.drop, here] using waiting.isOpen w (by simpa [Loop.drop, here] using due)
      · simp [Loop.drop, here] at due
      · exact waiting.nonempty w (by simpa [Loop.drop, here] using due)
  | receive wsi input =>
      obtain ⟨there, served, outcome, committed⟩ := anyStep_receive moved
      have kept := waiting.commit there (service.receive_sends _ _ _ _ outcome)
      rwa [committed] at kept
  | writeable wsi =>
      obtain ⟨_, rfl, _⟩ := anyStep_writeable moved
      constructor <;> intro w due <;> by_cases here : w = wsi
      · simp [Loop.flush, here] at due
      · exact waiting.isOpen w (by simpa [Loop.flush, here] using due)
      · simp [Loop.flush, here] at due
      · simpa [Loop.flush, here] using waiting.nonempty w (by simpa [Loop.flush, here] using due)

theorem step_waiting (waiting : Waiting s)
    (moved : step service s action = some (next, emitted)) : Waiting next :=
  anyStep_waiting waiting (step_iff.mp moved).2

theorem step_nothingLost (waiting : Waiting s) (kept : NothingLost s events)
    (unhurried : Unhurried service s action)
    (moved : step service s action = some (next, emitted)) :
    NothingLost next (events ++ emitted) := by
  cases action with
  | established wsi =>
      obtain ⟨_, absent, served, outcome, committed⟩ := step_established moved
      have idle : (s.opened wsi).requested wsi = false := by simp [Loop.opened]
      have later : NothingLost ((s.opened wsi).commit wsi served).1 (events ++ _) :=
        (kept.opened (waiting.idle absent)).commit fun _ => idle
      rwa [committed] at later
  | closed wsi =>
      obtain ⟨_, rfl, rfl⟩ := step_closed moved
      rw [List.append_nil]
      exact kept.drop unhurried _
  | receive wsi input =>
      obtain ⟨_, served, outcome, committed⟩ := step_receive moved
      have free : served.sent ≠ none → s.requested wsi = false := by
        intro sends
        by_contra due
        have silent := unhurried (by simpa using due)
        simp only [answers, outcome, Option.isSome_eq_false_iff, Option.isNone_iff_eq_none] at silent
        exact sends silent
      have later := kept.commit free
      rwa [committed] at later
  | writeable wsi =>
      obtain ⟨due, rfl, rfl⟩ := step_writeable moved
      rw [service.writes _ (waiting.nonempty wsi due)]
      exact kept.flush due _

theorem hurried_loses (kept : NothingLost s events) (hurried : ¬ Unhurried service s action)
    (moved : step service s action = some (next, emitted)) :
    ¬ NothingLost next (events ++ emitted) := by
  intro still
  cases action with
  | established wsi => exact hurried trivial
  | writeable wsi => exact hurried trivial
  | closed wsi =>
      have due : s.requested wsi = true := by simpa [Unhurried] using hurried
      obtain ⟨_, rfl, rfl⟩ := step_closed moved
      have before := kept wsi
      have after := still wsi
      rw [pendingOn_due due] at before
      rw [List.append_nil, pendingOn_idle (by simp [Loop.drop]), before] at after
      simp at after
  | receive wsi input =>
      obtain ⟨_, served, outcome, committed⟩ := step_receive moved
      simp only [Unhurried, answers, outcome, Classical.not_imp, Bool.not_eq_false] at hurried
      obtain ⟨due, sends⟩ := hurried
      obtain ⟨m, sends⟩ := Option.isSome_iff_exists.mp sends
      rw [commit_some sends] at committed
      obtain ⟨rfl, rfl⟩ := Prod.mk.inj committed
      have before := kept wsi
      have after := still wsi
      rw [pendingOn_due due] at before
      rw [composedOn_append, composedOn_append, writtenOn_append, writtenOn_append,
        pendingOn_due (by simp), before] at after
      have lengths := congrArg List.length after
      simp at lengths

theorem start_waiting (store : Store) : Waiting (Loop.start store) where
  isOpen := by simp [Loop.start]
  nonempty := by simp [Loop.start]

theorem start_nothingLost (store : Store) : NothingLost (Loop.start store) [] := by
  intro wsi
  simp [composedOn, writtenOn, Loop.pendingOn, Loop.start]

theorem run_nothingLost {store : Store} {actions : List (Action Input)}
    (run : RunIf (Unhurried service) (step service) (Loop.start store) actions s events) :
    NothingLost s events := by
  have kept : Waiting s ∧ NothingLost s events :=
    run.invariant (fun s events => Waiting s ∧ NothingLost s events)
      ⟨start_waiting store, start_nothingLost store⟩ fun _ _ _ _ _ before unhurried moved =>
        ⟨step_waiting before.1 moved, step_nothingLost before.1 before.2 unhurried moved⟩
  exact kept.2

/-- No message of either server is lost in a run without hurry. -/
theorem no_response_lost (J : Jansson) :
    (∀ (db : Db) (actions : List (Action Received)) (s : Loop Db) (events : List Event),
      RunIf (Unhurried (metadataServer J)) (step (metadataServer J)) (Loop.start db) actions s
        events → NothingLost s events) ∧
    ∀ (store : FsStore) (actions : List (Action FsReceived)) (s : Loop FsStore)
      (events : List Event),
      RunIf (Unhurried (fileServer J)) (step (fileServer J)) (Loop.start store) actions s events →
        NothingLost s events :=
  ⟨fun _ _ _ _ run => run_nothingLost run, fun _ _ _ _ run => run_nothingLost run⟩

def text (json : Json) : CString := Jansson.canonical.dumps json

def oidOf (s : String) (long : (CString.literal s).val.length = 24) : Oid := ⟨CString.literal s, long⟩

def firstOid : Oid := oidOf "000000000000000000000001" (by decide +kernel)
def secondOid : Oid := oidOf "000000000000000000000002" (by decide +kernel)
def thirdOid : Oid := oidOf "000000000000000000000003" (by decide +kernel)
def fourthOid : Oid := oidOf "000000000000000000000004" (by decide +kernel)

def registers : Received where
  dataStr := text (object .fsRegister [])
  oid := firstOid

def inits (repoName : String) (oid : Oid) : Received where
  dataStr := text (object .syInit [("repo_name", .string (CString.literal repoName))])
  oid := oid

def initOk (session oid : Oid) : Received where
  dataStr := text (object .fsInitOk [("session_id", .string session.val)])
  oid := oid

def twoInits : List (Action Received) :=
  [.established 1, .receive 1 registers, .writeable 1,
    .established 2, .receive 2 (inits "left" firstOid), .writeable 2,
    .established 3, .receive 3 (inits "right" secondOid), .writeable 3]

def targets (data : List WriteData) : List Wsi :=
  data.map WriteData.targetWsi

theorem two_inits_answered :
    ∃ s events, RunIf (Unhurried (metadataServer Jansson.canonical))
        (step (metadataServer Jansson.canonical)) (Loop.start (Db.empty .inOrder))
        (twoInits ++ [.receive 1 (initOk firstOid thirdOid), .writeable 1,
          .receive 1 (initOk secondOid fourthOid), .writeable 1]) s events ∧
      targets (writtenOn 1 events) = [1, 2, 3] ∧ NothingLost s events := by
  have moved : (execIf (Unhurried (metadataServer Jansson.canonical))
      (step (metadataServer Jansson.canonical)) (Loop.start (Db.empty .inOrder))
      (twoInits ++ [.receive 1 (initOk firstOid thirdOid), .writeable 1,
        .receive 1 (initOk secondOid fourthOid), .writeable 1])).map
          (fun last => targets (writtenOn 1 last.2)) = some [1, 2, 3] := by decide +kernel
  obtain ⟨⟨s, events⟩, taken, written⟩ := Option.map_eq_some_iff.mp moved
  have run := execIf_runIf taken
  exact ⟨s, events, run, written, (no_response_lost Jansson.canonical).1 _ _ _ _ run⟩

def ResponseLaw (J : Jansson) : Prop :=
  (∀ (db : Db) (actions : List (Action Received)) (s : Loop Db) (events : List Event),
    (∀ wsi, .closed wsi ∉ actions) →
      Run (step (metadataServer J)) (Loop.start db) actions s events → NothingLost s events) ∧
  ∀ (store : FsStore) (actions : List (Action FsReceived)) (s : Loop FsStore)
    (events : List Event), (∀ wsi, .closed wsi ∉ actions) →
      Run (step (fileServer J)) (Loop.start store) actions s events → NothingLost s events

theorem response_overwritten : ¬ ∀ J, ResponseLaw J := by
  intro law
  have moved : (exec (step (metadataServer Jansson.canonical)) (Loop.start (Db.empty .inOrder))
      (twoInits ++ [.receive 1 (initOk firstOid thirdOid), .receive 1 (initOk secondOid fourthOid),
        .writeable 1])).map
          (fun last => (targets (composedOn 1 last.2), targets (writtenOn 1 last.2))) =
      some ([1, 2, 3], [1, 3]) := by decide +kernel
  obtain ⟨⟨s, events⟩, taken, both⟩ := Option.map_eq_some_iff.mp moved
  obtain ⟨composed, written⟩ := Prod.mk.inj both
  have kept := (law Jansson.canonical).1 _ _ _ _ (by simp [twoInits]) (exec_run taken) 1
  have same : targets (composedOn 1 events) =
      targets (writtenOn 1 events) ++ targets (s.pendingOn 1) := by
    rw [kept, targets, targets, targets, List.map_append]
  rw [composed, written] at same
  simp at same

end Librtcdc.Metadata
