import Mathlib.Logic.Function.Basic
import Librtcdc.Metadata.Types

set_option autoImplicit false

namespace Librtcdc.Metadata

open Systems

-- A client asks for a session, and a session is inserted for a file server.
inductive Note where
  | issued (sessionId : CString) (clientWsi : Wsi)
  | bound (sessionId : CString) (fileserverWsi : Wsi)
  deriving DecidableEq

inductive Event where
  | note (note : Note)
  | composed (wsi : Wsi) (message : Message)
  | written (wsi : Wsi) (data : WriteData)

-- The outcome of a handler; `sent` is what it put into the write data of its connection.
structure Served (Store : Type) where
  store : Store
  notes : List Note
  sent : Option Message

-- A protocol callback, by the reasons libwebsockets calls it for.
structure Service (Store Input : Type) where
  established : Store → Wsi → Except Fault (Served Store)
  closed : Store → Wsi → Store
  receive : Store → Wsi → Input → Except Fault (Served Store)
  -- what goes to `libwebsocket_write`, and the write data after it
  writeable : WriteData → Option WriteData × WriteData
  established_sends : ∀ store wsi served, established store wsi = .ok served →
    ∀ m ∈ served.sent, m.data ≠ CString.empty
  receive_sends : ∀ store wsi input served, receive store wsi input = .ok served →
    ∀ m ∈ served.sent, m.data ≠ CString.empty
  writes : ∀ data : WriteData, data.data ≠ CString.empty → (writeable data).1 = some data

structure Loop (Store : Type) where
  store : Store
  writeData : Wsi → WriteData
  -- a writeable event is due; further requests change nothing
  requested : Wsi → Bool
  isOpen : Wsi → Bool

inductive Action (Input : Type) where
  | established (wsi : Wsi)
  | closed (wsi : Wsi)
  | receive (wsi : Wsi) (input : Input)
  | writeable (wsi : Wsi)

variable {Store Input : Type}

def Loop.start (store : Store) : Loop Store where
  store := store
  writeData := fun _ => WriteData.zero
  requested := fun _ => false
  isOpen := fun _ => false

def Loop.opened (s : Loop Store) (wsi : Wsi) : Loop Store :=
  { s with
    writeData := Function.update s.writeData wsi WriteData.zero
    requested := Function.update s.requested wsi false
    isOpen := Function.update s.isOpen wsi true }

-- Every handler that composes a message asks for a writeable event on its own connection.
def Loop.commit (s : Loop Store) (wsi : Wsi) (served : Served Store) : Loop Store × List Event :=
  match served.sent with
  | none => ({ s with store := served.store }, served.notes.map .note)
  | some m =>
      ({ s with
          store := served.store
          writeData := Function.update s.writeData wsi m.writeData
          requested := Function.update s.requested wsi true },
        served.notes.map .note ++ [.composed wsi m])

def Loop.drop (s : Loop Store) (wsi : Wsi) (store : Store) : Loop Store :=
  { s with
    store
    requested := Function.update s.requested wsi false
    isOpen := Function.update s.isOpen wsi false }

def Loop.flush (s : Loop Store) (wsi : Wsi) (after : WriteData) : Loop Store :=
  { s with
    writeData := Function.update s.writeData wsi after
    requested := Function.update s.requested wsi false }

def writtenEvents (wsi : Wsi) : Option WriteData → List Event
  | some data => [.written wsi data]
  | none => []

-- The callback on any event of a connection, a writeable event that nobody asked for included.
def anyStep (service : Service Store Input) : Step (Loop Store) (Action Input) Event
  | s, .established wsi =>
      if wsi = Wsi.null ∨ s.isOpen wsi then none
      else
        match service.established s.store wsi with
        | .error _ => none
        | .ok served => some ((s.opened wsi).commit wsi served)
  | s, .closed wsi =>
      if s.isOpen wsi then some (s.drop wsi (service.closed s.store wsi), []) else none
  | s, .receive wsi input =>
      if s.isOpen wsi then
        match service.receive s.store wsi input with
        | .error _ => none
        | .ok served => some (s.commit wsi served)
      else
        none
  | s, .writeable wsi =>
      if s.isOpen wsi then
        let (written, after) := service.writeable (s.writeData wsi)
        some (s.flush wsi after, writtenEvents wsi written)
      else
        none

def Requested (s : Loop Store) : Action Input → Prop
  | .writeable wsi => s.requested wsi = true
  | _ => True

instance (s : Loop Store) : (action : Action Input) → Decidable (Requested s action)
  | .writeable wsi => inferInstanceAs (Decidable (s.requested wsi = true))
  | .established _ | .closed _ | .receive _ _ => .isTrue trivial

-- The same where writeable events come on request only.
def step (service : Service Store Input) : Step (Loop Store) (Action Input) Event :=
  fun s action => if Requested s action then anyStep service s action else none

variable {service : Service Store Input} {s next : Loop Store} {wsi w : Wsi} {input : Input}
  {emitted : List Event} {served : Served Store} {m : Message} {store : Store}
  {action : Action Input} {result : Loop Store × List Event}

theorem anyStep_established (moved : anyStep service s (.established wsi) = some (next, emitted)) :
    wsi ≠ Wsi.null ∧ s.isOpen wsi = false ∧ ∃ served,
      service.established s.store wsi = .ok served ∧
        (s.opened wsi).commit wsi served = (next, emitted) := by
  simp only [anyStep] at moved
  split_ifs at moved with refused
  split at moved
  · cases moved
  · rename_i served outcome
    rw [not_or, Bool.not_eq_true] at refused
    exact ⟨refused.1, refused.2, served, outcome, Option.some.inj moved⟩

theorem anyStep_closed (moved : anyStep service s (.closed wsi) = some (next, emitted)) :
    s.isOpen wsi = true ∧ next = s.drop wsi (service.closed s.store wsi) ∧ emitted = [] := by
  simp only [anyStep] at moved
  split_ifs at moved with there
  obtain ⟨rfl, rfl⟩ := Prod.mk.inj (Option.some.inj moved)
  exact ⟨there, rfl, rfl⟩

theorem anyStep_receive (moved : anyStep service s (.receive wsi input) = some (next, emitted)) :
    s.isOpen wsi = true ∧ ∃ served, service.receive s.store wsi input = .ok served ∧
      s.commit wsi served = (next, emitted) := by
  simp only [anyStep] at moved
  split_ifs at moved with there
  split at moved
  · cases moved
  · rename_i served outcome
    exact ⟨there, served, outcome, Option.some.inj moved⟩

theorem anyStep_writeable (moved : anyStep service s (.writeable wsi) = some (next, emitted)) :
    s.isOpen wsi = true ∧ next = s.flush wsi (service.writeable (s.writeData wsi)).2 ∧
      emitted = writtenEvents wsi (service.writeable (s.writeData wsi)).1 := by
  simp only [anyStep] at moved
  split_ifs at moved with there
  obtain ⟨rfl, rfl⟩ := Prod.mk.inj (Option.some.inj moved)
  exact ⟨there, rfl, rfl⟩

theorem step_iff :
    step service s action = some result ↔
      Requested s action ∧ anyStep service s action = some result := by
  simp [step]

theorem step_established (moved : step service s (.established wsi) = some (next, emitted)) :
    wsi ≠ Wsi.null ∧ s.isOpen wsi = false ∧ ∃ served,
      service.established s.store wsi = .ok served ∧
        (s.opened wsi).commit wsi served = (next, emitted) :=
  anyStep_established (step_iff.mp moved).2

theorem step_closed (moved : step service s (.closed wsi) = some (next, emitted)) :
    s.isOpen wsi = true ∧ next = s.drop wsi (service.closed s.store wsi) ∧ emitted = [] :=
  anyStep_closed (step_iff.mp moved).2

theorem step_receive (moved : step service s (.receive wsi input) = some (next, emitted)) :
    s.isOpen wsi = true ∧ ∃ served, service.receive s.store wsi input = .ok served ∧
      s.commit wsi served = (next, emitted) :=
  anyStep_receive (step_iff.mp moved).2

theorem step_writeable (moved : step service s (.writeable wsi) = some (next, emitted)) :
    s.requested wsi = true ∧ next = s.flush wsi (service.writeable (s.writeData wsi)).2 ∧
      emitted = writtenEvents wsi (service.writeable (s.writeData wsi)).1 := by
  obtain ⟨due, moved⟩ := step_iff.mp moved
  exact ⟨due, (anyStep_writeable moved).2⟩

theorem anyStep_writes (there : s.isOpen wsi = true)
    (nonempty : (s.writeData wsi).data ≠ CString.empty) :
    anyStep service s (.writeable wsi) =
      some (s.flush wsi (service.writeable (s.writeData wsi)).2,
        [.written wsi (s.writeData wsi)]) := by
  simp [anyStep, there, service.writes _ nonempty, writtenEvents]

theorem commit_none (silent : served.sent = none) :
    s.commit wsi served = ({ s with store := served.store }, served.notes.map .note) := by
  simp [Loop.commit, silent]

theorem commit_some (sends : served.sent = some m) :
    s.commit wsi served =
      ({ s with
          store := served.store
          writeData := Function.update s.writeData wsi m.writeData
          requested := Function.update s.requested wsi true },
        served.notes.map .note ++ [.composed wsi m]) := by
  simp [Loop.commit, sends]

@[simp] theorem commit_store : (s.commit wsi served).1.store = served.store := by
  unfold Loop.commit
  split <;> rfl

@[simp] theorem commit_isOpen : (s.commit wsi served).1.isOpen = s.isOpen := by
  unfold Loop.commit
  split <;> rfl

end Librtcdc.Metadata
