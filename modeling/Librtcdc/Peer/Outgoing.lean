import Mathlib.Data.Fintype.Fin
import Mathlib.Tactic.Abel
import Librtcdc.Shared.Bytes
import Librtcdc.Shared.Framing
import Librtcdc.Shared.Trace

set_option autoImplicit false

namespace Librtcdc.Outgoing

open Systems

def bufferSize : Nat := 65536

-- Where a thread is in sctp_data_ready_cb and the sctp_to_dtls it calls.
inductive Pc where
  | idle
  | ctrlPending
  | bioRead
  | sslWrite (buf : Bytes)
  deriving DecidableEq, Repr

-- `sctp->outgoing_bio` and the threads that run the callback, once ICE and DTLS are up.
structure Hop (n : Nat) where
  outgoingBio : Bytes
  threads : Fin n → Pc

inductive Action (n : Nat) where
  | sctpDataReadyCb (t : Fin n) (data : Bytes)
  | step (t : Fin n)
  deriving DecidableEq, Repr

inductive Event where
  | packet (data : Bytes)
  | sslWrite (buf : Bytes)
  deriving DecidableEq, Repr

variable {n : Nat}

def Hop.goto (s : Hop n) (t : Fin n) (pc : Pc) : Hop n :=
  { s with threads := Function.update s.threads t pc }

-- BIO_write and BIO_read hold sctp_mutex, SSL_write holds dtls_mutex; between them others may run.
def step : Step (Hop n) (Action n) Event
  | s, .sctpDataReadyCb t data =>
      if s.threads t = .idle ∧ data ≠ [] ∧ data.length ≤ bufferSize then
        some ({ s with outgoingBio := s.outgoingBio ++ data }.goto t .ctrlPending, [.packet data])
      else
        none
  | s, .step t =>
      match s.threads t with
      | .idle => none
      | .ctrlPending =>
          if s.outgoingBio.length > 0 then some (s.goto t .bioRead, [])
          else some (s.goto t .idle, [])
      | .bioRead =>
          let buf := s.outgoingBio.take bufferSize
          let s := { s with outgoingBio := s.outgoingBio.drop bufferSize }
          if buf.length > 0 then some (s.goto t (.sslWrite buf), [])
          else some (s.goto t .idle, [])
      | .sslWrite buf => some (s.goto t .idle, [.sslWrite buf])

structure Quiet (s : Hop n) : Prop where
  outgoingBio : s.outgoingBio = []
  threads : ∀ t, s.threads t = .idle

def packetOf : Event → Option Bytes
  | .packet data => some data
  | .sslWrite _ => none

def packets (events : List Event) : List Bytes :=
  events.filterMap packetOf

def sslWriteOf : Event → Option Bytes
  | .sslWrite buf => some buf
  | .packet _ => none

def sslWrites (events : List Event) : List Bytes :=
  events.filterMap sslWriteOf

structure Kept (s : Hop n) (events : List Event) : Prop where
  whole : (sslWrites events).Subperm (packets events)
  complete : (∀ t, s.threads t = .idle) → (sslWrites events).Perm (packets events)

-- A packet is appended only to whole buffers that are still to be read.
def AtBoundary (s : Hop n) : Action n → Prop
  | .sctpDataReadyCb _ _ => bufferSize ∣ s.outgoingBio.length
  | .step _ => True

instance (s : Hop n) (action : Action n) : Decidable (AtBoundary s action) := by
  cases action <;> unfold AtBoundary <;> infer_instance

def held : Pc → Multiset Bytes
  | .sslWrite buf => {buf}
  | _ => 0

def due : Pc → Nat
  | .ctrlPending => 1
  | .bioRead => 1
  | _ => 0

structure Accounted (s : Hop n) (events : List Event) (frames : List Bytes) : Prop where
  framed : Framed bufferSize s.outgoingBio frames
  balance : (packets events : Multiset Bytes) =
    sslWrites events + ∑ t, held (s.threads t) + frames
  readers : frames.length ≤ ∑ t, due (s.threads t)

variable {s : Hop n} {t : Fin n} {events : List Event} {frames : List Bytes}

theorem Accounted.kept (accounted : Accounted s events frames) : Kept s events where
  whole := by
    rw [← Multiset.coe_le, accounted.balance, add_assoc]
    exact Multiset.le_add_right _ _
  complete := by
    intro idle
    have noneHeld : ∑ t, held (s.threads t) = 0 := by simp [idle, held]
    have noneDue : ∑ t, due (s.threads t) = 0 := by simp [idle, due]
    have readers := accounted.readers
    rw [noneDue, Nat.le_zero, List.length_eq_zero_iff] at readers
    have balance := accounted.balance
    rw [noneHeld, readers, Multiset.coe_nil, add_zero, add_zero] at balance
    exact (Multiset.coe_eq_coe.mp balance).symm

theorem held_goto {before after : Pc} (here : s.threads t = before) :
    held before + ∑ u, held ((s.goto t after).threads u) =
      held after + ∑ u, held (s.threads u) := by
  rw [← here]
  exact sum_update held s.threads t after

theorem due_goto {before after : Pc} (here : s.threads t = before) :
    due before + ∑ u, due ((s.goto t after).threads u) = due after + ∑ u, due (s.threads u) := by
  rw [← here]
  exact sum_update due s.threads t after

theorem packets_append (first second : List Event) :
    packets (first ++ second) = packets first ++ packets second :=
  List.filterMap_append ..

theorem sslWrites_append (first second : List Event) :
    sslWrites (first ++ second) = sslWrites first ++ sslWrites second :=
  List.filterMap_append ..

theorem quiet_accounted (quiet : Quiet s) : Accounted s [] [] where
  framed := by
    rw [quiet.outgoingBio]
    exact .nil
  balance := by simp [packets, sslWrites, quiet.threads, held]
  readers := Nat.zero_le _

theorem call_accounted {data : Bytes} (accounted : Accounted s events frames)
    (idle : s.threads t = .idle) (nonempty : data ≠ []) (fits : data.length ≤ bufferSize)
    (boundary : bufferSize ∣ s.outgoingBio.length) :
    Accounted ({ s with outgoingBio := s.outgoingBio ++ data }.goto t .ctrlPending)
      (events ++ [.packet data]) (frames ++ [data]) where
  framed := accounted.framed.write boundary nonempty fits
  balance := by
    have sum : 0 + ∑ u, held ((s.goto t .ctrlPending).threads u) =
        0 + ∑ u, held (s.threads u) := held_goto idle
    rw [zero_add, zero_add] at sum
    have packet : packets [.packet data] = [data] := rfl
    have write : sslWrites [.packet data] = [] := rfl
    rw [packets_append, sslWrites_append, packet, write, List.append_nil, ← Multiset.coe_add,
      ← Multiset.coe_add, accounted.balance, ← sum]
    exact add_assoc ..
  readers := by
    have sum : 0 + ∑ u, due ((s.goto t .ctrlPending).threads u) =
        1 + ∑ u, due (s.threads u) := due_goto idle
    have readers := accounted.readers
    rw [List.length_append, List.length_singleton]
    change _ ≤ ∑ u, due ((s.goto t .ctrlPending).threads u)
    omega

theorem check_accounted (accounted : Accounted s events frames)
    (here : s.threads t = .ctrlPending) : Accounted (s.goto t .bioRead) events frames where
  framed := accounted.framed
  balance := by
    have sum : 0 + ∑ u, held ((s.goto t .bioRead).threads u) =
        0 + ∑ u, held (s.threads u) := held_goto here
    rw [zero_add, zero_add] at sum
    rw [sum]
    exact accounted.balance
  readers := by
    have sum : 1 + ∑ u, due ((s.goto t .bioRead).threads u) =
        1 + ∑ u, due (s.threads u) := due_goto here
    have readers := accounted.readers
    omega

theorem leave_accounted {before : Pc} (accounted : Accounted s events frames)
    (here : s.threads t = before) (nothingHeld : held before = 0)
    (drained : s.outgoingBio = []) : Accounted (s.goto t .idle) events frames where
  framed := accounted.framed
  balance := by
    have sum : held before + ∑ u, held ((s.goto t .idle).threads u) =
        0 + ∑ u, held (s.threads u) := held_goto here
    rw [nothingHeld, zero_add, zero_add] at sum
    rw [sum]
    exact accounted.balance
  readers := by
    have framed := accounted.framed
    rw [drained] at framed
    rw [framed.frames_nil]
    exact Nat.zero_le _

theorem read_accounted (accounted : Accounted s events frames) (here : s.threads t = .bioRead)
    (pending : s.outgoingBio ≠ []) :
    ∃ rest, Accounted ({ s with outgoingBio := s.outgoingBio.drop bufferSize }.goto t
      (.sslWrite (s.outgoingBio.take bufferSize))) events rest := by
  obtain ⟨rest, split, framed⟩ := accounted.framed.read pending
  refine ⟨rest, framed, ?_, ?_⟩
  · have sum : 0 + ∑ u, held ((s.goto t (.sslWrite (s.outgoingBio.take bufferSize))).threads u) =
        {s.outgoingBio.take bufferSize} + ∑ u, held (s.threads u) := held_goto here
    have balance := accounted.balance
    rw [split, ← Multiset.cons_coe, ← Multiset.singleton_add] at balance
    rw [zero_add] at sum
    rw [balance]
    change _ = _ + ∑ u, held ((s.goto t _).threads u) + _
    rw [sum]
    abel
  · have sum : 1 + ∑ u, due ((s.goto t (.sslWrite (s.outgoingBio.take bufferSize))).threads u) =
        0 + ∑ u, due (s.threads u) := due_goto here
    have readers := accounted.readers
    rw [split, List.length_cons] at readers
    change _ ≤ ∑ u, due ((s.goto t _).threads u)
    omega

theorem write_accounted {buf : Bytes} (accounted : Accounted s events frames)
    (here : s.threads t = .sslWrite buf) :
    Accounted (s.goto t .idle) (events ++ [.sslWrite buf]) frames where
  framed := accounted.framed
  balance := by
    have sum : {buf} + ∑ u, held ((s.goto t .idle).threads u) =
        0 + ∑ u, held (s.threads u) := held_goto here
    have packet : packets [.sslWrite buf] = [] := rfl
    have write : sslWrites [.sslWrite buf] = [buf] := rfl
    rw [packets_append, sslWrites_append, packet, write, List.append_nil, ← Multiset.coe_add,
      Multiset.coe_singleton, accounted.balance, ← zero_add (∑ u, held (s.threads u)), ← sum]
    abel
  readers := by
    have sum : 0 + ∑ u, due ((s.goto t .idle).threads u) =
        0 + ∑ u, due (s.threads u) := due_goto here
    have readers := accounted.readers
    omega

theorem step_accounted {next : Hop n} {action : Action n} {emitted : List Event}
    (accounted : Accounted s events frames) (allowed : AtBoundary s action)
    (moved : step s action = some (next, emitted)) :
    ∃ frames', Accounted next (events ++ emitted) frames' := by
  cases action with
  | sctpDataReadyCb t data =>
      simp only [step] at moved
      split_ifs at moved with enabled
      obtain ⟨rfl, rfl⟩ := Prod.mk.inj (Option.some.inj moved)
      obtain ⟨idle, nonempty, fits⟩ := enabled
      exact ⟨_, call_accounted accounted idle nonempty fits allowed⟩
  | step t =>
      simp only [step] at moved
      split at moved
      · cases moved
      · rename_i here
        split_ifs at moved with pending
        · obtain ⟨rfl, rfl⟩ := Prod.mk.inj (Option.some.inj moved)
          exact ⟨_, by simpa using check_accounted accounted here⟩
        · obtain ⟨rfl, rfl⟩ := Prod.mk.inj (Option.some.inj moved)
          have drained : s.outgoingBio = [] := by simpa using pending
          exact ⟨_, by simpa using leave_accounted accounted here rfl drained⟩
      · rename_i here
        split_ifs at moved with pending
        · obtain ⟨rfl, rfl⟩ := Prod.mk.inj (Option.some.inj moved)
          have some_there : s.outgoingBio ≠ [] := by
            intro drained
            simp [drained] at pending
          rw [List.append_nil]
          exact read_accounted accounted here some_there
        · obtain ⟨rfl, rfl⟩ := Prod.mk.inj (Option.some.inj moved)
          have drained : s.outgoingBio = [] := by
            cases bio : s.outgoingBio with
            | nil => rfl
            | cons head tail => simp [bio, bufferSize] at pending
          have same : { s with outgoingBio := s.outgoingBio.drop bufferSize } = s := by
            rw [drained, List.drop_nil, ← drained]
          refine ⟨frames, ?_⟩
          rw [List.append_nil]
          simp only [same]
          exact leave_accounted accounted here rfl drained
      · rename_i buf here
        obtain ⟨rfl, rfl⟩ := Prod.mk.inj (Option.some.inj moved)
        exact ⟨_, write_accounted accounted here⟩

/-- Packets stay whole in every run that writes only at a boundary. -/
theorem packets_kept {start : Hop n} {actions : List (Action n)} (quiet : Quiet start)
    (run : RunIf AtBoundary step start actions s events) : Kept s events := by
  have accounted : ∃ frames, Accounted s events frames :=
    run.invariant (fun s events => ∃ frames, Accounted s events frames)
      ⟨[], quiet_accounted quiet⟩ fun _ _ _ _ _ before allowed moved => by
        obtain ⟨frames, accounted⟩ := before
        exact step_accounted accounted allowed moved
  obtain ⟨frames, accounted⟩ := accounted
  exact accounted.kept

def quietHop (n : Nat) : Hop n where
  outgoingBio := []
  threads := fun _ => .idle

theorem quietHop_quiet (n : Nat) : Quiet (quietHop n) := ⟨rfl, fun _ => rfl⟩

theorem taking_turns_kept :
    ∃ last, RunIf AtBoundary step (quietHop 2)
        [.sctpDataReadyCb 0 [1], .step 0, .step 0, .sctpDataReadyCb 1 [2], .step 0, .step 1,
          .step 1, .step 1] last [.packet [1], .packet [2], .sslWrite [1], .sslWrite [2]] ∧
      Kept last [.packet [1], .packet [2], .sslWrite [1], .sslWrite [2]] := by
  have moved : (execIf AtBoundary step (quietHop 2)
      [.sctpDataReadyCb 0 [1], .step 0, .step 0, .sctpDataReadyCb 1 [2], .step 0, .step 1,
        .step 1, .step 1]).map Prod.snd =
      some [.packet [1], .packet [2], .sslWrite [1], .sslWrite [2]] := by decide +kernel
  obtain ⟨⟨last, _⟩, taken, rfl⟩ := Option.map_eq_some_iff.mp moved
  have run := execIf_runIf taken
  exact ⟨last, run, packets_kept (quietHop_quiet 2) run⟩

def PacketLaw : Prop :=
  ∀ (n : Nat) (start s : Hop n) (actions : List (Action n)) (events : List Event),
    Quiet start → Run step start actions s events → Kept s events

theorem packets_merged : ¬ PacketLaw := by
  intro law
  have moved : (exec step (quietHop 2)
      [.sctpDataReadyCb 0 [1], .sctpDataReadyCb 1 [2], .step 0, .step 0, .step 0]).map Prod.snd =
      some [.packet [1], .packet [2], .sslWrite [1, 2]] := by decide +kernel
  obtain ⟨last, run⟩ := exec_events moved
  have kept := (law 2 _ _ _ _ (quietHop_quiet 2) run).whole
  have member := kept.subset (List.mem_singleton_self [1, 2])
  exact absurd member (by decide)

end Librtcdc.Outgoing
