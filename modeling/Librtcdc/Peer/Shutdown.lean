import Librtcdc.Peer.Layers

set_option autoImplicit false

namespace Librtcdc.Layers

open Systems

-- How many steps a thread has left once exit_thread is set.

def Wait.rank : Wait → Nat
  | .whileFlag => 3
  | .whileExit => 2
  | .ifExit => 1

def Finish.rank : Finish → Nat
  | .ifDone => 4
  | .doHandshake => 3
  | .ifFinished => 2
  | .setDone => 1

def IcePoint.rank : IcePoint → Nat
  | .gathering w | .negotiation w => w.rank
  | .send => 6
  | .finish f => f.rank + 1
  | .whileExit => 1
  | .returned => 0

def StartupPoint.rank : StartupPoint → Nat
  | .negotiation w | .dtls w => w.rank
  | .setCursor => 4
  | .doHandshake | .associate => 3
  | .setDone => 2
  | .announce => 1
  | .returned => 0

-- rtcdc_loop, from where it has made its two threads. Its main loop runs the callbacks of libnice, which
-- are those of callback 0 here.

inductive LoopPoint where
  | mainLoopRun
  | setExit
  | joinIce
  | joinStartup
  | returned
  deriving DecidableEq

structure Looping where
  threads : Loop
  point : LoopPoint
  -- something has called g_main_loop_quit, or exit
  quit : Bool
  exited : Bool

inductive LoopAction where
  | thread (t : Thread) (answer : Answer)
  | mainLoopQuit
  | rtcdcLoop
  deriving DecidableEq

def IcePoint.ended : IcePoint → Bool
  | .returned => true
  | _ => false

def StartupPoint.ended : StartupPoint → Bool
  | .returned => true
  | _ => false

def CallbackPoint.resting : CallbackPoint → Bool
  | .idle => true
  | _ => false

-- Only a callback calls exit.
def exits : (t : Thread) → Point t → Bool
  | .callback _, CallbackPoint.exited => true
  | _, _ => false

def rtcdcLoop (s : Looping) : Option Looping :=
  match s.point with
  | .mainLoopRun =>
      if s.quit ∧ CallbackPoint.resting (s.threads.point (.callback 0)) then
        some { s with point := .setExit }
      else
        none
  | .setExit =>
      some { s with
        threads := { s.threads with shared := { s.threads.shared with exitThread := true } }
        point := .joinIce }
  | .joinIce =>
      if IcePoint.ended (s.threads.point .ice) then some { s with point := .joinStartup }
      else none
  | .joinStartup =>
      if StartupPoint.ended (s.threads.point .startup) then some { s with point := .returned }
      else none
  | .returned => none

def loopStep : Step Looping LoopAction Event
  | s, action =>
      if s.exited then none
      else
        match action with
        | .thread t answer =>
            if t = .callback 0 ∧ s.point ≠ .mainLoopRun then none
            else
              (program.step s.threads (t, answer)).map fun (threads, emitted) =>
                ({ s with threads, exited := exits t (threads.point t) }, emitted)
        | .mainLoopQuit => some ({ s with quit := true }, [])
        | .rtcdcLoop => (rtcdcLoop s).map fun next => (next, [])

variable {g g' : Flags} {t : Thread} {answer : Answer} {emitted : List Event}

theorem Wait.rank_step {P : Type} {rank : P → Nat} {still : Wait → P} {stop go : P} {w : Wait}
    {flag : Bool} (same : ∀ w, rank (still w) = w.rank) (stopped : rank stop = 0) :
    rank ((w.step true flag).point still stop go) < rank (still w) := by
  rw [same]
  cases w with
  | whileFlag => cases flag <;> simp [Wait.step, Waited.point, same, Wait.rank]
  | whileExit | ifExit => simp [Wait.step, Waited.point, same, stopped, Wait.rank]

theorem Finish.rank_step {P : Type} {rank : P → Nat} {make : Finish → P} {done : P} {k : Nat}
    {f : Finish} (same : ∀ f, rank (make f) = f.rank + k) (ended : rank done = k) :
    rank ((f.step g answer).2.elim done make) < rank (make f) := by
  cases f with
  | ifDone =>
      cases shaken : g.dtlsHandshakeDone <;> simp [Finish.step, Finish.rank, shaken, same, ended]
  | ifFinished =>
      cases finished : g.initFinished <;> simp [Finish.step, Finish.rank, finished, same, ended]
  | doHandshake | setDone => simp [Finish.step, Finish.rank, same, ended]

theorem ice_falls {point point' : IcePoint} (exits : g.exitThread = true)
    (taken : iceThread g point answer = some (g', point', emitted)) : point'.rank < point.rank := by
  cases point with
  | gathering w | negotiation w =>
      cases taken
      rw [exits]
      exact Wait.rank_step (fun _ => rfl) rfl
  | whileExit =>
      cases taken
      rw [exits]
      exact Nat.zero_lt_one
  | send =>
      cases taken
      exact Nat.lt_succ_self 5
  | finish f =>
      cases taken
      exact Finish.rank_step (k := 1) (fun _ => rfl) rfl
  | returned => cases taken

theorem startup_falls {point point' : StartupPoint} (exits : g.exitThread = true)
    (taken : startupThread g point answer = some (g', point', emitted)) :
    point'.rank < point.rank := by
  cases point with
  | negotiation w | dtls w =>
      cases taken
      rw [exits]
      exact Wait.rank_step (fun _ => rfl) rfl
  | associate =>
      cases taken
      split_ifs <;> decide
  | returned => cases taken
  | doHandshake | setCursor | setDone | announce =>
      cases taken
      decide

theorem IcePoint.rank_le (point : IcePoint) : point.rank ≤ 6 := by
  cases point with
  | gathering w | negotiation w => cases w <;> decide
  | finish f => cases f <;> decide
  | _ => decide

theorem StartupPoint.rank_le (point : StartupPoint) : point.rank ≤ 4 := by
  cases point with
  | negotiation w | dtls w => cases w <;> decide
  | _ => decide

theorem ice_goes {s : Loop} (running : IcePoint.ended (s.point .ice) = false) (answer : Answer) :
    (program.step s (.ice, answer)).isSome := by
  rw [Program.step, Option.isSome_map]
  change (iceThread s.shared (s.point .ice) answer).isSome
  generalize s.point .ice = point at running
  cases point with
  | returned => cases running
  | _ => rfl

theorem startup_goes {s : Loop} (running : StartupPoint.ended (s.point .startup) = false)
    (answer : Answer) : (program.step s (.startup, answer)).isSome := by
  rw [Program.step, Option.isSome_map]
  change (startupThread s.shared (s.point .startup) answer).isSome
  generalize s.point .startup = point at running
  cases point with
  | returned => cases running
  | _ => rfl

theorem Finish.step_exit {f : Finish} : (f.step g answer).1.exitThread = g.exitThread := by
  cases f <;> rfl

theorem exit_stays (t : Thread) (g : Flags) (point : Point t) (answer : Answer) (g' : Flags)
    (point' : Point t) (emitted : List Event) (exits : g.exitThread = true)
    (taken : program t g point answer = some (g', point', emitted)) : g'.exitThread = true := by
  cases t with
  | ice =>
      cases point with
      | finish f =>
          cases taken
          exact Finish.step_exit.trans exits
      | returned => cases taken
      | _ =>
          cases taken
          exact exits
  | startup =>
      cases point with
      | returned => cases taken
      | _ =>
          cases taken
          exact exits
  | callback n =>
      cases point with
      | toIceFinish f =>
          cases taken
          exact Finish.step_exit.trans exits
      | toDtls =>
          simp only [program, callback] at taken
          split_ifs at taken <;> cases taken <;> exact exits
      | exitThread =>
          cases taken
          rfl
      | exited => cases taken
      | _ =>
          cases taken
          exact exits

def LoopPoint.rank : LoopPoint → Nat
  | .joinIce => 2
  | .joinStartup => 1
  | _ => 0

def LoopPoint.Joining (point : LoopPoint) : Prop :=
  point = .joinIce ∨ point = .joinStartup ∨ point = .returned

def LoopAction.own : LoopAction → Bool
  | .thread .ice _ | .thread .startup _ | .rtcdcLoop => true
  | _ => false

def Looping.rank (s : Looping) : Nat :=
  s.point.rank + IcePoint.rank (s.threads.point .ice) + StartupPoint.rank (s.threads.point .startup)

structure Begun (s : Looping) : Prop where
  point : s.point = .mainLoopRun
  quit : s.quit = false
  exited : s.exited = false

variable {s next start later : Looping} {action : LoopAction} {actions more : List LoopAction}
  {events after : List Event}

theorem loopStep_cases (taken : loopStep s action = some (next, emitted)) :
    s.exited = false ∧
      ((∃ t answer, action = .thread t answer ∧
          program.step s.threads (t, answer) = some (next.threads, emitted) ∧
          next.point = s.point ∧ next.quit = s.quit) ∨
        (action = .mainLoopQuit ∧ next = { s with quit := true }) ∨
        (action = .rtcdcLoop ∧ rtcdcLoop s = some next)) := by
  dsimp only [loopStep] at taken
  split_ifs at taken with gone
  refine ⟨by simpa using gone, ?_⟩
  cases action with
  | thread t answer =>
      dsimp only at taken
      split_ifs at taken
      obtain ⟨⟨threads, _⟩, moved, same⟩ := Option.map_eq_some_iff.mp taken
      obtain ⟨rfl, rfl⟩ := Prod.mk.inj same
      exact .inl ⟨t, answer, rfl, moved, rfl, rfl⟩
  | mainLoopQuit =>
      obtain ⟨rfl, _⟩ := Prod.mk.inj (Option.some.inj taken)
      exact .inr (.inl ⟨rfl, rfl⟩)
  | rtcdcLoop =>
      obtain ⟨_, moved, same⟩ := Option.map_eq_some_iff.mp taken
      obtain ⟨rfl, _⟩ := Prod.mk.inj same
      exact .inr (.inr ⟨rfl, moved⟩)

theorem rtcdcLoop_cases (moved : rtcdcLoop s = some next) :
    (s.point = .mainLoopRun ∧ s.quit = true ∧ next = { s with point := .setExit }) ∨
      (s.point = .setExit ∧ next.point = .joinIce ∧ next.threads.shared.exitThread = true) ∨
      (s.point = .joinIce ∧ next = { s with point := .joinStartup }) ∨
      (s.point = .joinStartup ∧ next = { s with point := .returned }) := by
  unfold rtcdcLoop at moved
  split at moved
  · rename_i here
    split_ifs at moved with quits
    exact .inl ⟨here, quits.1, (Option.some.inj moved).symm⟩
  · rename_i here
    obtain rfl := Option.some.inj moved
    exact .inr (.inl ⟨here, rfl, rfl⟩)
  · rename_i here
    split_ifs at moved
    exact .inr (.inr (.inl ⟨here, (Option.some.inj moved).symm⟩))
  · rename_i here
    split_ifs at moved
    exact .inr (.inr (.inr ⟨here, (Option.some.inj moved).symm⟩))
  · cases moved

theorem unquit_stays (begun : Begun start) (run : Run loopStep start actions s events)
    (unquit : .mainLoopQuit ∉ actions) : s.point = .mainLoopRun ∧ s.quit = false := by
  induction run with
  | refl => exact ⟨begun.point, begun.quit⟩
  | @snoc actions s next events emitted action _ _ taken ih =>
      obtain ⟨here, quit⟩ := ih fun member => unquit (List.mem_append_left _ member)
      obtain ⟨_, ⟨_, _, _, _, point, same⟩ | ⟨rfl, _⟩ | ⟨_, moved⟩⟩ := loopStep_cases taken
      · exact ⟨point.trans here, same.trans quit⟩
      · exact absurd (List.mem_append_right _ (List.mem_singleton_self _)) unquit
      · obtain ⟨_, quits, _⟩ | ⟨there, _⟩ | ⟨there, _⟩ | ⟨there, _⟩ := rtcdcLoop_cases moved
        · rw [quit] at quits
          cases quits
        all_goals rw [here] at there; cases there

def ExitSet (s : Looping) : Prop :=
  s.point.Joining → s.threads.shared.exitThread = true

theorem ExitSet.step (inv : ExitSet s) (taken : loopStep s action = some (next, emitted)) :
    ExitSet next := by
  obtain ⟨_, ⟨t, answer, _, moved, point, _⟩ | ⟨_, rfl⟩ | ⟨_, moved⟩⟩ := loopStep_cases taken
  · intro joins
    rw [point] at joins
    exact exit_stays t _ _ _ _ _ _ (inv joins) (Program.step_cases moved).1
  · exact inv
  · obtain ⟨_, _, rfl⟩ | ⟨_, _, exits⟩ | ⟨here, rfl⟩ | ⟨here, rfl⟩ := rtcdcLoop_cases moved
    · rintro (there | there | there) <;> cases there
    · exact fun _ => exits
    · exact fun _ => inv (.inl here)
    · exact fun _ => inv (.inr (.inl here))

theorem Joining.step (joins : s.point.Joining)
    (taken : loopStep s action = some (next, emitted)) : next.point.Joining := by
  obtain ⟨_, ⟨_, _, _, _, point, _⟩ | ⟨_, rfl⟩ | ⟨_, moved⟩⟩ := loopStep_cases taken
  · rw [point]
    exact joins
  · exact joins
  · obtain ⟨here, _⟩ | ⟨here, _⟩ | ⟨_, rfl⟩ | ⟨_, rfl⟩ := rtcdcLoop_cases moved
    · rw [here] at joins
      rcases joins with there | there | there <;> cases there
    · rw [here] at joins
      rcases joins with there | there | there <;> cases there
    · exact .inr (.inl rfl)
    · exact .inr (.inr rfl)

theorem rank_falls (inv : ExitSet s) (joins : s.point.Joining)
    (taken : loopStep s action = some (next, emitted)) :
    next.rank + (if action.own then 1 else 0) ≤ s.rank := by
  have exits := inv joins
  obtain ⟨_, ⟨t, answer, rfl, moved, point, _⟩ | ⟨rfl, rfl⟩ | ⟨rfl, moved⟩⟩ := loopStep_cases taken
  · obtain ⟨own, others⟩ := Program.step_cases moved
    rw [Looping.rank, Looping.rank, point]
    cases t with
    | ice =>
        have falls := ice_falls exits own
        rw [others .startup nofun]
        simp only [LoopAction.own, if_true]
        omega
    | startup =>
        have falls := startup_falls exits own
        rw [others .ice nofun]
        simp only [LoopAction.own, if_true]
        omega
    | callback n =>
        rw [others .ice nofun, others .startup nofun]
        simp [LoopAction.own]
  · exact Nat.le_refl _
  · obtain ⟨here, _⟩ | ⟨here, _⟩ | ⟨here, rfl⟩ | ⟨here, rfl⟩ := rtcdcLoop_cases moved
    · rw [here] at joins
      rcases joins with there | there | there <;> cases there
    · rw [here] at joins
      rcases joins with there | there | there <;> cases there
    · simp only [Looping.rank, here, LoopPoint.rank, LoopAction.own, if_true]
      omega
    · simp only [Looping.rank, here, LoopPoint.rank, LoopAction.own, if_true]
      omega

theorem own_goes (joins : s.point.Joining) (running : s.exited = false)
    (unreturned : s.point ≠ .returned) :
    ∃ action, LoopAction.own action = true ∧ (loopStep s action).isSome := by
  have goes (t : Thread) (different : t ≠ .callback 0) (answer : Answer)
      (moves : (program.step s.threads (t, answer)).isSome) :
      (loopStep s (.thread t answer)).isSome := by
    simpa [loopStep, running, different] using moves
  rcases joins with here | here | here
  · cases ended : IcePoint.ended (s.threads.point .ice) with
    | true => exact ⟨.rtcdcLoop, rfl, by simp [loopStep, running, rtcdcLoop, here, ended]⟩
    | false =>
        exact ⟨.thread .ice (comes .dataReceived), rfl, goes .ice nofun _ (ice_goes ended _)⟩
  · cases ended : StartupPoint.ended (s.threads.point .startup) with
    | true => exact ⟨.rtcdcLoop, rfl, by simp [loopStep, running, rtcdcLoop, here, ended]⟩
    | false =>
        exact ⟨.thread .startup (comes .dataReceived), rfl,
          goes .startup nofun _ (startup_goes ended _)⟩
  · exact absurd here unreturned

/-- While nothing has quit the main loop, rtcdc_loop stays in it, whatever exit_thread is. From where it
has set exit_thread itself, it and its two threads take at most twelve steps more, in whatever order,
and until it has returned one of the three has one to take, unless a callback has called exit. -/
theorem rtcdcLoop_returns (begun : Begun start) (run : Run loopStep start actions s events) :
    (.mainLoopQuit ∉ actions → s.point = .mainLoopRun) ∧
      (s.point.Joining → ∀ more later after, Run loopStep s more later after →
        more.countP LoopAction.own ≤ 12 ∧
          (later.point = .returned ∨ later.exited = true ∨
            ∃ action, LoopAction.own action = true ∧ (loopStep later action).isSome)) := by
  refine ⟨fun unquit => (unquit_stays begun run unquit).1, fun joins more later after further => ?_⟩
  have outside : ¬ start.point.Joining := by
    rw [begun.point]
    rintro (there | there | there) <;> cases there
  have inv : ExitSet s := run.invariant (fun s _ => ExitSet s) (fun joins => absurd joins outside)
    fun _ _ _ _ _ before _ taken => before.step taken
  have preserved : ∀ s (_ : List Event) action next emitted, (ExitSet s ∧ s.point.Joining) → True →
      loopStep s action = some (next, emitted) → ExitSet next ∧ next.point.Joining :=
    fun _ _ _ _ _ before _ taken => ⟨before.1.step taken, Joining.step before.2 taken⟩
  have last := further.invariant (fun s _ => ExitSet s ∧ s.point.Joining) ⟨inv, joins⟩ preserved
  have bounded := further.ranked (fun s _ => ExitSet s ∧ s.point.Joining) Looping.rank LoopAction.own
    ⟨inv, joins⟩ preserved fun _ _ _ _ _ before _ taken => rank_falls before.1 before.2 taken
  constructor
  · have ice := IcePoint.rank_le (s.threads.point .ice)
    have startup := StartupPoint.rank_le (s.threads.point .startup)
    have own : s.point.rank ≤ 2 := by rcases joins with here | here | here <;> rw [here] <;> decide
    rw [Looping.rank] at bounded
    rw [Looping.rank] at bounded
    omega
  · by_cases ended : later.point = .returned
    · exact .inl ended
    · cases gone : later.exited with
      | true => exact .inr (.inl rfl)
      | false => exact .inr (.inr (own_goes last.2 gone ended))

def begunLoop : Looping where
  threads := freshLoop
  point := .mainLoopRun
  quit := false
  exited := false

def setsExit : List LoopAction :=
  [.thread (.callback 1) (comes .exitThread), .thread (.callback 1) (comes .exitThread)]

def leavesLoop : List LoopAction :=
  setsExit ++ [.mainLoopQuit, .rtcdcLoop, .rtcdcLoop]

def joinsThreads : List LoopAction :=
  [.thread .ice (comes .dataReceived), .thread .startup (comes .dataReceived),
    .thread .ice (comes .dataReceived), .rtcdcLoop, .thread .startup (comes .dataReceived),
    .rtcdcLoop]

theorem setsExit_returns :
    (∀ s events, Run loopStep begunLoop setsExit s events → s.point = .mainLoopRun) ∧
      ∃ s events last after, Run loopStep begunLoop leavesLoop s events ∧
        Run loopStep s joinsThreads last after ∧ last.point = .returned ∧
        ∀ more later after, Run loopStep s more later after →
          more.countP LoopAction.own ≤ 12 := by
  have begun : Begun begunLoop := ⟨rfl, rfl, rfl⟩
  refine ⟨fun s events run => (rtcdcLoop_returns begun run).1 (by decide), ?_⟩
  have whole : ((exec loopStep begunLoop leavesLoop).map fun first =>
      (first.1.point, (exec loopStep first.1 joinsThreads).map fun last => last.1.point)) =
        some (.joinIce, some .returned) := by decide +kernel
  obtain ⟨⟨s, events⟩, taken, same⟩ := Option.map_eq_some_iff.mp whole
  obtain ⟨point, rest⟩ := Prod.mk.inj same
  obtain ⟨⟨last, after⟩, ended, returned⟩ := Option.map_eq_some_iff.mp rest
  have run := exec_run taken
  exact ⟨s, events, last, after, run, exec_run ended, returned, fun more later after further =>
    ((rtcdcLoop_returns begun run).2 (.inl point) more later after further).1⟩

end Librtcdc.Layers
