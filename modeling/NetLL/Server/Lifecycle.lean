import Mathlib.Tactic.ByContra
import NetLL.Library.Transition

namespace NetLL
namespace Server
namespace RP2040

/-!
# Starting and stopping the RP2040 server

`serverTask` and `serverSocket` are written by two parties.  The application
calls `HttpServerStart` and `HttpServerStop`, one call after the other, and the
server task takes its own steps between any two accesses.  A call of
`HttpServerStop` that finds a socket has two steps, since the task may run
between the assignment and `closesocket`.  The routes are left out, because the
task's life does not depend on them.
-/

/-- Where the server task is in `HttpServerTask`. -/
inductive TaskStage where
  /-- There is no task, or it has cleared `serverTask` and deletes itself. -/
  | ended
  | begun
  /-- `CreateServerSocket` has returned, and its result is not stored yet. -/
  | created (socket : Nat)
  /-- The result is stored, and is tested next. -/
  | stored
  /-- At the condition of the loop. -/
  | testing
  /-- Before `accept` reads its argument. -/
  | calling
  /-- In `accept`, on the descriptor that was read. -/
  | accepting (descriptor : Option Nat)
  | serving
  /-- `accept` has failed, and `serverSocket` is tested next. -/
  | failed
  /-- Behind the loop. -/
  | leaving
  /-- Before `serverTask` is cleared. -/
  | clearing
deriving DecidableEq, Repr

/-- Where the application is: between calls, or in `HttpServerStop` before it
closes the socket it took. -/
inductive AppStage where
  | idle
  | closing (socket : Nat)
deriving DecidableEq, Repr

/-- A call and what it returned. -/
inductive Call where
  | start (result : Bool)
  | stop
deriving DecidableEq, Repr

structure Lifecycle where
  /-- `serverTask` is not null. -/
  serverTask : Bool
  /-- `serverSocket`, when it is not negative. -/
  serverSocket : Option Nat
  task : TaskStage
  app : AppStage
  /-- The sockets that are bound, listening and not closed. -/
  listeners : List Nat
  /-- The number of the next socket. -/
  nextSocket : Nat
  lastCall : Option Call
deriving DecidableEq, Repr

/-- The static storage before any call. -/
def Lifecycle.initial : Lifecycle where
  serverTask := false
  serverSocket := none
  task := .ended
  app := .idle
  listeners := []
  nextSocket := 0
  lastCall := none

/-- The steps of the application and of the task. -/
inductive Action where
  | start
  | stop
  | close
  | create
  | store
  | check
  | test
  | call
  /-- `accept` returns a client. -/
  | connect
  /-- `accept` fails, because its descriptor is not open. -/
  | reject
  | serve
  | examine
  | leave
  | clear
deriving DecidableEq, Repr

/-- `HttpServerStart`, with an `xTaskCreate` that succeeds. -/
def httpServerStart (state : Lifecycle) : Option Lifecycle :=
  match state.app with
  | .closing _ => none
  | .idle =>
      if state.serverTask then some { state with lastCall := some (.start true) }
      else
        some { state with
          serverTask := true
          task := .begun
          lastCall := some (.start true) }

/-- `HttpServerStop` up to its `closesocket`, or all of it when there is no
socket. -/
def httpServerStop (state : Lifecycle) : Option Lifecycle :=
  match state.app with
  | .closing _ => none
  | .idle =>
      match state.serverSocket with
      | none => some { state with lastCall := some .stop }
      | some socket =>
          some { state with
            serverSocket := none
            app := .closing socket
            lastCall := some .stop }

/-- The `closesocket` of `HttpServerStop`. -/
def closeTaken (state : Lifecycle) : Option Lifecycle :=
  match state.app with
  | .idle => none
  | .closing socket =>
      some { state with
        app := .idle
        listeners := state.listeners.erase socket }

/-- `HttpServerTask`, one access to the shared variables at a time. -/
def httpServerTask (state : Lifecycle) (action : Action) : Option Lifecycle :=
  match state.task, action with
  | .begun, .create =>
      some { state with
        task := .created state.nextSocket
        listeners := state.nextSocket :: state.listeners
        nextSocket := state.nextSocket + 1 }
  | .created socket, .store => some { state with serverSocket := some socket, task := .stored }
  | .stored, .check =>
      match state.serverSocket with
      | none => some { state with serverTask := false, task := .ended }
      | some _ => some { state with task := .testing }
  | .testing, .test =>
      match state.serverSocket with
      | none => some { state with task := .leaving }
      | some _ => some { state with task := .calling }
  | .calling, .call => some { state with task := .accepting state.serverSocket }
  | .accepting (some socket), .connect =>
      if socket ∈ state.listeners then some { state with task := .serving } else none
  | .accepting none, .reject => some { state with task := .failed }
  | .accepting (some socket), .reject =>
      if socket ∈ state.listeners then none else some { state with task := .failed }
  | .serving, .serve => some { state with task := .testing }
  | .failed, .examine =>
      match state.serverSocket with
      | none => some { state with task := .leaving }
      | some _ => some { state with task := .testing }
  | .leaving, .leave =>
      match state.serverSocket with
      | none => some { state with task := .clearing }
      | some socket =>
          some { state with
            serverSocket := none
            task := .clearing
            listeners := state.listeners.erase socket }
  | .clearing, .clear => some { state with serverTask := false, task := .ended }
  | _, _ => none

/-- One step of either party. -/
def step (state : Lifecycle) (action : Action) : Option Lifecycle :=
  match action with
  | .start => httpServerStart state
  | .stop => httpServerStop state
  | .close => closeTaken state
  | _ => httpServerTask state action

/-! ## What should hold -/

namespace Lifecycle

/-- A socket accepts connections to the port. -/
def Listening (state : Lifecycle) : Prop :=
  state.listeners ≠ []

/-- No call is in progress, and the task has ended or waits in `accept`. -/
def Quiescent (state : Lifecycle) : Prop :=
  state.app = .idle ∧
    (state.task = .ended ∨ ∃ socket ∈ state.listeners, state.task = .accepting (some socket))

/-- A server at rest listens exactly when it was last told to. -/
def ObeysLastCall (state : Lifecycle) : Prop :=
  state.Quiescent → (state.Listening ↔ state.lastCall = some (.start true))

instance (state : Lifecycle) : Decidable state.Listening :=
  inferInstanceAs (Decidable (state.listeners ≠ []))

instance (state : Lifecycle) : Decidable state.Quiescent :=
  inferInstanceAs (Decidable (state.app = .idle ∧
    (state.task = .ended ∨ ∃ socket ∈ state.listeners, state.task = .accepting (some socket))))

instance (state : Lifecycle) : Decidable state.ObeysLastCall :=
  inferInstanceAs (Decidable
    (state.Quiescent → (state.Listening ↔ state.lastCall = some (.start true))))

end Lifecycle

/-- The task has no socket in `serverSocket` because it has yet to store it. -/
def TaskStage.IsEarly : TaskStage → Prop
  | .begun => True
  | .created _ => True
  | _ => False

instance : DecidablePred TaskStage.IsEarly := fun stage => by
  cases stage <;> unfold TaskStage.IsEarly <;> infer_instance

/-- A call that the two flags can answer rightly: a stop finds no task that has
yet to store its socket, and a start finds no task that was told to end. -/
def Answerable (state : Lifecycle) : Action → Prop
  | .start => state.serverTask = true → state.serverSocket = none → state.task.IsEarly
  | .stop => ¬ state.task.IsEarly
  | _ => True

instance (state : Lifecycle) (action : Action) : Decidable (Answerable state action) := by
  cases action <;> unfold Answerable <;> infer_instance

/-! ## The invariant -/

namespace Lifecycle

/-- The socket a stop took is closed, or is closed next. -/
def Closed (state : Lifecycle) : Prop :=
  (state.app = .idle ∧ state.listeners = []) ∨
    ∃ socket, state.app = .closing socket ∧ state.listeners = [socket]

/-- The task was told to listen and its socket is stored. -/
structure Running (state : Lifecycle) (socket : Nat) : Prop where
  stored : state.serverSocket = some socket
  idle : state.app = .idle
  listens : state.listeners = [socket]
  told : state.lastCall = some (.start true)

/-- The task was told to listen and its socket is not stored yet. -/
structure Starting (state : Lifecycle) : Prop where
  absent : state.serverSocket = none
  idle : state.app = .idle
  told : state.lastCall = some (.start true)

/-- The task, or nobody, was told to end. -/
structure Stopping (state : Lifecycle) : Prop where
  absent : state.serverSocket = none
  closed : state.Closed
  told : state.lastCall ≠ some (.start true)

/-- What holds of the flags at each stage of the task. -/
def Stage (state : Lifecycle) : TaskStage → Prop
  | .ended => state.Stopping
  | .begun => state.Starting ∧ state.listeners = []
  | .created socket => state.Starting ∧ state.listeners = [socket]
  | .stored | .testing | .calling | .serving | .failed =>
      (∃ socket, state.Running socket) ∨ state.Stopping
  | .accepting descriptor =>
      (∃ socket, descriptor = some socket ∧ state.Running socket) ∨ state.Stopping
  | .leaving | .clearing => state.Stopping

structure Consistent (state : Lifecycle) : Prop where
  exists_task : state.serverTask = true ↔ state.task ≠ .ended
  stage : state.Stage state.task

theorem initial_consistent : initial.Consistent :=
  ⟨by decide, rfl, Or.inl ⟨rfl, rfl⟩, by decide⟩

theorem Running.moved {state : Lifecycle} {socket : Nat} (running : state.Running socket)
    (stage : TaskStage) : { state with task := stage }.Running socket :=
  ⟨running.stored, running.idle, running.listens, running.told⟩

theorem Stopping.moved {state : Lifecycle} (stopping : state.Stopping) (exists_ : Bool)
    (stage : TaskStage) : { state with serverTask := exists_, task := stage }.Stopping :=
  ⟨stopping.absent, stopping.closed, stopping.told⟩

/-- A task that was told to end may be at any stage behind the early ones. -/
theorem Stopping.stage {state : Lifecycle} (stopping : state.Stopping) {stage : TaskStage}
    (late : ¬ stage.IsEarly) : state.Stage stage := by
  cases stage
  case begun => exact absurd trivial late
  case created => exact absurd trivial late
  case ended => exact stopping
  case leaving => exact stopping
  case clearing => exact stopping
  all_goals exact Or.inr stopping

/-- Once its socket is stored, a task was told to listen or to end. -/
theorem Consistent.running_or_stopping {state : Lifecycle} (consistent : state.Consistent)
    (late : ¬ state.task.IsEarly) : (∃ socket, state.Running socket) ∨ state.Stopping := by
  have stage := consistent.stage
  cases task : state.task <;> rw [task] at stage late
  case begun => exact absurd trivial late
  case created => exact absurd trivial late
  case ended => exact Or.inr stage
  case leaving => exact Or.inr stage
  case clearing => exact Or.inr stage
  case accepting =>
      rcases stage with ⟨socket, _, running⟩ | stopping
      · exact Or.inl ⟨socket, running⟩
      · exact Or.inr stopping
  all_goals exact stage

theorem Consistent.obeysLastCall {state : Lifecycle} (consistent : state.Consistent) :
    state.ObeysLastCall := by
  rintro ⟨idle, rest⟩
  have stage := consistent.stage
  have quiet (stopping : state.Stopping) : state.listeners = [] := by
    rcases stopping.closed with ⟨_, none_⟩ | ⟨socket, closing, _⟩
    · exact none_
    · rw [idle] at closing
      cases closing
  rcases rest with ended | ⟨socket, member, waiting⟩
  · rw [ended] at stage
    exact ⟨fun listening => absurd (quiet stage) listening, fun told => absurd told stage.told⟩
  · rw [waiting] at stage
    rcases stage with ⟨other, _, running⟩ | stopping
    · refine ⟨fun _ => running.told, fun _ => ?_⟩
      rw [Listening, running.listens]
      exact List.cons_ne_nil _ _
    · rw [quiet stopping] at member
      cases member

end Lifecycle

/-! ## The steps keep the invariant -/

/-- A start that finds a task finds one that was last told to start. -/
theorem told_of_answerable {state : Lifecycle} (consistent : state.Consistent)
    (answerable : Answerable state .start) (exists_ : state.serverTask = true) :
    state.lastCall = some (.start true) := by
  have stage := consistent.stage
  by_cases early : state.task.IsEarly
  · cases task : state.task <;> rw [task] at early stage
    case begun => exact stage.1.told
    case created => exact stage.1.told
    all_goals exact absurd early not_false
  · rcases consistent.running_or_stopping early with ⟨socket, running⟩ | stopping
    · exact running.told
    · exact absurd (answerable exists_ stopping.absent) early

theorem start_consistent {state next : Lifecycle} (consistent : state.Consistent)
    (answerable : Answerable state .start) (taken : httpServerStart state = some next) :
    next.Consistent := by
  have stage := consistent.stage
  cases app : state.app with
  | closing socket =>
      simp only [httpServerStart, app] at taken
      cases taken
  | idle =>
      simp only [httpServerStart, app] at taken
      split at taken
      · rename_i exists_
        cases taken
        have told := told_of_answerable consistent answerable exists_
        have same : { state with app := .idle, lastCall := some (.start true) } = state := by
          rw [← told, ← app]
        rwa [same]
      · rename_i absent
        cases taken
        have ended : state.task = .ended := by
          by_contra other
          exact absent (consistent.exists_task.mpr other)
        rw [ended] at stage
        refine ⟨by simp, ⟨stage.absent, rfl, rfl⟩, ?_⟩
        rcases stage.closed with ⟨_, none_⟩ | ⟨socket, closing, _⟩
        · exact none_
        · rw [app] at closing
          cases closing

theorem stop_consistent {state next : Lifecycle} (consistent : state.Consistent)
    (answerable : Answerable state .stop) (taken : httpServerStop state = some next) :
    next.Consistent := by
  have known := consistent.running_or_stopping answerable
  cases app : state.app with
  | closing socket =>
      simp only [httpServerStop, app] at taken
      cases taken
  | idle =>
      cases stored : state.serverSocket with
      | none =>
          simp only [httpServerStop, app, stored] at taken
          cases taken
          rcases known with ⟨socket, running⟩ | stopping
          · have found := running.stored
            rw [stored] at found
            cases found
          · refine ⟨consistent.exists_task, Lifecycle.Stopping.stage ?_ answerable⟩
            refine ⟨rfl, ?_, by simp⟩
            rcases stopping.closed with ⟨_, none_⟩ | ⟨socket, closing, _⟩
            · exact Or.inl ⟨rfl, none_⟩
            · rw [app] at closing
              cases closing
      | some socket =>
          simp only [httpServerStop, app, stored] at taken
          cases taken
          rcases known with ⟨other, running⟩ | stopping
          · have found := running.stored
            rw [stored] at found
            cases found
            refine ⟨consistent.exists_task, Lifecycle.Stopping.stage ?_ answerable⟩
            exact ⟨rfl, Or.inr ⟨socket, rfl, running.listens⟩, by simp⟩
          · have found := stopping.absent
            rw [stored] at found
            cases found

theorem close_consistent {state next : Lifecycle} (consistent : state.Consistent)
    (taken : closeTaken state = some next) : next.Consistent := by
  cases app : state.app with
  | idle =>
      simp only [closeTaken, app] at taken
      cases taken
  | closing socket =>
      simp only [closeTaken, app] at taken
      cases taken
      have late : ¬ state.task.IsEarly := by
        intro early
        have stage := consistent.stage
        cases task : state.task <;> rw [task] at early stage
        case begun =>
            have idle := stage.1.idle
            rw [app] at idle
            cases idle
        case created =>
            have idle := stage.1.idle
            rw [app] at idle
            cases idle
        all_goals exact early
      rcases consistent.running_or_stopping late with ⟨other, running⟩ | stopping
      · have idle := running.idle
        rw [app] at idle
        cases idle
      · refine ⟨consistent.exists_task, Lifecycle.Stopping.stage ?_ late⟩
        refine ⟨stopping.absent, Or.inl ⟨rfl, ?_⟩, stopping.told⟩
        rcases stopping.closed with ⟨idle, _⟩ | ⟨other, closing, listens⟩
        · rw [app] at idle
          cases idle
        · rw [app, AppStage.closing.injEq] at closing
          rw [listens, closing, List.erase_cons_head]

theorem stopping_of_absent {state : Lifecycle}
    (known : (∃ socket, state.Running socket) ∨ state.Stopping)
    (absent : state.serverSocket = none) : state.Stopping := by
  rcases known with ⟨socket, running⟩ | stopping
  · have stored := running.stored
    rw [absent] at stored
    cases stored
  · exact stopping

theorem loop_consistent {state : Lifecycle} (exists_ : state.serverTask = true)
    (known : (∃ socket, state.Running socket) ∨ state.Stopping) {stage : TaskStage}
    (inside : stage = .testing ∨ stage = .calling ∨ stage = .serving ∨ stage = .failed) :
    { state with task := stage }.Consistent := by
  have moved : (∃ socket, { state with task := stage }.Running socket) ∨
      { state with task := stage }.Stopping := by
    rcases known with ⟨socket, running⟩ | stopping
    · exact Or.inl ⟨socket, running.moved stage⟩
    · exact Or.inr (stopping.moved state.serverTask stage)
  rcases inside with equal | equal | equal | equal <;> subst equal <;>
    exact ⟨⟨fun _ => by simp, fun _ => exists_⟩, moved⟩

theorem leave_consistent {state : Lifecycle} (exists_ : state.serverTask = true)
    (stopping : state.Stopping) {stage : TaskStage}
    (behind : stage = .leaving ∨ stage = .clearing) :
    { state with task := stage }.Consistent := by
  have moved := stopping.moved state.serverTask stage
  rcases behind with equal | equal <;> subst equal <;>
    exact ⟨⟨fun _ => by simp, fun _ => exists_⟩, moved⟩

/-- A task that was told to end has ended rightly. -/
theorem end_consistent {state : Lifecycle} (stopping : state.Stopping) :
    { state with serverTask := false, task := .ended }.Consistent :=
  ⟨by simp, stopping.moved false .ended⟩

theorem task_consistent {state next : Lifecycle} {action : Action}
    (consistent : state.Consistent) (taken : httpServerTask state action = some next) :
    next.Consistent := by
  have stage := consistent.stage
  have alive (task : state.task ≠ .ended) : state.serverTask = true :=
    consistent.exists_task.mpr task
  have late (task : ¬ state.task.IsEarly) := consistent.running_or_stopping task
  unfold httpServerTask at taken
  split at taken
  case h_1 task =>
      cases taken
      rw [task] at stage
      refine ⟨⟨fun _ => by simp, fun _ => alive (by simp [task])⟩, ?_, ?_⟩
      · exact ⟨stage.1.absent, stage.1.idle, stage.1.told⟩
      · exact congrArg (state.nextSocket :: ·) stage.2
  case h_2 socket task =>
      cases taken
      rw [task] at stage
      refine ⟨⟨fun _ => by simp, fun _ => alive (by simp [task])⟩, ?_⟩
      exact Or.inl ⟨socket, rfl, stage.1.idle, stage.2, stage.1.told⟩
  case h_3 task =>
      have known := late (by simp [task, TaskStage.IsEarly])
      split at taken
      · rename_i absent
        cases taken
        exact end_consistent (stopping_of_absent known absent)
      · cases taken
        exact loop_consistent (alive (by simp [task])) known (Or.inl rfl)
  case h_4 task =>
      have known := late (by simp [task, TaskStage.IsEarly])
      split at taken
      · rename_i absent
        cases taken
        exact leave_consistent (alive (by simp [task])) (stopping_of_absent known absent)
          (Or.inl rfl)
      · cases taken
        exact loop_consistent (alive (by simp [task])) known (Or.inr (Or.inl rfl))
  case h_5 task =>
      cases taken
      rcases late (by simp [task, TaskStage.IsEarly]) with ⟨socket, running⟩ | stopping
      · exact ⟨⟨fun _ => by simp, fun _ => alive (by simp [task])⟩,
          Or.inl ⟨socket, running.stored, running.moved _⟩⟩
      · exact ⟨⟨fun _ => by simp, fun _ => alive (by simp [task])⟩,
          Or.inr (stopping.moved state.serverTask _)⟩
  case h_6 socket task =>
      have known := late (by simp [task, TaskStage.IsEarly])
      split at taken
      · cases taken
        exact loop_consistent (alive (by simp [task])) known (Or.inr (Or.inr (Or.inl rfl)))
      · cases taken
  case h_7 task =>
      cases taken
      exact loop_consistent (alive (by simp [task])) (late (by simp [task, TaskStage.IsEarly]))
        (Or.inr (Or.inr (Or.inr rfl)))
  case h_8 socket task =>
      have known := late (by simp [task, TaskStage.IsEarly])
      split at taken
      · cases taken
      · cases taken
        exact loop_consistent (alive (by simp [task])) known (Or.inr (Or.inr (Or.inr rfl)))
  case h_9 task =>
      cases taken
      exact loop_consistent (alive (by simp [task])) (late (by simp [task, TaskStage.IsEarly]))
        (Or.inl rfl)
  case h_10 task =>
      have known := late (by simp [task, TaskStage.IsEarly])
      split at taken
      · rename_i absent
        cases taken
        exact leave_consistent (alive (by simp [task])) (stopping_of_absent known absent)
          (Or.inl rfl)
      · cases taken
        exact loop_consistent (alive (by simp [task])) known (Or.inl rfl)
  case h_11 task =>
      rw [task] at stage
      split at taken
      · cases taken
        exact leave_consistent (alive (by simp [task])) stage (Or.inr rfl)
      · rename_i socket stored
        have absent := stage.absent
        rw [stored] at absent
        cases absent
  case h_12 task =>
      cases taken
      rw [task] at stage
      exact end_consistent stage
  case h_13 => cases taken

theorem step_consistent {state next : Lifecycle} {action : Action}
    (consistent : state.Consistent) (answerable : Answerable state action)
    (taken : step state action = some next) : next.Consistent := by
  cases action
  case start => exact start_consistent consistent answerable taken
  case stop => exact stop_consistent consistent answerable taken
  case close => exact close_consistent consistent taken
  all_goals exact task_consistent consistent taken

/-- In a run whose calls can all be answered rightly, a server at rest obeys
its last call in every state. -/
theorem obeysLastCall_of_guarded {actions : List Action} {state : Lifecycle}
    (guarded : Transition.Guarded step Answerable .initial actions)
    (reached : Transition.run step .initial actions = some state) : state.ObeysLastCall := by
  have consistent : state.Consistent :=
    Transition.invariant_run (fun _ _ _ => step_consistent) Lifecycle.initial_consistent guarded
      reached
  exact consistent.obeysLastCall

/-- A server that served a client, was stopped, and was started again when its
task had ended. -/
def servedAndRestarted : List Action :=
  [.start, .create, .store, .check, .test, .call, .connect, .serve, .test, .call, .stop, .close,
    .reject, .examine, .leave, .clear, .start, .create, .store, .check, .test, .call]

theorem obeysLastCall_restarted :
    Lifecycle.ObeysLastCall
      { serverTask := true
        serverSocket := some 1
        task := .accepting (some 1)
        app := .idle
        listeners := [1]
        nextSocket := 2
        lastCall := some (.start true) } :=
  @obeysLastCall_of_guarded servedAndRestarted _ (by decide) (by decide)

/-! ## Calls that are lost -/

/-- A stop before the socket is stored, and a start before the stopped task has
ended. -/
def earlyStop : List Action :=
  [.start, .stop, .create, .store, .check, .test, .call]

def earlyStart : List Action :=
  [.start, .create, .store, .check, .test, .call, .stop, .close, .start, .reject, .examine,
    .leave, .clear]

/-- After the early stop the server listens, and after the early start, which
returned true, it does not. -/
theorem calls_are_lost :
    (∃ state, Transition.run step .initial earlyStop = some state ∧ ¬ state.ObeysLastCall) ∧
      ∃ state, Transition.run step .initial earlyStart = some state ∧ ¬ state.ObeysLastCall := by
  constructor
  · exact ⟨_, rfl, by decide⟩
  · exact ⟨_, rfl, by decide⟩

/-- The task runs to rest on its own and leaves a state that disobeys. -/
def LosesCall (state : Lifecycle) : Prop :=
  ∃ (actions : List Action) (final : Lifecycle),
    (∀ action ∈ actions, action ≠ .start ∧ action ≠ .stop) ∧
      Transition.run step state actions = some final ∧ ¬ final.ObeysLastCall

/-- A state at rest that was told otherwise. -/
theorem losesCall_of_ends {state : Lifecycle} (absent : state.serverSocket = none)
    (idle : state.app = .idle) (closed : state.listeners = [])
    (told : state.lastCall = some (.start true)) (late : ¬ state.task.IsEarly) :
    LosesCall state := by
  have disobeys {final : Lifecycle} (ended : final.task = .ended) (idle : final.app = .idle)
      (closed : final.listeners = []) (told : final.lastCall = some (.start true)) :
      ¬ final.ObeysLastCall := by
    intro obeys
    exact (obeys ⟨idle, Or.inl ended⟩).mpr told closed
  rcases state with ⟨serverTask, serverSocket, task, app, listeners, nextSocket, lastCall⟩
  subst absent idle closed told
  cases task
  case begun => exact absurd trivial late
  case created => exact absurd trivial late
  case ended => exact ⟨[], _, by decide, rfl, disobeys rfl rfl rfl rfl⟩
  case stored => exact ⟨[.check], _, by decide, rfl, disobeys rfl rfl rfl rfl⟩
  case testing => exact ⟨[.test, .leave, .clear], _, by decide, rfl, disobeys rfl rfl rfl rfl⟩
  case calling =>
      exact ⟨[.call, .reject, .examine, .leave, .clear], _, by decide, rfl,
        disobeys rfl rfl rfl rfl⟩
  case accepting descriptor =>
      cases descriptor <;> exact ⟨[.reject, .examine, .leave, .clear], _, by decide, rfl,
        disobeys rfl rfl rfl rfl⟩
  case serving =>
      exact ⟨[.serve, .test, .leave, .clear], _, by decide, rfl, disobeys rfl rfl rfl rfl⟩
  case failed => exact ⟨[.examine, .leave, .clear], _, by decide, rfl, disobeys rfl rfl rfl rfl⟩
  case leaving => exact ⟨[.leave, .clear], _, by decide, rfl, disobeys rfl rfl rfl rfl⟩
  case clearing => exact ⟨[.clear], _, by decide, rfl, disobeys rfl rfl rfl rfl⟩

/-- A stopped state whose task has yet to store its socket goes on to listen. -/
theorem losesCall_of_listens {state : Lifecycle} (idle : state.app = .idle)
    (told : state.lastCall = some .stop)
    (early : state.task = .begun ∨ ∃ socket ∈ state.listeners, state.task = .created socket) :
    LosesCall state := by
  have disobeys {final : Lifecycle} {socket : Nat} (waits : final.task = .accepting (some socket))
      (idle : final.app = .idle) (listens : socket ∈ final.listeners)
      (told : final.lastCall = some .stop) : ¬ final.ObeysLastCall := by
    intro obeys
    have last := (obeys ⟨idle, Or.inr ⟨socket, listens, waits⟩⟩).mp (List.ne_nil_of_mem listens)
    rw [told] at last
    cases last
  rcases state with ⟨serverTask, serverSocket, task, app, listeners, nextSocket, lastCall⟩
  subst idle told
  rcases early with begun | ⟨socket, member, created⟩
  · subst begun
    exact ⟨[.create, .store, .check, .test, .call], _, by decide, rfl,
      disobeys rfl rfl List.mem_cons_self rfl⟩
  · subst created
    exact ⟨[.store, .check, .test, .call], _, by decide, rfl, disobeys rfl rfl member rfl⟩

/-- The guard is exact.  From a state that guarded calls can reach, any other
call is lost when the task is left to itself. -/
theorem losesCall_of_not_answerable {state next : Lifecycle} {action : Action}
    (consistent : state.Consistent) (unanswerable : ¬ Answerable state action)
    (taken : step state action = some next) : LosesCall next := by
  have stage := consistent.stage
  cases action
  case start =>
      change ¬ (state.serverTask = true → state.serverSocket = none → state.task.IsEarly)
        at unanswerable
      rw [Classical.not_imp, Classical.not_imp] at unanswerable
      rcases unanswerable with ⟨exists_, absent, late⟩
      have stopping := stopping_of_absent (consistent.running_or_stopping late) absent
      change httpServerStart state = some next at taken
      cases app : state.app with
      | closing socket =>
          simp only [httpServerStart, app] at taken
          cases taken
      | idle =>
          simp only [httpServerStart, app, exists_, if_true] at taken
          cases taken
          rcases stopping.closed with ⟨_, closed⟩ | ⟨socket, closing, _⟩
          · exact losesCall_of_ends absent rfl closed rfl late
          · rw [app] at closing
            cases closing
  case stop =>
      change ¬ ¬ state.task.IsEarly at unanswerable
      have early := not_not.mp unanswerable
      change httpServerStop state = some next at taken
      have starting : state.Starting ∧
          (state.task = .begun ∨ ∃ socket ∈ state.listeners, state.task = .created socket) := by
        cases task : state.task <;> rw [task] at early stage
        case begun => exact ⟨stage.1, Or.inl rfl⟩
        case created socket =>
            refine ⟨stage.1, Or.inr ⟨socket, ?_, rfl⟩⟩
            rw [stage.2]
            exact List.mem_cons_self
        all_goals exact absurd early not_false
      simp only [httpServerStop, starting.1.idle, starting.1.absent] at taken
      cases taken
      exact losesCall_of_listens rfl rfl starting.2
  all_goals exact absurd trivial unanswerable

end RP2040
end Server
end NetLL
