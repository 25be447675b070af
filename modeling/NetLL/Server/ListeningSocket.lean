import NetLL.Server.Lifecycle

namespace NetLL
namespace Server
namespace RP2040

/-!
# Who closes the listening socket

The task makes the listening socket, `serverSocket` keeps it, and
`HttpServerStop` takes it out and closes it.  Between these accesses the socket
has one owner at a time, whatever the order of the steps, also where a start or
a stop is lost.  So it is closed once, and no other one is open beside it.

A stop that finds the socket is not lost on the task either: the task ends a few
of its own steps later.
-/

namespace TaskStage

/-- The socket that the task has made and not stored. -/
def socket : TaskStage → Option Nat
  | .created socket => some socket
  | _ => none

/-- The stages behind the loop. -/
def IsOver : TaskStage → Prop
  | .ended | .leaving | .clearing => True
  | _ => False

end TaskStage

/-- The socket that `HttpServerStop` has taken and not closed. -/
def AppStage.socket : AppStage → Option Nat
  | .idle => none
  | .closing socket => some socket

namespace Lifecycle

/-- The sockets that someone will close. -/
def owned (state : Lifecycle) : List Nat :=
  state.task.socket.toList ++ state.serverSocket.toList ++ state.app.socket.toList

/-- The open sockets are the ones that someone will close, and there is one at
most. -/
def Accounted (state : Lifecycle) : Prop :=
  state.listeners = state.owned ∧ state.owned.length ≤ 1

/-- One owner at a time. -/
structure Single (state : Lifecycle) : Prop where
  exists_task : state.serverTask = true ↔ state.task ≠ .ended
  listeners : state.listeners = state.owned
  early : state.task.IsEarly → state.serverSocket = none ∧ state.app = .idle
  stored : state.serverSocket ≠ none → state.app = .idle
  finished : state.task.IsOver → state.serverSocket = none

theorem initial_single : initial.Single where
  exists_task := by decide
  listeners := rfl
  early := fun impossible => impossible.elim
  stored := fun _ => rfl
  finished := fun _ => rfl

/-- Before it is stored the socket is the task's alone, and later the task has
none. -/
theorem Single.accounted {state : Lifecycle} (single : state.Single) : state.Accounted := by
  refine ⟨single.listeners, ?_⟩
  have early := single.early
  have stored := single.stored
  rw [owned, List.length_append, List.length_append]
  have short (owner : Option Nat) : owner.toList.length ≤ 1 := by
    cases owner <;> simp
  cases made : state.task.socket with
  | some socket =>
      have begun : state.task.IsEarly := by
        cases task : state.task <;> rw [task] at made <;> trivial
      rw [(early begun).1, (early begun).2]
      exact Nat.le_refl 1
  | none =>
      cases kept : state.serverSocket with
      | some socket =>
          rw [stored (by rw [kept]; exact Option.some_ne_none _)]
          exact Nat.le_refl 1
      | none =>
          rw [Option.toList_none, List.length_nil, Nat.zero_add]
          exact short _

/-- Later, what was stored is in `serverSocket` or was taken out of it. -/
theorem owned_of_late {state : Lifecycle} (late : ¬ state.task.IsEarly) :
    state.owned = state.serverSocket.toList ++ state.app.socket.toList := by
  have none_ : state.task.socket = none := by
    cases task : state.task with
    | created socket =>
        rw [task] at late
        exact absurd trivial late
    | _ => rfl
  rw [owned, none_]
  rfl

/-! ## One step -/

theorem start_single {state next : Lifecycle} (single : state.Single)
    (taken : httpServerStart state = some next) : next.Single := by
  cases app : state.app with
  | closing socket =>
      simp only [httpServerStart, app] at taken
      cases taken
  | idle =>
      simp only [httpServerStart, app] at taken
      split at taken
      · cases taken
        exact {
          single with
          listeners := by
            have same := single.listeners
            rw [owned, app] at same
            exact same
          early := fun early => ⟨(single.early early).1, rfl⟩
          stored := fun _ => rfl }
      · rename_i absent
        cases taken
        have ended : state.task = .ended := by
          by_contra other
          exact absent (single.exists_task.mpr other)
        have none_ := single.finished (by rw [ended]; trivial)
        refine ⟨by simp, ?_, fun _ => ⟨none_, rfl⟩, fun _ => rfl, fun _ => none_⟩
        have same := single.listeners
        rw [owned, ended, app] at same
        exact same

theorem stop_single {state next : Lifecycle} (single : state.Single)
    (taken : httpServerStop state = some next) : next.Single := by
  cases app : state.app with
  | closing socket =>
      simp only [httpServerStop, app] at taken
      cases taken
  | idle =>
      cases kept : state.serverSocket with
      | none =>
          simp only [httpServerStop, app, kept] at taken
          cases taken
          exact {
            single with
            listeners := by
              have same := single.listeners
              rw [owned, app, kept] at same
              exact same
            early := fun _ => ⟨rfl, rfl⟩
            stored := fun _ => rfl
            finished := fun _ => rfl }
      | some socket =>
          simp only [httpServerStop, app, kept] at taken
          cases taken
          have late : ¬ state.task.IsEarly := by
            intro early
            cases kept.symm.trans (single.early early).1
          refine {
            single with
            listeners := ?_
            early := fun early => absurd early late
            stored := fun absent => absurd rfl absent
            finished := fun _ => rfl }
          have same := single.listeners
          rw [owned_of_late late, kept, app] at same
          rw [owned_of_late]
          · exact same
          · exact late

theorem close_single {state next : Lifecycle} (single : state.Single)
    (taken : closeTaken state = some next) : next.Single := by
  cases app : state.app with
  | idle =>
      simp only [closeTaken, app] at taken
      cases taken
  | closing socket =>
      simp only [closeTaken, app] at taken
      cases taken
      have nothing : state.serverSocket = none := by
        by_contra kept
        cases app.symm.trans (single.stored kept)
      have late : ¬ state.task.IsEarly := by
        intro early
        cases app.symm.trans (single.early early).2
      refine {
        single with
        listeners := ?_
        early := fun early => absurd early late
        stored := fun _ => rfl }
      have same := single.listeners
      rw [owned_of_late late, nothing, app] at same
      rw [owned_of_late]
      · rw [same, nothing]
        exact List.erase_cons_head socket []
      · exact late

theorem Single.moved {state : Lifecycle} (single : state.Single) (late : ¬ state.task.IsEarly)
    {exists_ : Bool} {stage : TaskStage} (flag : exists_ = true ↔ stage ≠ .ended)
    (later : ¬ stage.IsEarly) (finished : stage.IsOver → state.serverSocket = none) :
    { state with serverTask := exists_, task := stage }.Single where
  exists_task := flag
  listeners := by
    have same := single.listeners
    rw [owned_of_late late] at same
    rw [owned_of_late]
    · exact same
    · exact later
  early := fun early => absurd early later
  stored := single.stored
  finished := finished

theorem Single.inside {state : Lifecycle} (single : state.Single) {before stage : TaskStage}
    (task : state.task = before) (late : ¬ before.IsEarly) (exists_ : before ≠ .ended)
    (later : ¬ stage.IsEarly) (within : ¬ stage.IsOver) :
    { state with task := stage }.Single := by
  rw [← task] at late exists_
  refine single.moved late ⟨?_, fun _ => single.exists_task.mpr exists_⟩ later fun finished =>
    absurd finished within
  rintro _ rfl
  exact within trivial

theorem task_single {state next : Lifecycle} {action : Action} (single : state.Single)
    (taken : httpServerTask state action = some next) : next.Single := by
  have same := single.listeners
  have alive : state.task ≠ .ended → state.serverTask = true := single.exists_task.mpr
  have late {stage : TaskStage} (task : state.task = stage) (behind : ¬ stage.IsEarly) :
      ¬ state.task.IsEarly := by
    rwa [task]
  unfold httpServerTask at taken
  split at taken
  case h_1 task =>
      cases taken
      rcases single.early (by rw [task]; trivial) with ⟨absent, idle⟩
      rw [owned, task, absent, idle] at same
      refine ⟨by simpa [task] using alive, ?_, fun _ => ⟨absent, idle⟩, fun _ => idle, ?_⟩
      · rw [owned, absent, idle, same]
        rfl
      · rintro ⟨⟩
  case h_2 socket task =>
      cases taken
      rcases single.early (by rw [task]; trivial) with ⟨absent, idle⟩
      rw [owned, task, absent, idle] at same
      refine ⟨by simpa [task] using alive, ?_, ?_, fun _ => idle, ?_⟩
      · rw [owned, idle, same]
        rfl
      · rintro ⟨⟩
      · rintro ⟨⟩
  case h_3 task =>
      split at taken
      · rename_i absent
        cases taken
        exact single.moved (late task not_false) (by simp) not_false fun _ => absent
      · cases taken
        exact single.inside task not_false TaskStage.noConfusion not_false not_false
  case h_4 task =>
      split at taken
      · rename_i absent
        cases taken
        exact single.moved (late task not_false) (by simpa [task] using alive) not_false
          fun _ => absent
      · cases taken
        exact single.inside task not_false TaskStage.noConfusion not_false not_false
  case h_5 task =>
      cases taken
      exact single.inside task not_false TaskStage.noConfusion not_false not_false
  case h_6 socket task =>
      split at taken
      · cases taken
        exact single.inside task not_false TaskStage.noConfusion not_false not_false
      · cases taken
  case h_7 task =>
      cases taken
      exact single.inside task not_false TaskStage.noConfusion not_false not_false
  case h_8 socket task =>
      split at taken
      · cases taken
      · cases taken
        exact single.inside task not_false TaskStage.noConfusion not_false not_false
  case h_9 task =>
      cases taken
      exact single.inside task not_false TaskStage.noConfusion not_false not_false
  case h_10 task =>
      split at taken
      · rename_i absent
        cases taken
        exact single.moved (late task not_false) (by simpa [task] using alive) not_false
          fun _ => absent
      · cases taken
        exact single.inside task not_false TaskStage.noConfusion not_false not_false
  case h_11 task =>
      have absent := single.finished (by rw [task]; trivial)
      split at taken
      · cases taken
        exact single.moved (late task not_false) (by simpa [task] using alive) not_false
          fun _ => absent
      · rename_i kept
        cases kept.symm.trans absent
  case h_12 task =>
      have absent := single.finished (by rw [task]; trivial)
      cases taken
      exact single.moved (late task not_false) (by simp) not_false fun _ => absent
  case h_13 => cases taken

theorem step_single {state next : Lifecycle} {action : Action} (single : state.Single)
    (taken : step state action = some next) : next.Single := by
  cases action with
  | start => exact start_single single taken
  | stop => exact stop_single single taken
  | close => exact close_single single taken
  | _ => exact task_single single taken

/-- In every state of every run the open listening sockets are exactly those
that the task, `serverSocket` or a stop on its way will close, and there is at
most one. -/
theorem always_accounted (actions : List Action) :
    Transition.Always step Accounted .initial actions :=
  Transition.always_of_preserved (fun _ single => single.accounted)
    (fun _ _ _ single taken => step_single single taken) initial_single

/-! ## The end of a task -/

end Lifecycle

/-- The steps that are left to a task that finds no socket. -/
def TaskStage.remaining : TaskStage → Nat
  | .begun | .created _ | .ended => 0
  | .stored | .clearing => 1
  | .leaving => 2
  | .testing | .failed => 3
  | .serving => 4
  | .accepting _ => 5
  | .calling => 6

theorem TaskStage.remaining_le (stage : TaskStage) : stage.remaining ≤ 6 := by
  cases stage <;> simp [remaining]

/-- A step of the task. -/
def Action.isOwn : Action → Bool
  | .start | .stop | .close => false
  | _ => true

namespace Lifecycle

/-- The task has stored its socket, and it is taken away from it. -/
structure Ending (state : Lifecycle) : Prop where
  single : state.Single
  absent : state.serverSocket = none
  late : ¬ state.task.IsEarly

/-- Without a socket, every step of the task leads to its end. -/
theorem task_descends {state next : Lifecycle} {action : Action}
    (absent : state.serverSocket = none) (late : ¬ state.task.IsEarly)
    (taken : httpServerTask state action = some next) :
    next.serverSocket = none ∧ ¬ next.task.IsEarly ∧
      next.task.remaining < state.task.remaining := by
  unfold httpServerTask at taken
  split at taken
  case h_1 task =>
      rw [task] at late
      exact absurd trivial late
  case h_2 task =>
      rw [task] at late
      exact absurd trivial late
  case h_13 => cases taken
  all_goals
    rename_i task
    rw [task]
    simp only [absent] at taken
    try split at taken
    all_goals cases taken
    all_goals exact ⟨rfl, not_false, by simp [TaskStage.remaining]⟩

/-- Nobody stores another socket, and the task comes nearer to its end. -/
theorem Ending.descends {state next : Lifecycle} {action : Action} (ending : state.Ending)
    (going : 0 < state.task.remaining) (taken : step state action = some next) :
    next.Ending ∧ next.task.remaining ≤ state.task.remaining ∧
      (action.isOwn = true → next.task.remaining < state.task.remaining) := by
  have single := step_single ending.single taken
  have absent := ending.absent
  have late := ending.late
  have alive : state.task ≠ .ended := by
    intro ended
    rw [ended] at going
    exact absurd going (Nat.lt_irrefl 0)
  have exists_ := ending.single.exists_task.mpr alive
  cases action with
  | start =>
      cases app : state.app with
      | closing socket =>
          simp only [step, httpServerStart, app] at taken
          cases taken
      | idle =>
          simp only [step, httpServerStart, app, exists_, if_true] at taken
          cases taken
          exact ⟨⟨single, absent, late⟩, Nat.le_refl _, Bool.noConfusion⟩
  | stop =>
      cases app : state.app with
      | closing socket =>
          simp only [step, httpServerStop, app] at taken
          cases taken
      | idle =>
          simp only [step, httpServerStop, app, absent] at taken
          cases taken
          exact ⟨⟨single, rfl, late⟩, Nat.le_refl _, Bool.noConfusion⟩
  | close =>
      cases app : state.app with
      | idle =>
          simp only [step, closeTaken, app] at taken
          cases taken
      | closing socket =>
          simp only [step, closeTaken, app] at taken
          cases taken
          exact ⟨⟨single, absent, late⟩, Nat.le_refl _, Bool.noConfusion⟩
  | _ =>
      rcases task_descends absent late taken with ⟨none_, behind, lower⟩
      exact ⟨⟨single, none_, behind⟩, Nat.le_of_lt lower, fun _ => lower⟩

/-- Behind `closesocket` nothing listens. -/
theorem Ending.listeners_eq_nil {state : Lifecycle} (ending : state.Ending)
    (idle : state.app = .idle) : state.listeners = [] := by
  rw [ending.single.listeners, owned_of_late ending.late, ending.absent, idle]
  rfl

theorem Ending.ended_iff {state : Lifecycle} (ending : state.Ending) :
    state.task.remaining = 0 ↔ state.task = .ended := by
  have late := ending.late
  cases task : state.task with
  | begun =>
      rw [task] at late
      exact absurd trivial late
  | created socket =>
      rw [task] at late
      exact absurd trivial late
  | _ => simp [TaskStage.remaining]

/-- When a stop has taken the stored socket, the task ends within six of its own
steps, whatever the application calls meanwhile, and before it has ended nothing
listens behind `closesocket`.  A service is one step, however long it takes. -/
theorem task_ends {actions more : List Action} {state final : Lifecycle}
    (reached : Transition.run step .initial actions = some state)
    (absent : state.serverSocket = none) (late : ¬ state.task.IsEarly)
    (run : Transition.run step state more = some final) :
    (∃ front middle, front <+: more ∧ Transition.run step state front = some middle ∧
        middle.task = .ended) ∨
      more.countP Action.isOwn < 6 ∧ (final.app = .idle → final.listeners = []) := by
  have single : state.Single :=
    Transition.invariant_reached (fun _ _ _ => step_single) initial_single reached
  have ending : state.Ending := ⟨single, absent, late⟩
  rcases @Transition.passes_zero Lifecycle Action step (fun state => state.task.remaining) Ending
      Action.isOwn (fun _ _ _ => Ending.descends) _ _ _ ending run with
    ⟨front, middle, within, led, there, zero⟩ | ⟨there, going, left_⟩
  · exact Or.inl ⟨front, middle, within, led, there.ended_iff.mp zero⟩
  · refine Or.inr ⟨?_, there.listeners_eq_nil⟩
    exact Nat.lt_of_lt_of_le (Nat.lt_add_of_pos_left going)
      (Nat.le_trans left_ state.task.remaining_le)

/-- A stop while the task waits in `accept`. -/
def stopped : List Action :=
  [.start, .create, .store, .check, .test, .call, .stop]

/-- The task on its way out, which a start does not keep. -/
def leavingTask : List Action :=
  [.close, .start, .reject, .examine, .leave]

theorem task_ends_started : ∃ state final,
    Transition.run step .initial stopped = some state ∧
      Transition.run step state leavingTask = some final ∧
      ((∃ front middle, front <+: leavingTask ∧
          Transition.run step state front = some middle ∧ middle.task = .ended) ∨
        leavingTask.countP Action.isOwn < 6 ∧ (final.app = .idle → final.listeners = [])) :=
  ⟨_, _, rfl, rfl, @task_ends stopped leavingTask _ _ rfl rfl not_false rfl⟩

end Lifecycle

end RP2040
end Server
end NetLL
