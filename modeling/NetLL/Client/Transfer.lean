import NetLL.Library.Transition
import NetLL.Client.Url

namespace NetLL
namespace Client
namespace RP2040

/-!
# A download and its callbacks

`HttpDownloadFile` hands the address of its local `DownloadState` to lwIP and
polls until `TransferFinished` has set `done` or the deadline has passed.  lwIP
runs the callbacks inside a poll, and it keeps the address until the transfer
is over: nothing in the function takes it back.  One call is followed here,
with all its polls and with those that come after it.
-/

/-- `DOWNLOAD_TIMEOUT_MS` and `DOWNLOAD_POLL_MS`, in microseconds. -/
def downloadTimeout : Nat := 30000 * 1000

def downloadPoll : Nat := 10 * 1000

/-- Where the call is. -/
inductive Stage where
  | entered
  /-- The URL is parsed, and the file is opened next. -/
  | opening (target : HttpUrl)
  /-- The file is open, and the transfer is started next. -/
  | starting (target : HttpUrl)
  /-- At the condition of the loop in `WaitForTransfer`. -/
  | testing (deadline : Nat)
  /-- In `cyw43_arch_poll`. -/
  | polling (deadline : Nat)
  | sleeping (deadline : Nat)
  /-- Before `CloseFile`. -/
  | closing (success : Bool)
  | returned (success : Bool)
deriving DecidableEq

/-- What happens to the file and to the state of the call, in order. -/
inductive Event where
  | createdDirectories (filePath : CString)
  | opened
  | requested (target : HttpUrl)
  | bodyReceived
  | wrote (bytes : List UInt8)
  | transferFinished
  | closed
  | returned (success : Bool)
deriving DecidableEq

/-- `DownloadState` without its file. -/
structure DownloadState where
  fileOpened : Bool
  done : Bool
  success : Bool
deriving DecidableEq, Repr

structure Transfer where
  url : Option CString
  filePath : Option CString
  stage : Stage
  clock : Nat
  state : DownloadState
  /-- lwIP has the address of the state and has not called `TransferFinished`. -/
  transferring : Bool
  log : List Event
deriving DecidableEq

/-- Before a call with these arguments. -/
def Transfer.initial (url filePath : Option CString) (clock : Nat) : Transfer where
  url := url
  filePath := filePath
  stage := .entered
  clock := clock
  state := { fileOpened := false, done := false, success := false }
  transferring := false
  log := []

/-- `httpc_result_t`, as far as `TransferFinished` looks at it. -/
inductive HttpcResult where
  | ok
  | failed
deriving DecidableEq, Repr

/-- `err_t`, as far as the callbacks look at it. -/
inductive Err where
  | ok
  | failed
deriving DecidableEq, Repr

/-- The steps of the call, of lwIP and of the clock. -/
inductive Action where
  | parse
  /-- `OpenFile` and its result. -/
  | open (opens : Bool)
  /-- `httpc_get_file_dns` and its result. -/
  | start (error : Err)
  | check
  /-- lwIP delivers a chain of buffers, or a null pointer. -/
  | bodyReceived (buffer : Option (List (List UInt8))) (error : Err)
  | transferFinished (result : HttpcResult) (serverStatus : UInt32) (error : Err)
  /-- The poll is over. -/
  | endPoll
  /-- The sleep is over, this much later than it was asked for. -/
  | wake (late : Nat)
  | advance (time : Nat)
  | close
deriving DecidableEq

/-- Some events and the return of the call. -/
def Transfer.leave (transfer : Transfer) (success : Bool) (events : List Event) : Transfer :=
  { transfer with
    stage := .returned success
    log := transfer.log ++ events ++ [.returned success] }

/-- `HttpDownloadFile` with `WaitForTransfer`, one step at a time. -/
def httpDownloadFile (transfer : Transfer) (action : Action) : Option Transfer :=
  match transfer.stage, action with
  | .entered, .parse =>
      match transfer.url, transfer.filePath with
      | some url, some filePath =>
          match parseHttpUrl url with
          | none => some (transfer.leave false [])
          | some target =>
              some { transfer with
                stage := .opening target
                log := transfer.log ++ [.createdDirectories filePath] }
      | _, _ => some (transfer.leave false [])
  | .opening target, .open opens =>
      if opens then
        some { transfer with
          stage := .starting target
          state := { transfer.state with fileOpened := true }
          log := transfer.log ++ [.opened] }
      else some (transfer.leave false [])
  | .starting target, .start .ok =>
      some { transfer with
        stage := .testing (transfer.clock + downloadTimeout)
        transferring := true
        log := transfer.log ++ [.requested target] }
  | .starting _, .start .failed => some { transfer with stage := .closing false }
  | .testing deadline, .check =>
      if transfer.state.done then
        some { transfer with stage := .closing transfer.state.success }
      else if deadline ≤ transfer.clock then some { transfer with stage := .closing false }
      else some { transfer with stage := .polling deadline }
  | .polling deadline, .endPoll => some { transfer with stage := .sleeping deadline }
  | .sleeping deadline, .wake late =>
      some { transfer with
        stage := .testing deadline
        clock := transfer.clock + downloadPoll + late }
  | .closing success, .close => some (transfer.leave success [.closed])
  | _, _ => none

/-- lwIP runs callbacks in a poll of the call, and in polls behind it. -/
def Stage.Polls : Stage → Prop
  | .polling _ => True
  | .returned _ => True
  | _ => False

instance : DecidablePred Stage.Polls := fun stage => by
  cases stage <;> unfold Stage.Polls <;> infer_instance

/-- `BodyReceived`. -/
def bodyReceived (transfer : Transfer) (buffer : Option (List (List UInt8))) (error : Err) :
    Transfer :=
  match buffer, error with
  | some segments, .ok =>
      { transfer with log := transfer.log ++ .bodyReceived :: segments.map .wrote }
  | _, _ => { transfer with log := transfer.log ++ [.bodyReceived] }

/-- `TransferFinished`, after which lwIP forgets the state. -/
def transferFinished (transfer : Transfer) (result : HttpcResult) (serverStatus : UInt32)
    (error : Err) : Transfer :=
  { transfer with
    state := { transfer.state with
      success := result = .ok ∧ error = .ok ∧ serverStatus = 200
      done := true }
    transferring := false
    log := transfer.log ++ [.transferFinished] }

/-- One step of the call, of lwIP or of the clock. -/
def step (transfer : Transfer) (action : Action) : Option Transfer :=
  match action with
  | .bodyReceived buffer error =>
      if transfer.transferring ∧ transfer.stage.Polls then
        some (bodyReceived transfer buffer error)
      else none
  | .transferFinished result serverStatus error =>
      if transfer.transferring ∧ transfer.stage.Polls then
        some (transferFinished transfer result serverStatus error)
      else none
  | .advance time => some { transfer with clock := transfer.clock + time }
  | _ => httpDownloadFile transfer action

/-! ## The steps of the call -/

/-- What a step of the call does, and from where. -/
inductive CallStep (transfer : Transfer) : Action → Transfer → Prop where
  /-- The file was not opened. -/
  | refuse {action : Action}
      (early : transfer.stage = .entered ∨ ∃ target, transfer.stage = .opening target) :
      CallStep transfer action (transfer.leave false [])
  | parse {target : HttpUrl} {filePath : CString} (stage : transfer.stage = .entered) :
      CallStep transfer .parse
        { transfer with
          stage := .opening target
          log := transfer.log ++ [.createdDirectories filePath] }
  | open {target : HttpUrl} (stage : transfer.stage = .opening target) :
      CallStep transfer (.open true)
        { transfer with
          stage := .starting target
          state := { transfer.state with fileOpened := true }
          log := transfer.log ++ [.opened] }
  /-- lwIP takes the address. -/
  | start {target : HttpUrl} (stage : transfer.stage = .starting target) :
      CallStep transfer (.start .ok)
        { transfer with
          stage := .testing (transfer.clock + downloadTimeout)
          transferring := true
          log := transfer.log ++ [.requested target] }
  | startFails {target : HttpUrl} (stage : transfer.stage = .starting target) :
      CallStep transfer (.start .failed) { transfer with stage := .closing false }
  | finish {deadline : Nat} (stage : transfer.stage = .testing deadline)
      (done : transfer.state.done = true) :
      CallStep transfer .check { transfer with stage := .closing transfer.state.success }
  /-- The only step that could leave lwIP with the address. -/
  | giveUp {deadline : Nat} (stage : transfer.stage = .testing deadline)
      (running : ¬ transfer.state.done = true) (late : deadline ≤ transfer.clock) :
      CallStep transfer .check { transfer with stage := .closing false }
  | poll {deadline : Nat} (stage : transfer.stage = .testing deadline)
      (early : transfer.clock < deadline) :
      CallStep transfer .check { transfer with stage := .polling deadline }
  | endPoll {deadline : Nat} (stage : transfer.stage = .polling deadline) :
      CallStep transfer .endPoll { transfer with stage := .sleeping deadline }
  | wake {deadline late : Nat} (stage : transfer.stage = .sleeping deadline) :
      CallStep transfer (.wake late)
        { transfer with
          stage := .testing deadline
          clock := transfer.clock + downloadPoll + late }
  | close {success : Bool} (stage : transfer.stage = .closing success) :
      CallStep transfer .close (transfer.leave success [.closed])

theorem callStep_of_taken {transfer next : Transfer} {action : Action}
    (taken : httpDownloadFile transfer action = some next) : CallStep transfer action next := by
  unfold httpDownloadFile at taken
  split at taken
  case h_1 stage =>
    split at taken
    · split at taken
      · cases taken
        exact .refuse (Or.inl stage)
      · cases taken
        exact .parse stage
    · cases taken
      exact .refuse (Or.inl stage)
  case h_2 target opens stage =>
    cases opens with
    | true =>
        cases taken
        exact .open stage
    | false =>
        cases taken
        exact .refuse (Or.inr ⟨target, stage⟩)
  case h_3 stage =>
    cases taken
    exact .start stage
  case h_4 stage =>
    cases taken
    exact .startFails stage
  case h_5 stage =>
    split at taken
    · rename_i done
      cases taken
      exact .finish stage done
    · rename_i running
      split at taken
      · rename_i late
        cases taken
        exact .giveUp stage running late
      · rename_i early
        cases taken
        exact .poll stage (Nat.lt_of_not_le early)
  case h_6 stage =>
    cases taken
    exact .endPoll stage
  case h_7 stage =>
    cases taken
    exact .wake stage
  case h_8 stage =>
    cases taken
    exact .close stage
  case h_9 => cases taken

/-! ## What should hold -/

/-- A function that lwIP calls with the address of the state. -/
def Event.IsCallback : Event → Prop
  | .bodyReceived => True
  | .transferFinished => True
  | _ => False

def Event.IsWrite : Event → Prop
  | .wrote _ => True
  | _ => False

def Event.IsReturn : Event → Prop
  | .returned _ => True
  | _ => False

instance : DecidablePred Event.IsCallback := fun event => by
  cases event <;> unfold Event.IsCallback <;> infer_instance

instance : DecidablePred Event.IsWrite := fun event => by
  cases event <;> unfold Event.IsWrite <;> infer_instance

instance : DecidablePred Event.IsReturn := fun event => by
  cases event <;> unfold Event.IsReturn <;> infer_instance

/-- No callback runs with the state of a call that has returned, and nothing is
written to a file that was closed. -/
structure Confined (log : List Event) : Prop where
  callbacks : log.Pairwise fun earlier later => earlier.IsReturn → ¬ later.IsCallback
  writes : log.Pairwise fun earlier later => earlier = .closed → ¬ later.IsWrite

instance (log : List Event) : Decidable (Confined log) :=
  decidable_of_iff
    ((log.Pairwise fun earlier later => earlier.IsReturn → ¬ later.IsCallback) ∧
      log.Pairwise fun earlier later => earlier = .closed → ¬ later.IsWrite)
    ⟨fun ⟨callbacks, writes⟩ => ⟨callbacks, writes⟩, fun ⟨callbacks, writes⟩ => ⟨callbacks, writes⟩⟩

/-- The loop never finds the deadline passed while the transfer goes on. -/
def InTime (transfer : Transfer) : Action → Prop
  | .check => ∀ deadline, transfer.stage = .testing deadline →
      transfer.state.done = true ∨ transfer.clock < deadline
  | _ => True

instance (transfer : Transfer) (action : Action) : Decidable (InTime transfer action) := by
  cases action
  case check =>
    cases stage : transfer.stage
    case testing deadline =>
      exact decidable_of_iff (transfer.state.done = true ∨ transfer.clock < deadline)
        (by simp [InTime, stage])
    all_goals exact isTrue (by simp [InTime, stage])
  all_goals exact isTrue trivial

/-! ## Logs -/

/-- The file is not closed and the call has not returned. -/
def Quiet (log : List Event) : Prop :=
  ∀ event ∈ log, event ≠ .closed ∧ ¬ event.IsReturn

theorem quiet_nil : Quiet [] := by
  intro event member
  cases member

theorem Quiet.append {log events : List Event} (quiet : Quiet log) (more : Quiet events) :
    Quiet (log ++ events) := by
  intro event member
  rcases List.mem_append.mp member with early | late
  · exact quiet event early
  · exact more event late

theorem quiet_singleton {event : Event} (open_ : event ≠ .closed) (running : ¬ event.IsReturn) :
    Quiet [event] := by
  intro other member
  rw [List.mem_singleton] at member
  subst member
  exact ⟨open_, running⟩

theorem Quiet.confined {log : List Event} (quiet : Quiet log) : Confined log := by
  constructor
  · apply List.pairwise_of_forall_mem_list
    intro earlier member later _ returned
    exact absurd returned (quiet earlier member).2
  · apply List.pairwise_of_forall_mem_list
    intro earlier member later _ closed
    exact absurd closed (quiet earlier member).1

theorem Confined.append {log events : List Event} (confined : Confined log)
    (silent : ∀ event ∈ events, ¬ event.IsCallback ∧ ¬ event.IsWrite) :
    Confined (log ++ events) := by
  constructor
  · rw [List.pairwise_append]
    refine ⟨confined.callbacks, ?_, ?_⟩
    · apply List.pairwise_of_forall_mem_list
      intro earlier _ later member _
      exact (silent later member).1
    · intro earlier _ later member _
      exact (silent later member).1
  · rw [List.pairwise_append]
    refine ⟨confined.writes, ?_, ?_⟩
    · apply List.pairwise_of_forall_mem_list
      intro earlier _ later member _
      exact (silent later member).2
    · intro earlier _ later member _
      exact (silent later member).2

theorem not_confined_of_callback {front back : List Event} {earlier later : Event}
    (returned : earlier.IsReturn) (callback : later.IsCallback) (first : earlier ∈ front)
    (second : later ∈ back) : ¬ Confined (front ++ back) := by
  intro confined
  exact (List.pairwise_append.mp confined.callbacks).2.2 earlier first later second returned
    callback

/-! ## Runs -/

namespace Transfer

/-- The state of the call fits the place where the call is.  lwIP has the
address only while the call waits for it. -/
def Consistent (transfer : Transfer) : Prop :=
  match transfer.stage with
  | .entered | .opening _ | .starting _ =>
      transfer.transferring = false ∧ transfer.state.done = false ∧ Quiet transfer.log
  | .testing _ | .polling _ | .sleeping _ =>
      transfer.transferring = !transfer.state.done ∧ Quiet transfer.log
  | .closing _ => transfer.transferring = false ∧ Quiet transfer.log
  | .returned _ => transfer.transferring = false ∧ Confined transfer.log

theorem initial_consistent (url filePath : Option CString) (clock : Nat) :
    (initial url filePath clock).Consistent :=
  ⟨rfl, rfl, quiet_nil⟩

/-- The log of a consistent state is confined. -/
theorem Consistent.confined {transfer : Transfer} (consistent : transfer.Consistent) :
    Confined transfer.log := by
  unfold Consistent at consistent
  split at consistent
  · exact consistent.2.2.confined
  · exact consistent.2.2.confined
  · exact consistent.2.2.confined
  · exact consistent.2.confined
  · exact consistent.2.confined
  · exact consistent.2.confined
  · exact consistent.2.confined
  · exact consistent.2

theorem leave_consistent {transfer : Transfer} (idle : transfer.transferring = false)
    (quiet : Quiet transfer.log) (success : Bool) {events : List Event}
    (silent : ∀ event ∈ events, ¬ event.IsCallback ∧ ¬ event.IsWrite) :
    (transfer.leave success events).Consistent := by
  refine ⟨idle, ?_⟩
  refine (quiet.confined.append silent).append ?_
  intro event member
  rw [List.mem_singleton] at member
  subst member
  exact ⟨not_false, not_false⟩

/-- A poll in which lwIP has the address is a poll of the call. -/
theorem Consistent.polling {transfer : Transfer} (consistent : transfer.Consistent)
    (transferring : transfer.transferring = true) (polls : transfer.stage.Polls) :
    ∃ deadline, transfer.stage = .polling deadline ∧ transfer.state.done = false ∧
      Quiet transfer.log := by
  unfold Consistent at consistent
  cases stage : transfer.stage <;> rw [stage] at consistent polls
  case polling deadline =>
    rcases consistent with ⟨running, quiet⟩
    rw [transferring] at running
    exact ⟨deadline, rfl, by simpa using running.symm, quiet⟩
  case returned success =>
    rw [consistent.1] at transferring
    cases transferring
  all_goals exact absurd polls not_false

theorem bodyReceived_consistent {transfer : Transfer} (consistent : transfer.Consistent)
    (transferring : transfer.transferring = true) (polls : transfer.stage.Polls)
    (buffer : Option (List (List UInt8))) (error : Err) :
    (bodyReceived transfer buffer error).Consistent := by
  rcases consistent.polling transferring polls with ⟨deadline, stage, running, quiet⟩
  have called : Quiet [Event.bodyReceived] := quiet_singleton (by simp) not_false
  have written (segments : List (List UInt8)) :
      Quiet (Event.bodyReceived :: segments.map .wrote) := by
    refine called.append ?_
    intro event member
    rcases List.mem_map.mp member with ⟨bytes, _, rfl⟩
    exact ⟨by simp, not_false⟩
  unfold bodyReceived
  split
  · simp only [Consistent, stage, transferring, running, Bool.not_false, true_and]
    exact quiet.append (written _)
  · simp only [Consistent, stage, transferring, running, Bool.not_false, true_and]
    exact quiet.append called

theorem transferFinished_consistent {transfer : Transfer} (consistent : transfer.Consistent)
    (transferring : transfer.transferring = true) (polls : transfer.stage.Polls)
    (result : HttpcResult) (serverStatus : UInt32) (error : Err) :
    (transferFinished transfer result serverStatus error).Consistent := by
  rcases consistent.polling transferring polls with ⟨deadline, stage, _, quiet⟩
  simp only [transferFinished, Consistent, stage, Bool.not_true, true_and]
  exact quiet.append (quiet_singleton (by simp) not_false)

/-- A step of the call in time keeps the state consistent. -/
theorem call_consistent {transfer next : Transfer} {action : Action}
    (consistent : transfer.Consistent) (inTime : InTime transfer action)
    (taken : httpDownloadFile transfer action = some next) : next.Consistent := by
  have none_ : ∀ event ∈ ([] : List Event), ¬ event.IsCallback ∧ ¬ event.IsWrite := by
    intro event member
    cases member
  unfold Consistent at consistent
  cases callStep_of_taken taken with
  | refuse early =>
      rcases early with stage | ⟨target, stage⟩
      · rw [stage] at consistent
        exact leave_consistent consistent.1 consistent.2.2 false none_
      · rw [stage] at consistent
        exact leave_consistent consistent.1 consistent.2.2 false none_
  | parse stage =>
      rw [stage] at consistent
      rcases consistent with ⟨idle, running, quiet⟩
      exact ⟨idle, running, quiet.append (quiet_singleton (by simp) not_false)⟩
  | «open» stage =>
      rw [stage] at consistent
      rcases consistent with ⟨idle, running, quiet⟩
      exact ⟨idle, running, quiet.append (quiet_singleton (by simp) not_false)⟩
  | start stage =>
      rw [stage] at consistent
      rcases consistent with ⟨idle, running, quiet⟩
      refine ⟨?_, quiet.append (quiet_singleton (by simp) not_false)⟩
      change true = !transfer.state.done
      rw [running]
      rfl
  | startFails stage =>
      rw [stage] at consistent
      exact ⟨consistent.1, consistent.2.2⟩
  | finish stage done =>
      rw [stage] at consistent
      rcases consistent with ⟨waiting, quiet⟩
      refine ⟨?_, quiet⟩
      change transfer.transferring = false
      rw [waiting, done]
      rfl
  | giveUp stage running late =>
      rcases inTime _ stage with done | early
      · exact absurd done running
      · exact absurd late (Nat.not_le_of_lt early)
  | poll stage early =>
      rw [stage] at consistent
      exact consistent
  | endPoll stage =>
      rw [stage] at consistent
      exact consistent
  | wake stage =>
      rw [stage] at consistent
      exact consistent
  | close stage =>
      rw [stage] at consistent
      refine leave_consistent consistent.1 consistent.2 _ ?_
      intro event member
      rw [List.mem_singleton] at member
      subst member
      exact ⟨not_false, not_false⟩

/-- Every step in time keeps the state consistent. -/
theorem step_consistent {transfer next : Transfer} {action : Action}
    (consistent : transfer.Consistent) (inTime : InTime transfer action)
    (taken : step transfer action = some next) : next.Consistent := by
  unfold step at taken
  split at taken
  · split at taken
    · rename_i delivers
      cases taken
      exact bodyReceived_consistent consistent delivers.1 delivers.2 _ _
    · cases taken
  · split at taken
    · rename_i delivers
      cases taken
      exact transferFinished_consistent consistent delivers.1 delivers.2 _ _ _
    · cases taken
  · cases taken
    exact consistent
  · exact call_consistent consistent inTime taken

end Transfer

/-- In a run whose deadline tests are all in time, no callback runs with the
state of a call that has returned, and nothing is written behind `CloseFile`. -/
theorem confined_of_inTime {url filePath : Option CString} {clock : Nat} {actions : List Action}
    {transfer : Transfer}
    (inTime : Transition.Guarded step InTime (Transfer.initial url filePath clock) actions)
    (reached : Transition.run step (Transfer.initial url filePath clock) actions = some transfer) :
    Confined transfer.log := by
  have consistent : transfer.Consistent :=
    Transition.invariant_run (fun _ _ _ => Transfer.step_consistent)
      (Transfer.initial_consistent url filePath clock) inTime reached
  exact consistent.confined

/-- Before the call that the runs below make. -/
def someCall : Transfer :=
  Transfer.initial (some (CString.literal "http://host/file")) (some (CString.literal "file")) 0

/-- Two bytes and the end of the transfer come in the second poll. -/
def answeredInTime : List Action :=
  [.parse, .open true, .start .ok, .check, .endPoll, .wake 0, .check, .advance 500,
    .bodyReceived (some [[111], [107]]) .ok, .transferFinished .ok 200 .ok, .endPoll, .wake 0,
    .check, .close]

theorem confined_answered :
    ∃ final, Transition.run step someCall answeredInTime = some final ∧
      final.stage = .returned true ∧ Confined final.log :=
  ⟨_, rfl, rfl, @confined_of_inTime (some (CString.literal "http://host/file"))
    (some (CString.literal "file")) 0 answeredInTime _ (by decide +kernel) rfl⟩

/-! ## Answers behind the deadline -/

/-- The server answers when the sleep before the last test is over. -/
def answeredLate : List Action :=
  [.parse, .open true, .start .ok, .check, .endPoll, .wake downloadTimeout, .check, .close,
    .bodyReceived (some [[111], [107]]) .ok, .transferFinished .ok 200 .ok]

/-- Both callbacks run with the state of the call that has returned, and the
bytes are written to the file that was closed. -/
theorem callbacks_escape :
    ∃ final, Transition.run step someCall answeredLate = some final ∧
      (¬ final.log.Pairwise fun earlier later => earlier.IsReturn → ¬ later.IsCallback) ∧
      ¬ final.log.Pairwise fun earlier later => earlier = .closed → ¬ later.IsWrite :=
  ⟨_, rfl, by decide +kernel, by decide +kernel⟩

/-- The guard is exact.  From a state that a run in time can reach, a deadline
test that comes too late lets a callback out. -/
theorem escapes_of_late {transfer next : Transfer} {action : Action}
    (consistent : transfer.Consistent) (late : ¬ InTime transfer action)
    (taken : step transfer action = some next) :
    ∃ actions final, Transition.run step next actions = some final ∧ ¬ Confined final.log := by
  cases action
  case check =>
    change ¬ ∀ deadline, _ → _ at late
    rw [not_forall] at late
    rcases late with ⟨deadline, late⟩
    rw [Classical.not_imp, not_or] at late
    rcases late with ⟨stage, running, past⟩
    unfold Transfer.Consistent at consistent
    rw [stage] at consistent
    rcases transfer with ⟨url, filePath, _, clock, ⟨fileOpened, done, success⟩, transferring, log⟩
    subst stage
    rw [Bool.not_eq_true] at running
    cases running
    cases consistent.1
    simp only [step, httpDownloadFile, Bool.false_eq_true, if_false,
      if_pos (Nat.le_of_not_lt past)] at taken
    cases taken
    refine ⟨[.close, .bodyReceived none .ok], _, rfl, ?_⟩
    have returned : Event.returned false ∈ log ++ [.closed] ++ [.returned false] :=
      List.mem_append_right _ (List.mem_singleton.mpr rfl)
    have called : Event.bodyReceived ∈ [Event.bodyReceived] := List.mem_singleton.mpr rfl
    have isReturn : (Event.returned false).IsReturn := trivial
    have isCallback : Event.bodyReceived.IsCallback := trivial
    exact not_confined_of_callback isReturn isCallback returned called
  all_goals exact absurd trivial late

end RP2040
end Client
end NetLL
