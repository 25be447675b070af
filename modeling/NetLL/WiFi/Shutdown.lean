import NetLL.WiFi.AccessPoint

namespace NetLL
namespace WiFi
namespace RP2040
namespace AccessPoint

/-!
# The callbacks and the end of the driver

The callbacks use the netif of the access point, which belongs to the driver.
`WiFiDeinitialize` stops the access point first, but the stop only posts its
callback, and nothing waits for the lwIP thread before `cyw43_arch_deinit`.
A callback that is pending by then runs on a driver that is gone.

The driver is up exactly while `wifiInitialized` is set, because the flag and
the driver change in the same step.
-/

/-- The lwIP thread can run a callback here only if the driver is up. -/
def RadioIsUp (state : State) : Prop :=
  ∀ next, step state .process = some next → state.wifiInitialized = true

/-- The step is not a call of `cyw43_arch_deinit` with a callback pending. -/
def Drained (state : State) (action : Action) : Prop :=
  action = .proceed → state.app = .leaving → state.pending = []

instance (state : State) (action : Action) : Decidable (Drained state action) :=
  inferInstanceAs (Decidable (_ → _ → _))

/-- Without the driver there is nothing to run, and no call is on its way. -/
structure Quiet (state : State) : Prop where
  down : state.wifiInitialized = false →
    state.pending = [] ∧ state.accessPointRunning = false ∧ state.app = .idle
  left_ : state.app = .leaving → state.accessPointRunning = false

theorem initial_quiet : Quiet .initial :=
  ⟨fun _ => ⟨rfl, rfl, rfl⟩, fun _ => rfl⟩

/-- While the driver is up, callbacks and calls may be pending. -/
theorem quiet_of_up {state : State} (up : state.wifiInitialized = true)
    (left_ : state.app = .leaving → state.accessPointRunning = false) : Quiet state := by
  refine ⟨fun down => ?_, left_⟩
  rw [up] at down
  cases down

theorem Quiet.radioIsUp {state : State} (quiet : Quiet state) : RadioIsUp state := by
  intro next taken
  by_contra down
  have empty := (quiet.down (Bool.eq_false_iff.mpr down)).1
  simp only [step, process, empty] at taken
  cases taken

theorem Quiet.up_of_running {state : State} (quiet : Quiet state)
    (running : state.accessPointRunning = true) : state.wifiInitialized = true := by
  by_contra down
  have stopped := (quiet.down (Bool.eq_false_iff.mpr down)).2.1
  rw [stopped] at running
  cases running

theorem Quiet.up_of_called {state : State} (quiet : Quiet state) {stage : AppStage}
    (called : state.app = stage) (busy : stage ≠ .idle) : state.wifiInitialized = true := by
  by_contra down
  have idle := (quiet.down (Bool.eq_false_iff.mpr down)).2.2
  exact busy (called.symm.trans idle)

theorem Quiet.returning {state : State} (quiet : Quiet state) (result : Bool) :
    Quiet { state with returned := some result } :=
  ⟨quiet.down, quiet.left_⟩

/-! ## One step -/

theorem wifiInitialize_quiet {state : State} (quiet : Quiet state) (succeeds : Bool) :
    Quiet <| wifiInitialize state succeeds := by
  unfold wifiInitialize
  split
  · exact quiet.returning true
  · split
    · exact quiet.returning false
    · exact quiet_of_up rfl quiet.left_

/-- A post that is made while the driver is up. -/
theorem tcpipCallback_quiet {state : State} (up : state.wifiInitialized = true)
    (left_ : state.app = .leaving → state.accessPointRunning = false) (callback : Callback)
    (queued : Bool) : Quiet (tcpipCallback state callback queued) := by
  unfold tcpipCallback
  split <;> exact quiet_of_up up left_

theorem wifiAccessPointStart_quiet {state : State} (quiet : Quiet state)
    (ssid password : Option CString) (queued : Bool) :
    Quiet (wifiAccessPointStart state ssid password queued) := by
  cases ssid with
  | none => exact quiet.returning false
  | some ssid =>
      simp only [wifiAccessPointStart]
      split
      · exact quiet.returning false
      · split
        · exact quiet.returning false
        · rename_i initialized
          split
          · exact quiet.returning true
          · have up : state.wifiInitialized = true := by simpa using initialized
            apply tcpipCallback_quiet
            · exact up
            · rintro ⟨⟩

theorem wifiAccessPointStop_quiet {state : State} (quiet : Quiet state) (queued : Bool) :
    Quiet (wifiAccessPointStop state queued) := by
  unfold wifiAccessPointStop
  split
  · exact quiet.returning true
  · rename_i running
    have up := quiet.up_of_running (by simpa using running)
    apply tcpipCallback_quiet
    · exact up
    · rintro ⟨⟩

theorem wifiDeinitialize_quiet {state : State} (quiet : Quiet state) (queued : Bool) :
    Quiet <| wifiDeinitialize state queued := by
  unfold wifiDeinitialize
  split
  · exact quiet
  · rename_i initialized
    have up : state.wifiInitialized = true := by simpa using initialized
    split
    · rename_i stopped
      exact quiet_of_up up fun _ => by simpa using stopped
    · apply tcpipCallback_quiet
      · exact up
      · rintro ⟨⟩

theorem proceed_quiet {state next : State} (quiet : Quiet state) (drained : Drained state .proceed)
    (taken : proceed state = some next) : Quiet next := by
  unfold proceed at taken
  split at taken
  · cases taken
  · rename_i starting
    have up := quiet.up_of_called starting AppStage.noConfusion
    cases taken
    exact quiet_of_up up (by rintro ⟨⟩)
  · rename_i stopping
    have up := quiet.up_of_called stopping AppStage.noConfusion
    cases taken
    exact quiet_of_up up (by rintro ⟨⟩)
  · rename_i stopping
    have up := quiet.up_of_called stopping AppStage.noConfusion
    cases taken
    exact quiet_of_up up fun _ => rfl
  · rename_i leaving
    have empty := drained rfl leaving
    have stopped := quiet.left_ leaving
    cases taken
    exact ⟨fun _ => ⟨empty, stopped, rfl⟩, fun _ => stopped⟩

theorem process_quiet {state next : State} (quiet : Quiet state)
    (taken : process state = some next) : Quiet next := by
  have up := quiet.radioIsUp next taken
  unfold process at taken
  split at taken
  · cases taken
  · cases taken
    exact quiet_of_up up quiet.left_

theorem step_quiet {state next : State} {action : Action} (quiet : Quiet state)
    (drained : Drained state action) (taken : step state action = some next) : Quiet next := by
  cases action with
  | proceed => exact proceed_quiet quiet drained taken
  | process => exact process_quiet quiet taken
  | _ =>
      cases app : state.app with
      | idle =>
          simp only [step, app, callStep, Option.some.injEq] at taken
          subst taken
          first
            | exact wifiInitialize_quiet quiet _
            | exact wifiDeinitialize_quiet quiet _
            | exact wifiAccessPointStart_quiet quiet _ _ _
            | exact wifiAccessPointStop_quiet quiet _
      | _ =>
          simp only [step, app] at taken
          cases taken

/-- A callback that is pending when the driver goes can run without it. -/
theorem drained_of_radioIsUp {state next : State} {action : Action}
    (taken : step state action = some next) (up : RadioIsUp next) : Drained state action := by
  rintro rfl leaving
  simp only [step, proceed, leaving, Option.some.injEq] at taken
  subst taken
  cases pending : state.pending with
  | nil => rfl
  | cons callback rest =>
      simp only [RadioIsUp, step, process, pending] at up
      cases up _ rfl

/-! ## Runs -/

/-- In every state of a run a callback runs only while the driver is up, if and
only if no call of `cyw43_arch_deinit` in the run finds a callback pending. -/
theorem radioIsUp_iff_drained (actions : List Action) :
    Transition.Always step RadioIsUp .initial actions ↔
      Transition.Guarded step Drained .initial actions :=
  Transition.always_iff_guarded (fun _ => Quiet.radioIsUp)
    (fun _ _ _ quiet drained taken => step_quiet quiet drained taken)
    (fun _ _ _ _ taken up => drained_of_radioIsUp taken up)
    (fun _ _ stuck => by
      rintro rfl leaving
      simp only [step, proceed, leaving] at stuck
      cases stuck)
    initial_quiet

/-- The access point is running when the driver is shut down.  The stop that
`WiFiDeinitialize` posts runs behind `cyw43_arch_deinit`. -/
theorem stop_runs_without_driver :
    ∃ down after, Transition.run step .initial
        [.initializeWiFi true, .accessPointStart (some (.literal "net")) none true, .proceed,
          .process, .deinitializeWiFi true, .proceed, .proceed] = some down ∧
      down.wifiInitialized = false ∧ down.pending = [.stopAccessPointDhcp] ∧
      step down .process = some after ∧ ¬ RadioIsUp down := by
  refine ⟨_, _, rfl, rfl, rfl, rfl, fun up => ?_⟩
  cases up _ rfl

/-- The thread takes its callbacks before the driver goes. -/
example : Transition.Guarded step Drained .initial
    [.initializeWiFi true, .accessPointStart (some (.literal "net")) none true, .proceed,
      .process, .deinitializeWiFi true, .proceed, .process, .proceed] := by
  decide

end AccessPoint
end RP2040
end WiFi
end NetLL
