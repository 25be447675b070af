import NetLL.WiFi.Scan

namespace NetLL
namespace WiFi
namespace RP2040
namespace Scan

/-!
# Fresh scans on RP2040

`scanInProgress` is the code's copy of the driver's state.  It is set when the
driver starts and is cleared only by a test that finds the driver done, so
after an unpolled end, a timeout or a deinitialization it says more than is
true.  `WiFiScanStart` believes it.  As long as no start meets a flag without a
scan, the entries of the table come from the active scan, and what `WiFiScan`
copies was delivered during the call.
-/

namespace Scanner

/-- What a call that has just ended promises: a start that returns true leaves
a scan active, and the networks of a scan were delivered during it. -/
def KeepsPromise (state : Scanner) : Prop :=
  match state.returned with
  | some (.scanStart true) => state.active ≠ none
  | some (.scan (some copied)) => ∀ entry ∈ copied, entry.scan ∈ state.during
  | _ => True

instance (state : Scanner) : Decidable state.KeepsPromise := by
  unfold KeepsPromise
  split <;> infer_instance

end Scanner

/-- The call reaches the test of `scanInProgress` in `WiFiScanStart`. -/
def Starts : Action → Prop
  | .scanStart _ => True
  | .scan (some maxNetworks) _ => maxNetworks ≠ 0
  | _ => False

instance : DecidablePred Starts := fun action => by
  unfold Starts
  split <;> infer_instance

/-- A start that finds the flag set finds the driver's scan active, too. -/
def FlagIsTrue (state : Scanner) (action : Action) : Prop :=
  Starts action → state.wifiInitialized = true → state.scanInProgress = true → state.active ≠ none

instance (state : Scanner) (action : Action) : Decidable (FlagIsTrue state action) :=
  inferInstanceAs (Decidable (Starts action → state.wifiInitialized = true →
    state.scanInProgress = true → state.active ≠ none))

/-! ## The invariant -/

namespace Scanner

/-- An active scan has its flag, and the table holds its results only. -/
structure Consistent (state : Scanner) : Prop where
  flagged : ∀ scan, state.active = some scan →
    state.scanInProgress = true ∧ ∀ entry ∈ state.scanTarget.networks, entry.scan = scan
  called : state.app ≠ .idle → ∀ entry ∈ state.scanTarget.networks, entry.scan ∈ state.during

theorem initial_consistent : initial.Consistent := by
  constructor
  · rintro scan active
    cases active
  · intro _ entry member
    cases member

theorem Consistent.returning {state : Scanner} (consistent : state.Consistent)
    (returned : Option Returned) : { state with returned := returned }.Consistent :=
  ⟨consistent.flagged, consistent.called⟩

theorem Consistent.observed {state : Scanner} (consistent : state.Consistent) :
    state.observed.Consistent :=
  ⟨consistent.flagged, fun calling entry member =>
    List.mem_append_right _ (consistent.called calling entry member)⟩

/-- Without an active scan there is nothing to keep between calls. -/
theorem consistent_of_inactive {state : Scanner} (inactive : state.active = none)
    (idle : state.app = .idle) : state.Consistent := by
  constructor
  · intro scan active
    rw [inactive] at active
    cases active
  · intro calling
    exact absurd idle calling

end Scanner

/-! ## What each function does -/

theorem wifiInitialize_consistent {state : Scanner} (consistent : state.Consistent)
    (succeeds : Bool) : (wifiInitialize state succeeds).2.Consistent := by
  unfold wifiInitialize
  split
  · exact consistent
  · split
    · exact consistent
    · exact ⟨consistent.flagged, consistent.called⟩

theorem wifiDeinitialize_consistent {state : Scanner} (consistent : state.Consistent)
    (idle : state.app = .idle) : Scanner.Consistent <| wifiDeinitialize state := by
  unfold wifiDeinitialize
  split
  · exact consistent
  · exact Scanner.consistent_of_inactive rfl idle

/-- The two ways in which `WiFiScanStart` returns true. -/
theorem wifiScanStart_true {state next : Scanner} {succeeds : Bool}
    (started : wifiScanStart state succeeds = (true, next)) :
    (state.wifiInitialized = true ∧ state.scanInProgress = true ∧ next = state) ∨
      next = { state with
        scanInProgress := true
        scanTarget := .cleared
        active := some state.nextScan
        nextScan := state.nextScan + 1 } := by
  unfold wifiScanStart at started
  split at started
  · cases started
  · rename_i initialized
    split at started
    · rename_i flag
      cases started
      exact Or.inl ⟨by simpa using initialized, flag, rfl⟩
    · split at started
      · cases started
      · cases started
        exact Or.inr rfl

theorem wifiScanStart_false {state next : Scanner} {succeeds : Bool}
    (failed : wifiScanStart state succeeds = (false, next)) :
    next = state ∨ (state.scanInProgress = false ∧
      next = { state with scanTarget := .cleared }) := by
  unfold wifiScanStart at failed
  split at failed
  · cases failed
    exact Or.inl rfl
  · split at failed
    · cases failed
    · rename_i flag
      split at failed
      · cases failed
        exact Or.inr ⟨by simpa using flag, rfl⟩
      · cases failed

/-- A start leaves a table of the active scan's results. -/
theorem wifiScanStart_consistent {state : Scanner} (consistent : state.Consistent)
    (succeeds : Bool) : (wifiScanStart state succeeds).2.Consistent := by
  cases result : wifiScanStart state succeeds with
  | mk started next =>
      cases started with
      | true =>
          rcases wifiScanStart_true result with ⟨_, _, same⟩ | fresh
          · exact same ▸ consistent
          · subst fresh
            refine ⟨fun scan active => ⟨rfl, ?_⟩, fun _ => ?_⟩
            · intro entry member
              cases member
            · intro entry member
              cases member
      | false =>
          rcases wifiScanStart_false result with same | ⟨flag, cleared⟩
          · exact same ▸ consistent
          · subst cleared
            refine ⟨fun scan active => ?_, fun _ => ?_⟩
            · have flagged := (consistent.flagged scan active).1
              rw [flag] at flagged
              cases flagged
            · intro entry member
              cases member

/-- When the flag is true, a start that returns true leaves a scan active. -/
theorem wifiScanStart_active {state next : Scanner} {succeeds : Bool}
    (started : wifiScanStart state succeeds = (true, next))
    (flagged : state.wifiInitialized = true → state.scanInProgress = true → state.active ≠ none) :
    ∃ scan, next.active = some scan := by
  rcases wifiScanStart_true started with ⟨initialized, flag, same⟩ | fresh
  · subst same
    exact Option.ne_none_iff_exists'.mp (flagged initialized flag)
  · subst fresh
    exact ⟨_, rfl⟩

/-- A test changes the flag only, and only when the driver is done. -/
theorem wifiScanIsComplete_cases (state : Scanner) :
    (wifiScanIsComplete state).2 = state ∨
      (state.active = none ∧ (wifiScanIsComplete state).2 = { state with scanInProgress := false }) := by
  unfold wifiScanIsComplete
  split
  · exact Or.inl rfl
  · split
    · exact Or.inl rfl
    · rename_i inactive
      exact Or.inr ⟨by simpa using inactive, rfl⟩

theorem wifiScanIsComplete_consistent {state : Scanner} (consistent : state.Consistent) :
    (wifiScanIsComplete state).2.Consistent := by
  rcases wifiScanIsComplete_cases state with same | ⟨inactive, cleared⟩
  · rw [same]
    exact consistent
  · rw [cleared]
    refine ⟨fun scan active => ?_, consistent.called⟩
    change state.active = some scan at active
    rw [inactive] at active
    cases active

theorem wifiScanIsComplete_frame (state : Scanner) :
    (wifiScanIsComplete state).2.scanTarget = state.scanTarget ∧
      (wifiScanIsComplete state).2.app = state.app ∧
      (wifiScanIsComplete state).2.during = state.during ∧
      (wifiScanIsComplete state).2.active = state.active := by
  rcases wifiScanIsComplete_cases state with same | ⟨_, cleared⟩
  · rw [same]
    exact ⟨rfl, rfl, rfl, rfl⟩
  · rw [cleared]
    exact ⟨rfl, rfl, rfl, rfl⟩

/-- `WiFiScanGetResults` copies from the table, and at most tests. -/
theorem wifiScanGetResults_cases (state : Scanner) (output : Option UInt16) :
    ((wifiScanGetResults state output).2 = state ∨
        (wifiScanGetResults state output).2 = (wifiScanIsComplete state).2) ∧
      ∀ copied, (wifiScanGetResults state output).1 = some copied →
        ∀ entry ∈ copied, entry ∈ state.scanTarget.networks := by
  unfold wifiScanGetResults
  cases output with
  | none => exact ⟨Or.inl rfl, fun copied impossible => by cases impossible⟩
  | some maxNetworks =>
      by_cases zero : maxNetworks = 0
      · simp only [if_pos zero]
        exact ⟨Or.inl trivial, fun copied impossible => by cases impossible⟩
      · have frame := (wifiScanIsComplete_frame state).1
        simp only [if_neg zero]
        cases tested : wifiScanIsComplete state with
        | mk complete next =>
            rw [tested] at frame
            cases complete with
            | false => exact ⟨Or.inr rfl, fun copied impossible => by cases impossible⟩
            | true =>
                refine ⟨Or.inr rfl, fun copied same entry member => ?_⟩
                cases same
                rw [← frame]
                exact List.mem_of_mem_take member

theorem wifiScanGetResults_consistent {state : Scanner} (consistent : state.Consistent)
    (output : Option UInt16) : (wifiScanGetResults state output).2.Consistent := by
  rcases (wifiScanGetResults_cases state output).1 with same | tested
  · rw [same]
    exact consistent
  · rw [tested]
    exact wifiScanIsComplete_consistent consistent

theorem mem_scanResultReceived {target : ScanTarget} {scan : Nat} {result : ScanResult}
    {entry : Delivered} (member : entry ∈ (scanResultReceived target scan result).networks) :
    entry ∈ target.networks ∨ entry.scan = scan := by
  unfold scanResultReceived at member
  split at member
  · rcases List.mem_append.mp member with old | new
    · exact Or.inl old
    · rw [List.mem_singleton.mp new]
      exact Or.inr rfl
  · exact Or.inl member

/-! ## One step -/

/-- A consistent state whose last call keeps its promise. -/
structure Sound (state : Scanner) : Prop where
  consistent : state.Consistent
  promise : state.KeepsPromise

theorem sound_of_silent {state : Scanner} (consistent : state.Consistent)
    (silent : state.returned = none) : Sound state := by
  refine ⟨consistent, ?_⟩
  rw [Scanner.KeepsPromise, silent]
  trivial

theorem Sound.observed {state : Scanner} (sound : Sound state) : Sound state.observed := by
  refine ⟨sound.consistent.observed, ?_⟩
  have promise := sound.promise
  rcases state with ⟨_, _, _, active, _, _, during, returned⟩
  cases returned with
  | none => trivial
  | some result =>
      cases result with
      | scanStart started =>
          cases started with
          | false => trivial
          | true => exact promise
      | scan copied =>
          cases copied with
          | none => trivial
          | some networks =>
              intro entry member
              exact List.mem_append_right _ (promise entry member)
      | _ => trivial

/-- `WiFiScan` enters its loop with a table of the scan that is active. -/
theorem wifiScan_sound {state : Scanner} (consistent : state.Consistent) (idle : state.app = .idle)
    (output : Option UInt16) (succeeds : Bool)
    (flagIsTrue : FlagIsTrue state (.scan output succeeds)) :
    Sound (wifiScan { state with during := state.active.toList } output succeeds) := by
  have here : { state with during := state.active.toList }.Consistent :=
    ⟨consistent.flagged, fun calling => absurd idle calling⟩
  have refused {next : Scanner} (consistent : next.Consistent) :
      Sound { next with returned := some (.scan none) } := ⟨consistent.returning _, trivial⟩
  cases output with
  | none => exact refused here
  | some maxNetworks =>
      unfold wifiScan
      by_cases zero : maxNetworks = 0
      · simp only [if_pos zero]
        exact refused here
      · simp only [if_neg zero]
        have after := wifiScanStart_consistent here succeeds
        cases result : wifiScanStart { state with during := state.active.toList } succeeds with
        | mk started next =>
            rw [result] at after
            cases started with
            | false => exact refused after
            | true =>
                rcases wifiScanStart_active result (flagIsTrue zero) with ⟨scan, active⟩
                refine ⟨⟨after.flagged, ?_⟩, ?_⟩
                · intro _ entry member
                  rcases wifiScanStart_true result with ⟨_, _, same⟩ | fresh
                  · subst same
                    rw [(consistent.flagged scan active).2 entry member]
                    exact Option.mem_toList.mpr active
                  · subst fresh
                    cases member
                · change next.active ≠ none
                  rw [active]
                  exact Option.some_ne_none scan

theorem wifiScanPoll_sound {state : Scanner} (consistent : state.Consistent)
    (silent : state.returned = none) {maxNetworks : UInt16} (inside : state.app = .polling maxNetworks)
    (expired : Bool) : Sound (wifiScanPoll state maxNetworks expired) := by
  have after := wifiScanIsComplete_consistent consistent
  have calling : state.app ≠ .idle := by
    rw [inside]
    exact AppStage.noConfusion
  have stays : (wifiScanIsComplete state).2.returned = none := by
    rcases wifiScanIsComplete_cases state with same | ⟨_, cleared⟩
    · rw [same, silent]
    · rw [cleared, silent]
  have frame := wifiScanIsComplete_frame state
  unfold wifiScanPoll
  cases tested : wifiScanIsComplete state with
  | mk complete next =>
      rw [tested] at after stays frame
      cases complete with
      | true =>
          refine sound_of_silent ⟨after.flagged, fun _ entry member => ?_⟩ stays
          exact after.called (frame.2.1 ▸ calling) entry member
      | false =>
          by_cases late : expired = true
          · simp only [late, if_true]
            exact ⟨⟨after.flagged, fun calling => absurd rfl calling⟩, trivial⟩
          · simp only [late, Bool.false_eq_true, if_false]
            exact sound_of_silent after stays

/-- What is collected was delivered during the call. -/
theorem wifiScanCollect_sound {state : Scanner} (consistent : state.Consistent)
    {maxNetworks : UInt16} (inside : state.app = .collecting maxNetworks) :
    Sound (wifiScanCollect state maxNetworks) := by
  have after := wifiScanGetResults_consistent consistent (some maxNetworks)
  have calling : state.app ≠ .idle := by
    rw [inside]
    exact AppStage.noConfusion
  rcases wifiScanGetResults_cases state (some maxNetworks) with ⟨changes, from_table⟩
  have during : (wifiScanGetResults state (some maxNetworks)).2.during = state.during := by
    rcases changes with same | tested
    · rw [same]
    · rw [tested, (wifiScanIsComplete_frame state).2.2.1]
  unfold wifiScanCollect
  cases result : wifiScanGetResults state (some maxNetworks) with
  | mk copied next =>
      rw [result] at after from_table during
      refine ⟨⟨after.flagged, fun calling => absurd rfl calling⟩, ?_⟩
      cases copied with
      | none => trivial
      | some networks =>
          intro entry member
          change entry.scan ∈ next.during
          rw [during]
          exact consistent.called calling entry (from_table networks rfl entry member)

theorem callStep_sound {state next : Scanner} {action : Action} (consistent : state.Consistent)
    (idle : state.app = .idle) (flagIsTrue : FlagIsTrue state action)
    (taken : callStep state action = some next) : Sound next := by
  cases action with
  | initializeWiFi succeeds =>
      cases taken
      exact ⟨(wifiInitialize_consistent consistent succeeds).returning _, trivial⟩
  | deinitializeWiFi =>
      cases taken
      exact ⟨(wifiDeinitialize_consistent consistent idle).returning _, trivial⟩
  | scanStart succeeds =>
      have after := wifiScanStart_consistent consistent succeeds
      cases result : wifiScanStart state succeeds with
      | mk started other =>
          rw [result] at after
          simp only [callStep, result] at taken
          cases taken
          refine ⟨after.returning _, ?_⟩
          cases started with
          | false => trivial
          | true =>
              rcases wifiScanStart_active result (flagIsTrue trivial) with ⟨scan, active⟩
              change other.active ≠ none
              rw [active]
              exact Option.some_ne_none scan
  | scanIsComplete =>
      cases taken
      exact ⟨(wifiScanIsComplete_consistent consistent).returning _, trivial⟩
  | scanGetResults output =>
      cases taken
      exact ⟨(wifiScanGetResults_consistent consistent output).returning _, trivial⟩
  | scan output succeeds =>
      cases taken
      exact wifiScan_sound consistent idle output succeeds flagIsTrue
  | poll | collect | deliver | finish => cases taken

theorem appStep_sound {state next : Scanner} {action : Action} (consistent : state.Consistent)
    (silent : state.returned = none) (flagIsTrue : FlagIsTrue state action)
    (taken : appStep state action = some next) : Sound next := by
  unfold appStep at taken
  split at taken
  · rename_i idle
    exact callStep_sound consistent idle flagIsTrue taken
  · rename_i inside
    cases taken
    exact wifiScanPoll_sound consistent silent inside _
  · rename_i inside
    cases taken
    exact wifiScanCollect_sound consistent inside
  · cases taken

theorem driverStep_sound {state next : Scanner} {scan : Nat} {action : Action}
    (consistent : state.Consistent) (silent : state.returned = none)
    (active : state.active = some scan) (taken : driverStep state scan action = some next) :
    Sound next.observed := by
  cases action with
  | deliver result =>
      cases taken
      refine sound_of_silent ⟨fun other same => ?_, fun calling entry member => ?_⟩ silent
      · change state.active = some other at same
        refine ⟨(consistent.flagged other same).1, fun entry member => ?_⟩
        rcases mem_scanResultReceived member with old | new
        · exact (consistent.flagged other same).2 entry old
        · rw [active, Option.some.injEq] at same
          rw [new, same]
      · rcases mem_scanResultReceived member with old | new
        · exact List.mem_append_right _ (consistent.called calling entry old)
        · rw [new]
          exact List.mem_append_left _ (Option.mem_toList.mpr active)
  | finish =>
      cases taken
      apply Sound.observed
      refine sound_of_silent ⟨fun other impossible => ?_, consistent.called⟩ silent
      cases impossible
  | _ => cases taken

/-- A step is one of the driver, about its active scan, or one of the
application. -/
theorem step_cases {state next : Scanner} {action : Action}
    (taken : step state action = some next) :
    (∃ scan after, state.active = some scan ∧
      driverStep { state with returned := none } scan action = some after ∧
        next = after.observed) ∨
      ∃ after, appStep { state with returned := none } action = some after ∧
        next = after.observed := by
  unfold step at taken
  dsimp only at taken
  split at taken
  · split at taken
    · cases taken
    · rename_i scan active
      rcases Option.map_eq_some_iff.mp taken with ⟨after, stepped, observed⟩
      exact Or.inl ⟨scan, after, active, stepped, observed.symm⟩
  · split at taken
    · cases taken
    · rename_i scan active
      rcases Option.map_eq_some_iff.mp taken with ⟨after, stepped, observed⟩
      exact Or.inl ⟨scan, after, active, stepped, observed.symm⟩
  · rcases Option.map_eq_some_iff.mp taken with ⟨after, stepped, observed⟩
    exact Or.inr ⟨after, stepped, observed.symm⟩

/-- One step of either party, when the flag is true. -/
theorem step_sound {state next : Scanner} {action : Action} (consistent : state.Consistent)
    (flagIsTrue : FlagIsTrue state action) (taken : step state action = some next) :
    Sound next := by
  rcases step_cases taken with ⟨scan, after, active, stepped, rfl⟩ | ⟨after, stepped, rfl⟩
  · exact driverStep_sound (consistent.returning none) rfl active stepped
  · exact (appStep_sound (consistent.returning none) rfl flagIsTrue stepped).observed

/-! ## Runs -/

/-- In every run whose starts find the flag true, every call keeps its promise
when it returns. -/
theorem keepsPromise_of_flagIsTrue {actions : List Action} {final : Scanner}
    (guarded : Transition.Guarded step FlagIsTrue .initial actions)
    (reached : Transition.run step .initial actions = some final) : final.KeepsPromise := by
  have preserved : ∀ state action next, Sound state → FlagIsTrue state action →
      step state action = some next → Sound next :=
    fun _ _ _ sound allowed taken => step_sound sound.consistent allowed taken
  have initially : Sound .initial := sound_of_silent Scanner.initial_consistent rfl
  exact (Transition.invariant_run preserved initially guarded reached).promise

/-! ## The guard is exact -/

/-- A start that finds the flag set without a scan returns true at once, and
breaks its promise. -/
theorem breaks_of_not_flagIsTrue {state next : Scanner} {action : Action}
    (false_ : ¬ FlagIsTrue state action)
    (taken : step state action = some next) : ¬ next.KeepsPromise := by
  unfold FlagIsTrue at false_
  rw [Classical.not_imp, Classical.not_imp, Classical.not_imp, not_not] at false_
  rcases false_ with ⟨starts, initialized, flag, inactive⟩
  rcases state with ⟨wifiInitialized, scanInProgress, scanTarget, active, nextScan, app, during,
    returned⟩
  subst initialized flag inactive
  have idle : app = .idle := by
    cases app with
    | idle => rfl
    | polling => cases action <;> first | exact absurd starts not_false | cases taken
    | collecting => cases action <;> first | exact absurd starts not_false | cases taken
  subst idle
  cases action with
  | scanStart succeeds =>
      cases taken
      exact fun keeps => keeps rfl
  | scan output succeeds =>
      cases output with
      | none => exact absurd starts not_false
      | some maxNetworks =>
          have nonzero : ¬ maxNetworks = 0 := starts
          simp only [step, appStep, callStep, wifiScan, if_neg nonzero, wifiScanStart,
            Bool.not_true, Bool.false_eq_true, if_false, if_true, Option.map_some,
            Option.some.injEq] at taken
          subst taken
          exact fun keeps => keeps rfl
  | _ => exact absurd starts not_false

/-! ## One network -/

/-- A result of a scan. -/
def homeResult : ScanResult where
  ssidLen := 4
  ssid := zeroed wifiSsidMaxLength (ascii "home")
  bssid := [2, 0, 0, 0, 0, 1]
  channel := 6
  authMode := 5
  rssi := -50
  ssidSize := length_zeroed _ _
  bssidSize := rfl

/-- The start of `WiFiScan` finds the flag that an unpolled scan left behind,
and the results of that scan are copied although no scan was active during the
call.  A start finds the same flag and returns true without a scan. -/
theorem promises_are_broken :
    (∃ final, Transition.run step .initial
        [.initializeWiFi true, .scanStart true, .deliver homeResult, .finish,
          .scan (some 8) true, .poll false, .collect] = some final ∧
      final.returned = some (.scan (some [⟨0, homeResult.network⟩])) ∧ final.during = [] ∧
      ¬ final.KeepsPromise) ∧
    ∃ final, Transition.run step .initial
        [.initializeWiFi true, .scanStart true, .finish, .scanStart true] = some final ∧
      final.returned = some (.scanStart true) ∧ final.active = none ∧ ¬ final.KeepsPromise := by
  refine ⟨⟨_, rfl, rfl, rfl, ?_⟩, _, rfl, rfl, rfl, ?_⟩
  · intro keeps
    cases keeps _ List.mem_cons_self
  · intro keeps
    exact keeps rfl

/-- The scan that ended is polled before the next one starts. -/
def polledScan : List Action :=
  [.initializeWiFi true, .scanStart true, .finish, .scanIsComplete, .scan (some 8) true,
    .deliver homeResult, .finish, .poll false, .collect]

theorem keepsPromise_polledScan :
    ∃ final, Transition.run step .initial polledScan = some final ∧
      final.returned = some (.scan (some [⟨1, homeResult.network⟩])) ∧ final.KeepsPromise :=
  ⟨_, rfl, rfl, @keepsPromise_of_flagIsTrue polledScan _ (by decide) rfl⟩

end Scan
end RP2040
end WiFi
end NetLL
