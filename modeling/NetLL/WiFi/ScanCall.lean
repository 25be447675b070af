import NetLL.WiFi.ScanResults

namespace NetLL
namespace WiFi
namespace RP2040
namespace ScanResults

/-!
# The scan that waits on RP2040

`WiFiScan` starts a scan, waits until it is complete, and collects the results.
While it waits the driver goes on, and delivers results.  The call is written
over the same board as the three functions that it calls, and leaves the board
in a state that those functions and the driver could have reached themselves.
Over the numbered scans, where the loop is a stage of the application, it is
the run that starts with the same call.

Nothing is assumed of the start.  A scan that is in progress already, or that
was aborted and has left its flag behind, is waited for as if it were new.
-/

/-- What the driver does while a call waits. -/
inductive Event where
  | deliver (result : Scan.ScanResult)
  | finish

def Event.action : Event → Action
  | .deliver result => .deliver result
  | .finish => .finish

/-- The board behind an event, which cannot happen when no scan is active. -/
def Board.meet (board : Board) (event : Event) : Board :=
  (step board event.action).getD board

/-- One round of the wait: the events before the test, and whether the deadline
has passed when the clock is read behind it. -/
structure Wait where
  events : List Event
  expired : Bool

def waitRound (board : Board) (wait : Wait) : Exec (Round Board (Bool × Board)) :=
  match wifiScanIsComplete (wait.events.foldl Board.meet board) with
  | (true, board) => .done (.stop (true, board))
  | (false, board) =>
      if wait.expired then .done (.stop (false, board)) else .done (.again board)

/-- The loop of `WiFiScan`: whether the scan was complete before the deadline. -/
def waitForScan (board : Board) (waits : List Wait) : Exec (Bool × Board) :=
  Exec.loop (fun _ => true) waitRound (fun board => (false, board)) waits board

/-- `WiFiScan`, with the outcome of `cyw43_wifi_scan` and the rounds of the wait. -/
def wifiScan (board : Board) (output : Output) (maxNetworks : UInt16) (accepts : Bool)
    (waits : List Wait) : Exec (Bool × Output × Board) :=
  match output.networks, output.foundNetworks with
  | some _, some _ =>
      if maxNetworks = 0 then .done (false, output, board)
      else
        let output := { output with foundNetworks := some 0 }
        match wifiScanStart board accepts with
        | (false, board) => .done (false, output, board)
        | (true, board) => do
            let (complete, board) ← waitForScan board waits
            if complete then .done (wifiScanGetResults board output maxNetworks)
            else .done (false, output, board)
  | _, _ => .done (false, output, board)

/-! ## What every call can rely on -/

/-- While the flag is set, the table holds what the latest scan has delivered.
A start that the driver refuses does not break this. -/
structure Scanned (board : Board) : Prop where
  flagged : board.driver.active = true → board.scanInProgress = true
  started : board.scanInProgress = true → board.scanTarget.maxNetworks = scanMaxNetworks
  holds : board.scanInProgress = true → board.scanTarget.Holds board.driver.delivered
  within : board.scanTarget.foundNetworks ≤ board.scanTarget.maxNetworks

theorem initial_scanned : Scanned .initial where
  flagged := Bool.noConfusion
  started := Bool.noConfusion
  holds := Bool.noConfusion
  within := Nat.le_refl _

theorem scanResultReceived_within {target : ScanTarget}
    (within : target.foundNetworks ≤ target.maxNetworks) (result : Scan.ScanResult) :
    (scanResultReceived target result).foundNetworks ≤
      (scanResultReceived target result).maxNetworks := by
  unfold scanResultReceived
  split
  · rename_i room
    exact room
  · exact within

theorem wifiInitialize_scanned {board : Board} (scanned : Scanned board) (succeeds : Bool) :
    Scanned (wifiInitialize board succeeds).2 := by
  unfold wifiInitialize
  split
  · exact scanned
  · split
    · exact scanned
    · exact ⟨scanned.flagged, scanned.started, scanned.holds, scanned.within⟩

/-- The flag stays behind when the scan is aborted. -/
theorem wifiDeinitialize_scanned {board : Board} (scanned : Scanned board) :
    Scanned <| wifiDeinitialize board := by
  unfold wifiDeinitialize
  split
  · exact scanned
  · exact ⟨Bool.noConfusion, scanned.started, scanned.holds, scanned.within⟩

theorem wifiScanStart_scanned {board : Board} (scanned : Scanned board) (accepts : Bool) :
    Scanned (wifiScanStart board accepts).2 := by
  unfold wifiScanStart
  split
  · exact scanned
  · split
    · exact scanned
    · rename_i idle
      cases accepts with
      | true =>
          exact ⟨fun _ => rfl, fun _ => rfl, fun _ => ScanTarget.cleared_holds _, Nat.zero_le _⟩
      | false =>
          have inactive : ¬ board.driver.active = true :=
            fun active => idle (scanned.flagged active)
          exact ⟨fun active => absurd active inactive, fun _ => rfl,
            fun flag => absurd flag idle, Nat.zero_le _⟩

theorem wifiScanIsComplete_scanned {board : Board} (scanned : Scanned board) :
    Scanned (wifiScanIsComplete board).2 := by
  unfold wifiScanIsComplete
  split
  · exact scanned
  · split
    · exact scanned
    · rename_i inactive
      exact ⟨fun active => absurd active inactive, Bool.noConfusion, Bool.noConfusion,
        scanned.within⟩

theorem wifiScanGetResults_scanned {board : Board} (scanned : Scanned board) (output : Output)
    (maxNetworks : UInt16) : Scanned (wifiScanGetResults board output maxNetworks).2.2 := by
  rcases wifiScanGetResults_board board output maxNetworks with same | tested
  · rw [same]
    exact scanned
  · rw [tested]
    exact wifiScanIsComplete_scanned scanned

theorem step_scanned {board next : Board} {action : Action} (scanned : Scanned board)
    (taken : step board action = some next) : Scanned next := by
  cases action with
  | initializeWiFi succeeds =>
      cases taken
      exact wifiInitialize_scanned scanned succeeds
  | deinitializeWiFi =>
      cases taken
      exact wifiDeinitialize_scanned scanned
  | scanStart accepts =>
      cases taken
      exact wifiScanStart_scanned scanned accepts
  | scanIsComplete =>
      cases taken
      exact wifiScanIsComplete_scanned scanned
  | scanGetResults output maxNetworks =>
      cases taken
      exact wifiScanGetResults_scanned scanned output maxNetworks
  | deliver result =>
      simp only [step] at taken
      split at taken
      · rename_i active
        cases taken
        have flag := scanned.flagged active
        have started := scanned.started flag
        exact ⟨scanned.flagged,
          fun _ => (scanResultReceived_maxNetworks board.scanTarget result).trans started,
          fun _ => (scanned.holds flag).receive started result,
          scanResultReceived_within scanned.within result⟩
      · cases taken
  | finish =>
      simp only [step] at taken
      split at taken
      · cases taken
        exact ⟨Bool.noConfusion, scanned.started, scanned.holds, scanned.within⟩
      · cases taken

/-- A board that the calls and the driver can lead to. -/
def Reached (board : Board) : Prop :=
  Transition.Reached step .initial board

theorem Reached.scanned {board : Board} (reached : Reached board) : Scanned board :=
  Transition.Reached.invariant (fun _ _ _ scanned taken => step_scanned scanned taken)
    initial_scanned reached

/-! ## The call as steps -/

theorem Reached.meet {board : Board} (reached : Reached board) (event : Event) :
    Reached (board.meet event) := by
  unfold Board.meet
  cases taken : step board event.action with
  | none => exact reached
  | some next => exact Transition.Reached.next reached taken

/-- The driver does not touch the flag. -/
theorem scanInProgress_meet (board : Board) (event : Event) :
    (board.meet event).scanInProgress = board.scanInProgress := by
  cases event <;> (simp only [Board.meet, Event.action, step]; split <;> rfl)

theorem Reached.meets {board : Board} (reached : Reached board) (events : List Event) :
    Reached (events.foldl Board.meet board) ∧
      (events.foldl Board.meet board).scanInProgress = board.scanInProgress := by
  induction events generalizing board with
  | nil => exact ⟨reached, rfl⟩
  | cons event rest inductionHypothesis =>
      rcases inductionHypothesis (reached.meet event) with ⟨next, same⟩
      exact ⟨next, same.trans (scanInProgress_meet board event)⟩

theorem Reached.isComplete {board : Board} (reached : Reached board) :
    Reached (wifiScanIsComplete board).2 := by
  have taken : step board .scanIsComplete = some (wifiScanIsComplete board).2 := rfl
  exact Transition.Reached.next reached taken

theorem Reached.start {board : Board} (reached : Reached board) (accepts : Bool) :
    Reached (wifiScanStart board accepts).2 := by
  have taken : step board (.scanStart accepts) = some (wifiScanStart board accepts).2 := rfl
  exact Transition.Reached.next reached taken

theorem wifiScanStart_true {board started : Board} {accepts : Bool}
    (succeeds : wifiScanStart board accepts = (true, started)) : started.scanInProgress = true := by
  unfold wifiScanStart at succeeds
  split at succeeds
  · cases succeeds
  · split at succeeds
    · rename_i flag
      cases succeeds
      exact flag
    · cases accepts <;> cases succeeds
      rfl

/-- The results of a scan that is complete are in the table. -/
def Collected (board : Board) : Prop :=
  board.scanInProgress = false ∧ board.scanTarget.Holds board.driver.delivered

/-- A scan that is found to be complete is collected, and the test that finds
it active changes nothing. -/
theorem wifiScanIsComplete_inProgress {board next : Board} {complete : Bool}
    (scanned : Scanned board) (flag : board.scanInProgress = true)
    (tested : wifiScanIsComplete board = (complete, next)) :
    (complete = true → Collected next) ∧ (complete = false → next = board) := by
  have holds := scanned.holds flag
  unfold wifiScanIsComplete at tested
  rw [flag] at tested
  cases active : board.driver.active with
  | true =>
      simp only [active] at tested
      cases tested
      exact ⟨Bool.noConfusion, fun _ => rfl⟩
  | false =>
      simp only [active] at tested
      cases tested
      exact ⟨fun _ => ⟨rfl, holds⟩, Bool.noConfusion⟩

/-- What is known of the board while a call waits. -/
structure Waits (board : Board) : Prop where
  reached : Reached board
  flag : board.scanInProgress = true

/-- A round goes on with a board that waits, or ends the wait on a board that
is collected or has run out of time. -/
def AfterRound : Round Board (Bool × Board) → Prop
  | .again next => Waits next
  | .stop result => Reached result.2 ∧ (result.1 = true → Collected result.2)

theorem waitRound_done {board : Board} {wait : Wait} {round : Round Board (Bool × Board)}
    (waits : Waits board) (finished : waitRound board wait = .done round) :
    AfterRound round := by
  rcases waits.reached.meets wait.events with ⟨reached, same⟩
  have flag := same.trans waits.flag
  have tested := reached.isComplete
  unfold waitRound at finished
  cases test : wifiScanIsComplete (wait.events.foldl Board.meet board) with
  | mk complete next =>
      rcases wifiScanIsComplete_inProgress reached.scanned flag test with ⟨collected, kept⟩
      rw [test] at finished tested
      cases complete with
      | true =>
          cases finished
          exact ⟨tested, collected⟩
      | false =>
          simp only at finished
          split at finished
          · cases finished
            exact ⟨tested, Bool.noConfusion⟩
          · cases finished
            rw [kept rfl]
            exact ⟨reached, flag⟩

theorem waitForScan_done {board after : Board} {waits : List Wait} {complete : Bool}
    (start : Waits board) (finished : waitForScan board waits = .done (complete, after)) :
    Reached after ∧ (complete = true → Collected after) := by
  have ends : AfterRound (.stop (complete, after)) := by
    refine @Exec.loop_done _ _ _ Waits (fun result => AfterRound (.stop result)) _ _ _
      ?_ ?_ ?_ _ _ _ start finished
    · rintro _ _ ⟨⟩
    · exact fun _ _ _ holds _ round => waitRound_done holds round
    · exact fun _ _ _ holds _ round => waitRound_done holds round
  exact ends

/-- The part of `WiFiScan` in front of the collection. -/
def startAndWait (board : Board) (accepts : Bool) (waits : List Wait) : Exec (Bool × Board) :=
  match wifiScanStart board accepts with
  | (false, board) => .done (false, board)
  | (true, board) => waitForScan board waits

theorem startAndWait_done {board after : Board} {accepts complete : Bool} {waits : List Wait}
    (reached : Reached board)
    (finished : startAndWait board accepts waits = .done (complete, after)) :
    Reached after ∧ (complete = true → Collected after) := by
  have started := reached.start accepts
  unfold startAndWait at finished
  cases start : wifiScanStart board accepts with
  | mk succeeds next =>
      rw [start] at finished started
      cases succeeds with
      | false =>
          cases finished
          exact ⟨started, Bool.noConfusion⟩
      | true => exact waitForScan_done ⟨started, wifiScanStart_true start⟩ finished

/-- The caller's array has a part in the collection only. -/
theorem wifiScan_eq (board : Board) (networks : List WiFiNetwork) (found : Nat)
    {maxNetworks : UInt16} (nonzero : maxNetworks ≠ 0) (accepts : Bool) (waits : List Wait) :
    wifiScan board ⟨some networks, some found⟩ maxNetworks accepts waits =
      startAndWait board accepts waits >>= fun scanned =>
        if scanned.1 then .done (wifiScanGetResults scanned.2 ⟨some networks, some 0⟩ maxNetworks)
        else .done (false, ⟨some networks, some 0⟩, scanned.2) := by
  unfold wifiScan startAndWait
  simp only [if_neg nonzero]
  cases wifiScanStart board accepts with
  | mk succeeds next => cases succeeds <;> rfl

/-- A call is turned away by its tests, gives up, or hands out the results of a
scan that is complete. -/
theorem wifiScan_cases {board : Board} {output : Output} {maxNetworks : UInt16} {accepts : Bool}
    {waits : List Wait} {result : Bool × Output × Board}
    (finished : wifiScan board output maxNetworks accepts waits = .done result) :
    (output.asks maxNetworks = none ∨ output.asks maxNetworks = some 0) ∧
        result = (false, output, board) ∨
      ∃ networks found complete next, output = ⟨some networks, some found⟩ ∧ maxNetworks ≠ 0 ∧
        startAndWait board accepts waits = .done (complete, next) ∧
        result = if complete then wifiScanGetResults next ⟨some networks, some 0⟩ maxNetworks
          else (false, ⟨some networks, some 0⟩, next) := by
  rcases output with ⟨networks, foundNetworks⟩
  cases networks with
  | none =>
      cases finished
      exact Or.inl ⟨Or.inl rfl, rfl⟩
  | some networks =>
      cases foundNetworks with
      | none =>
          cases finished
          exact Or.inl ⟨Or.inl rfl, rfl⟩
      | some found =>
          by_cases zero : maxNetworks = 0
          · simp only [wifiScan, if_pos zero] at finished
            cases finished
            exact Or.inl ⟨Or.inr (congrArg some zero), rfl⟩
          · rw [wifiScan_eq board networks found zero, Exec.bind_eq_done_iff] at finished
            rcases finished with ⟨⟨complete, next⟩, waited, handed⟩
            refine Or.inr ⟨networks, found, complete, next, rfl, zero, waited, ?_⟩
            cases complete with
            | true => exact (Exec.done.inj handed).symm
            | false => exact (Exec.done.inj handed).symm

/-- Results are handed out of a board that is collected, which stays as it is. -/
theorem wifiScanGetResults_of_idle {board : Board} (idle : board.scanInProgress = false)
    (networks : List WiFiNetwork) (found : Nat) {maxNetworks : UInt16}
    (nonzero : maxNetworks ≠ 0) :
    wifiScanGetResults board ⟨some networks, some found⟩ maxNetworks =
      (true,
        { networks := some (memcpy networks board.scanTarget.scanNetworks.toList
            (min board.scanTarget.foundNetworks maxNetworks.toNat))
          foundNetworks := some (min board.scanTarget.foundNetworks maxNetworks.toNat) },
        board) := by
  have tested : wifiScanIsComplete board = (true, board) := by
    unfold wifiScanIsComplete
    rw [idle]
    rfl
  unfold wifiScanGetResults
  simp only [if_neg nonzero, tested, copyCount_eq_min]

/-- A call that is done leaves a board that can be reached, and one that
returns true has handed out what is collected there. -/
theorem wifiScan_done {board after : Board} (reached : Reached board) {output written : Output}
    {maxNetworks : UInt16} {accepts returned : Bool} {waits : List Wait}
    (finished : wifiScan board output maxNetworks accepts waits = .done (returned, written, after)) :
    Reached after ∧ (returned = true → Collected after ∧
      wifiScanGetResults after output maxNetworks = (true, written, after)) := by
  rcases wifiScan_cases finished with ⟨_, refused⟩ | ⟨networks, found, complete, next, rfl, nonzero,
    waited, handed⟩
  · cases refused
    exact ⟨reached, Bool.noConfusion⟩
  · rcases startAndWait_done reached waited with ⟨reachedNext, collected⟩
    cases complete with
    | false =>
        cases handed
        exact ⟨reachedNext, Bool.noConfusion⟩
    | true =>
        have idle := (collected rfl).1
        rw [if_pos rfl, wifiScanGetResults_of_idle idle networks 0 nonzero] at handed
        cases handed
        exact ⟨reachedNext, fun _ => ⟨collected rfl,
          wifiScanGetResults_of_idle idle networks found nonzero⟩⟩

/-! ## The same call over numbered scans -/

/-- The driver does not see where the application is. -/
theorem scanner_event (scanner : Scan.Scanner) (app : Scan.AppStage) (event : Event) :
    Scan.step { scanner with app := app } event.action.call =
      (Scan.step scanner event.action.call).map fun next => { next with app := app } := by
  cases active : scanner.active <;> cases event <;>
    simp only [Event.action, Action.call, Scan.step, active] <;> rfl

theorem scanner_wifiScanIsComplete (scanner : Scan.Scanner) (app : Scan.AppStage) :
    Scan.wifiScanIsComplete { scanner with app := app } =
      ((Scan.wifiScanIsComplete scanner).1,
        { (Scan.wifiScanIsComplete scanner).2 with app := app }) := by
  unfold Scan.wifiScanIsComplete
  split
  · rfl
  · split <;> rfl

theorem scanner_wifiScanGetResults (scanner : Scan.Scanner) (app : Scan.AppStage)
    (output : Option UInt16) :
    Scan.wifiScanGetResults { scanner with app := app } output =
      ((Scan.wifiScanGetResults scanner output).1,
        { (Scan.wifiScanGetResults scanner output).2 with app := app }) := by
  cases output with
  | none => rfl
  | some maxNetworks =>
      unfold Scan.wifiScanGetResults
      by_cases zero : maxNetworks = 0
      · simp only [if_pos zero]
      · simp only [if_neg zero, scanner_wifiScanIsComplete]
        cases Scan.wifiScanIsComplete scanner with
        | mk complete next => cases complete <;> rfl

/-- Steps of the scanner lead to this stage of the call, at this board. -/
def LeadsTo (first : Scan.Scanner) (app : Scan.AppStage) (board : Board) : Prop :=
  ∃ scanner, Represents board scanner ∧
    Transition.Reached Scan.step first { scanner with app := app }

/-- An event that can happen is a step of the scanner. -/
theorem LeadsTo.meet {first : Scan.Scanner} {app : Scan.AppStage} {board : Board}
    (leads : LeadsTo first app board) (event : Event) : LeadsTo first app (board.meet event) := by
  rcases leads with ⟨scanner, represents, reached⟩
  have together := represents.step event.action
  have moved := scanner_event scanner app event
  unfold Board.meet
  cases taken : step board event.action with
  | none => exact ⟨scanner, represents, reached⟩
  | some next =>
      cases answer : Scan.step scanner event.action.call with
      | none =>
          rw [taken, answer] at together
          cases together
      | some after =>
          rw [taken, answer] at together
          rw [answer] at moved
          cases together with
          | some agree => exact ⟨after, agree, Transition.Reached.next reached moved⟩

theorem LeadsTo.meets {first : Scan.Scanner} {app : Scan.AppStage} {board : Board}
    (leads : LeadsTo first app board) (events : List Event) :
    LeadsTo first app (events.foldl Board.meet board) := by
  induction events generalizing board with
  | nil => exact leads
  | cons event rest inductionHypothesis => exact inductionHypothesis (leads.meet event)

/-- Steps of the scanner lead to the end of the call, which returns what the
caller finds. -/
def Returns (first : Scan.Scanner) (result : Bool × Output × Board) : Prop :=
  ∃ scanner copied, Represents result.2.2 scanner ∧ Hands result copied ∧
    scanner.returned = some (.scan copied) ∧ Transition.Reached Scan.step first scanner

/-- What a round makes of the loop. -/
def RoundLeadsTo (first : Scan.Scanner) (maxNetworks : UInt16) : Round Board (Bool × Board) → Prop
  | .again board => LeadsTo first (.polling maxNetworks) board
  | .stop (true, board) => LeadsTo first (.collecting maxNetworks) board
  | .stop (false, board) => ∀ output, Returns first (false, output, board)

theorem waitRound_leadsTo {first : Scan.Scanner} {board : Board} {maxNetworks : UInt16}
    {wait : Wait} {round : Round Board (Bool × Board)}
    (leads : LeadsTo first (.polling maxNetworks) board)
    (finished : waitRound board wait = .done round) : RoundLeadsTo first maxNetworks round := by
  rcases leads.meets wait.events with ⟨scanner, represents, reached⟩
  have silent := represents.returning none scanner.during
  rcases silent.isComplete with ⟨same, after⟩
  have taken : Scan.step { scanner with app := .polling maxNetworks } (.poll wait.expired) =
      some (Scan.Scanner.observed (Scan.wifiScanPoll
        { { scanner with returned := none } with app := .polling maxNetworks } maxNetworks
        wait.expired)) :=
    rfl
  rw [Scan.wifiScanPoll, scanner_wifiScanIsComplete] at taken
  unfold waitRound at finished
  cases test : wifiScanIsComplete (wait.events.foldl Board.meet board) with
  | mk complete next =>
      cases listed : Scan.wifiScanIsComplete { scanner with returned := none } with
      | mk listedComplete listedNext =>
          rw [test, listed] at same after
          rw [test] at finished
          rw [listed] at taken
          cases same
          cases complete with
          | true =>
              cases finished
              exact ⟨_, after.observed, Transition.Reached.next reached taken⟩
          | false =>
              cases expired : wait.expired with
              | true =>
                  simp only [expired] at finished taken
                  cases finished
                  intro output
                  refine ⟨_, none, ?_, rfl, ?_, Transition.Reached.next reached taken⟩
                  · exact ⟨after.initialized, after.flag, after.active, rfl, after.target⟩
                  · rfl
              | false =>
                  simp only [expired] at finished taken
                  cases finished
                  exact ⟨_, after.observed, Transition.Reached.next reached taken⟩

theorem waitForScan_leadsTo {first : Scan.Scanner} {board : Board} {maxNetworks : UInt16}
    {waits : List Wait} {result : Bool × Board}
    (leads : LeadsTo first (.polling maxNetworks) board)
    (finished : waitForScan board waits = .done result) :
    RoundLeadsTo first maxNetworks (.stop result) := by
  refine @Exec.loop_done _ _ _ (LeadsTo first (.polling maxNetworks))
    (fun result => RoundLeadsTo first maxNetworks (.stop result)) _ _ _ ?_ ?_ ?_ _ _ _ leads finished
  · rintro _ _ ⟨⟩
  · exact fun _ _ _ leads _ round => waitRound_leadsTo leads round
  · exact fun _ _ _ leads _ round => waitRound_leadsTo leads round

theorem LeadsTo.collect {first : Scan.Scanner} {board : Board} {maxNetworks : UInt16}
    (leads : LeadsTo first (.collecting maxNetworks) board) (networks : List WiFiNetwork)
    (found : Nat) :
    Returns first (wifiScanGetResults board ⟨some networks, some found⟩ maxNetworks) := by
  rcases leads with ⟨scanner, represents, reached⟩
  have silent := represents.returning none scanner.during
  rcases silent.getResults ⟨some networks, some found⟩ maxNetworks with ⟨hands, after⟩
  have taken : Scan.step { scanner with app := .collecting maxNetworks } .collect =
      some (Scan.Scanner.observed (Scan.wifiScanCollect
        { { scanner with returned := none } with app := .collecting maxNetworks } maxNetworks)) :=
    rfl
  rw [Scan.wifiScanCollect, scanner_wifiScanGetResults] at taken
  refine ⟨_, _, ?_, hands, ?_, Transition.Reached.next reached taken⟩
  · exact ⟨after.initialized, after.flag, after.active, rfl, after.target⟩
  · rfl

/-- The call of the scanner at rest, as far as its loop. -/
theorem scanner_scan {scanner : Scan.Scanner} (idle : scanner.app = .idle)
    (asked : Option UInt16) (accepts : Bool) :
    Scan.step scanner (.scan asked accepts) = some (Scan.Scanner.observed (Scan.wifiScan
      { scanner with returned := none, during := scanner.active.toList } asked accepts)) := by
  simp only [Scan.step, Scan.appStep, idle]
  rfl

theorem startAndWait_leadsTo {board : Board} {scanner : Scan.Scanner}
    (represents : Represents board scanner) {maxNetworks : UInt16} (nonzero : maxNetworks ≠ 0)
    {accepts : Bool} {waits : List Wait} {result : Bool × Board}
    (finished : startAndWait board accepts waits = .done result) :
    ∃ called, Scan.step scanner (.scan (some maxNetworks) accepts) = some called ∧
      RoundLeadsTo called maxNetworks (.stop result) := by
  have taken := scanner_scan represents.idle (some maxNetworks) accepts
  have silent := represents.returning none scanner.active.toList
  rcases silent.start accepts with ⟨same, after⟩
  simp only [Scan.wifiScan, if_neg nonzero] at taken
  unfold startAndWait at finished
  cases start : wifiScanStart board accepts with
  | mk succeeds next =>
      cases listed : Scan.wifiScanStart
          { scanner with returned := none, during := scanner.active.toList } accepts with
      | mk listedSucceeds listedNext =>
          rw [start, listed] at same after
          rw [start] at finished
          rw [listed] at taken
          cases same
          cases succeeds with
          | false =>
              cases finished
              have agree := (after.returning (some (.scan none)) listedNext.during).observed
              exact ⟨_, taken, fun output => ⟨_, none, agree, rfl, rfl, [], rfl⟩⟩
          | true =>
              have agree := (after.returning (some (.scanStart true)) listedNext.during).observed
              exact ⟨_, taken, waitForScan_leadsTo ⟨_, agree, [], rfl⟩ finished⟩

theorem returns_of_refused {board : Board} {scanner : Scan.Scanner}
    (represents : Represents board scanner) {asked : Option UInt16}
    (refused : asked = none ∨ asked = some 0) (accepts : Bool) (output : Output) :
    ∃ called, Scan.step scanner (.scan asked accepts) = some called ∧
      Returns called (false, output, board) := by
  have silent := represents.returning (some (.scan none)) scanner.active.toList
  refine ⟨_, (scanner_scan represents.idle asked accepts).trans ?_,
    ⟨_, none, silent.observed, rfl, rfl, [], rfl⟩⟩
  rcases refused with absent | zero
  · rw [absent]
    rfl
  · rw [zero]
    rfl

/-- A call of `WiFiScan` that is done is a run of the numbered scans from the
same call, and returns what the caller finds. -/
theorem wifiScan_returns {board : Board} {scanner : Scan.Scanner}
    (represents : Represents board scanner) {output : Output} {maxNetworks : UInt16}
    {accepts : Bool} {waits : List Wait} {result : Bool × Output × Board}
    (finished : wifiScan board output maxNetworks accepts waits = .done result) :
    ∃ called, Scan.step scanner (.scan (output.asks maxNetworks) accepts) = some called ∧
      Returns called result := by
  rcases wifiScan_cases finished with ⟨refused, rfl⟩ | ⟨networks, found, complete, next, rfl,
    nonzero, waited, rfl⟩
  · exact returns_of_refused represents refused accepts output
  · rcases startAndWait_leadsTo represents nonzero waited with ⟨called, taken, leads⟩
    refine ⟨called, taken, ?_⟩
    cases complete with
    | true => exact leads.collect networks 0
    | false => exact leads ⟨some networks, some 0⟩

end ScanResults
end RP2040
end WiFi
end NetLL
