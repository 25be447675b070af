import NetLL.Library.Table
import NetLL.WiFi.Freshness

namespace NetLL
namespace WiFi
namespace RP2040
namespace ScanResults

/-!
# Collecting the results of a scan on RP2040

`WiFiScanStart`, `WiFiScanIsComplete` and `WiFiScanGetResults` over the static
array `scanNetworks` that they share with `ScanResultReceived`, and the caller's
array that the results are copied to.  The driver remembers the results that
its latest scan has delivered.  The code does not see them again; they say what
a caller should be given.

`WiFiScanStart` clears the table before it asks the driver.  When the driver
refuses, the results of the scan before are gone, and nothing tells
`WiFiScanGetResults` so.
-/

/-- `scanTarget`, with the array `scanNetworks` that it points to. -/
structure ScanTarget where
  scanNetworks : Vector WiFiNetwork scanMaxNetworks
  maxNetworks : Nat
  foundNetworks : Nat
  bounded : maxNetworks ≤ scanMaxNetworks

/-- An entry of zeros. -/
def blank : WiFiNetwork where
  ssid := zeroed (wifiSsidMaxLength + 1) []
  bssid := zeroed wifiBssidLength []
  channel := 0
  authMode := .unknown
  rssi := 0
  ssidSize := length_zeroed _ _
  bssidSize := length_zeroed _ _

/-- The static storage before any call. -/
def ScanTarget.initial : ScanTarget where
  scanNetworks := Vector.replicate scanMaxNetworks blank
  maxNetworks := 0
  foundNetworks := 0
  bounded := Nat.zero_le _

/-- What `WiFiScanStart` assigns; the array keeps its entries. -/
def ScanTarget.cleared (target : ScanTarget) : ScanTarget :=
  { target with maxNetworks := scanMaxNetworks, foundNetworks := 0, bounded := Nat.le_refl _ }

/-- `ScanResultReceived`. -/
def scanResultReceived (target : ScanTarget) (result : Scan.ScanResult) : ScanTarget :=
  if room : target.foundNetworks < target.maxNetworks then
    { target with
      scanNetworks := target.scanNetworks.set target.foundNetworks result.network
        (Nat.lt_of_lt_of_le room target.bounded)
      foundNetworks := target.foundNetworks + 1 }
  else target

/-- The driver: whether a scan is active, and what the scan that it accepted
last has delivered so far. -/
structure Driver where
  active : Bool
  delivered : List Scan.ScanResult

/-- `cyw43_wifi_scan`, with its outcome. -/
def cyw43WifiScan (driver : Driver) (accepts : Bool) : Bool × Driver :=
  if accepts then (true, { active := true, delivered := [] }) else (false, driver)

structure Board where
  wifiInitialized : Bool
  scanInProgress : Bool
  scanTarget : ScanTarget
  driver : Driver

def Board.initial : Board where
  wifiInitialized := false
  scanInProgress := false
  scanTarget := .initial
  driver := { active := false, delivered := [] }

/-! ## The functions -/

/-- `WiFiInitialize`, with the success of `cyw43_arch_init`. -/
def wifiInitialize (board : Board) (succeeds : Bool) : Bool × Board :=
  if board.wifiInitialized then (true, board)
  else if !succeeds then (false, board)
  else (true, { board with wifiInitialized := true })

/-- `WiFiDeinitialize`; `cyw43_arch_deinit` aborts the active scan. -/
def wifiDeinitialize (board : Board) : Board :=
  if !board.wifiInitialized then board
  else { board with wifiInitialized := false, driver := { board.driver with active := false } }

/-- `WiFiScanStart`, with the outcome of `cyw43_wifi_scan`. -/
def wifiScanStart (board : Board) (accepts : Bool) : Bool × Board :=
  if !board.wifiInitialized then (false, board)
  else if board.scanInProgress then (true, board)
  else
    -- the table is cleared before the driver is asked
    let board := { board with scanTarget := board.scanTarget.cleared }
    match cyw43WifiScan board.driver accepts with
    | (false, driver) => (false, { board with driver := driver })
    | (true, driver) => (true, { board with driver := driver, scanInProgress := true })

/-- `WiFiScanIsComplete`. -/
def wifiScanIsComplete (board : Board) : Bool × Board :=
  if !board.scanInProgress then (true, board)
  else if board.driver.active then (false, board)
  else (true, { board with scanInProgress := false })

/-- What the two pointers of the caller point to, when they are not null. -/
structure Output where
  networks : Option (List WiFiNetwork)
  foundNetworks : Option Nat

/-- `memcpy` of whole entries. -/
def memcpy (networks source : List WiFiNetwork) (count : Nat) : List WiFiNetwork :=
  source.take count ++ networks.drop count

/-- `WiFiScanGetResults`. -/
def wifiScanGetResults (board : Board) (output : Output) (maxNetworks : UInt16) :
    Bool × Output × Board :=
  match output.networks, output.foundNetworks with
  | some networks, some _ =>
      if maxNetworks = 0 then (false, output, board)
      else
        match wifiScanIsComplete board with
        | (false, board) => (false, output, board)
        | (true, board) =>
            let found := board.scanTarget.foundNetworks
            let count := if found > maxNetworks.toNat then maxNetworks.toNat else found
            (true,
              { networks := some (memcpy networks board.scanTarget.scanNetworks.toList count)
                foundNetworks := some count },
              board)
  | _, _ => (false, output, board)

/-! ## Steps -/

/-- The calls, and the events of the driver. -/
inductive Action where
  | initializeWiFi (succeeds : Bool)
  | deinitializeWiFi
  | scanStart (accepts : Bool)
  | scanIsComplete
  | scanGetResults (output : Output) (maxNetworks : UInt16)
  | deliver (result : Scan.ScanResult)
  | finish

/-- One call, or one event of a scan that is active. -/
def step (board : Board) : Action → Option Board
  | .initializeWiFi succeeds => some (wifiInitialize board succeeds).2
  | .deinitializeWiFi => some <| wifiDeinitialize board
  | .scanStart accepts => some (wifiScanStart board accepts).2
  | .scanIsComplete => some (wifiScanIsComplete board).2
  | .scanGetResults output maxNetworks => some (wifiScanGetResults board output maxNetworks).2.2
  | .deliver result =>
      if board.driver.active then
        some { board with
          scanTarget := scanResultReceived board.scanTarget result
          driver := { board.driver with delivered := board.driver.delivered ++ [result] } }
      else none
  | .finish =>
      if board.driver.active then
        some { board with driver := { board.driver with active := false } }
      else none

/-! ## What a caller should be given -/

/-- The first results of the latest scan are in the caller's array, as many as
the table and the caller allow, and the array is otherwise as it was. -/
def Exact (delivered : List Scan.ScanResult) (output : Output) (maxNetworks : UInt16)
    (written : Output) : Prop :=
  ∃ networks copied count, output.networks = some networks ∧ written.networks = some copied ∧
    written.foundNetworks = some count ∧
    count = min delivered.length (min scanMaxNetworks maxNetworks.toNat) ∧
    ∀ index, copied[index]? =
      if index < count then delivered[index]?.map Scan.ScanResult.network else networks[index]?

/-- Whenever `WiFiScanGetResults` returns true here, its results are exact. -/
def ResultsExact (board : Board) : Prop :=
  ∀ output maxNetworks written after,
    wifiScanGetResults board output maxNetworks = (true, written, after) →
      Exact board.driver.delivered output maxNetworks written

/-- A start that the driver refuses finds no scan in progress only when there
are no results in the table. -/
def LosesNothing (board : Board) : Action → Prop
  | .scanStart false =>
      board.wifiInitialized = true → board.scanInProgress = false →
        board.scanTarget.foundNetworks = 0
  | _ => True

/-! ## The table -/

theorem scanResultReceived_maxNetworks (target : ScanTarget) (result : Scan.ScanResult) :
    (scanResultReceived target result).maxNetworks = target.maxNetworks := by
  unfold scanResultReceived
  split <;> rfl

namespace ScanTarget

/-- The array with the number of entries in it. -/
def table (target : ScanTarget) : Table WiFiNetwork scanMaxNetworks where
  slots := target.scanNetworks
  count := target.foundNetworks

/-- The table was empty, and has been given these results since. -/
def Holds (target : ScanTarget) (delivered : List Scan.ScanResult) : Prop :=
  ∃ slots, target.table = (Table.mk slots 0).fill (delivered.map Scan.ScanResult.network)

theorem initial_holds : initial.Holds [] :=
  ⟨_, rfl⟩

theorem cleared_holds (target : ScanTarget) : target.cleared.Holds [] :=
  ⟨target.scanNetworks, rfl⟩

/-- With the limit that a start assigns, a result goes to the table. -/
theorem Holds.receive {target : ScanTarget} {delivered : List Scan.ScanResult}
    (holds : target.Holds delivered) (started : target.maxNetworks = scanMaxNetworks)
    (result : Scan.ScanResult) :
    (scanResultReceived target result).Holds (delivered ++ [result]) := by
  rcases holds with ⟨slots, filled⟩
  have pushed : (scanResultReceived target result).table = target.table.push result.network := by
    unfold scanResultReceived Table.push
    by_cases room : target.foundNetworks < target.maxNetworks
    · have slot : target.table.count < scanMaxNetworks := Nat.lt_of_lt_of_eq room started
      rw [dif_pos room, dif_pos slot]
      rfl
    · have full : ¬ target.table.count < scanMaxNetworks :=
        fun slot => room (Nat.lt_of_lt_of_eq slot started.symm)
      rw [dif_neg room, dif_neg full]
  refine ⟨slots, ?_⟩
  rw [List.map_append, Table.fill_append, ← filled, pushed]
  rfl

theorem Holds.found {target : ScanTarget} {delivered : List Scan.ScanResult}
    (holds : target.Holds delivered) :
    target.foundNetworks = min scanMaxNetworks delivered.length := by
  rcases holds with ⟨slots, filled⟩
  change target.table.count = _
  rw [filled, Table.count_fill _ (Nat.zero_le _), List.length_map, Nat.zero_add]

theorem Holds.entry {target : ScanTarget} {delivered : List Scan.ScanResult}
    (holds : target.Holds delivered) {index : Nat} (stored : index < target.foundNetworks) :
    target.scanNetworks.toList[index]? = delivered[index]?.map Scan.ScanResult.network := by
  have within := stored
  rw [holds.found] at within
  rcases holds with ⟨slots, filled⟩
  change target.table.slots.toList[index]? = _
  rw [filled, Table.slots_fill_empty _ _ (by rwa [List.length_map]), List.getElem?_map]

end ScanTarget

theorem getElem?_memcpy (networks : List WiFiNetwork) {source : List WiFiNetwork} {count : Nat}
    (enough : count ≤ source.length) (index : Nat) :
    (memcpy networks source count)[index]? =
      if index < count then source[index]? else networks[index]? := by
  have size : (source.take count).length = count := by
    rw [List.length_take, Nat.min_eq_left enough]
  unfold memcpy
  by_cases inside : index < count
  · rw [if_pos inside, List.getElem?_append_left (by rwa [size]), List.getElem?_take_of_lt inside]
  · have behind : count ≤ index := Nat.le_of_not_lt inside
    rw [if_neg inside, List.getElem?_append_right (by rwa [size]), size, List.getElem?_drop,
      Nat.add_sub_cancel' behind]

/-! ## The invariant -/

/-- An active scan has its flag and a cleared limit, and the table holds what
the latest scan has delivered. -/
structure Consistent (board : Board) : Prop where
  flagged : board.driver.active = true → board.scanInProgress = true
  started : board.driver.active = true → board.scanTarget.maxNetworks = scanMaxNetworks
  holds : board.scanTarget.Holds board.driver.delivered

theorem initial_consistent : Consistent .initial where
  flagged := Bool.noConfusion
  started := Bool.noConfusion
  holds := ScanTarget.initial_holds

theorem wifiScanIsComplete_frame (board : Board) :
    (wifiScanIsComplete board).2.driver = board.driver ∧
      (wifiScanIsComplete board).2.scanTarget = board.scanTarget := by
  unfold wifiScanIsComplete
  split
  · exact ⟨rfl, rfl⟩
  · split <;> exact ⟨rfl, rfl⟩

theorem wifiScanIsComplete_consistent {board : Board} (consistent : Consistent board) :
    Consistent (wifiScanIsComplete board).2 := by
  unfold wifiScanIsComplete
  split
  · exact consistent
  · split
    · exact consistent
    · rename_i inactive
      exact ⟨fun active => absurd active inactive, consistent.started, consistent.holds⟩

/-- The board that `WiFiScanGetResults` leaves is the same, or the one that the
test leaves. -/
theorem wifiScanGetResults_board (board : Board) (output : Output) (maxNetworks : UInt16) :
    (wifiScanGetResults board output maxNetworks).2.2 = board ∨
      (wifiScanGetResults board output maxNetworks).2.2 = (wifiScanIsComplete board).2 := by
  unfold wifiScanGetResults
  split
  · split
    · exact Or.inl rfl
    · right
      split <;> rename_i tested <;> rw [tested]
  · exact Or.inl rfl

theorem copyCount_eq_min (found limit : Nat) :
    (if found > limit then limit else found) = min found limit := by
  split <;> omega

/-- When `WiFiScanGetResults` returns true it has copied the front of the
table. -/
theorem wifiScanGetResults_true {board after : Board} {output written : Output}
    {maxNetworks : UInt16}
    (copied : wifiScanGetResults board output maxNetworks = (true, written, after)) :
    ∃ networks, output.networks = some networks ∧
      written.networks = some (memcpy networks board.scanTarget.scanNetworks.toList
        (min board.scanTarget.foundNetworks maxNetworks.toNat)) ∧
      written.foundNetworks = some (min board.scanTarget.foundNetworks maxNetworks.toNat) := by
  have frame := (wifiScanIsComplete_frame board).2
  unfold wifiScanGetResults at copied
  split at copied
  · rename_i networks _ given _
    split at copied
    · cases copied
    · split at copied
      · cases copied
      · rename_i tested
        rw [tested] at frame
        cases copied
        rw [copyCount_eq_min, frame]
        exact ⟨networks, given, rfl, rfl⟩
  · cases copied

/-- What is copied from a table with the results of the latest scan is exact. -/
theorem resultsExact_of_holds {board : Board}
    (holds : board.scanTarget.Holds board.driver.delivered) : ResultsExact board := by
  intro output maxNetworks written after copied
  rcases wifiScanGetResults_true copied with ⟨networks, given, copy, found⟩
  have stored := holds.found
  have enough : min board.scanTarget.foundNetworks maxNetworks.toNat ≤
      board.scanTarget.scanNetworks.toList.length := by
    rw [Vector.length_toList, stored]
    omega
  refine ⟨networks, _, _, given, copy, found, by rw [stored]; omega, fun index => ?_⟩
  rw [getElem?_memcpy networks enough]
  by_cases inside : index < min board.scanTarget.foundNetworks maxNetworks.toNat
  · rw [if_pos inside, if_pos inside, holds.entry (by omega)]
  · rw [if_neg inside, if_neg inside]

/-- What a consistent board gives its callers is exact. -/
theorem Consistent.resultsExact {board : Board} (consistent : Consistent board) :
    ResultsExact board :=
  resultsExact_of_holds consistent.holds

/-! ## One step -/

/-- A start that loses nothing leaves what the latest scan has delivered. -/
theorem wifiScanStart_consistent {board : Board} (consistent : Consistent board) {accepts : Bool}
    (allowed : LosesNothing board (.scanStart accepts)) :
    Consistent (wifiScanStart board accepts).2 := by
  unfold wifiScanStart
  split
  · exact consistent
  · rename_i initialized
    split
    · exact consistent
    · rename_i idle
      have inactive : ¬ board.driver.active = true := fun active => idle (consistent.flagged active)
      cases accepts with
      | true =>
          exact ⟨fun _ => rfl, fun _ => rfl, ScanTarget.cleared_holds _⟩
      | false =>
          refine ⟨fun active => absurd active inactive, fun active => absurd active inactive, ?_⟩
          have empty := allowed (by simpa using initialized) (by simpa using idle)
          rw [consistent.holds.found] at empty
          have none_ : board.driver.delivered = [] := by
            apply List.eq_nil_of_length_eq_zero
            have room : 0 < scanMaxNetworks := by decide
            omega
          change board.scanTarget.cleared.Holds board.driver.delivered
          rw [none_]
          exact ScanTarget.cleared_holds _

theorem wifiInitialize_consistent {board : Board} (consistent : Consistent board)
    (succeeds : Bool) : Consistent (wifiInitialize board succeeds).2 := by
  unfold wifiInitialize
  split
  · exact consistent
  · split
    · exact consistent
    · exact ⟨consistent.flagged, consistent.started, consistent.holds⟩

/-- The table keeps what the aborted scan has delivered. -/
theorem wifiDeinitialize_consistent {board : Board} (consistent : Consistent board) :
    Consistent <| wifiDeinitialize board := by
  unfold wifiDeinitialize
  split
  · exact consistent
  · exact ⟨Bool.noConfusion, Bool.noConfusion, consistent.holds⟩

theorem wifiScanGetResults_consistent {board : Board} (consistent : Consistent board)
    (output : Output) (maxNetworks : UInt16) :
    Consistent (wifiScanGetResults board output maxNetworks).2.2 := by
  rcases wifiScanGetResults_board board output maxNetworks with same | tested
  · rw [same]
    exact consistent
  · rw [tested]
    exact wifiScanIsComplete_consistent consistent

/-- A result goes to the table and to the record of the driver alike. -/
theorem received_consistent {board : Board} (consistent : Consistent board)
    (active : board.driver.active = true) (result : Scan.ScanResult) :
    Consistent { board with
      scanTarget := scanResultReceived board.scanTarget result
      driver := { board.driver with delivered := board.driver.delivered ++ [result] } } := by
  have started := consistent.started active
  refine ⟨consistent.flagged, fun _ => ?_, consistent.holds.receive started result⟩
  exact (scanResultReceived_maxNetworks board.scanTarget result).trans started

theorem step_consistent {board next : Board} {action : Action} (consistent : Consistent board)
    (allowed : LosesNothing board action) (taken : step board action = some next) :
    Consistent next := by
  cases action with
  | initializeWiFi succeeds =>
      cases taken
      exact wifiInitialize_consistent consistent succeeds
  | deinitializeWiFi =>
      cases taken
      exact wifiDeinitialize_consistent consistent
  | scanStart accepts =>
      cases taken
      exact wifiScanStart_consistent consistent allowed
  | scanIsComplete =>
      cases taken
      exact wifiScanIsComplete_consistent consistent
  | scanGetResults output maxNetworks =>
      cases taken
      exact wifiScanGetResults_consistent consistent output maxNetworks
  | deliver result =>
      simp only [step] at taken
      split at taken
      · rename_i active
        cases taken
        exact received_consistent consistent active result
      · cases taken
  | finish =>
      simp only [step] at taken
      split at taken
      · cases taken
        exact ⟨Bool.noConfusion, Bool.noConfusion, consistent.holds⟩
      · cases taken

/-- An action that is not possible is one of the driver. -/
theorem losesNothing_of_stuck {board : Board} {action : Action} (stuck : step board action = none) :
    LosesNothing board action := by
  cases action with
  | deliver | finish => trivial
  | _ => cases stuck

/-- The start that the driver refuses has cleared the table, and the caller who
asks for the results is given none of them. -/
theorem losesNothing_of_resultsExact {board next : Board} {action : Action}
    (consistent : Consistent board) (taken : step board action = some next)
    (exact_ : ResultsExact next) : LosesNothing board action := by
  cases action with
  | scanStart accepts =>
      cases accepts with
      | true => trivial
      | false =>
          intro initialized idle
          cases taken
          -- one entry of the caller's array is enough to tell
          have left : (wifiScanStart board false).2 =
              { board with scanTarget := board.scanTarget.cleared } := by
            simp [wifiScanStart, cyw43WifiScan, initialized, idle]
          rw [left] at exact_
          have asked : wifiScanGetResults { board with scanTarget := board.scanTarget.cleared }
              { networks := some [blank], foundNetworks := some 0 } 1 =
                (true, { networks := some [blank], foundNetworks := some 0 },
                  { board with scanTarget := board.scanTarget.cleared }) := by
            simp [wifiScanGetResults, wifiScanIsComplete, idle, ScanTarget.cleared, memcpy]
          rcases exact_ _ _ _ _ asked with ⟨_, _, count, _, _, found, counted, _⟩
          cases found
          rw [consistent.holds.found]
          change 0 = min board.driver.delivered.length (min scanMaxNetworks 1) at counted
          have room : 0 < scanMaxNetworks := by decide
          omega
  | _ => trivial

/-! ## Runs -/

/-- In every state of a run the results are exact, if and only if no start of
the run that the driver refuses finds results in the table. -/
theorem resultsExact_iff (actions : List Action) :
    Transition.Always step ResultsExact .initial actions ↔
      Transition.Guarded step LosesNothing .initial actions :=
  Transition.always_iff_guarded (fun _ => Consistent.resultsExact)
    (fun _ _ _ consistent allowed taken => step_consistent consistent allowed taken)
    (fun _ _ _ consistent taken exact_ => losesNothing_of_resultsExact consistent taken exact_)
    (fun _ _ stuck => losesNothing_of_stuck stuck) initial_consistent

/-- The results of a complete scan, before and after a start that the driver
refuses: one network, and then none, with the result true both times. -/
theorem refused_start_loses_results :
    ∃ complete refused,
      Transition.run step .initial
        [.initializeWiFi true, .scanStart true, .deliver Scan.homeResult, .finish,
          .scanIsComplete] = some complete ∧
      step complete (.scanStart false) = some refused ∧
      wifiScanGetResults complete ⟨some [blank], some 0⟩ 1 =
        (true, ⟨some [Scan.homeResult.network], some 1⟩, complete) ∧
      wifiScanGetResults refused ⟨some [blank], some 0⟩ 1 =
        (true, ⟨some [blank], some 0⟩, refused) ∧
      ¬ ResultsExact refused := by
  refine ⟨_, _, rfl, rfl, rfl, rfl, fun exact_ => ?_⟩
  rcases exact_ ⟨some [blank], some 0⟩ 1 _ _ rfl with ⟨_, _, _, _, _, found, counted, _⟩
  cases found
  cases counted

/-! ## The same calls over numbered scans

`Scan.Scanner` keeps the networks that have been found, and who delivered them,
in place of the array.  Both take the same steps. -/

/-- The number of networks that a caller without a null pointer asks for. -/
def Output.asks (output : Output) (maxNetworks : UInt16) : Option UInt16 :=
  output.networks.bind fun _ => output.foundNetworks.map fun _ => maxNetworks

/-- The call as `Scan.step` takes it. -/
def Action.call : Action → Scan.Action
  | .initializeWiFi succeeds => .initializeWiFi succeeds
  | .deinitializeWiFi => .deinitializeWiFi
  | .scanStart accepts => .scanStart accepts
  | .scanIsComplete => .scanIsComplete
  | .scanGetResults output maxNetworks =>
      .scanGetResults (output.asks maxNetworks)
  | .deliver result => .deliver result
  | .finish => .finish

/-- The networks of the scanner are the entries of the array in use. -/
structure TargetsAgree (target : ScanTarget) (listed : Scan.ScanTarget) : Prop where
  limit : listed.maxNetworks = target.maxNetworks
  within : target.foundNetworks ≤ target.maxNetworks
  networks : listed.networks.map Scan.Delivered.network =
    target.scanNetworks.toList.take target.foundNetworks

structure Represents (board : Board) (scanner : Scan.Scanner) : Prop where
  initialized : scanner.wifiInitialized = board.wifiInitialized
  flag : scanner.scanInProgress = board.scanInProgress
  active : scanner.active.isSome = board.driver.active
  idle : scanner.app = .idle
  target : TargetsAgree board.scanTarget scanner.scanTarget

theorem initial_represents : Represents .initial .initial where
  initialized := rfl
  flag := rfl
  active := rfl
  idle := rfl
  target := ⟨rfl, Nat.le_refl _, rfl⟩

theorem TargetsAgree.length {target : ScanTarget} {listed : Scan.ScanTarget}
    (agree : TargetsAgree target listed) : listed.networks.length = target.foundNetworks := by
  have sizes := congrArg List.length agree.networks
  have within := agree.within
  have bounded := target.bounded
  rw [List.length_map, List.length_take, Vector.length_toList] at sizes
  omega

theorem TargetsAgree.cleared {target : ScanTarget} : TargetsAgree target.cleared .cleared :=
  ⟨rfl, Nat.zero_le _, rfl⟩

/-- Both take a result into the next entry, or both drop it. -/
theorem TargetsAgree.receive {target : ScanTarget} {listed : Scan.ScanTarget}
    (agree : TargetsAgree target listed) (scan : Nat) (result : Scan.ScanResult) :
    TargetsAgree (scanResultReceived target result)
      (Scan.scanResultReceived listed scan result) := by
  unfold scanResultReceived Scan.scanResultReceived
  by_cases room : target.foundNetworks < target.maxNetworks
  · have listedRoom : listed.networks.length < listed.maxNetworks := by
      rw [agree.length, agree.limit]
      exact room
    rw [dif_pos room, dif_pos listedRoom]
    refine ⟨agree.limit, room, ?_⟩
    have inside : target.foundNetworks < scanMaxNetworks := Nat.lt_of_lt_of_le room target.bounded
    have slot : target.foundNetworks < target.scanNetworks.toList.length := by
      rw [Vector.length_toList]
      exact inside
    change (listed.networks ++ [_]).map _ =
      (target.scanNetworks.set target.foundNetworks result.network inside).toList.take _
    rw [List.map_append, agree.networks, Vector.toList_set,
      List.take_succ_eq_append_getElem (by rwa [List.length_set]), List.getElem_set_self,
      List.take_set_of_le (Nat.le_refl _)]
    rfl
  · have listedFull : ¬ listed.networks.length < listed.maxNetworks := by
      rw [agree.length, agree.limit]
      exact room
    rw [dif_neg room, dif_neg listedFull]
    exact agree

/-- The front of the array that is copied is the front of the networks. -/
theorem TargetsAgree.copied {target : ScanTarget} {listed : Scan.ScanTarget}
    (agree : TargetsAgree target listed) (networks : List WiFiNetwork) (limit : Nat) :
    (memcpy networks target.scanNetworks.toList (min target.foundNetworks limit)).take
        (listed.networks.take limit).length =
      (listed.networks.take limit).map Scan.Delivered.network := by
  have size : (listed.networks.take limit).length = min target.foundNetworks limit := by
    rw [List.length_take, agree.length, Nat.min_comm]
  have enough : min target.foundNetworks limit ≤ target.scanNetworks.toList.length := by
    have within := agree.within
    have bounded := target.bounded
    rw [Vector.length_toList]
    omega
  unfold memcpy
  rw [size, List.take_append_of_le_length (by rw [List.length_take]; omega), List.take_take,
    Nat.min_self, List.map_take, agree.networks, List.take_take, Nat.min_comm]

namespace Represents

variable {board : Board} {scanner : Scan.Scanner}

theorem returning (represents : Represents board scanner) (returned : Option Scan.Returned)
    (during : List Nat) :
    Represents board { scanner with returned := returned, during := during } :=
  ⟨represents.initialized, represents.flag, represents.active, represents.idle, represents.target⟩

theorem observed (represents : Represents board scanner) : Represents board scanner.observed :=
  ⟨represents.initialized, represents.flag, represents.active, represents.idle, represents.target⟩

theorem initializeWiFi (represents : Represents board scanner) (succeeds : Bool) :
    Represents (wifiInitialize board succeeds).2 (Scan.wifiInitialize scanner succeeds).2 := by
  unfold wifiInitialize Scan.wifiInitialize
  rw [represents.initialized]
  split
  · exact represents
  · split
    · exact represents
    · exact ⟨rfl, represents.flag, represents.active, represents.idle, represents.target⟩

theorem deinitializeWiFi (represents : Represents board scanner) :
    (Represents <| wifiDeinitialize board) <| Scan.wifiDeinitialize scanner := by
  unfold wifiDeinitialize Scan.wifiDeinitialize
  rw [represents.initialized]
  split
  · exact represents
  · exact ⟨rfl, represents.flag, rfl, represents.idle, represents.target⟩

theorem start (represents : Represents board scanner) (accepts : Bool) :
    (Scan.wifiScanStart scanner accepts).1 = (wifiScanStart board accepts).1 ∧
      Represents (wifiScanStart board accepts).2 (Scan.wifiScanStart scanner accepts).2 := by
  unfold wifiScanStart Scan.wifiScanStart
  rw [represents.initialized, represents.flag]
  split
  · exact ⟨rfl, represents⟩
  · rename_i initialized
    split
    · exact ⟨rfl, represents⟩
    · cases accepts with
      | false =>
          exact ⟨rfl, rfl, rfl, represents.active, represents.idle, TargetsAgree.cleared⟩
      | true =>
          exact ⟨rfl, rfl, rfl, rfl, represents.idle, TargetsAgree.cleared⟩

theorem isComplete (represents : Represents board scanner) :
    (Scan.wifiScanIsComplete scanner).1 = (wifiScanIsComplete board).1 ∧
      Represents (wifiScanIsComplete board).2 (Scan.wifiScanIsComplete scanner).2 := by
  unfold wifiScanIsComplete Scan.wifiScanIsComplete
  rw [represents.flag, represents.active]
  split
  · exact ⟨rfl, represents⟩
  · split
    · exact ⟨rfl, represents⟩
    · exact ⟨rfl, represents.initialized, rfl, represents.active, represents.idle,
        represents.target⟩

end Represents

/-- What the caller finds in the array is what the scanner returns. -/
def Hands (result : Bool × Output × Board) : Option (List Scan.Delivered) → Prop
  | none => result.1 = false
  | some copied =>
      result.1 = true ∧ result.2.1.foundNetworks = some copied.length ∧
        ∃ networks, result.2.1.networks = some networks ∧
          networks.take copied.length = copied.map Scan.Delivered.network

theorem Represents.getResults {board : Board} {scanner : Scan.Scanner}
    (represents : Represents board scanner) (output : Output) (maxNetworks : UInt16) :
    Hands (wifiScanGetResults board output maxNetworks)
        (Scan.wifiScanGetResults scanner (output.asks maxNetworks)).1 ∧
      Represents (wifiScanGetResults board output maxNetworks).2.2
        (Scan.wifiScanGetResults scanner (output.asks maxNetworks)).2 := by
  rcases output with ⟨networks, foundNetworks⟩
  cases networks with
  | none => exact ⟨rfl, represents⟩
  | some networks =>
      cases foundNetworks with
      | none => exact ⟨rfl, represents⟩
      | some found =>
          change Hands _ (Scan.wifiScanGetResults scanner (some maxNetworks)).1 ∧
            Represents _ (Scan.wifiScanGetResults scanner (some maxNetworks)).2
          unfold wifiScanGetResults Scan.wifiScanGetResults
          by_cases zero : maxNetworks = 0
          · simp only [if_pos zero]
            exact ⟨rfl, represents⟩
          · simp only [if_neg zero]
            rcases represents.isComplete with ⟨same, after⟩
            cases tested : wifiScanIsComplete board with
            | mk complete next =>
                cases listed : Scan.wifiScanIsComplete scanner with
                | mk listedComplete listedNext =>
                    rw [tested, listed] at same after
                    cases same
                    cases complete with
                    | false => exact ⟨rfl, after⟩
                    | true =>
                        simp only [copyCount_eq_min]
                        refine ⟨⟨rfl, congrArg some ?_, _, rfl, ?_⟩, after⟩
                        · rw [List.length_take, after.target.length, Nat.min_comm]
                        · exact after.target.copied networks maxNetworks.toNat

/-- A call of the application on both sides, when the scanner is at rest.  The
scanner forgets what its last call returned before it takes a step. -/
theorem Represents.called {scanner after : Scan.Scanner} {board : Board} {call : Scan.Action}
    (idle : scanner.app = .idle)
    (app : Scan.step scanner call =
      (Scan.appStep { scanner with returned := none } call).map Scan.Scanner.observed)
    (taken : Scan.callStep { scanner with returned := none } call = some after)
    (agree : Represents board after) :
    Option.Rel Represents (some board) (Scan.step scanner call) := by
  have called : Scan.appStep { scanner with returned := none } call =
      Scan.callStep { scanner with returned := none } call := by
    unfold Scan.appStep
    rw [idle]
  rw [app, called, taken]
  exact .some agree.observed

theorem Represents.deliver {board : Board} {scanner : Scan.Scanner}
    (represents : Represents board scanner) (result : Scan.ScanResult) :
    Option.Rel Represents (ScanResults.step board (.deliver result))
      (Scan.step scanner (.deliver result)) := by
  have same := represents.active
  cases active : scanner.active with
  | none =>
      rw [active] at same
      simp only [ScanResults.step, Scan.step, active, ← same]
      exact .none
  | some scan =>
      rw [active] at same
      simp only [ScanResults.step, Scan.step, active, ← same]
      exact .some ⟨represents.initialized, represents.flag, rfl, represents.idle,
        represents.target.receive scan result⟩

theorem Represents.finish {board : Board} {scanner : Scan.Scanner}
    (represents : Represents board scanner) :
    Option.Rel Represents (ScanResults.step board .finish) (Scan.step scanner .finish) := by
  have same := represents.active
  cases active : scanner.active with
  | none =>
      rw [active] at same
      simp only [ScanResults.step, Scan.step, active, ← same]
      exact .none
  | some scan =>
      rw [active] at same
      simp only [ScanResults.step, Scan.step, active, ← same]
      exact .some ⟨represents.initialized, represents.flag, rfl, represents.idle,
        represents.target⟩

/-- The storage and the scanner take the same steps. -/
theorem Represents.step {board : Board} {scanner : Scan.Scanner}
    (represents : Represents board scanner) (action : Action) :
    Option.Rel Represents (ScanResults.step board action) (Scan.step scanner action.call) := by
  have silent := represents.returning none scanner.during
  have idle := represents.idle
  cases action with
  | initializeWiFi succeeds =>
      exact Represents.called idle rfl rfl ((silent.initializeWiFi succeeds).returning _ _)
  | deinitializeWiFi => exact Represents.called idle rfl rfl (silent.deinitializeWiFi.returning _ _)
  | scanStart accepts =>
      exact Represents.called idle rfl rfl ((silent.start accepts).2.returning _ _)
  | scanIsComplete => exact Represents.called idle rfl rfl (silent.isComplete.2.returning _ _)
  | scanGetResults output maxNetworks =>
      exact Represents.called idle rfl rfl ((silent.getResults output maxNetworks).2.returning _ _)
  | deliver result => exact represents.deliver result
  | finish => exact represents.finish

/-- Every run of the storage is one of the scanner, as far as it goes. -/
theorem run_represents (actions : List Action) :
    Option.Rel Represents (Transition.run step .initial actions)
      (Transition.run Scan.step .initial (actions.map Action.call)) :=
  Transition.run_related (fun _ _ action represents => represents.step action) initial_represents
    actions

end ScanResults
end RP2040
end WiFi
end NetLL
