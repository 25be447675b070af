import NetLL.WiFi.ScanCall

namespace NetLL
namespace WiFi
namespace RP2040
namespace ScanResults

/-!
# Access points that are reported more than once

The driver reports an access point once for every beacon and probe response
that it hears.  `ScanResultReceived` takes each report for a new access point,
so the entries are one for each access point only when the reports are, as far
as they are kept.  A repeated report takes the place of another access point
when the table or the caller's array is full.
-/

/-- The BSSIDs of the entries that a caller was given. -/
def Output.keptBssids (written : Output) : List (List UInt8) :=
  match written.networks, written.foundNetworks with
  | some networks, some count => (networks.take count).map WiFiNetwork.bssid
  | _, _ => []

/-- No access point has two entries, and one that has none was left out because
so many different ones were kept. -/
def OneEntryEach (delivered : List Scan.ScanResult) (maxNetworks : UInt16) (written : Output) :
    Prop :=
  written.keptBssids.Nodup ∧
    ∀ result ∈ delivered, result.bssid ∉ written.keptBssids →
      scanMaxNetworks ≤ written.keptBssids.dedup.length ∨
        maxNetworks.toNat ≤ written.keptBssids.dedup.length

/-- The results that are kept are of different access points. -/
def DistinctFront (delivered : List Scan.ScanResult) (maxNetworks : UInt16) : Prop :=
  ((delivered.map Scan.ScanResult.bssid).take (min scanMaxNetworks maxNetworks.toNat)).Nodup

instance (delivered : List Scan.ScanResult) (maxNetworks : UInt16) :
    Decidable (DistinctFront delivered maxNetworks) :=
  inferInstanceAs (Decidable (List.Nodup _))

theorem keptBssids_of_exact {delivered : List Scan.ScanResult} {output written : Output}
    {maxNetworks : UInt16} (exact_ : Exact delivered output maxNetworks written) :
    written.keptBssids =
      (delivered.map Scan.ScanResult.bssid).take (min scanMaxNetworks maxNetworks.toNat) := by
  rcases exact_ with ⟨networks, copied, count, _, copy, found, counted, entries⟩
  have front : copied.take count =
      (delivered.map Scan.ScanResult.network).take (min scanMaxNetworks maxNetworks.toNat) := by
    apply List.ext_getElem?
    intro index
    rw [List.getElem?_take, List.getElem?_take, List.getElem?_map]
    by_cases inside : index < count
    · rw [if_pos inside, entries index, if_pos inside, if_pos (by omega)]
    · rw [if_neg inside]
      split
      · rename_i room
        rw [List.getElem?_eq_none (by omega), Option.map_none]
      · rfl
  have same : written.keptBssids = (copied.take count).map WiFiNetwork.bssid := by
    rw [Output.keptBssids, copy, found]
  rw [same, front, List.map_take, List.map_map]
  rfl

/-- What is kept has one entry for each access point exactly when the first
results have. -/
theorem oneEntryEach_iff_of_exact {delivered : List Scan.ScanResult} {output written : Output}
    {maxNetworks : UInt16} (exact_ : Exact delivered output maxNetworks written) :
    OneEntryEach delivered maxNetworks written ↔ DistinctFront delivered maxNetworks := by
  unfold OneEntryEach DistinctFront
  rw [keptBssids_of_exact exact_]
  constructor
  · exact And.left
  · intro distinct
    refine ⟨distinct, fun result given missing => ?_⟩
    have full := Table.take_dedup_full distinct (List.mem_map_of_mem given) missing
    omega

/-! ## One scan -/

/-- A start would begin a scan. -/
def Begins (board : Board) : Prop :=
  board.wifiInitialized = true ∧ board.scanInProgress = false

/-- The action begins no other scan. -/
def BeginsNothing (board : Board) : Action → Prop
  | .scanStart _ => ¬ Begins board
  | _ => True

theorem losesNothing_of_beginsNothing {board : Board} {action : Action}
    (nothing : BeginsNothing board action) : LosesNothing board action := by
  cases action with
  | scanStart accepts =>
      cases accepts with
      | true => trivial
      | false => exact fun initialized idle => absurd ⟨initialized, idle⟩ nothing
  | _ => trivial

/-- The scan that begins has an empty table, whatever the board was. -/
theorem consistent_of_begins {board : Board} (begins : Begins board) :
    Consistent (wifiScanStart board true).2 := by
  rcases begins with ⟨initialized, idle⟩
  simp only [wifiScanStart, initialized, idle]
  exact ⟨fun _ => rfl, fun _ => rfl, ScanTarget.cleared_holds _⟩

/-- The results that `WiFiScan` hands out are exact. -/
theorem wifiScan_exact {board after : Board} (reached : Reached board) {output written : Output}
    {maxNetworks : UInt16} {accepts : Bool} {waits : List Wait}
    (finished : wifiScan board output maxNetworks accepts waits = .done (true, written, after)) :
    Exact after.driver.delivered output maxNetworks written := by
  rcases (wifiScan_done reached finished).2 rfl with ⟨collected, handed⟩
  exact resultsExact_of_holds collected.2 output maxNetworks written after handed

/-- The networks of `WiFiScan`, and those of `WiFiScanGetResults` behind a
start, are one entry for each access point if and only if no access point is
reported twice among the results that are kept. -/
theorem oneEntryEach_iff (board : Board) (output written : Output) (maxNetworks : UInt16) :
    (∀ accepts waits after, Reached board →
      wifiScan board output maxNetworks accepts waits = .done (true, written, after) →
        (OneEntryEach after.driver.delivered maxNetworks written ↔
          DistinctFront after.driver.delivered maxNetworks)) ∧
    ∀ during final after, Begins board →
      Transition.Guarded step BeginsNothing (wifiScanStart board true).2 during →
      Transition.run step (wifiScanStart board true).2 during = some final →
      wifiScanGetResults final output maxNetworks = (true, written, after) →
        (OneEntryEach final.driver.delivered maxNetworks written ↔
          DistinctFront final.driver.delivered maxNetworks) := by
  constructor
  · intro accepts waits after reached finished
    exact oneEntryEach_iff_of_exact (wifiScan_exact reached finished)
  · intro during final after begins guarded led copied
    have consistent : Consistent final :=
      Transition.invariant_run
        (fun _ _ _ consistent nothing taken =>
          step_consistent consistent (losesNothing_of_beginsNothing nothing) taken)
        (consistent_of_begins begins) guarded led
    exact oneEntryEach_iff_of_exact (consistent.resultsExact output maxNetworks written after copied)

/-- An access point beside the one at home. -/
def officeResult : Scan.ScanResult :=
  { Scan.homeResult with bssid := [2, 0, 0, 0, 0, 2], bssidSize := rfl }

/-- The access point at home is heard twice.  It has both entries of the
caller's array, and the other access point has none. -/
theorem home_reported_twice :
    ∃ board written after, Reached board ∧
      wifiScan board ⟨some [blank, blank], some 0⟩ 2 true
        [⟨[.deliver Scan.homeResult, .deliver Scan.homeResult], false⟩,
          ⟨[.deliver officeResult, .finish], false⟩] = .done (true, written, after) ∧
      after.driver.delivered = [Scan.homeResult, Scan.homeResult, officeResult] ∧
      written = ⟨some [Scan.homeResult.network, Scan.homeResult.network], some 2⟩ ∧
      ¬ OneEntryEach after.driver.delivered 2 written := by
  refine ⟨_, _, _, ⟨[.initializeWiFi true], rfl⟩, rfl, rfl, rfl, fun each => ?_⟩
  have repeated : Scan.homeResult.bssid ∉ [Scan.homeResult.bssid] := (List.nodup_cons.mp each.1).1
  exact repeated List.mem_cons_self

end ScanResults
end RP2040
end WiFi
end NetLL
