import NetLL.WiFi.ESP32
import NetLL.WiFi.ScanCall
import NetLL.WiFi.ScanState

namespace NetLL
namespace WiFi

/-!
# What a scan leaves in the caller's array

`WiFiScan` has three implementations, and each of them can fail late.  On ESP32
and on RP2040 the number of networks is assigned once, when nothing can fail any
more.  The Simulator counts in the caller's variable while it reads the report,
and learns behind the last line whether `netsh.exe` has failed.

An entry is written when it does not depend on what the array held before, and
it is not written when it is what the array held before.
-/

/-- The result of a scan, with the caller's array and number behind it. -/
structure ScanOutcome where
  returned : Bool
  networks : List WiFiNetwork
  foundNetworks : Nat

/-- A call that fails reports no networks, and one that succeeds has written as
many entries as it reports, whatever the array and the number were. -/
def ReportsTruly (maxNetworks : UInt16)
    (call : Vector WiFiNetwork maxNetworks.toNat → Nat → Exec ScanOutcome) : Prop :=
  ∀ networks found outcome, call networks found = .done outcome →
    (outcome.returned = false → outcome.foundNetworks = 0) ∧
    (outcome.returned = true → outcome.foundNetworks ≤ maxNetworks.toNat ∧
      ∃ entries, entries.length = outcome.foundNetworks ∧
        ∀ others otherFound, call others otherFound = .done {
          returned := true
          networks := entries ++ others.toList.drop outcome.foundNetworks
          foundNetworks := outcome.foundNetworks })

variable {maxNetworks : UInt16}
  {call : Vector WiFiNetwork maxNetworks.toNat → Nat → Exec ScanOutcome}

theorem reportsTruly_of_entries (entries : List WiFiNetwork)
    (fits : entries.length ≤ maxNetworks.toNat)
    (writes : ∀ networks found, call networks found =
      .done ⟨true, entries ++ networks.toList.drop entries.length, entries.length⟩) :
    ReportsTruly maxNetworks call := by
  intro networks found outcome called
  rw [writes] at called
  cases called
  exact ⟨Bool.noConfusion, fun _ => ⟨fits, entries, rfl, fun others otherFound =>
    writes others otherFound⟩⟩

theorem reportsTruly_of_failure
    (fails : ∀ networks found, ∃ written, call networks found = .done ⟨false, written, 0⟩) :
    ReportsTruly maxNetworks call := by
  intro networks found outcome called
  rcases fails networks found with ⟨written, failed⟩
  rw [failed] at called
  cases called
  exact ⟨fun _ => rfl, Bool.noConfusion⟩

theorem reportsTruly_of_endless
    (endless : ∀ networks found outcome, call networks found ≠ .done outcome) :
    ReportsTruly maxNetworks call :=
  fun networks found outcome called => absurd called (endless networks found outcome)

/-! ## The Simulator -/

namespace Simulator

variable {maxNetworks : Nat}

/-- The lines that `fgets` gets from what the command writes. -/
def netshLines (output : List UInt8) : List CString :=
  (Lines.reads 10 (lineBufferSize - 1) [] output).map CString.ofBytes

/-- No BSSID line with a colon stands behind an SSID line. -/
def Unlisted (lines : List CString) : Prop :=
  lines.Pairwise fun first second =>
    isSsidLine first = true → isBssidLine second = true →
      (valueAfterColon second.bytes).isSome = false

/-- `WiFiScan` with an array. -/
def scanCall (wifiInitialized : Bool) (netsh : Option (List UInt8 × Int))
    (networks : Vector WiFiNetwork maxNetworks) (found : Nat) : Exec ScanOutcome :=
  let (returned, written, count) := wifiScan wifiInitialized netsh (some networks) (some found)
  .done {
    returned := returned
    networks := (written.map Vector.toList).getD []
    foundNetworks := count.getD 0 }

theorem parseNetshOutput_eq (output : List UInt8) (status : Int)
    (networks : Vector WiFiNetwork maxNetworks) :
    parseNetshOutput output status networks 0 =
      (status == 0, consumeLines networks (netshLines output)) := by
  unfold parseNetshOutput consumeLines consumeMore netshLines
  rw [List.foldl_map]
  rfl

/-- The first entry is that of a BSSID line behind an SSID line. -/
theorem Effect.found_eq_zero_iff {state next : ScanState maxNetworks} {line : CString}
    (effect : Effect state line next) (room : 0 < maxNetworks) :
    next.foundNetworks = 0 ↔ state.foundNetworks = 0 ∧
      (state.haveSsid = true → isBssidLine line = true →
        (valueAfterColon line.bytes).isSome = false) := by
  cases effect with
  | network ssidLine =>
      refine (and_iff_left fun _ bssidLine => ?_).symm
      rw [isSsidLine_eq_false bssidLine] at ssidLine
      cases ssidLine
  | appended bssidLine text haveSsid =>
      constructor
      · rintro ⟨⟩
      · rintro ⟨_, absent⟩
        rw [absent haveSsid bssidLine] at text
        cases text
  | dropped bssidLine why =>
      constructor
      · intro zero
        refine ⟨zero, fun haveSsid _ => Bool.eq_false_iff.mpr fun text => ?_⟩
        have full := why text haveSsid
        change state.foundNetworks = 0 at zero
        omega
      · exact And.left
  | authentication noBssid | changed noBssid | passed noBssid =>
      refine (and_iff_left fun _ bssidLine => ?_).symm
      rw [noBssid] at bssidLine
      cases bssidLine

theorem unlisted_snoc (lines : List CString) (line : CString) :
    Unlisted (lines ++ [line]) ↔ Unlisted lines ∧ ∀ first ∈ lines, isSsidLine first = true →
      isBssidLine line = true → (valueAfterColon line.bytes).isSome = false := by
  unfold Unlisted
  rw [List.pairwise_append]
  constructor
  · rintro ⟨before, _, across⟩
    exact ⟨before, fun first member => across first member line (List.mem_singleton_self line)⟩
  · rintro ⟨before, across⟩
    refine ⟨before, List.pairwise_singleton _ line, fun first member second last => ?_⟩
    cases List.mem_singleton.mp last
    exact across first member

theorem isSome_latestSsidLine_iff (lines : List CString) :
    (latestSsidLine lines).isSome = true ↔ ∃ line ∈ lines, isSsidLine line = true := by
  unfold latestSsidLine
  rw [List.getLast?_isSome, Ne, List.filter_eq_nil_iff]
  simp

theorem foundNetworks_eq_zero_iff (networks : Vector WiFiNetwork maxNetworks)
    (room : 0 < maxNetworks) (lines : List CString) :
    (consumeLines networks lines).foundNetworks = 0 ↔ Unlisted lines := by
  induction lines using List.reverseRecOn with
  | nil => exact ⟨fun _ => List.Pairwise.nil, fun _ => rfl⟩
  | append_singleton lines line inductionHypothesis =>
      have effect := consumeLine_effect (consumeLines networks lines) line
      rw [← consumeLines_snoc] at effect
      rw [effect.found_eq_zero_iff room, inductionHypothesis, unlisted_snoc,
        (consumeLines_invariant networks lines).haveSsid, isSome_latestSsidLine_iff]
      constructor
      · rintro ⟨before, absent⟩
        exact ⟨before, fun first member ssidLine => absent ⟨first, member, ssidLine⟩⟩
      · rintro ⟨before, absent⟩
        exact ⟨before, fun ⟨first, member, ssidLine⟩ => absent first member ssidLine⟩

/-! ### The array -/

/-- Two scans of the same lines over different arrays. -/
structure Alike (state other : ScanState maxNetworks) : Prop where
  same : ∃ networks, other = { state with networks := networks }
  entries : ∀ index : Fin maxNetworks, index.val < state.foundNetworks →
    other.entry index = state.entry index

theorem Alike.update {state other : ScanState maxNetworks} (alike : Alike state other)
    (index : Fin maxNetworks) (change : WiFiNetwork → WiFiNetwork) :
    Alike (state.update index change) (other.update index change) := by
  rcases alike with ⟨⟨networks, rfl⟩, entries⟩
  refine ⟨⟨_, rfl⟩, fun position below => ?_⟩
  rw [entry_update, entry_update, entries position below]

theorem Alike.beginBssid {state other : ScanState maxNetworks} (alike : Alike state other)
    (bssidText : Option (List UInt8)) :
    Alike (beginBssid state bssidText) (beginBssid other bssidText) := by
  rcases alike with ⟨⟨networks, rfl⟩, entries⟩
  cases bssidText with
  | none => exact ⟨⟨networks, rfl⟩, entries⟩
  | some text =>
      simp only [Simulator.beginBssid]
      split
      · rename_i room
        refine ⟨⟨_, rfl⟩, fun position below => ?_⟩
        refine (get_set room.2 _ position).trans (Eq.trans ?_ (get_set room.2 _ position).symm)
        split
        · rfl
        · apply entries position
          change position.val < state.foundNetworks + 1 at below
          omega
      · exact ⟨⟨networks, rfl⟩, entries⟩

theorem Alike.consume {state other : ScanState maxNetworks} (alike : Alike state other)
    (line : CString) : Alike (consumeLine state line.bytes) (consumeLine other line.bytes) := by
  have updated := alike.update
  have begun := alike.beginBssid
  rcases alike with ⟨⟨networks, rfl⟩, entries⟩
  rcases state with ⟨_, _, _, _, _, current, _⟩
  unfold consumeLine
  split
  · exact begun _
  · split
    · exact ⟨⟨networks, rfl⟩, entries⟩
    · split
      · cases valueAfterColon line.bytes <;> exact ⟨⟨networks, rfl⟩, entries⟩
      · cases current with
        | none => exact ⟨⟨networks, rfl⟩, entries⟩
        | some index =>
            cases valueAfterColon line.bytes with
            | none =>
                simp only [ite_self]
                exact ⟨⟨networks, rfl⟩, entries⟩
            | some value =>
                simp only
                split
                · exact updated index _
                · split
                  · exact updated index _
                  · exact ⟨⟨networks, rfl⟩, entries⟩

/-- The same lines fill the same entries of every array. -/
theorem consumeLines_alike (networks others : Vector WiFiNetwork maxNetworks)
    (lines : List CString) : Alike (consumeLines networks lines) (consumeLines others lines) := by
  induction lines using List.reverseRecOn with
  | nil => exact ⟨⟨others, rfl⟩, fun _ below => absurd below (Nat.not_lt_zero _)⟩
  | append_singleton lines line inductionHypothesis =>
      rw [consumeLines_snoc, consumeLines_snoc]
      exact inductionHypothesis.consume line

theorem entry_consumeLines (networks : Vector WiFiNetwork maxNetworks) (lines : List CString)
    (index : Fin maxNetworks) (behind : (consumeLines networks lines).foundNetworks ≤ index.val) :
    (consumeLines networks lines).entry index = networks.get index := by
  induction lines using List.reverseRecOn with
  | nil => rfl
  | append_singleton lines line inductionHypothesis =>
      have effect := consumeLine_effect (consumeLines networks lines) line
      have current := (consumeLines_invariant networks lines).current index
      rw [← consumeLines_snoc] at effect
      have before : (consumeLines networks lines).foundNetworks ≤ index.val := by
        rcases effect.found with same | ⟨more, _⟩ <;> omega
      rcases effect.frame index with same | points | ⟨here, more, _⟩
      · exact same.trans (inductionHypothesis before)
      · have place := current points
        omega
      · omega

/-- The entries that the lines describe stand in front of what was there. -/
theorem toList_consumeLines (networks others : Vector WiFiNetwork maxNetworks)
    (lines : List CString) :
    (consumeLines others lines).networks.toList =
      (consumeLines networks lines).networks.toList.take (consumeLines networks lines).foundNetworks ++
        others.toList.drop (consumeLines networks lines).foundNetworks := by
  have alike := consumeLines_alike networks others lines
  have found := (consumeLines_invariant networks lines).found
  have count : (consumeLines others lines).foundNetworks =
      (consumeLines networks lines).foundNetworks := by
    rcases alike.same with ⟨_, same⟩
    rw [same]
  apply List.ext_getElem
  · simp only [List.length_append, List.length_take, List.length_drop, Vector.length_toList]
    omega
  · intro index inside _
    rw [Vector.length_toList] at inside
    by_cases below : index < (consumeLines networks lines).foundNetworks
    · rw [List.getElem_append_left (by simp; omega), List.getElem_take, Vector.getElem_toList,
        Vector.getElem_toList]
      exact alike.entries ⟨index, inside⟩ below
    · have kept := entry_consumeLines others lines ⟨index, inside⟩ (by simpa [count] using below)
      have place : (consumeLines networks lines).foundNetworks + (index -
          ((consumeLines networks lines).networks.toList.take
            (consumeLines networks lines).foundNetworks).length) = index := by
        rw [List.length_take, Vector.length_toList]
        omega
      rw [List.getElem_append_right (by simp; omega), List.getElem_drop, Vector.getElem_toList,
        Vector.getElem_toList]
      simp only [place]
      exact kept

theorem foundNetworks_consumeLines (networks others : Vector WiFiNetwork maxNetworks)
    (lines : List CString) :
    (consumeLines others lines).foundNetworks = (consumeLines networks lines).foundNetworks := by
  rcases (consumeLines_alike networks others lines).same with ⟨_, same⟩
  rw [same]

/-- The call hands out what the lines leave behind. -/
theorem scanCall_eq (room : maxNetworks ≠ 0) (output : List UInt8) (status : Int)
    (networks : Vector WiFiNetwork maxNetworks) (found : Nat) :
    scanCall true (some (output, status)) networks found = .done {
      returned := status == 0
      networks := (consumeLines networks (netshLines output)).networks.toList
      foundNetworks := (consumeLines networks (netshLines output)).foundNetworks } := by
  simp only [scanCall, wifiScan, if_neg room, parseNetshOutput_eq]
  rfl

/-- A call that does not get as far as the report fails. -/
theorem scanCall_fails (room : maxNetworks ≠ 0) {wifiInitialized : Bool}
    {netsh : Option (List UInt8 × Int)} (early : wifiInitialized = false ∨ netsh = none)
    (networks : Vector WiFiNetwork maxNetworks) (found : Nat) :
    scanCall wifiInitialized netsh networks found = .done ⟨false, networks.toList, 0⟩ := by
  rcases early with rfl | rfl
  · simp only [scanCall, wifiScan, if_neg room]
    rfl
  · simp only [scanCall, wifiScan, if_neg room]
    cases wifiInitialized <;> rfl

/-- The Simulator reports truly if and only if no access point has been listed
when `netsh.exe` turns out to have failed. -/
theorem reportsTruly_iff {maxNetworks : UInt16} (nonzero : maxNetworks ≠ 0)
    (wifiInitialized : Bool) (netsh : Option (List UInt8 × Int)) :
    ReportsTruly maxNetworks (scanCall wifiInitialized netsh) ↔
      (wifiInitialized = true → ∀ output status, netsh = some (output, status) → status ≠ 0 →
        Unlisted (netshLines output)) := by
  have room : maxNetworks.toNat ≠ 0 := fun zero => nonzero (UInt16.toNat_inj.mp zero)
  constructor
  · rintro truly rfl output status rfl failed
    have called := scanCall_eq room output status (Vector.replicate _ RP2040.ScanResults.blank) 0
    have zero := (truly _ _ _ called).1 (beq_false_of_ne failed)
    exact (foundNetworks_eq_zero_iff _ (Nat.pos_of_ne_zero room) _).mp zero
  · intro unlisted
    by_cases early : wifiInitialized = false ∨ netsh = none
    · exact reportsTruly_of_failure fun networks found => ⟨_, scanCall_fails room early networks found⟩
    · rw [not_or, Bool.not_eq_false] at early
      rcases early with ⟨rfl, given⟩
      rcases Option.ne_none_iff_exists'.mp given with ⟨⟨output, status⟩, rfl⟩
      intro networks found outcome called
      rw [scanCall_eq room] at called
      cases called
      have within := (consumeLines_invariant networks (netshLines output)).found
      refine ⟨fun failed => ?_, fun succeeded => ⟨within,
        (consumeLines networks (netshLines output)).networks.toList.take
          (consumeLines networks (netshLines output)).foundNetworks,
        ?_, fun others otherFound => ?_⟩⟩
      · have status_ : status ≠ 0 := fun zero => by simp [zero] at failed
        exact (foundNetworks_eq_zero_iff networks (Nat.pos_of_ne_zero room) _).mpr
          (unlisted rfl output status rfl status_)
      · rw [List.length_take, Vector.length_toList, Nat.min_eq_left within]
      · have ended : (status == 0) = true := succeeded
        rw [scanCall_eq room, toList_consumeLines networks others,
          foundNetworks_consumeLines networks others, ended]

end Simulator

/-! ## ESP32 -/

namespace ESP32

/-- `WiFiScan` with an array. -/
def scanCall (maxNetworks : UInt16) (wifiInitialized : Bool) (scanner : Scanner)
    (networks : Vector WiFiNetwork maxNetworks.toNat) (found : Nat) : Exec ScanOutcome :=
  let scanned := wifiScan wifiInitialized (some networks.toList) maxNetworks (some found) scanner
  .done {
    returned := scanned.returned
    networks := scanned.networks.getD []
    foundNetworks := scanned.foundNetworks.getD 0 }

theorem recordsToRead_le (availableRecords maxNetworks : UInt16) :
    (if availableRecords < maxNetworks then availableRecords else maxNetworks).toNat ≤
      maxNetworks.toNat := by
  split
  · rename_i fewer
    exact Nat.le_of_lt (UInt16.lt_iff_toNat_lt.mp fewer)
  · exact Nat.le_refl _

/-- What is left of the call once the driver has counted its records. -/
theorem scanCall_collect {maxNetworks : UInt16} (nonzero : maxNetworks ≠ 0) {scanner : Scanner}
    (started : scanner.scanStart = true) {availableRecords : UInt16}
    (available : scanner.scanGetApNum = some availableRecords) (some_ : availableRecords ≠ 0)
    (networks : Vector WiFiNetwork maxNetworks.toNat) (found : Nat) :
    scanCall maxNetworks true scanner networks found =
      let scanned := collectScanRecords networks.toList maxNetworks 0 availableRecords scanner
      .done {
        returned := scanned.returned
        networks := scanned.networks.getD []
        foundNetworks := scanned.foundNetworks.getD 0 } := by
  simp only [scanCall, wifiScan, if_neg nonzero, started, available, if_neg some_]
  rfl

theorem reportsTruly_collect {maxNetworks : UInt16} (nonzero : maxNetworks ≠ 0) {scanner : Scanner}
    (started : scanner.scanStart = true) {availableRecords : UInt16}
    (available : scanner.scanGetApNum = some availableRecords) (some_ : availableRecords ≠ 0) :
    ReportsTruly maxNetworks (scanCall maxNetworks true scanner) := by
  have collect := scanCall_collect nonzero started available some_
  have asked := recordsToRead_le availableRecords maxNetworks
  cases allocated : scanner.calloc with
  | false =>
      refine reportsTruly_of_failure fun networks found => ⟨networks.toList, ?_⟩
      rw [collect]
      simp only [collectScanRecords, allocated]
      rfl
  | true =>
      cases read : scanner.scanGetApRecords
        (if availableRecords < maxNetworks then availableRecords else maxNetworks) with
      | none =>
          refine reportsTruly_of_failure fun networks found => ⟨networks.toList, ?_⟩
          rw [collect]
          simp only [collectScanRecords, allocated, read]
          rfl
      | some records =>
          have fits : records.length ≤ maxNetworks.toNat :=
            Nat.le_trans (scanner.bounded _ _ read) asked
          apply reportsTruly_of_entries (records.map copyApRecord)
          · rwa [List.length_map]
          · intro networks found
            have room : 0 + records.length ≤ networks.toList.length := by
              rwa [Vector.length_toList, Nat.zero_add]
            rw [collect]
            simp only [collectScanRecords, allocated, read, copyApRecords_eq room]
            rw [List.length_map, Nat.zero_add]
            rfl

/-- The number is assigned behind the last call that can fail. -/
theorem reportsTruly {maxNetworks : UInt16} (nonzero : maxNetworks ≠ 0) (wifiInitialized : Bool)
    (scanner : Scanner) : ReportsTruly maxNetworks (scanCall maxNetworks wifiInitialized scanner) := by
  by_cases early : wifiInitialized = false ∨ scanner.scanStart = false ∨
      scanner.scanGetApNum = none
  · refine reportsTruly_of_failure fun networks found => ⟨networks.toList, ?_⟩
    simp only [scanCall, wifiScan, if_neg nonzero]
    rcases early with down | refused | uncounted
    · rw [down]
      rfl
    · rw [refused]
      cases wifiInitialized <;> rfl
    · rw [uncounted]
      cases wifiInitialized <;> cases scanner.scanStart <;> rfl
  · rw [not_or, not_or, Bool.not_eq_false, Bool.not_eq_false] at early
    rcases early with ⟨rfl, started, counted⟩
    rcases Option.ne_none_iff_exists'.mp counted with ⟨availableRecords, available⟩
    by_cases none_ : availableRecords = 0
    · apply reportsTruly_of_entries []
      · exact Nat.zero_le _
      · intro networks found
        simp only [scanCall, wifiScan, if_neg nonzero, started, available, if_pos none_]
        rfl
    · exact reportsTruly_collect nonzero started available none_

end ESP32

/-! ## RP2040 -/

namespace RP2040
namespace ScanResults

/-- `WiFiScan` with an array. -/
def scanCall (maxNetworks : UInt16) (board : Board) (accepts : Bool) (waits : List Wait)
    (networks : Vector WiFiNetwork maxNetworks.toNat) (found : Nat) : Exec ScanOutcome := do
  let (returned, written, _) ←
    wifiScan board ⟨some networks.toList, some found⟩ maxNetworks accepts waits
  .done {
    returned := returned
    networks := written.networks.getD []
    foundNetworks := written.foundNetworks.getD 0 }

/-- A scan that is not complete in time fails, and a complete one has its
entries in the table. -/
theorem reportsTruly {maxNetworks : UInt16} (nonzero : maxNetworks ≠ 0) {board : Board}
    (reached : Reached board) (accepts : Bool) (waits : List Wait) :
    ReportsTruly maxNetworks (scanCall maxNetworks board accepts waits) := by
  cases scan : startAndWait board accepts waits with
  | waiting =>
      refine reportsTruly_of_endless fun networks found outcome => ?_
      rw [scanCall, wifiScan_eq _ _ _ nonzero, scan]
      rintro ⟨⟩
  | fault =>
      refine reportsTruly_of_endless fun networks found outcome => ?_
      rw [scanCall, wifiScan_eq _ _ _ nonzero, scan]
      rintro ⟨⟩
  | done ended =>
      rcases ended with ⟨complete, after⟩
      rcases startAndWait_done reached scan with ⟨reachedAfter, collected⟩
      cases complete with
      | false =>
          refine reportsTruly_of_failure fun networks found => ⟨networks.toList, ?_⟩
          rw [scanCall, wifiScan_eq _ _ _ nonzero, scan]
          rfl
      | true =>
          have within := reachedAfter.scanned.within
          have bounded := after.scanTarget.bounded
          have size : ((after.scanTarget.scanNetworks.toList.take
              (min after.scanTarget.foundNetworks maxNetworks.toNat))).length =
                min after.scanTarget.foundNetworks maxNetworks.toNat := by
            rw [List.length_take, Vector.length_toList]
            omega
          apply reportsTruly_of_entries (after.scanTarget.scanNetworks.toList.take
            (min after.scanTarget.foundNetworks maxNetworks.toNat))
          · rw [size]
            exact Nat.min_le_right _ _
          · intro networks found
            rw [scanCall, wifiScan_eq _ _ _ nonzero, scan, size]
            simp only [Exec.done_bind, if_true,
              wifiScanGetResults_of_idle (collected rfl).1 networks.toList 0 nonzero]
            rfl

end ScanResults
end RP2040

/-! ## The three platforms -/

/-- Whatever the scanner does, ESP32 and RP2040 report truly, and the Simulator
does if and only if no access point has been listed when `netsh.exe` turns out
to have failed. -/
theorem wifiScan_reportsTruly_iff (maxNetworks : UInt16) (nonzero : maxNetworks ≠ 0) :
    (∀ wifiInitialized netsh,
      ReportsTruly maxNetworks (Simulator.scanCall wifiInitialized netsh) ↔
        (wifiInitialized = true → ∀ output status, netsh = some (output, status) → status ≠ 0 →
          Simulator.Unlisted (Simulator.netshLines output))) ∧
      (∀ wifiInitialized scanner,
        ReportsTruly maxNetworks (ESP32.scanCall maxNetworks wifiInitialized scanner)) ∧
      ∀ board accepts waits, RP2040.ScanResults.Reached board →
        ReportsTruly maxNetworks (RP2040.ScanResults.scanCall maxNetworks board accepts waits) :=
  ⟨Simulator.reportsTruly_iff nonzero, ESP32.reportsTruly nonzero,
    fun _ accepts waits reached => RP2040.ScanResults.reportsTruly nonzero reached accepts waits⟩

/-- A report with one access point. -/
def Simulator.shortReport : List UInt8 :=
  ascii "SSID 1 : home" ++ [10] ++ ascii "    BSSID 1 : 02:00:00:00:00:01" ++ [10]

theorem finished_scans_report_truly :
    ReportsTruly 1 (Simulator.scanCall true (some (Simulator.shortReport, 0))) ∧
      ReportsTruly 1 (RP2040.ScanResults.scanCall 1 .initial true []) := by
  have truly := wifiScan_reportsTruly_iff 1 (by decide)
  constructor
  · refine (truly.1 true _).mpr fun _ output status same failed => ?_
    cases same
    exact absurd rfl failed
  · exact truly.2.2 .initial true [] ⟨[], rfl⟩

/-- The command fails behind its report, and the network in it is counted. -/
theorem failed_netsh_leaves_network :
    (∃ written, Simulator.scanCall true (some (Simulator.shortReport, 1))
        (Vector.replicate (1 : UInt16).toNat RP2040.ScanResults.blank) 0 =
          .done ⟨false, written, 1⟩) ∧
      ¬ ReportsTruly 1 (Simulator.scanCall true (some (Simulator.shortReport, 1))) := by
  have counted : (Simulator.consumeLines
      (Vector.replicate (1 : UInt16).toNat RP2040.ScanResults.blank)
      (Simulator.netshLines Simulator.shortReport)).foundNetworks = 1 := by decide +kernel
  have called := Simulator.scanCall_eq (by decide) Simulator.shortReport 1
    (Vector.replicate (1 : UInt16).toNat RP2040.ScanResults.blank) 0
  rw [counted] at called
  refine ⟨⟨_, called⟩, fun truly => ?_⟩
  cases (truly _ _ _ called).1 rfl

end WiFi
end NetLL
