import NetLL.Library.Transition
import NetLL.WiFi.Interface

namespace NetLL
namespace WiFi
namespace RP2040
namespace Scan

/-!
# Scanning on RP2040

The driver scans in the background and delivers one result at a time to
`ScanResultReceived`.  The application calls the scan functions, one call after
the other, and the driver takes its own steps in between.  A call that asks the
driver at most one thing is one step.  `WiFiScan` starts, tests and waits in a
loop, and collects, so it has a step for each of these.

The driver's scans are numbered, and the table remembers which scan delivered
an entry.  The numbers are not in the code; they are there to say where the
networks that a call copies come from.  The access point is left out, because
no scan function depends on it.
-/

/-- `cyw43_ev_scan_result_t`, with the fields that are used. -/
structure ScanResult where
  ssidLen : UInt8
  ssid : List UInt8
  bssid : List UInt8
  channel : UInt16
  authMode : UInt8
  rssi : Int16
  ssidSize : ssid.length = wifiSsidMaxLength
  bssidSize : bssid.length = wifiBssidLength

/-- `AuthModeFromCyw43`, over the three bits of `CYW43_SCAN_SECURITY_*`. -/
def authModeFromCyw43 (authMode : UInt8) : WiFiAuthMode :=
  if authMode &&& 0x04 ≠ 0 then .wpa2
  else if authMode &&& 0x02 ≠ 0 then .wpa
  else if authMode &&& 0x01 ≠ 0 then .wep
  else .open_

/-- What `ScanResultReceived` makes of a result. -/
def ScanResult.network (result : ScanResult) : WiFiNetwork where
  ssid := zeroed (wifiSsidMaxLength + 1) (result.ssid.take (min result.ssidLen.toNat wifiSsidMaxLength))
  bssid := result.bssid
  channel := result.channel
  authMode := authModeFromCyw43 result.authMode
  rssi := result.rssi
  ssidSize := length_zeroed _ _
  bssidSize := result.bssidSize

/-- An entry of the table, and the number of the scan that delivered it. -/
structure Delivered where
  scan : Nat
  network : WiFiNetwork
deriving DecidableEq

/-- `scanTarget`.  The first `FoundNetworks` entries of `scanNetworks` are the
list of networks. -/
structure ScanTarget where
  maxNetworks : Nat
  networks : List Delivered
  bounded : networks.length ≤ maxNetworks
deriving DecidableEq

/-- The static storage before any call. -/
def ScanTarget.initial : ScanTarget where
  maxNetworks := 0
  networks := []
  bounded := Nat.le_refl _

/-- What `WiFiScanStart` assigns. -/
def ScanTarget.cleared : ScanTarget where
  maxNetworks := scanMaxNetworks
  networks := []
  bounded := Nat.zero_le _

/-- `ScanResultReceived`, for a result of the numbered scan. -/
def scanResultReceived (target : ScanTarget) (scan : Nat) (result : ScanResult) : ScanTarget :=
  if room : target.networks.length < target.maxNetworks then
    { target with
      networks := target.networks ++ [⟨scan, result.network⟩]
      bounded := by
        rw [List.length_append, List.length_singleton]
        exact room }
  else target

/-- Where the application is: between calls, in the loop of `WiFiScan`, or
behind it.  The number is `maxNetworks`. -/
inductive AppStage where
  | idle
  | polling (maxNetworks : UInt16)
  | collecting (maxNetworks : UInt16)
deriving DecidableEq, Repr

/-- What a call returned; a scan that returns true comes with the networks it
copied.  The start that `WiFiScan` makes is a call of its own. -/
inductive Returned where
  | initializeWiFi (result : Bool)
  | deinitializeWiFi
  | scanStart (result : Bool)
  | scanIsComplete (result : Bool)
  | scanGetResults (copied : Option (List Delivered))
  | scan (copied : Option (List Delivered))
deriving DecidableEq

structure Scanner where
  wifiInitialized : Bool
  scanInProgress : Bool
  scanTarget : ScanTarget
  /-- The number of the driver's active scan. -/
  active : Option Nat
  /-- The number of the driver's next scan. -/
  nextScan : Nat
  app : AppStage
  /-- The scans that were active at some moment of the last call of `WiFiScan`. -/
  during : List Nat
  /-- What the last step returned, if it was the end of a call. -/
  returned : Option Returned
deriving DecidableEq

/-- The static storage before any call. -/
def Scanner.initial : Scanner where
  wifiInitialized := false
  scanInProgress := false
  scanTarget := .initial
  active := none
  nextScan := 0
  app := .idle
  during := []
  returned := none

/-! ## The functions -/

/-- `WiFiInitialize`, with the success of `cyw43_arch_init`. -/
def wifiInitialize (state : Scanner) (succeeds : Bool) : Bool × Scanner :=
  if state.wifiInitialized then (true, state)
  else if !succeeds then (false, state)
  else (true, { state with wifiInitialized := true })

/-- `WiFiDeinitialize`; `cyw43_arch_deinit` aborts the active scan. -/
def wifiDeinitialize (state : Scanner) : Scanner :=
  if !state.wifiInitialized then state
  else { state with wifiInitialized := false, active := none }

/-- `WiFiScanStart`, with the success of `cyw43_wifi_scan`. -/
def wifiScanStart (state : Scanner) (succeeds : Bool) : Bool × Scanner :=
  if !state.wifiInitialized then (false, state)
  else if state.scanInProgress then (true, state)
  else if !succeeds then (false, { state with scanTarget := .cleared })
  else
    (true,
      { state with
        scanInProgress := true
        scanTarget := .cleared
        active := some state.nextScan
        nextScan := state.nextScan + 1 })

/-- `WiFiScanIsComplete`. -/
def wifiScanIsComplete (state : Scanner) : Bool × Scanner :=
  if !state.scanInProgress then (true, state)
  else if state.active.isSome then (false, state)
  else (true, { state with scanInProgress := false })

/-- `WiFiScanGetResults`.  The output is `maxNetworks` when neither pointer is
null, and `none` is the result false. -/
def wifiScanGetResults (state : Scanner) (output : Option UInt16) :
    Option (List Delivered) × Scanner :=
  match output with
  | none => (none, state)
  | some maxNetworks =>
      if maxNetworks = 0 then (none, state)
      else
        match wifiScanIsComplete state with
        | (false, state) => (none, state)
        | (true, state) => (some (state.scanTarget.networks.take maxNetworks.toNat), state)

/-- `WiFiScan` up to its loop. -/
def wifiScan (state : Scanner) (output : Option UInt16) (succeeds : Bool) : Scanner :=
  match output with
  | none => { state with returned := some (.scan none) }
  | some maxNetworks =>
      if maxNetworks = 0 then { state with returned := some (.scan none) }
      else
        match wifiScanStart state succeeds with
        | (false, state) => { state with returned := some (.scan none) }
        | (true, state) =>
            { state with app := .polling maxNetworks, returned := some (.scanStart true) }

/-- One round of the loop of `WiFiScan`, with the result of the deadline test. -/
def wifiScanPoll (state : Scanner) (maxNetworks : UInt16) (expired : Bool) : Scanner :=
  match wifiScanIsComplete state with
  | (true, state) => { state with app := .collecting maxNetworks }
  | (false, state) =>
      if expired then { state with app := .idle, returned := some (.scan none) } else state

/-- `WiFiScan` behind its loop. -/
def wifiScanCollect (state : Scanner) (maxNetworks : UInt16) : Scanner :=
  match wifiScanGetResults state (some maxNetworks) with
  | (copied, state) => { state with app := .idle, returned := some (.scan copied) }

/-! ## Steps -/

/-- The calls of the application, the steps of `WiFiScan`, and the events of
the driver.  Whether a driver function succeeds is part of the step. -/
inductive Action where
  | initializeWiFi (succeeds : Bool)
  | deinitializeWiFi
  | scanStart (succeeds : Bool)
  | scanIsComplete
  | scanGetResults (output : Option UInt16)
  | scan (output : Option UInt16) (succeeds : Bool)
  | poll (expired : Bool)
  | collect
  | deliver (result : ScanResult)
  | finish

/-- A call that the application makes between two calls. -/
def callStep (state : Scanner) : Action → Option Scanner
  | .initializeWiFi succeeds =>
      let (result, state) := wifiInitialize state succeeds
      some { state with returned := some (.initializeWiFi result) }
  | .deinitializeWiFi =>
      some { wifiDeinitialize state with returned := some .deinitializeWiFi }
  | .scanStart succeeds =>
      let (result, state) := wifiScanStart state succeeds
      some { state with returned := some (.scanStart result) }
  | .scanIsComplete =>
      let (result, state) := wifiScanIsComplete state
      some { state with returned := some (.scanIsComplete result) }
  | .scanGetResults output =>
      let (copied, state) := wifiScanGetResults state output
      some { state with returned := some (.scanGetResults copied) }
  | .scan output succeeds =>
      some (wifiScan { state with during := state.active.toList } output succeeds)
  | _ => none

/-- A step of the application, according to where it is. -/
def appStep (state : Scanner) (action : Action) : Option Scanner :=
  match state.app, action with
  | .idle, call => callStep state call
  | .polling maxNetworks, .poll expired => some (wifiScanPoll state maxNetworks expired)
  | .collecting maxNetworks, .collect => some (wifiScanCollect state maxNetworks)
  | _, _ => none

/-- A step of the driver, which needs an active scan. -/
def driverStep (state : Scanner) (scan : Nat) : Action → Option Scanner
  | .deliver result =>
      some { state with scanTarget := scanResultReceived state.scanTarget scan result }
  | .finish => some { state with active := none }
  | _ => none

/-- The scan that is active after a step was active during the call. -/
def Scanner.observed (state : Scanner) : Scanner :=
  { state with during := state.active.toList ++ state.during }

/-- One step of either party. -/
def step (state : Scanner) (action : Action) : Option Scanner :=
  let state := { state with returned := none }
  match action with
  | .deliver _ | .finish =>
      match state.active with
      | none => none
      | some scan => (driverStep state scan action).map Scanner.observed
  | _ => (appStep state action).map Scanner.observed

end Scan
end RP2040
end WiFi
end NetLL
