import NetLL.Library.Field
import NetLL.WiFi.Interface

namespace NetLL
namespace WiFi
namespace ESP32

/-!
# WiFi on ESP32

The functions of the ESP32 over the ESP-IDF driver: a scan, which blocks until
the driver has its records, and the configurations that are handed to the
driver for an access point and for a station.  What the driver answers is given
from outside, and its calls are listed in their order.

The texts in the records and in the configurations stand in fields of three
sizes.  All of them are written by `snprintf`, which keeps a byte for the
terminator.
-/

/-! ## Scan records -/

/-- `wifi_auth_mode_t`; the modes that are told apart, and every other one. -/
inductive EspAuthMode where
  | open_
  | wep
  | wpaPsk
  | wpa2Psk
  | wpaWpa2Psk
  | wpa3Psk
  | wpa2Wpa3Psk
  | other
deriving DecidableEq, Repr

/-- `AuthModeFromEsp`. -/
def authModeFromEsp : EspAuthMode → WiFiAuthMode
  | .open_ => .open_
  | .wep => .wep
  | .wpaPsk => .wpa
  | .wpa2Psk | .wpaWpa2Psk => .wpa2
  | .wpa3Psk | .wpa2Wpa3Psk => .wpa3
  | .other => .unknown

/-- `wifi_ap_record_t`, with the fields that are used.  The SSID is terminated
inside its field. -/
structure ApRecord where
  bssid : List UInt8
  ssid : List UInt8
  primary : UInt8
  authMode : EspAuthMode
  rssi : Int8
  bssidSize : bssid.length = wifiBssidLength
  ssidSize : ssid.length = wifiSsidMaxLength + 1
  terminated : 0 ∈ ssid

/-- The name in a record. -/
def ApRecord.name (record : ApRecord) : List UInt8 :=
  Field.read record.ssid

/-- A record of a network of this name. -/
def recordOf (ssid : Ssid) : ApRecord where
  bssid := List.replicate wifiBssidLength 2
  ssid := Field.store (wifiSsidMaxLength + 1) ssid.name.bytes
  primary := 1
  authMode := .wpa2Psk
  rssi := -50
  bssidSize := rfl
  ssidSize := Field.length_store _ _
  terminated := Field.zero_mem_store (Nat.succ_pos _) _

theorem name_recordOf (ssid : Ssid) : (recordOf ssid).name = ssid.name.bytes :=
  (Field.read_store_eq_iff ssid.name.clean (Nat.succ_pos _)).mpr (Nat.lt_succ_of_le ssid.fits)

/-- `CopyApRecord`. -/
def copyApRecord (record : ApRecord) : WiFiNetwork where
  ssid := Field.store (wifiSsidMaxLength + 1) record.name
  bssid := record.bssid
  channel := record.primary.toUInt16
  authMode := authModeFromEsp record.authMode
  rssi := record.rssi.toInt16
  ssidSize := Field.length_store _ _
  bssidSize := record.bssidSize

/-! ## The scan -/

/-- The answers of the driver to one scan, and of `calloc`.  The driver hands
out no more records than it is asked for. -/
structure Scanner where
  scanStart : Bool
  scanGetApNum : Option UInt16
  calloc : Bool
  scanGetApRecords : UInt16 → Option (List ApRecord)
  bounded : ∀ number records, scanGetApRecords number = some records →
    records.length ≤ number.toNat

/-- The loop over the records, from this index on. -/
def copyApRecords (networks : List WiFiNetwork) : List ApRecord → Nat → List WiFiNetwork
  | [], _ => networks
  | record :: records, index =>
      copyApRecords (networks.set index (copyApRecord record)) records (index + 1)

/-- What a scan returns, and what it leaves in the caller's array and number. -/
structure Scanned where
  returned : Bool
  networks : Option (List WiFiNetwork)
  foundNetworks : Option Nat

/-- `CollectScanRecords`. -/
def collectScanRecords (networks : List WiFiNetwork) (maxNetworks : UInt16) (foundNetworks : Nat)
    (availableRecords : UInt16) (scanner : Scanner) : Scanned :=
  let recordsToRead := if availableRecords < maxNetworks then availableRecords else maxNetworks
  if !scanner.calloc then ⟨false, some networks, some foundNetworks⟩
  else
    match scanner.scanGetApRecords recordsToRead with
    | none => ⟨false, some networks, some foundNetworks⟩
    | some records => ⟨true, some (copyApRecords networks records 0), some records.length⟩

/-- `WiFiScan`. -/
def wifiScan (wifiInitialized : Bool) (networks : Option (List WiFiNetwork)) (maxNetworks : UInt16)
    (foundNetworks : Option Nat) (scanner : Scanner) : Scanned :=
  match networks, foundNetworks with
  | some networks, some found =>
      if maxNetworks = 0 then ⟨false, some networks, some found⟩
      else if !wifiInitialized then ⟨false, some networks, some 0⟩
      else if !scanner.scanStart then ⟨false, some networks, some 0⟩
      else
        match scanner.scanGetApNum with
        | none => ⟨false, some networks, some 0⟩
        | some availableRecords =>
            if availableRecords = 0 then ⟨true, some networks, some 0⟩
            else collectScanRecords networks maxNetworks 0 availableRecords scanner
  | _, _ => ⟨false, networks, foundNetworks⟩

theorem copyApRecords_eq {networks : List WiFiNetwork} {records : List ApRecord} {index : Nat}
    (room : index + records.length ≤ networks.length) :
    copyApRecords networks records index =
      networks.take index ++ records.map copyApRecord ++ networks.drop (index + records.length) := by
  induction records generalizing networks index with
  | nil => simp [copyApRecords]
  | cons record records inductionHypothesis =>
      rw [List.length_cons] at room
      have inside : index < networks.length := by omega
      have front : (networks.set index (copyApRecord record)).take (index + 1) =
          networks.take index ++ [copyApRecord record] := by
        rw [List.take_succ_eq_append_getElem (by rwa [List.length_set]), List.getElem_set_self,
          List.take_set_of_le (Nat.le_refl _)]
      have back : (networks.set index (copyApRecord record)).drop (index + 1 + records.length) =
          networks.drop (index + (records.length + 1)) := by
        rw [List.drop_set_of_lt (by omega), Nat.add_assoc, Nat.add_comm 1]
      rw [copyApRecords, inductionHypothesis (by rw [List.length_set]; omega), front, back,
        List.map_cons, List.length_cons, List.append_assoc (networks.take index)]
      rfl

/-! ## Configurations -/

def wifiAccessPointChannel : UInt8 := 1

def wifiAccessPointMaxConnections : UInt8 := 4

def wifiAccessPointAddress : CString := .literal "192.168.33.1"

def wifiAccessPointNetmask : CString := .literal "255.255.255.0"

/-- The sizes of the two texts in `wifi_config_t`. -/
def configSsidSize : Nat := 32

def configPasswordSize : Nat := 64

/-- `wifi_sta_config_t`, with the fields that are used. -/
structure StaConfig where
  ssid : List UInt8
  password : List UInt8
  ssidSize : ssid.length = configSsidSize
  passwordSize : password.length = configPasswordSize

/-- `wifi_ap_config_t`, with the fields that are used. -/
structure ApConfig where
  ssid : List UInt8
  ssidLen : UInt8
  password : List UInt8
  channel : UInt8
  maxConnection : UInt8
  authMode : EspAuthMode
  ssidSize : ssid.length = configSsidSize
  passwordSize : password.length = configPasswordSize

/-- `wifi_config_t` for one of the two interfaces. -/
inductive Config where
  | station (config : StaConfig)
  | accessPoint (config : ApConfig)

inductive Mode where
  | station
  | accessPoint
deriving DecidableEq, Repr

/-- The calls of the driver, without those that only ask it. -/
inductive Call where
  | createAccessPointNetif
  | setMode (mode : Mode)
  | setConfig (config : Config)
  | start
  | dhcpsStop
  | setIpInfo (address gateway netmask : CString)
  | dhcpsStart
  | connect
  | disconnect

/-- The result of `esp_wifi_start`; the second one says that it was started. -/
inductive StartResult where
  | ok
  | conn
  | failed
deriving DecidableEq, Repr

/-- The answers of the driver to one start of an access point or a station. -/
structure Answers where
  createAccessPointNetif : Bool
  setMode : Bool
  setConfig : Bool
  start : StartResult
  setIpInfo : Bool
  dhcpsStart : Bool
  connect : Bool

/-- The static storage. -/
structure State where
  wifiInitialized : Bool
  accessPointRunning : Bool
  /-- The pointer is not null. -/
  accessPointNetif : Bool

/-- A null password or an empty one means none. -/
def isOpen (password : Option CString) : Bool :=
  match password with
  | none => true
  | some password => password.bytes == []

/-- The SSID in its field. -/
def storeSsid (ssid : CString) : List UInt8 :=
  Field.store configSsidSize ssid.bytes

theorem length_storeSsid (ssid : CString) : (storeSsid ssid).length = configSsidSize :=
  Field.length_store _ _

/-- The password in a field of zeros, where none leaves the zeros. -/
def storePassword (password : Option CString) : List UInt8 :=
  match password with
  | none => List.replicate configPasswordSize 0
  | some password =>
      if password.bytes = [] then List.replicate configPasswordSize 0
      else Field.store configPasswordSize password.bytes

theorem length_storePassword (password : Option CString) :
    (storePassword password).length = configPasswordSize := by
  unfold storePassword
  split
  · exact List.length_replicate
  · split
    · exact List.length_replicate
    · exact Field.length_store _ _

/-! ## The access point -/

/-- `BuildAccessPointConfig`. -/
def buildAccessPointConfig (ssid : CString) (password : Option CString) : ApConfig where
  ssid := storeSsid ssid
  ssidLen := UInt8.ofNat (Field.read (storeSsid ssid)).length
  password := storePassword password
  channel := wifiAccessPointChannel
  maxConnection := wifiAccessPointMaxConnections
  authMode := if isOpen password then .open_ else .wpa2Psk
  ssidSize := length_storeSsid ssid
  passwordSize := length_storePassword password

/-- `EnsureAccessPointNetif`. -/
def ensureAccessPointNetif (state : State) (answers : Answers) : Bool × State × List Call :=
  if state.accessPointNetif then (true, state, [])
  else
    (answers.createAccessPointNetif,
      { state with accessPointNetif := answers.createAccessPointNetif }, [.createAccessPointNetif])

/-- `ConfigureAccessPointAddress`; the DHCP server is started in any case. -/
def configureAccessPointAddress (answers : Answers) : Bool × List Call :=
  (answers.setIpInfo && answers.dhcpsStart,
    [.dhcpsStop,
      .setIpInfo wifiAccessPointAddress wifiAccessPointAddress wifiAccessPointNetmask,
      .dhcpsStart])

/-- `ApplyAccessPointConfig`. -/
def applyAccessPointConfig (config : ApConfig) (answers : Answers) : Bool × List Call :=
  if !answers.setMode then (false, [.setMode .accessPoint])
  else if !answers.setConfig then
    (false, [.setMode .accessPoint, .setConfig (.accessPoint config)])
  else if answers.start = .failed then
    (false, [.setMode .accessPoint, .setConfig (.accessPoint config), .start])
  else
    let (configured, calls) := configureAccessPointAddress answers
    (configured, [.setMode .accessPoint, .setConfig (.accessPoint config), .start] ++ calls)

/-- `WiFiAccessPointStart`. -/
def wifiAccessPointStart (state : State) (ssid password : Option CString) (answers : Answers) :
    Bool × State × List Call :=
  match ssid with
  | none => (false, state, [])
  | some ssid =>
      if ssid.bytes = [] then (false, state, [])
      else if !state.wifiInitialized then (false, state, [])
      else if state.accessPointRunning then (true, state, [])
      else
        match ensureAccessPointNetif state answers with
        | (false, state, calls) => (false, state, calls)
        | (true, state, calls) =>
            match applyAccessPointConfig (buildAccessPointConfig ssid password) answers with
            | (false, more) => (false, state, calls ++ more ++ [.setMode .station])
            | (true, more) => (true, { state with accessPointRunning := true }, calls ++ more)

end ESP32
end WiFi
end NetLL
