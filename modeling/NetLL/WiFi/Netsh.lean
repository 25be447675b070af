import Mathlib.Data.List.DropRight
import NetLL.Library.Lines
import NetLL.Library.Scan
import NetLL.Library.Search
import NetLL.WiFi.Interface

namespace NetLL
namespace WiFi
namespace Simulator

/-!
# The parser of the netsh report

The Simulator has no radio.  It runs `netsh.exe` on the Windows host and reads
the report line by line.  A line that begins a network or an access point, or
that carries one of three labels, changes the state of the scan; every other
line is passed over.  The labels are those of an English or a Portuguese host.

A line is the string in the line buffer, without its terminator.  The table of
networks has as many entries as `maxNetworks` says, and the pointer to the
entry that is being filled is an index into it.
-/

/-- The UTF-8 bytes of the label. -/
def labelAuthenticationPt : List UInt8 :=
  ascii "Autentica" ++ [0xC3, 0xA7, 0xC3, 0xA3] ++ ascii "o"

def labelAuthenticationEn : List UInt8 := ascii "Authentication"

def labelSignalPt : List UInt8 := ascii "Sinal"

def labelSignalEn : List UInt8 := ascii "Signal"

def labelChannelPt : List UInt8 := ascii "Canal"

def labelChannelEn : List UInt8 := ascii "Channel"

def fallbackRssi : Int16 := -45

def fallbackChannel : UInt16 := 36

def fallbackAuthMode : WiFiAuthMode := .wpa2

def lineBufferSize : Nat := 512

/-! ## Matching a line -/

/-- A space or a tab. -/
def isBlank (byte : UInt8) : Bool :=
  byte == 32 || byte == 9

/-- A byte that is cut off at the end of a value. -/
def isTrailing (byte : UInt8) : Bool :=
  byte == 10 || byte == 13 || byte == 32 || byte == 9

/-- `SkipBlanks`. -/
def skipBlanks (text : List UInt8) : List UInt8 :=
  text.dropWhile isBlank

/-- `ValueAfterColon`. -/
def valueAfterColon (line : List UInt8) : Option (List UInt8) :=
  match line.dropWhile (· != 58) with
  | [] => none
  | _ :: value => some ((skipBlanks value).rdropWhile isTrailing)

/-- `IsLabelledLine`. -/
def isLabelledLine (line labelPt labelEn : List UInt8) : Bool :=
  let cursor := skipBlanks line
  if labelPt.isPrefixOf cursor then
    (skipBlanks (cursor.drop labelPt.length)).head? == some 58
  else if labelEn.isPrefixOf cursor then
    (skipBlanks (cursor.drop labelEn.length)).head? == some 58
  else false

/-- `IsPrefixedIndexLine`. -/
def isPrefixedIndexLine (line keyword : List UInt8) : Bool :=
  let cursor := skipBlanks line
  if keyword.isPrefixOf cursor then
    let cursor := cursor.drop keyword.length
    if cursor.head? == some 32 then
      (skipBlanks cursor).head?.any fun byte => decide (Decimal.IsDigit byte)
    else false
  else false

/-! ## Reading a value -/

/-- The numbers of so many `%x` with a colon between them. -/
def scanOctets : Nat → List UInt8 → Option (List UInt32)
  | 0, _ => some []
  | 1, text => (Scan.scanHex text).map fun scanned => [scanned.1]
  | count + 1, text =>
      match Scan.scanHex text with
      | some (octet, 58 :: rest) => (scanOctets count rest).map (octet :: ·)
      | _ => none

theorem length_scanOctets {count : Nat} {text : List UInt8} {octets : List UInt32}
    (scanned : scanOctets count text = some octets) : octets.length = count := by
  induction count generalizing text octets with
  | zero =>
      cases scanned
      rfl
  | succ count inductionHypothesis =>
      cases count with
      | zero =>
          rcases Option.map_eq_some_iff.mp scanned with ⟨_, _, rfl⟩
          rfl
      | succ more =>
          rw [scanOctets] at scanned
          · split at scanned
            · rcases Option.map_eq_some_iff.mp scanned with ⟨later, found, rfl⟩
              rw [List.length_cons, inductionHypothesis found]
            · cases scanned
          · exact Nat.succ_ne_zero _

/-- `ParseBssid`: the octets, when all six were read. -/
def parseBssid (text : List UInt8) (bssid : List UInt8) : List UInt8 :=
  match scanOctets wifiBssidLength text with
  | some octets => octets.map UInt32.toUInt8
  | none => bssid

theorem length_parseBssid (text : List UInt8) {bssid : List UInt8}
    (size : bssid.length = wifiBssidLength) : (parseBssid text bssid).length = wifiBssidLength := by
  rw [parseBssid]
  split
  · rename_i octets scanned
    rw [List.length_map, length_scanOctets scanned]
  · exact size

/-- The text holds the word. -/
def contains (text word : List UInt8) : Bool :=
  (Search.find word text).isSome

/-- `AuthModeFromText`. -/
def authModeFromText (text : List UInt8) : WiFiAuthMode :=
  if contains text (ascii "WPA3") then .wpa3
  else if contains text (ascii "WPA2") then .wpa2
  else if contains text (ascii "WPA") then .wpa
  else if contains text (ascii "WEP") then .wep
  else .open_

/-- `RssiFromSignalPercentage`. -/
def rssiFromSignalPercentage (text : List UInt8) : Int16 :=
  let percentage := max 0 (min 100 (Scan.atoi text))
  Int16.ofInt (percentage / 2 - 100)

/-! ## The state of a scan -/

/-- `ScanState`, for a table of this many networks. -/
structure ScanState (maxNetworks : Nat) where
  networks : Vector WiFiNetwork maxNetworks
  foundNetworks : Nat
  currentSsid : List UInt8
  currentAuthMode : WiFiAuthMode
  haveSsid : Bool
  currentNetwork : Option (Fin maxNetworks)
  ssidFits : currentSsid.length ≤ wifiSsidMaxLength

variable {maxNetworks : Nat}

/-- `BeginNetwork`; `snprintf` cuts what does not fit. -/
def beginNetwork (state : ScanState maxNetworks) (ssid : Option (List UInt8)) :
    ScanState maxNetworks :=
  { state with
    currentSsid := (ssid.getD []).take wifiSsidMaxLength
    currentAuthMode := fallbackAuthMode
    haveSsid := true
    currentNetwork := none
    ssidFits := List.length_take_le _ _ }

/-- `BeginBssid`. -/
def beginBssid (state : ScanState maxNetworks) (bssidText : Option (List UInt8)) :
    ScanState maxNetworks :=
  match bssidText with
  | none => { state with currentNetwork := none }
  | some text =>
      if room : state.haveSsid = true ∧ state.foundNetworks < maxNetworks then
        let network : WiFiNetwork := {
          ssid := zeroed (wifiSsidMaxLength + 1) state.currentSsid
          bssid := parseBssid text (zeroed wifiBssidLength [])
          channel := fallbackChannel
          authMode := state.currentAuthMode
          rssi := fallbackRssi
          ssidSize := length_zeroed _ _
          bssidSize := length_parseBssid text (length_zeroed _ _) }
        { state with
          networks := state.networks.set state.foundNetworks network room.2
          foundNetworks := state.foundNetworks + 1
          currentNetwork := some ⟨state.foundNetworks, room.2⟩ }
      else { state with currentNetwork := none }

/-- The entry at an index. -/
def ScanState.entry (state : ScanState maxNetworks) (index : Fin maxNetworks) : WiFiNetwork :=
  state.networks.get index

/-- A change of the entry that is being filled. -/
def ScanState.update (state : ScanState maxNetworks) (index : Fin maxNetworks)
    (change : WiFiNetwork → WiFiNetwork) : ScanState maxNetworks :=
  { state with networks := state.networks.set index (change state.networks[index]) }

/-- `ConsumeLine`. -/
def consumeLine (state : ScanState maxNetworks) (line : List UInt8) : ScanState maxNetworks :=
  if isPrefixedIndexLine line (ascii "BSSID") then beginBssid state (valueAfterColon line)
  else if isPrefixedIndexLine line (ascii "SSID") then beginNetwork state (valueAfterColon line)
  else if isLabelledLine line labelAuthenticationPt labelAuthenticationEn then
    match valueAfterColon line with
    | some value => { state with currentAuthMode := authModeFromText value }
    | none => state
  else
    match state.currentNetwork with
    | none => state
    | some index =>
        if isLabelledLine line labelSignalPt labelSignalEn then
          match valueAfterColon line with
          | some value => state.update index ({ · with rssi := rssiFromSignalPercentage value })
          | none => state
        else if isLabelledLine line labelChannelPt labelChannelEn then
          match valueAfterColon line with
          | some value => state.update index ({ · with channel := UInt16.ofInt (Scan.atoi value) })
          | none => state
        else state

/-- The state in which the report is begun. -/
def initialState (networks : Vector WiFiNetwork maxNetworks) (foundNetworks : Nat) :
    ScanState maxNetworks where
  networks := networks
  foundNetworks := foundNetworks
  currentSsid := []
  currentAuthMode := fallbackAuthMode
  haveSsid := false
  currentNetwork := none
  ssidFits := Nat.zero_le _

/-- `ParseNetshOutput` on what the command writes and the status it ends with:
the result, and the state that was reached. -/
def parseNetshOutput (netsh : List UInt8) (status : Int)
    (networks : Vector WiFiNetwork maxNetworks) (foundNetworks : Nat) :
    Bool × ScanState maxNetworks :=
  let lines := Lines.reads 10 (lineBufferSize - 1) [] netsh
  let state := lines.foldl (fun state line => consumeLine state (Memory.text line))
    (initialState networks foundNetworks)
  (status == 0, state)

/-- `WiFiScan`, with what the command writes and the status it ends with, when
it can be run: the result, and what the two pointers point to when they are not
null. -/
def wifiScan (wifiInitialized : Bool) (netsh : Option (List UInt8 × Int))
    (networks : Option (Vector WiFiNetwork maxNetworks)) (foundNetworks : Option Nat) :
    Bool × Option (Vector WiFiNetwork maxNetworks) × Option Nat :=
  match networks, foundNetworks with
  | some networks, some found =>
      if maxNetworks = 0 then (false, some networks, some found)
      else if !wifiInitialized then (false, some networks, some 0)
      else
        match netsh with
        | none => (false, some networks, some 0)
        | some (output, status) =>
            let (parsed, state) := parseNetshOutput output status networks 0
            (parsed, some state.networks, some state.foundNetworks)
  | _, _ => (false, networks, foundNetworks)

end Simulator
end WiFi
end NetLL
