import NetLL.Library.CString

namespace NetLL
namespace WiFi

/-!
# The interface of the WiFi functions

The types of `WiFi.h`, shared by the Simulator, ESP32 and RP2040.  The two
arrays of a network have fixed sizes, and the sizes are fields of the record.
-/

/-- `WIFI_SSID_MAX_LENGTH`. -/
def wifiSsidMaxLength : Nat := 32

/-- `WIFI_BSSID_LENGTH`. -/
def wifiBssidLength : Nat := 6

/-- `SCAN_MAX_NETWORKS`. -/
def scanMaxNetworks : Nat := 32

inductive WiFiAuthMode where
  | unknown
  | open_
  | wep
  | wpa
  | wpa2
  | wpa3
deriving DecidableEq, Repr

structure WiFiNetwork where
  ssid : List UInt8
  bssid : List UInt8
  channel : UInt16
  authMode : WiFiAuthMode
  rssi : Int16
  ssidSize : ssid.length = wifiSsidMaxLength + 1
  bssidSize : bssid.length = wifiBssidLength
deriving DecidableEq

/-- The name of a network. -/
structure Ssid where
  name : CString
  nonempty : name.bytes ≠ []
  fits : name.length ≤ wifiSsidMaxLength
deriving DecidableEq

/-- An array of zeros with bytes copied to its front. -/
def zeroed (size : Nat) (bytes : List UInt8) : List UInt8 :=
  bytes.take size ++ List.replicate (size - bytes.length) 0

theorem length_zeroed (size : Nat) (bytes : List UInt8) : (zeroed size bytes).length = size := by
  rw [zeroed, List.length_append, List.length_take, List.length_replicate]
  omega

end WiFi
end NetLL
