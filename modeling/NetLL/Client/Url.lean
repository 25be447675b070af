import NetLL.Library.CString
import NetLL.Library.Decimal

namespace NetLL
namespace Client

/-!
# URLs

Both clients look for the first slash and the first colon behind the scheme,
and the colon starts a port when it comes before the slash.  The Simulator cuts
the parts into buffers of fixed sizes and leaves out what does not fit; its
request then fits the request buffer for every URL.  RP2040 refuses a URL whose
host is empty or does not fit.
-/

/-- The colon starts a port when it comes before the path. -/
def portFirst (portStart pathStart : Option Nat) : Option Nat :=
  portStart.filter fun port => pathStart.all fun path => decide (port < path)

namespace Simulator

/-- `sizeof(host)`, `sizeof(port)`, `sizeof(path)` and `sizeof(request)` in
`HttpDownloadFile`. -/
def hostSize : Nat := 256

def portSize : Nat := 8

def pathSize : Nat := 1024

def requestSize : Nat := 2048

/-- `USER_AGENT`, as it is when the build does not override it. -/
def userAgent : CString := CString.literal "net.ll/0.alpha (Simulator)"

/-- The length of a copy into a buffer with room for the terminator. -/
def clamp (length size : Nat) : Nat :=
  if size ≤ length then size - 1 else length

/-- `ParseScheme`: whether the scheme is HTTPS, and the cursor behind it. -/
def parseScheme (url : CString) : Bool × CString :=
  if ascii "https://" <+: url.bytes then (true, url.drop 8)
  else if ascii "http://" <+: url.bytes then (false, url.drop 7)
  else (false, url)

/-- `ParseHost`. -/
def parseHost (cursor : CString) (pathStart portStart : Option Nat) : CString :=
  let hLen := match portFirst portStart pathStart with
    | some port => port
    | none => pathStart.getD cursor.length
  cursor.take (clamp hLen hostSize)

/-- `ParsePort`. -/
def parsePort (cursor : CString) (portStart pathStart : Option Nat) (https : Bool) : CString :=
  match portFirst portStart pathStart with
  | some port =>
      let portStart := port + 1
      let portEnd := pathStart.getD cursor.length
      (cursor.drop portStart).take (clamp (portEnd - portStart) portSize)
  | none => (CString.literal (if https then "443" else "80")).take (portSize - 1)

/-- `ParsePath`. -/
def parsePath (cursor : CString) (pathStart : Option Nat) : CString :=
  match pathStart with
  | some path => (cursor.drop path).take (pathSize - 1)
  | none => (CString.literal "/").take (pathSize - 1)

/-- The parts of a URL in their buffers. -/
structure Url where
  https : Bool
  host : CString
  port : CString
  path : CString
  hostFits : host.length < hostSize
  portFits : port.length < portSize
  pathFits : path.length < pathSize
deriving DecidableEq

theorem clamp_lt (length : Nat) {size : Nat} (positive : 0 < size) : clamp length size < size := by
  unfold clamp
  split <;> omega

theorem parseHost_fits (cursor : CString) (pathStart portStart : Option Nat) :
    (parseHost cursor pathStart portStart).length < hostSize :=
  Nat.lt_of_le_of_lt (CString.length_take_le _ _) (clamp_lt _ (by decide))

theorem parsePort_fits (cursor : CString) (portStart pathStart : Option Nat) (https : Bool) :
    (parsePort cursor portStart pathStart https).length < portSize := by
  unfold parsePort
  split
  · exact Nat.lt_of_le_of_lt (CString.length_take_le _ _) (clamp_lt _ (by decide))
  · exact Nat.lt_of_le_of_lt (CString.length_take_le _ _) (by decide)

theorem parsePath_fits (cursor : CString) (pathStart : Option Nat) :
    (parsePath cursor pathStart).length < pathSize := by
  unfold parsePath
  split <;> exact Nat.lt_of_le_of_lt (CString.length_take_le _ _) (by decide)

/-- `ParseUrl`. -/
def parseUrl (url : CString) : Url :=
  let (https, cursor) := parseScheme url
  let pathStart := cursor.strchr 47
  let portStart := cursor.strchr 58
  { https
    host := parseHost cursor pathStart portStart
    port := parsePort cursor portStart pathStart https
    path := parsePath cursor pathStart
    hostFits := parseHost_fits _ _ _
    portFits := parsePort_fits _ _ _ _
    pathFits := parsePath_fits _ _ }

/-- The text that `BuildRequest` formats. -/
def buildRequest (host path : CString) : List UInt8 :=
  ascii "GET " ++ path.bytes ++ ascii " HTTP/1.0\r\n" ++
    ascii "Host: " ++ host.bytes ++ ascii "\r\n" ++
    ascii "User-Agent: " ++ userAgent.bytes ++ ascii "\r\n" ++
    ascii "Accept: */*\r\n" ++
    ascii "\r\n"

/-- The length of a request is the one of its parts and of what stands between
them. -/
theorem length_buildRequest (host path : CString) :
    (buildRequest host path).length = 78 + host.length + path.length := by
  have fixed : (ascii "GET ").length + (ascii " HTTP/1.0\r\n").length + (ascii "Host: ").length +
      (ascii "\r\n").length + (ascii "User-Agent: ").length + userAgent.bytes.length +
      (ascii "\r\n").length + (ascii "Accept: */*\r\n").length + (ascii "\r\n").length = 78 := by
    decide
  unfold buildRequest CString.length
  simp only [List.length_append]
  omega

/-- The request of every URL fits its buffer with the terminator, so the length
that `snprintf` returns is the length of what is in the buffer. -/
theorem buildRequest_fits (url : Url) : (buildRequest url.host url.path).length < requestSize := by
  have host := url.hostFits
  have path := url.pathFits
  rw [length_buildRequest]
  unfold hostSize at host
  unfold pathSize at path
  unfold requestSize
  omega

end Simulator

namespace RP2040

/-- `HOST_MAX_LENGTH`. -/
def hostMaxLength : Nat := 256

/-- A space of `isspace`. -/
def IsSpace (byte : UInt8) : Prop :=
  byte = 32 ∨ 9 ≤ byte ∧ byte ≤ 13

instance : DecidablePred IsSpace := fun byte =>
  inferInstanceAs (Decidable (byte = 32 ∨ 9 ≤ byte ∧ byte ≤ 13))

/-- `atoi`, for numerals that fit an `int`. -/
def atoi (string : CString) : Int :=
  match string.bytes.dropWhile (IsSpace ·) with
  | 45 :: digits => -(Decimal.value (digits.takeWhile (Decimal.IsDigit ·)))
  | 43 :: digits => Decimal.value (digits.takeWhile (Decimal.IsDigit ·))
  | digits => Decimal.value (digits.takeWhile (Decimal.IsDigit ·))

/-- The outputs of `ParseHttpUrl`. -/
structure HttpUrl where
  host : CString
  port : UInt16
  uri : CString
  hostFits : host.length < hostMaxLength
deriving DecidableEq

/-- `ParseHttpUrl`. -/
def parseHttpUrl (url : CString) : Option HttpUrl :=
  let cursor := if ascii "http://" <+: url.bytes then url.drop 7 else url
  let pathStart := cursor.strchr 47
  let colon := portFirst (cursor.strchr 58) pathStart
  let port := match colon with
    | some colon => UInt16.ofInt (atoi (cursor.drop (colon + 1)))
    | none => 80
  let length := (colon.or pathStart).getD cursor.length
  if fits : length = 0 ∨ hostMaxLength ≤ length then none
  else some {
    host := cursor.take length
    port
    uri := match pathStart with
      | some path => cursor.drop path
      | none => CString.literal "/"
    hostFits := by
      have taken := cursor.length_take_le length
      omega }

end RP2040
end Client
end NetLL
