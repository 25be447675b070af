import NetLL.Library.CString

namespace NetLL
namespace Client
namespace ESP32

/-!
# A download through esp_http_client

`esp_http_client_perform` blocks until the transfer is over and calls
`OnHttpEvent` on the way.  What it does is a parameter: whether there is a
client, the events that it delivers, and the error and the status that it ends
with.
-/

/-- `USER_AGENT`, as it is when the build does not override it. -/
def userAgent : CString := CString.literal "net.ll/0.alpha (ESP32)"

/-- `esp_http_client_event_t`: data, or one of the other events. -/
inductive HttpEvent where
  | onData (data : List UInt8)
  | other
deriving DecidableEq, Repr

/-- `esp_err_t`, as far as the download looks at it. -/
inductive EspErr where
  | ok
  | failed
deriving DecidableEq, Repr

/-- What a download meets: the file system, and the HTTP client. -/
structure Environment where
  opens : CString → Bool
  initializes : CString → Bool
  delivered : List HttpEvent
  error : EspErr
  status : Int

/-- What a download does, in order. -/
inductive DownloadEvent where
  | createdDirectories (filePath : CString)
  | opened
  | configured (url userAgent : CString)
  | wrote (bytes : List UInt8)
  | cleanedUp
  | closed
deriving DecidableEq

structure Download where
  returned : Bool
  events : List DownloadEvent
deriving DecidableEq

/-- `OnHttpEvent`. -/
def onHttpEvent : HttpEvent → List DownloadEvent
  | .onData data => if 0 < data.length then [.wrote data] else []
  | .other => []

/-- `HttpDownloadFile`. -/
def httpDownloadFile (environment : Environment) (url filePath : Option CString) : Download :=
  match url, filePath with
  | some url, some filePath =>
      let events := [DownloadEvent.createdDirectories filePath]
      if !environment.opens filePath then { returned := false, events }
      else
        let events := events ++ [.opened, .configured url userAgent]
        if !environment.initializes url then { returned := false, events := events ++ [.closed] }
        else
          let success := environment.error = .ok ∧ environment.status = 200
          { returned := success
            events := events ++ environment.delivered.flatMap onHttpEvent ++
              [.cleanedUp, .closed] }
  | _, _ => { returned := false, events := [] }

end ESP32
end Client
end NetLL
