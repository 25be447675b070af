import NetLL.Library.CString
import NetLL.Library.Mailbox
import NetLL.Library.Transition

namespace NetLL
namespace WiFi
namespace RP2040
namespace AccessPoint

/-!
# The access point on RP2040

The application starts and stops the access point, and its interface is taken
up and down by callbacks that it posts to the lwIP thread.  That thread takes
the posted callbacks one by one, at any time, also in the middle of a call.  A
post can fail, and its result is ignored.

A call that posts has a step up to the post and another one for what it does
behind it.  The scan functions are left out, because the access point does not
depend on them.  The callbacks also start and stop the DHCP and DNS servers,
whose sockets are added in a system of their own on top of this one.
-/

/-- The callbacks that are posted. -/
inductive Callback where
  | startAccessPointDhcpDns
  | stopAccessPointDhcp
deriving DecidableEq, Repr

/-- `StartAccessPointDhcpDns` takes the interface of the access point and its
link up, and `StopAccessPointDhcp` takes them down. -/
def Callback.netif : Callback → Bool
  | .startAccessPointDhcpDns => true
  | .stopAccessPointDhcp => false

/-- `CYW43_AUTH_OPEN` and `CYW43_AUTH_WPA2_AES_PSK`. -/
inductive AuthMode where
  | open_
  | wpa2AesPsk
deriving DecidableEq, Repr

/-- The arguments of `cyw43_arch_enable_ap_mode`. -/
structure ApMode where
  ssid : CString
  password : Option CString
  authMode : AuthMode
deriving DecidableEq

/-- Where the application is: between calls, behind the post of
`WiFiAccessPointStart`, behind the post of `WiFiAccessPointStop`, which
`WiFiDeinitialize` calls, too, or in `WiFiDeinitialize` behind that call. -/
inductive AppStage where
  | idle
  | starting
  | stopping (deinitializes : Bool)
  | leaving
deriving DecidableEq, Repr

structure State where
  wifiInitialized : Bool
  accessPointRunning : Bool
  apMode : Option ApMode
  app : AppStage
  /-- The callbacks that were posted and have not run. -/
  pending : List Callback
  /-- The interface of the access point is up, with its link. -/
  netif : Bool
  /-- The result of the last call that has one. -/
  returned : Option Bool
deriving DecidableEq

/-- The static storage before any call. -/
def State.initial : State where
  wifiInitialized := false
  accessPointRunning := false
  apMode := none
  app := .idle
  pending := []
  netif := false
  returned := none

/-! ## The functions -/

/-- `tcpip_callback`, with its success. -/
def tcpipCallback (state : State) (callback : Callback) (queued : Bool) : State :=
  if queued then { state with pending := state.pending ++ [callback] } else state

/-- `WiFiInitialize`, with the success of `cyw43_arch_init`. -/
def wifiInitialize (state : State) (succeeds : Bool) : State :=
  if state.wifiInitialized then { state with returned := some true }
  else if !succeeds then { state with returned := some false }
  else { state with wifiInitialized := true, returned := some true }

/-- The authentication for a password, where null and empty mean none. -/
def authModeOf (password : Option CString) : AuthMode :=
  match password with
  | none => .open_
  | some password => if password.bytes = [] then .open_ else .wpa2AesPsk

/-- `WiFiAccessPointStart` up to its post. -/
def wifiAccessPointStart (state : State) (ssid password : Option CString) (queued : Bool) : State :=
  match ssid with
  | none => { state with returned := some false }
  | some ssid =>
      if ssid.bytes = [] then { state with returned := some false }
      else if !state.wifiInitialized then { state with returned := some false }
      else if state.accessPointRunning then { state with returned := some true }
      else
        tcpipCallback
          { state with
            apMode := some { ssid, password, authMode := authModeOf password }
            app := .starting }
          .startAccessPointDhcpDns queued

/-- `WiFiAccessPointStop` up to its post, called by the application. -/
def wifiAccessPointStop (state : State) (queued : Bool) : State :=
  if !state.accessPointRunning then { state with returned := some true }
  else tcpipCallback { state with app := .stopping false } .stopAccessPointDhcp queued

/-- `WiFiDeinitialize` up to the post of the stop that it calls. -/
def wifiDeinitialize (state : State) (queued : Bool) : State :=
  if !state.wifiInitialized then state
  else if !state.accessPointRunning then { state with app := .leaving }
  else tcpipCallback { state with app := .stopping true } .stopAccessPointDhcp queued

/-- `WiFiAccessPointIsRunning`. -/
def wifiAccessPointIsRunning (state : State) : Bool :=
  state.accessPointRunning

/-- The rest of a call behind its post. -/
def proceed (state : State) : Option State :=
  match state.app with
  | .idle => none
  | .starting =>
      some { state with accessPointRunning := true, app := .idle, returned := some true }
  | .stopping false =>
      some { state with
        apMode := none
        accessPointRunning := false
        app := .idle
        returned := some true }
  | .stopping true =>
      some { state with apMode := none, accessPointRunning := false, app := .leaving }
  | .leaving => some { state with wifiInitialized := false, app := .idle }

/-- The lwIP thread takes the next callback. -/
def process (state : State) : Option State :=
  match state.pending with
  | [] => none
  | callback :: rest =>
      some { state with netif := callback.netif, pending := rest }

/-! ## Steps -/

/-- The calls of the application, its steps inside a call, and the steps of
the lwIP thread. -/
inductive Action where
  | initializeWiFi (succeeds : Bool)
  | deinitializeWiFi (queued : Bool)
  | accessPointStart (ssid password : Option CString) (queued : Bool)
  | accessPointStop (queued : Bool)
  | proceed
  | process
deriving DecidableEq

/-- A call that the application makes between two calls. -/
def callStep (state : State) : Action → Option State
  | .initializeWiFi succeeds => some <| wifiInitialize state succeeds
  | .deinitializeWiFi queued => some <| wifiDeinitialize state queued
  | .accessPointStart ssid password queued =>
      some (wifiAccessPointStart state ssid password queued)
  | .accessPointStop queued => some (wifiAccessPointStop state queued)
  | _ => none

/-- One step of either party. -/
def step (state : State) : Action → Option State
  | .proceed => proceed state
  | .process => process state
  | call =>
      match state.app with
      | .idle => callStep state call
      | _ => none

/-! ## Posts -/

/-- The call reaches its post. -/
def Posts (state : State) : Action → Prop
  | .accessPointStart (some ssid) _ _ =>
      ssid.bytes ≠ [] ∧ state.wifiInitialized = true ∧ state.accessPointRunning = false
  | .accessPointStop _ => state.accessPointRunning = true
  | .deinitializeWiFi _ => state.wifiInitialized = true ∧ state.accessPointRunning = true
  | _ => False

/-- `tcpip_callback` succeeds in this call. -/
def Action.queued : Action → Bool
  | .accessPointStart _ _ queued => queued
  | .accessPointStop queued => queued
  | .deinitializeWiFi queued => queued
  | _ => true

/-- A post succeeds. -/
def PostSucceeds (state : State) (action : Action) : Prop :=
  Posts state action → action.queued = true

instance (state : State) (action : Action) : Decidable (Posts state action) := by
  unfold Posts
  split <;> infer_instance

instance (state : State) (action : Action) : Decidable (PostSucceeds state action) :=
  inferInstanceAs (Decidable (Posts state action → action.queued = true))

/-! ## The invariant -/

/-- A start is run when the stop of the one before it has run. -/
def MayRun (netif : Bool) (callback : Callback) : Prop :=
  callback = .startAccessPointDhcpDns → netif = false

/-- What the flag is or, in the middle of a call, is about to be. -/
def State.intended (state : State) : Bool :=
  match state.app with
  | .idle => state.accessPointRunning
  | .starting => true
  | .stopping _ => false
  | .leaving => false

/-- What a callback makes of the interface. -/
def netifBehind (_ : Bool) (callback : Callback) : Bool :=
  callback.netif

/-- The pending callbacks lead to what the flag says. -/
structure Consistent (state : State) : Prop where
  settled : Mailbox.settled netifBehind state.netif state.pending = state.intended
  allowed : Mailbox.Allowed netifBehind MayRun state.netif state.pending
  left_ : state.app = .leaving → state.accessPointRunning = false

theorem initial_consistent : Consistent .initial :=
  ⟨rfl, trivial, fun leaving => by cases leaving⟩

/-! ## One step -/

/-- A post that succeeds makes its callback the intended state. -/
theorem Consistent.post {state next : State} {callback : Callback} (consistent : Consistent state)
    (may : MayRun state.intended callback) (netif : next.netif = state.netif)
    (pending : next.pending = state.pending) (intended : next.intended = callback.netif)
    (stays : next.app ≠ .leaving) : Consistent (tcpipCallback next callback true) := by
  refine ⟨?_, ?_, fun leaving => absurd leaving stays⟩
  · change Mailbox.settled netifBehind next.netif (next.pending ++ [callback]) = next.intended
    rw [Mailbox.settled_post, intended]
    rfl
  · change Mailbox.Allowed netifBehind MayRun next.netif (next.pending ++ [callback])
    rw [netif, pending]
    apply consistent.allowed.post
    rw [consistent.settled]
    exact may

theorem Consistent.returning {state : State} (consistent : Consistent state) (result : Bool) :
    Consistent { state with returned := some result } :=
  ⟨consistent.settled, consistent.allowed, consistent.left_⟩

theorem wifiInitialize_consistent {state : State} (consistent : Consistent state)
    (succeeds : Bool) : Consistent <| wifiInitialize state succeeds := by
  unfold wifiInitialize
  split
  · exact consistent.returning true
  · split
    · exact consistent.returning false
    · exact ⟨consistent.settled, consistent.allowed, consistent.left_⟩

theorem wifiAccessPointStart_consistent {state : State} (consistent : Consistent state)
    (idle : state.app = .idle) (ssid password : Option CString) {queued : Bool}
    (succeeds : PostSucceeds state (.accessPointStart ssid password queued)) :
    Consistent (wifiAccessPointStart state ssid password queued) := by
  cases ssid with
  | none => exact consistent.returning false
  | some ssid =>
      unfold wifiAccessPointStart
      simp only
      split
      · exact consistent.returning false
      · rename_i nonempty
        split
        · exact consistent.returning false
        · rename_i initialized
          split
          · exact consistent.returning true
          · rename_i stopped
            have off : state.intended = false := by
              rw [State.intended, idle]
              simpa using stopped
            have sent : queued = true := succeeds ⟨nonempty, by simpa using initialized,
              by simpa using stopped⟩
            rw [sent]
            apply consistent.post
            · exact fun _ => off
            · rfl
            · rfl
            · rfl
            · exact AppStage.noConfusion

/-- The post of a stop, from whichever function it comes. -/
theorem stopping_consistent {state : State} (consistent : Consistent state)
    (deinitializes : Bool) :
    Consistent (tcpipCallback { state with app := .stopping deinitializes }
      .stopAccessPointDhcp true) := by
  apply consistent.post
  · rintro ⟨⟩
  · rfl
  · rfl
  · rfl
  · exact AppStage.noConfusion

theorem wifiAccessPointStop_consistent {state : State} (consistent : Consistent state)
    {queued : Bool} (succeeds : PostSucceeds state (.accessPointStop queued)) :
    Consistent (wifiAccessPointStop state queued) := by
  unfold wifiAccessPointStop
  split
  · exact consistent.returning true
  · rename_i running
    have sent : queued = true := succeeds (by simpa [Posts] using running)
    rw [sent]
    exact stopping_consistent consistent false

theorem wifiDeinitialize_consistent {state : State} (consistent : Consistent state)
    (idle : state.app = .idle) {queued : Bool}
    (succeeds : PostSucceeds state (.deinitializeWiFi queued)) :
    Consistent <| wifiDeinitialize state queued := by
  unfold wifiDeinitialize
  split
  · exact consistent
  · rename_i initialized
    split
    · rename_i stopped
      have off : state.accessPointRunning = false := by simpa using stopped
      have settled := consistent.settled
      rw [State.intended, idle] at settled
      simp only [off] at settled
      exact ⟨settled, consistent.allowed, fun _ => off⟩
    · rename_i running
      have sent : queued = true := succeeds ⟨by simpa using initialized, by simpa using running⟩
      rw [sent]
      exact stopping_consistent consistent true

theorem proceed_consistent {state next : State} (consistent : Consistent state)
    (taken : proceed state = some next) : Consistent next := by
  have settled := consistent.settled
  unfold proceed at taken
  unfold State.intended at settled
  split at taken
  · cases taken
  · rename_i starting
    rw [starting] at settled
    cases taken
    exact ⟨settled, consistent.allowed, fun leaving => by cases leaving⟩
  · rename_i stopping
    rw [stopping] at settled
    cases taken
    exact ⟨settled, consistent.allowed, fun leaving => by cases leaving⟩
  · rename_i stopping
    rw [stopping] at settled
    cases taken
    exact ⟨settled, consistent.allowed, fun _ => rfl⟩
  · rename_i leaving
    have off := consistent.left_ leaving
    rw [leaving] at settled
    cases taken
    refine ⟨?_, consistent.allowed, fun leaving => by cases leaving⟩
    exact settled.trans off.symm

theorem process_consistent {state next : State} (consistent : Consistent state)
    (taken : process state = some next) : Consistent next := by
  have settled := consistent.settled
  have allowed := consistent.allowed
  unfold process at taken
  cases pending : state.pending with
  | nil =>
      rw [pending] at taken
      cases taken
  | cons callback rest =>
      rw [pending] at taken settled allowed
      cases taken
      exact ⟨settled, allowed.2, consistent.left_⟩

/-- One step of either party, when its post succeeds. -/
theorem step_consistent {state next : State} {action : Action} (consistent : Consistent state)
    (succeeds : PostSucceeds state action) (taken : step state action = some next) :
    Consistent next := by
  cases action with
  | proceed => exact proceed_consistent consistent taken
  | process => exact process_consistent consistent taken
  | _ =>
      cases app : state.app with
      | idle =>
          simp only [step, app, callStep, Option.some.injEq] at taken
          subst taken
          first
            | exact wifiInitialize_consistent consistent _
            | exact wifiDeinitialize_consistent consistent app succeeds
            | exact wifiAccessPointStart_consistent consistent app _ _ succeeds
            | exact wifiAccessPointStop_consistent consistent succeeds
      | _ =>
          simp only [step, app] at taken
          cases taken

end AccessPoint
end RP2040
end WiFi
end NetLL
