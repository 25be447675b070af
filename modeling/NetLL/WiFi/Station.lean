import NetLL.Library.Polling
import NetLL.WiFi.AccessPoint
import NetLL.WiFi.ESP32

namespace NetLL
namespace WiFi

/-!
# Connecting as a station

`WiFiStationConnect` hands its request to the driver and polls until the
station has an address or the time is up.  The driver has a life of its own:
it can still be associated with the network of an earlier request when the
polls begin, and lose and find networks while they go on.

On ESP32 a poll asks for any association and any address, and a network that is
left over from an earlier request passes for the new one.  On RP2040 a poll
asks for a link status that the driver never gives to a station.
-/

/-- What the driver is at a moment: the network that the station is associated
with, and the address that the station holds, or 0. -/
structure Moment where
  network : Option Ssid
  address : UInt32

/-- The station can use some network. -/
def Moment.connected (moment : Moment) : Bool :=
  moment.network.isSome && moment.address != 0

/-- The station can use the network of this name. -/
def Moment.ConnectedTo (moment : Moment) (ssid : CString) : Prop :=
  moment.network.map Ssid.name = some ssid ∧ moment.address ≠ 0

theorem Moment.ConnectedTo.connected {moment : Moment} {ssid : CString}
    (joined : moment.ConnectedTo ssid) : moment.connected = true := by
  rcases joined with ⟨named, address⟩
  rcases Option.map_eq_some_iff.mp named with ⟨network, associated, _⟩
  simp [Moment.connected, associated, address]

/-- What a request led to: its result, the calls of the driver, and the polls. -/
structure Attempt (Call Poll : Type) where
  returned : Bool
  calls : List Call
  polls : List Poll

/-! ## ESP32 -/

namespace ESP32

def wifiStationConnectTimeoutMilliseconds : Nat := 15000

def wifiStationConnectPollMilliseconds : Nat := 100

/-- What the driver answers to the questions of a poll.  It reports the network
that the station is associated with, and the address of the station. -/
structure StationDriver where
  staGetApInfo : Moment → Option ApRecord
  getIpInfo : Moment → Option UInt32
  current : ∀ moment, (staGetApInfo moment).map ApRecord.name =
    moment.network.map fun ssid => ssid.name.bytes
  address : ∀ moment, getIpInfo moment = some moment.address

/-- The configuration that `StartStationConnection` fills in. -/
def stationConfig (ssid : CString) (password : Option CString) : StaConfig where
  ssid := storeSsid ssid
  password := storePassword password
  ssidSize := length_storeSsid ssid
  passwordSize := length_storePassword password

/-- `StartStationConnection`. -/
def startStationConnection (ssid : CString) (password : Option CString) (answers : Answers) :
    Bool × List Call :=
  let config := Config.station (stationConfig ssid password)
  if !answers.setMode then (false, [.setMode .station])
  else if !answers.setConfig then (false, [.setMode .station, .setConfig config])
  else (answers.connect, [.setMode .station, .setConfig config, .connect])

/-- `StationHasAddress`. -/
def stationHasAddress (driver : StationDriver) (moment : Moment) : Bool :=
  match driver.staGetApInfo moment with
  | none => false
  | some _ =>
      match driver.getIpInfo moment with
      | none => false
      | some address => address != 0

/-- `WaitForStationAddress`. -/
def waitForStationAddress (driver : StationDriver) (timeline : List Moment) :
    Exec (Polling.Outcome Moment) :=
  Polling.poll (fun waited => decide (waited < wifiStationConnectTimeoutMilliseconds))
    (fun waited _ => waited + wifiStationConnectPollMilliseconds) (stationHasAddress driver)
    timeline 0

/-- `WiFiStationConnect`, with the moments at which it can poll. -/
def wifiStationConnect (state : State) (ssid password : Option CString) (answers : Answers)
    (driver : StationDriver) (timeline : List Moment) : Exec (Attempt Call Moment) :=
  match ssid with
  | none => .done ⟨false, [], []⟩
  | some ssid =>
      if ssid.bytes = [] then .done ⟨false, [], []⟩
      else if !state.wifiInitialized then .done ⟨false, [], []⟩
      else if state.accessPointRunning then .done ⟨false, [], []⟩
      else
        match startStationConnection ssid password answers with
        | (false, calls) => .done ⟨false, calls, []⟩
        | (true, calls) => do
            let outcome ← waitForStationAddress driver timeline
            if outcome.accepted then .done ⟨true, calls, outcome.polls⟩
            else .done ⟨false, calls ++ [.disconnect], outcome.polls⟩

/-- The driver takes the request. -/
structure Accepts (state : State) (ssid : CString) (answers : Answers) : Prop where
  nonempty : ssid.bytes ≠ []
  initialized : state.wifiInitialized = true
  stopped : state.accessPointRunning = false
  setMode : answers.setMode = true
  setConfig : answers.setConfig = true
  connect : answers.connect = true

/-- The number of polls before the timeout. -/
def pollCount : Nat := wifiStationConnectTimeoutMilliseconds / wifiStationConnectPollMilliseconds

theorem stationHasAddress_eq (driver : StationDriver) (moment : Moment) :
    stationHasAddress driver moment = moment.connected := by
  have current := driver.current moment
  have address := driver.address moment
  unfold stationHasAddress Moment.connected
  rw [address]
  cases asked : driver.staGetApInfo moment with
  | none =>
      rw [asked, Option.map_none, eq_comm, Option.map_eq_none_iff] at current
      rw [current]
      rfl
  | some record =>
      rw [asked, Option.map_some, eq_comm, Option.map_eq_some_iff] at current
      rcases current with ⟨network, associated, _⟩
      rw [associated]
      rfl

/-- The calls of a request that is accepted. -/
def acceptedCalls (ssid : CString) (password : Option CString) : List Call :=
  [.setMode .station, .setConfig (.station (stationConfig ssid password)), .connect]

/-- An accepted request comes down to the wait. -/
theorem wifiStationConnect_eq {state : State} {ssid : CString} {answers : Answers}
    (accepts : Accepts state ssid answers) (password : Option CString) (driver : StationDriver)
    (timeline : List Moment) :
    wifiStationConnect state (some ssid) password answers driver timeline =
      waitForStationAddress driver timeline >>= fun outcome =>
        if outcome.accepted then .done ⟨true, acceptedCalls ssid password, outcome.polls⟩
        else .done ⟨false, acceptedCalls ssid password ++ [.disconnect], outcome.polls⟩ := by
  simp only [wifiStationConnect, startStationConnection, if_neg accepts.nonempty,
    accepts.initialized, accepts.stopped, accepts.setMode, accepts.setConfig, accepts.connect,
    Bool.not_true, Bool.false_eq_true, if_false]
  rfl

theorem window_eq (timeline : List Moment) :
    Polling.window (fun waited => decide (waited < wifiStationConnectTimeoutMilliseconds))
      (fun waited _ => waited + wifiStationConnectPollMilliseconds) timeline 0 =
      timeline.take pollCount :=
  Polling.window_counter (by decide) timeline (by decide)

theorem wifiStationConnect_returns {state : State} {ssid : CString} {answers : Answers}
    (accepts : Accepts state ssid answers) (password : Option CString) (driver : StationDriver)
    {timeline : List Moment} (enough : pollCount < timeline.length) :
    ∃ attempt, wifiStationConnect state (some ssid) password answers driver timeline =
      .done attempt := by
  have short : (Polling.window
      (fun waited => decide (waited < wifiStationConnectTimeoutMilliseconds))
      (fun waited _ => waited + wifiStationConnectPollMilliseconds) timeline 0).length <
      timeline.length := by
    rw [window_eq, List.length_take]
    omega
  rcases Polling.exists_poll_done short with ⟨outcome, waited⟩
  rw [wifiStationConnect_eq accepts, waitForStationAddress, waited, Exec.done_bind]
  split <;> exact ⟨_, rfl⟩

/-- The result is the truth if and only if the first association with an
address that is seen, if there is one, is with the right network. -/
theorem wifiStationConnect_honest_iff {state : State} {ssid : CString} {answers : Answers}
    (accepts : Accepts state ssid answers) {password : Option CString} {driver : StationDriver}
    {timeline : List Moment} {attempt : Attempt Call Moment}
    (finished : wifiStationConnect state (some ssid) password answers driver timeline =
      .done attempt) :
    (attempt.returned = true ↔ ∃ moment ∈ attempt.polls, moment.ConnectedTo ssid) ↔
      ∀ moment, (timeline.take pollCount).find? Moment.connected = some moment →
        moment.ConnectedTo ssid := by
  rw [wifiStationConnect_eq accepts, Exec.bind_eq_done_iff] at finished
  rcases finished with ⟨outcome, waited, whole⟩
  have asked : stationHasAddress driver = Moment.connected :=
    funext fun moment => stationHasAddress_eq driver moment
  have settled := Polling.poll_done waited
  rw [asked, window_eq] at settled
  have complete : ∀ moment : Moment, moment.ConnectedTo ssid → moment.connected = true :=
    fun _ joined => joined.connected
  have honest := Polling.honest_settle_iff complete (timeline.take pollCount)
  rw [← settled, Polling.Honest] at honest
  split at whole
  · rename_i accepted
    cases whole
    rw [accepted] at honest
    exact honest
  · rename_i refused
    cases whole
    rw [Bool.eq_false_iff.mpr refused] at honest
    exact honest

end ESP32

/-! ## RP2040 -/

namespace RP2040
namespace Station

def stationConnectTimeoutMs : Nat := 15000

def stationConnectPollMs : Nat := 100

/-- `CYW43_LINK_JOIN`. -/
def cyw43LinkJoin : Int := 1

/-- `CYW43_LINK_UP`. -/
def cyw43LinkUp : Int := 3

/-- `cyw43_wifi_link_status` for the station.  It does not look at addresses,
and a station that is associated has joined. -/
structure StationDriver where
  wifiLinkStatus : Moment → Int
  joined : ∀ moment, moment.network.isSome = true → wifiLinkStatus moment = cyw43LinkJoin
  notUp : ∀ moment, wifiLinkStatus moment ≠ cyw43LinkUp

/-- The calls of the driver that ask for a connection. -/
inductive Call where
  | enableStaMode
  | wifiConnectAsync (ssid : CString) (password : Option CString)
      (authMode : AccessPoint.AuthMode)

/-- One round of the wait: the moment of its poll, and by how many microseconds
the round is longer than its sleep. -/
structure Turn where
  moment : Moment
  late : Nat

/-- `StationHasAddress`. -/
def stationHasAddress (driver : StationDriver) (moment : Moment) : Bool :=
  driver.wifiLinkStatus moment == cyw43LinkUp && moment.address != 0

/-- Whether the deadline is ahead, so many microseconds after it was set. -/
def inTime (elapsed : Nat) : Bool :=
  decide (elapsed < stationConnectTimeoutMs * 1000)

/-- The clock at the next test of the deadline. -/
def nextTest (elapsed : Nat) (turn : Turn) : Nat :=
  elapsed + stationConnectPollMs * 1000 + turn.late

/-- `WaitForStationAddress`; the first test of the deadline is made so many
microseconds after the deadline was set. -/
def waitForStationAddress (driver : StationDriver) (timeline : List Turn) (elapsed : Nat) :
    Exec (Polling.Outcome Turn) :=
  Polling.poll inTime nextTest (fun turn => stationHasAddress driver turn.moment) timeline elapsed

/-- The turns that are polled before the timeout. -/
def beforeTimeout (timeline : List Turn) (elapsed : Nat) : List Turn :=
  Polling.window inTime nextTest timeline elapsed

/-- The password that is handed on; an empty one is none. -/
def passwordOf (password : Option CString) : Option CString :=
  password.filter fun password => password.bytes ≠ []

/-- `WiFiStationConnect`, with the outcome of `cyw43_arch_wifi_connect_async`. -/
def wifiStationConnect (wifiInitialized : Bool) (ssid password : Option CString) (accepts : Bool)
    (driver : StationDriver) (timeline : List Turn) (elapsed : Nat) :
    Exec (Attempt Call Turn) :=
  match ssid with
  | none => .done ⟨false, [], []⟩
  | some ssid =>
      if ssid.bytes = [] then .done ⟨false, [], []⟩
      else if !wifiInitialized then .done ⟨false, [], []⟩
      else
        let calls := [.enableStaMode,
          .wifiConnectAsync ssid (passwordOf password) (AccessPoint.authModeOf password)]
        if !accepts then .done ⟨false, calls, []⟩
        else do
          let outcome ← waitForStationAddress driver timeline elapsed
          .done ⟨outcome.accepted, calls, outcome.polls⟩

/-- No poll is accepted, whatever the driver does. -/
theorem stationHasAddress_eq_false (driver : StationDriver) (moment : Moment) :
    stationHasAddress driver moment = false := by
  unfold stationHasAddress
  rw [beq_false_of_ne (driver.notUp moment), Bool.false_and]

/-- An accepted request comes down to the wait. -/
theorem wifiStationConnect_eq {ssid : CString} (nonempty : ssid.bytes ≠ [])
    (password : Option CString) (driver : StationDriver) (timeline : List Turn) (elapsed : Nat) :
    wifiStationConnect true (some ssid) password true driver timeline elapsed =
      waitForStationAddress driver timeline elapsed >>= fun outcome =>
        .done ⟨outcome.accepted,
          [.enableStaMode,
            .wifiConnectAsync ssid (passwordOf password) (AccessPoint.authModeOf password)],
          outcome.polls⟩ := by
  simp only [wifiStationConnect, if_neg nonempty]
  rfl

theorem wifiStationConnect_returns {ssid : CString} (nonempty : ssid.bytes ≠ [])
    (password : Option CString) (driver : StationDriver) {timeline : List Turn} (elapsed : Nat)
    (enough : stationConnectTimeoutMs / stationConnectPollMs < timeline.length) :
    ∃ attempt, wifiStationConnect true (some ssid) password true driver timeline elapsed =
      .done attempt := by
  have advances : ∀ elapsed turn, elapsed + stationConnectPollMs * 1000 ≤ nextTest elapsed turn :=
    fun _ _ => Nat.le_add_right _ _
  have short : (Polling.window inTime nextTest timeline elapsed).length < timeline.length := by
    refine Nat.lt_of_le_of_lt (Polling.length_window_le advances timeline ?_) enough
    exact Nat.le_trans (by decide) (Nat.le_add_left _ _)
  rcases Polling.exists_poll_done short with ⟨outcome, waited⟩
  rw [wifiStationConnect_eq nonempty, waitForStationAddress, waited, Exec.done_bind]
  exact ⟨_, rfl⟩

theorem wifiStationConnect_done {ssid : CString} (nonempty : ssid.bytes ≠ [])
    {password : Option CString} {driver : StationDriver} {timeline : List Turn} {elapsed : Nat}
    {attempt : Attempt Call Turn}
    (finished : wifiStationConnect true (some ssid) password true driver timeline elapsed =
      .done attempt) :
    attempt.returned = false ∧ attempt.polls = beforeTimeout timeline elapsed := by
  rw [wifiStationConnect_eq nonempty, Exec.bind_eq_done_iff] at finished
  rcases finished with ⟨outcome, waited, whole⟩
  have settled := Polling.poll_done waited
  have refuses : ∀ turn : Turn, stationHasAddress driver turn.moment = false :=
    fun turn => stationHasAddress_eq_false driver turn.moment
  rw [Polling.settle_of_refuses refuses] at settled
  cases whole
  rw [settled]
  exact ⟨rfl, rfl⟩

/-- The result is the truth if and only if the station is never connected to
the network before the timeout. -/
theorem wifiStationConnect_honest_iff {ssid : CString} (nonempty : ssid.bytes ≠ [])
    {password : Option CString} {driver : StationDriver} {timeline : List Turn} {elapsed : Nat}
    {attempt : Attempt Call Turn}
    (finished : wifiStationConnect true (some ssid) password true driver timeline elapsed =
      .done attempt) :
    (attempt.returned = true ↔ ∃ turn ∈ attempt.polls, turn.moment.ConnectedTo ssid) ↔
      ∀ turn ∈ beforeTimeout timeline elapsed, ¬ turn.moment.ConnectedTo ssid := by
  rcases wifiStationConnect_done nonempty finished with ⟨returned, polls⟩
  rw [returned, polls]
  constructor
  · intro honest turn member joined
    cases honest.mpr ⟨turn, member, joined⟩
  · intro never
    refine ⟨Bool.noConfusion, ?_⟩
    rintro ⟨turn, member, joined⟩
    exact absurd joined (never turn member)

end Station
end RP2040

/-! ## Both platforms -/

/-- Once a request is accepted the call returns, and its result is the truth,
on ESP32 if and only if the first association with an address that is seen
before the timeout, if there is one, is with the network of that name, and on
RP2040 if and only if the station is never connected to it before the timeout. -/
theorem tellsTruth_iff (ssid : CString) (password : Option CString) :
    (∀ (driver : ESP32.StationDriver) state answers timeline,
      ESP32.Accepts state ssid answers →
        (ESP32.pollCount < timeline.length → ∃ attempt,
          ESP32.wifiStationConnect state (some ssid) password answers driver timeline =
            .done attempt) ∧
        ∀ attempt,
          ESP32.wifiStationConnect state (some ssid) password answers driver timeline =
            .done attempt →
          ((attempt.returned = true ↔ ∃ moment ∈ attempt.polls, moment.ConnectedTo ssid) ↔
            ∀ moment, (timeline.take ESP32.pollCount).find? Moment.connected = some moment →
              moment.ConnectedTo ssid)) ∧
    ∀ (driver : RP2040.Station.StationDriver) timeline elapsed, ssid.bytes ≠ [] →
      (RP2040.Station.stationConnectTimeoutMs / RP2040.Station.stationConnectPollMs <
          timeline.length → ∃ attempt,
        RP2040.Station.wifiStationConnect true (some ssid) password true driver timeline elapsed =
          .done attempt) ∧
      ∀ attempt,
        RP2040.Station.wifiStationConnect true (some ssid) password true driver timeline elapsed =
          .done attempt →
        ((attempt.returned = true ↔ ∃ turn ∈ attempt.polls, turn.moment.ConnectedTo ssid) ↔
          ∀ turn ∈ RP2040.Station.beforeTimeout timeline elapsed,
            ¬ turn.moment.ConnectedTo ssid) := by
  constructor
  · intro driver state answers timeline accepts
    exact ⟨ESP32.wifiStationConnect_returns accepts password driver,
      fun _ => ESP32.wifiStationConnect_honest_iff accepts⟩
  · intro driver timeline elapsed nonempty
    exact ⟨RP2040.Station.wifiStationConnect_returns nonempty password driver elapsed,
      fun _ => RP2040.Station.wifiStationConnect_honest_iff nonempty⟩

/-! ## Two drivers -/

/-- A driver that reports what it is. -/
def ESP32.plainDriver : ESP32.StationDriver where
  staGetApInfo moment := moment.network.map ESP32.recordOf
  getIpInfo moment := some moment.address
  current moment := by
    rw [Option.map_map]
    congr 1
    funext ssid
    exact ESP32.name_recordOf ssid
  address _ := rfl

/-- A station has joined or is down. -/
def RP2040.Station.plainDriver : RP2040.Station.StationDriver where
  wifiLinkStatus moment :=
    if moment.network.isSome then RP2040.Station.cyw43LinkJoin else 0
  joined _ associated := if_pos associated
  notUp moment := by
    split <;> decide

def Ssid.home : Ssid := ⟨.literal "home", by decide +kernel, by decide +kernel⟩

def Ssid.office : Ssid := ⟨.literal "office", by decide +kernel, by decide +kernel⟩

/-- The answers when everything succeeds. -/
def ESP32.Answers.all : ESP32.Answers where
  createAccessPointNetif := true
  setMode := true
  setConfig := true
  start := .ok
  setIpInfo := true
  dhcpsStart := true
  connect := true

/-- On ESP32 the network at home passes for the one at the office.  On RP2040
the network at home is there at every poll, and the result is false. -/
theorem connections_are_misreported :
    (∃ attempt, ESP32.wifiStationConnect ⟨true, false, false⟩ (some Ssid.office.name) none .all
        ESP32.plainDriver [⟨some .home, 1⟩] = .done attempt ∧
      attempt.returned = true ∧
      ¬ ∃ moment ∈ attempt.polls, moment.ConnectedTo Ssid.office.name) ∧
    ∃ attempt, RP2040.Station.wifiStationConnect true (some Ssid.home.name) none true
        RP2040.Station.plainDriver (List.replicate 151 ⟨⟨some .home, 1⟩, 0⟩) 0 = .done attempt ∧
      attempt.returned = false ∧ ∃ turn ∈ attempt.polls, turn.moment.ConnectedTo Ssid.home.name := by
  constructor
  · refine ⟨_, rfl, rfl, ?_⟩
    rintro ⟨moment, member, named, _⟩
    cases List.mem_singleton.mp member
    revert named
    decide +kernel
  · have enough : RP2040.Station.stationConnectTimeoutMs / RP2040.Station.stationConnectPollMs <
        (List.replicate 151 (⟨⟨some .home, 1⟩, 0⟩ : RP2040.Station.Turn)).length := by
      rw [List.length_replicate]
      decide
    rcases RP2040.Station.wifiStationConnect_returns Ssid.home.nonempty none
      RP2040.Station.plainDriver 0 enough with ⟨attempt, finished⟩
    rcases RP2040.Station.wifiStationConnect_done Ssid.home.nonempty finished with
      ⟨returned, polls⟩
    refine ⟨attempt, finished, returned, ⟨⟨some .home, 1⟩, 0⟩, ?_, rfl, by decide⟩
    rw [polls]
    exact List.mem_cons_self

/-- The network at the office is found when it is asked for. -/
theorem tellsTruth_office :
    ∃ attempt, ESP32.wifiStationConnect ⟨true, false, false⟩ (some Ssid.office.name) none .all
        ESP32.plainDriver [⟨none, 0⟩, ⟨some .office, 1⟩] = .done attempt ∧
      (attempt.returned = true ↔
        ∃ moment ∈ attempt.polls, moment.ConnectedTo Ssid.office.name) := by
  have accepts : ESP32.Accepts ⟨true, false, false⟩ Ssid.office.name .all :=
    ⟨Ssid.office.nonempty, rfl, rfl, rfl, rfl, rfl⟩
  refine ⟨_, rfl, (((tellsTruth_iff _ none).1 ESP32.plainDriver _ _
    [⟨none, 0⟩, ⟨some .office, 1⟩] accepts).2 _ rfl).mpr ?_⟩
  intro moment found
  cases found
  exact ⟨rfl, by decide⟩

end WiFi
end NetLL
