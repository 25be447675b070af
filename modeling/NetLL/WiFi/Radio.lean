import NetLL.Library.Transition
import NetLL.WiFi.Station

namespace NetLL
namespace WiFi
namespace ESP32

/-!
# The radio on ESP32

`WiFiInitialize` brings the driver up in station mode, an access point switches
its mode, and `WiFiDeinitialize` takes it down.  Two flags stand for what the
driver is, and every function goes by them.  A call that fails halfway undoes
what it did, and it does not look at the result of that.
-/

/-! ## The driver -/

/-- The result of `nvs_flash_init`. -/
inductive NvsResult where
  | ok
  | noFreePages
  | newVersionFound
  | failed
deriving DecidableEq, Repr

/-- The result of `esp_event_loop_create_default`; the second one says that
there is one. -/
inductive EventLoopResult where
  | ok
  | invalidState
  | failed
deriving DecidableEq, Repr

/-- The calls of ESP-IDF with their results. -/
inductive RadioCall where
  | nvsFlashInit (result : NvsResult)
  | nvsFlashErase (succeeds : Bool)
  | netifInit (succeeds : Bool)
  | eventLoopCreateDefault (result : EventLoopResult)
  | createStationNetif
  | init (succeeds : Bool)
  | deinit (succeeds : Bool)
  | stop (succeeds : Bool)
  | driver (call : Call) (succeeds : Bool)

/-- What the calls make of the chip. -/
structure Radio where
  nvs : Bool
  netif : Bool
  eventLoop : Bool
  stationNetif : Bool
  accessPointNetif : Bool
  initialized : Bool
  started : Bool
  mode : Mode
deriving DecidableEq, Repr

/-- Before any call. -/
def Radio.off : Radio where
  nvs := false
  netif := false
  eventLoop := false
  stationNetif := false
  accessPointNetif := false
  initialized := false
  started := false
  mode := .station

/-- When a call may be made: the driver is brought up on what it rests on, and
only once, it is taken down when it is stopped, a network interface is made only
once, and an interface is configured in its own mode. -/
def RadioCall.ready (radio : Radio) : RadioCall → Bool
  | .nvsFlashInit _ | .nvsFlashErase _ | .netifInit _ | .eventLoopCreateDefault _ => true
  | .createStationNetif => radio.netif && radio.eventLoop && !radio.stationNetif
  | .init _ => radio.nvs && radio.netif && radio.eventLoop && !radio.initialized
  | .deinit _ => radio.initialized && !radio.started
  | .stop _ => radio.initialized
  | .driver .createAccessPointNetif _ =>
      radio.netif && radio.eventLoop && !radio.accessPointNetif
  | .driver (.setMode _) _ | .driver .start _ => radio.initialized
  | .driver (.setConfig (.station _)) _ => radio.initialized && radio.mode == .station
  | .driver (.setConfig (.accessPoint _)) _ => radio.initialized && radio.mode == .accessPoint
  | .driver .dhcpsStop _ | .driver (.setIpInfo _ _ _) _ | .driver .dhcpsStart _ =>
      radio.accessPointNetif
  | .driver .connect _ | .driver .disconnect _ => radio.started && radio.mode == .station

/-- A call that fails changes nothing. -/
def Radio.after (radio : Radio) : RadioCall → Radio
  | .nvsFlashInit .ok => { radio with nvs := true }
  | .nvsFlashErase true => { radio with nvs := false }
  | .netifInit true => { radio with netif := true }
  | .eventLoopCreateDefault .ok | .eventLoopCreateDefault .invalidState =>
      { radio with eventLoop := true }
  | .createStationNetif => { radio with stationNetif := true }
  | .init true => { radio with initialized := true }
  | .deinit true => { radio with initialized := false }
  | .stop true => { radio with started := false }
  | .driver .createAccessPointNetif true => { radio with accessPointNetif := true }
  | .driver (.setMode mode) true => { radio with mode }
  | .driver .start true => { radio with started := true }
  | _ => radio

/-- The radio takes a call that it is ready for. -/
def Radio.step (radio : Radio) (call : RadioCall) : Option Radio :=
  if call.ready radio then some (radio.after call) else none

/-! ## The functions -/

/-- The static storage, and the calls that were made. -/
structure System where
  flags : State
  /-- The pointer is not null. -/
  stationNetif : Bool
  calls : List RadioCall

def System.initial : System where
  flags := ⟨false, false, false⟩
  stationNetif := false
  calls := []

/-- The answers to one call of `WiFiInitialize`. -/
structure InitAnswers where
  nvs : NvsResult
  erase : Bool
  nvsAgain : NvsResult
  netifInit : Bool
  eventLoop : EventLoopResult
  init : Bool
  setMode : Bool
  start : Bool
  deinit : Bool
deriving DecidableEq, Repr

/-- `InitializeNvs`. -/
def initializeNvs (answers : InitAnswers) : Bool × List RadioCall :=
  if answers.nvs = .noFreePages ∨ answers.nvs = .newVersionFound then
    if !answers.erase then (false, [.nvsFlashInit answers.nvs, .nvsFlashErase false])
    else
      (answers.nvsAgain = .ok,
        [.nvsFlashInit answers.nvs, .nvsFlashErase true, .nvsFlashInit answers.nvsAgain])
  else (answers.nvs = .ok, [.nvsFlashInit answers.nvs])

/-- `InitializeNetworkStack`. -/
def initializeNetworkStack (stationNetif : Bool) (answers : InitAnswers) :
    Bool × List RadioCall :=
  if !answers.netifInit then (false, [.netifInit false])
  else if answers.eventLoop = .failed then
    (false, [.netifInit true, .eventLoopCreateDefault .failed])
  else
    (true, [.netifInit true, .eventLoopCreateDefault answers.eventLoop] ++
      if stationNetif then [] else [.createStationNetif])

/-- `StartRadioInStationMode`. -/
def startRadioInStationMode (answers : InitAnswers) : Bool × List RadioCall :=
  if !answers.init then (false, [.init false])
  else if !answers.setMode then
    (false, [.init true, .driver (.setMode .station) false, .deinit answers.deinit])
  else if !answers.start then
    (false, [.init true, .driver (.setMode .station) true, .driver .start false,
      .deinit answers.deinit])
  else (true, [.init true, .driver (.setMode .station) true, .driver .start true])

/-- `WiFiInitialize`. -/
def wifiInitialize (system : System) (answers : InitAnswers) : Bool × System :=
  if system.flags.wifiInitialized then (true, system)
  else
    let nvs := initializeNvs answers
    let system := { system with calls := system.calls ++ nvs.2 }
    if !nvs.1 then (false, system)
    else
      let stack := initializeNetworkStack system.stationNetif answers
      let system := {
        system with
        stationNetif := system.stationNetif || stack.1
        calls := system.calls ++ stack.2 }
      if !stack.1 then (false, system)
      else
        let radio := startRadioInStationMode answers
        let system := { system with calls := system.calls ++ radio.2 }
        if !radio.1 then (false, system)
        else (true, { system with flags := { system.flags with wifiInitialized := true } })

/-- `WiFiDeinitialize`, with the results that it does not look at. -/
def wifiDeinitialize (system : System) (stop deinit : Bool) : System :=
  if !system.flags.wifiInitialized then system
  else {
    system with
    flags := { system.flags with accessPointRunning := false, wifiInitialized := false }
    calls := system.calls ++ [.stop stop, .deinit deinit] }

/-- `WiFiAccessPointStop`. -/
def wifiAccessPointStop (system : System) (setMode : Bool) : Bool × System :=
  if !system.flags.accessPointRunning then (true, system)
  else
    let system := { system with calls := system.calls ++ [.driver (.setMode .station) setMode] }
    if !setMode then (false, system)
    else (true, { system with flags := { system.flags with accessPointRunning := false } })

/-- The result of a call among the others of its function; the switch to station
mode has its own. -/
def Answers.result (answers : Answers) (station : Bool) : Call → Bool
  | .createAccessPointNetif => answers.createAccessPointNetif
  | .setMode .accessPoint => answers.setMode
  | .setMode .station => station
  | .setConfig _ => answers.setConfig
  | .start => answers.start == .ok
  | .setIpInfo _ _ _ => answers.setIpInfo
  | .dhcpsStart => answers.dhcpsStart
  | .connect => answers.connect
  | .dhcpsStop | .disconnect => true

/-- Calls with their results. -/
def Answers.answered (answers : Answers) (station : Bool) (calls : List Call) : List RadioCall :=
  calls.map fun call => .driver call (answers.result station call)

/-- `WiFiAccessPointStart`, with the result of the switch back. -/
def startedAccessPoint (system : System) (ssid password : Option CString) (answers : Answers)
    (undone : Bool) : System :=
  let started := wifiAccessPointStart system.flags ssid password answers
  { system with
    flags := started.2.1
    calls := system.calls ++ answers.answered undone started.2.2 }

/-- The calls of the interface, with all that is answered to them.  A scan uses
the flags and leaves them as they are. -/
inductive ApiCall where
  | initializeWiFi (answers : InitAnswers)
  | deinitializeWiFi (stop deinit : Bool)
  | accessPointStart (ssid password : Option CString) (answers : Answers) (undone : Bool)
  | accessPointStop (setMode : Bool)
  | stationConnect (ssid password : Option CString) (answers : Answers) (driver : StationDriver)
      (timeline : List Moment)

/-- A call of the interface; one that is still waiting is no step yet. -/
def System.step (system : System) : ApiCall → Option System
  | .initializeWiFi answers => some (wifiInitialize system answers).2
  | .deinitializeWiFi stop deinit => some <| wifiDeinitialize system stop deinit
  | .accessPointStart ssid password answers undone =>
      some (startedAccessPoint system ssid password answers undone)
  | .accessPointStop setMode => some (wifiAccessPointStop system setMode).2
  | .stationConnect ssid password answers driver timeline =>
      match wifiStationConnect system.flags ssid password answers driver timeline with
      | .done attempt =>
          some { system with
            calls := system.calls ++ answers.answered answers.setMode attempt.calls }
      | _ => none

/-! ## What the flags stand for -/

/-- The flags say what the radio is: up in the mode that they name, or down. -/
structure Agrees (system : System) (radio : Radio) : Prop where
  initialized : radio.initialized = system.flags.wifiInitialized
  started : radio.started = system.flags.wifiInitialized
  mode : system.flags.wifiInitialized = true →
    radio.mode = if system.flags.accessPointRunning then .accessPoint else .station
  running : system.flags.accessPointRunning = true → system.flags.wifiInitialized = true
  stack : system.flags.wifiInitialized = true → radio.netif = true ∧ radio.eventLoop = true
  stationNetif : radio.stationNetif = system.stationNetif
  accessPointNetif : radio.accessPointNetif = system.flags.accessPointNetif

/-- No call was made that the radio was not ready for, and the flags say what it
is now. -/
def Sound (system : System) : Prop :=
  ∃ radio, Transition.run Radio.step .off system.calls = some radio ∧ Agrees system radio

/-- An access point comes up in the driver, behind the switch of its mode. -/
def Answers.serves (answers : Answers) : Bool :=
  answers.setConfig && answers.start != .failed && answers.setIpInfo && answers.dhcpsStart

/-- What a call did to the driver before it failed is undone, and the driver goes
when it is told to. -/
def Undone (system : System) : ApiCall → Prop
  | .initializeWiFi answers =>
      system.flags.wifiInitialized = false → (initializeNvs answers).1 = true →
        (initializeNetworkStack system.stationNetif answers).1 = true → answers.init = true →
          answers.setMode = false ∨ answers.start = false → answers.deinit = true
  | .deinitializeWiFi stop deinit =>
      system.flags.wifiInitialized = true → stop = true ∧ deinit = true
  | .accessPointStart ssid _ answers undone =>
      ssid.any (·.bytes != []) = true → system.flags.wifiInitialized = true →
        system.flags.accessPointRunning = false →
          (system.flags.accessPointNetif || answers.createAccessPointNetif) = true →
            answers.setMode = true → answers.serves = false → undone = true
  | .accessPointStop _ => True
  | .stationConnect _ _ _ _ _ => True

instance (system : System) : (call : ApiCall) → Decidable (Undone system call)
  | .initializeWiFi _ => inferInstanceAs (Decidable (_ → _ → _ → _ → _ → _))
  | .deinitializeWiFi _ _ => inferInstanceAs (Decidable (_ → _))
  | .accessPointStart _ _ _ _ => inferInstanceAs (Decidable (_ → _ → _ → _ → _ → _ → _))
  | .accessPointStop _ => .isTrue trivial
  | .stationConnect _ _ _ _ _ => .isTrue trivial

/-! ## The calls of one function -/

theorem initializeNvs_run (radio : Radio) (answers : InitAnswers) :
    ∃ nvs, Transition.run Radio.step radio (initializeNvs answers).2 = some { radio with nvs } ∧
      ((initializeNvs answers).1 = true → nvs = true) := by
  rcases answers with ⟨first, erase, again, _⟩
  cases first <;> cases erase <;> cases again <;> exact ⟨_, rfl, by simp [initializeNvs]⟩

theorem initializeNetworkStack_run {radio : Radio} (answers : InitAnswers) :
    ∃ netif eventLoop, Transition.run Radio.step radio
        (initializeNetworkStack radio.stationNetif answers).2 =
          some {
            radio with
            netif
            eventLoop
            stationNetif := radio.stationNetif ||
              (initializeNetworkStack radio.stationNetif answers).1 } ∧
      ((initializeNetworkStack radio.stationNetif answers).1 = true →
        netif = true ∧ eventLoop = true) := by
  rcases radio with ⟨_, _, _, stationNetif, _, _, _, _⟩
  rcases answers with ⟨_, _, _, netifInit, eventLoop, _⟩
  cases netifInit <;> cases eventLoop <;> cases stationNetif <;>
    exact ⟨_, _, rfl, by simp [initializeNetworkStack, Radio.after]⟩

theorem foundation_run {radio : Radio} {answers : InitAnswers}
    (nvsOk : (initializeNvs answers).1 = true) :
    ∃ netif eventLoop, Transition.run Radio.step radio ((initializeNvs answers).2 ++
        (initializeNetworkStack radio.stationNetif answers).2) =
          some {
            radio with
            nvs := true
            netif
            eventLoop
            stationNetif := radio.stationNetif ||
              (initializeNetworkStack radio.stationNetif answers).1 } ∧
      ((initializeNetworkStack radio.stationNetif answers).1 = true →
        netif = true ∧ eventLoop = true) := by
  rcases initializeNvs_run radio answers with ⟨nvs, ranNvs, prepared⟩
  cases prepared nvsOk
  rcases @initializeNetworkStack_run { radio with nvs := true } answers with
    ⟨netif, eventLoop, ranStack, connected⟩
  refine ⟨netif, eventLoop, ?_, connected⟩
  rw [Transition.run_append, ranNvs, Option.bind_some]
  exact ranStack

theorem startRadioInStationMode_fst (answers : InitAnswers) :
    (startRadioInStationMode answers).1 =
      (answers.init && (answers.setMode && answers.start)) := by
  rcases answers with ⟨_, _, _, _, _, _ | _, _ | _, _ | _, _⟩ <;> rfl

/-- A driver that does not start is taken down again. -/
theorem startRadioInStationMode_run {radio : Radio} (nvs : radio.nvs = true)
    (netif : radio.netif = true) (eventLoop : radio.eventLoop = true)
    (down : radio.initialized = false) (stopped : radio.started = false) (answers : InitAnswers) :
    ∃ mode, Transition.run Radio.step radio (startRadioInStationMode answers).2 =
        some {
          radio with
          initialized := answers.init && (answers.setMode && answers.start || !answers.deinit)
          started := (startRadioInStationMode answers).1
          mode } ∧
      ((startRadioInStationMode answers).1 = true → mode = .station) := by
  rcases radio with ⟨_, _, _, _, _, _, _, mode⟩
  cases nvs
  cases netif
  cases eventLoop
  cases down
  cases stopped
  rcases answers with ⟨_, _, _, _, _, init, setMode, start, deinit⟩
  cases init <;> cases setMode <;> cases start <;> cases deinit <;>
    exact ⟨_, rfl, by simp [startRadioInStationMode, Radio.after]⟩

theorem applyAccessPointConfig_fst (config : ApConfig) (answers : Answers) :
    (applyAccessPointConfig config answers).1 = (answers.setMode && answers.serves) := by
  rcases answers with ⟨_, _ | _, _ | _, _ | _ | _, _ | _, _ | _, _⟩ <;> rfl

theorem applyAccessPointConfig_run {radio : Radio} (initialized : radio.initialized = true)
    (started : radio.started = true) (netif : radio.accessPointNetif = true) (config : ApConfig)
    (answers : Answers) (station : Bool) :
    Transition.run Radio.step radio
        (answers.answered station (applyAccessPointConfig config answers).2) =
      some { radio with mode := if answers.setMode then .accessPoint else radio.mode } := by
  rcases radio with ⟨_, _, _, _, _, _, _, _⟩
  cases initialized
  cases started
  cases netif
  rcases answers with ⟨_, setMode, setConfig, start, setIpInfo, dhcpsStart, _⟩
  cases setMode <;> cases setConfig <;> cases start <;> cases setIpInfo <;> cases dhcpsStart <;> rfl

theorem startStationConnection_run {radio : Radio} (initialized : radio.initialized = true)
    (started : radio.started = true) (mode : radio.mode = .station) (ssid : CString)
    (password : Option CString) (answers : Answers) :
    Transition.run Radio.step radio
        (answers.answered answers.setMode (startStationConnection ssid password answers).2) =
      some radio := by
  rcases radio with ⟨_, _, _, _, _, _, _, _⟩
  cases initialized
  cases started
  cases mode
  rcases answers with ⟨_, setMode, setConfig, _, _, _, connect⟩
  cases setMode <;> cases setConfig <;> cases connect <;> rfl

/-- A start that gets as far as the driver. -/
theorem wifiAccessPointStart_eq {state : State} {ssid : CString} (nonempty : ssid.bytes ≠ [])
    (up : state.wifiInitialized = true) (idle : state.accessPointRunning = false)
    (password : Option CString) (answers : Answers) :
    wifiAccessPointStart state (some ssid) password answers =
      if state.accessPointNetif || answers.createAccessPointNetif then
        (answers.setMode && answers.serves,
          { state with
            accessPointNetif := true
            accessPointRunning := answers.setMode && answers.serves },
          (if state.accessPointNetif then [] else [.createAccessPointNetif]) ++
            (applyAccessPointConfig (buildAccessPointConfig ssid password) answers).2 ++
              if answers.setMode && answers.serves then [] else [.setMode .station])
      else (false, state, [.createAccessPointNetif]) := by
  rcases state with ⟨_, _, netif⟩
  cases up
  cases idle
  have result := applyAccessPointConfig_fst (buildAccessPointConfig ssid password) answers
  rw [← result]
  simp only [wifiAccessPointStart, if_neg nonempty, Bool.not_true, Bool.false_eq_true, if_false]
  cases applied : applyAccessPointConfig (buildAccessPointConfig ssid password) answers with
  | mk configured calls =>
      cases netif with
      | true => cases configured <;> simp [ensureAccessPointNetif]
      | false =>
          cases created : answers.createAccessPointNetif with
          | true => cases configured <;> simp [ensureAccessPointNetif, created]
          | false => simp [ensureAccessPointNetif, created]

/-! ## One call of the interface -/

section

variable {system next : System} {radio : Radio}

theorem sound_append {calls : List RadioCall}
    (reached : Transition.run Radio.step .off system.calls = some radio)
    (more : next.calls = system.calls ++ calls) :
    Sound next ↔ ∃ after, Transition.run Radio.step radio calls = some after ∧
      Agrees next after := by
  rw [Sound, more, Transition.run_append, reached, Option.bind_some]

theorem Agrees.sound (agrees : Agrees system radio)
    (reached : Transition.run Radio.step .off system.calls = some radio) : Sound system :=
  ⟨radio, reached, agrees⟩

theorem Agrees.idle_of_down (agrees : Agrees system radio)
    (down : system.flags.wifiInitialized = false) : system.flags.accessPointRunning = false := by
  cases running : system.flags.accessPointRunning with
  | false => rfl
  | true => exact (agrees.running running).symm.trans down

theorem wifiDeinitialize_sound_iff (agrees : Agrees system radio)
    (reached : Transition.run Radio.step .off system.calls = some radio) (stop deinit : Bool) :
    (Sound <| wifiDeinitialize system stop deinit) ↔
      (system.flags.wifiInitialized = true → stop = true ∧ deinit = true) := by
  unfold wifiDeinitialize
  cases up : system.flags.wifiInitialized with
  | false =>
      refine iff_of_true (agrees.sound reached) ?_
      rintro ⟨⟩
  | true =>
      have initialized := agrees.initialized.trans up
      have started := agrees.started.trans up
      refine (sound_append reached rfl).trans ?_
      rcases radio with ⟨_, _, _, _, _, _, _, mode⟩
      cases initialized
      cases started
      constructor
      · rintro ⟨after, taken, told⟩ _
        cases stop with
        | false => cases taken
        | true =>
            cases deinit with
            | false =>
                cases taken
                cases told.initialized
            | true => exact ⟨rfl, rfl⟩
      · intro both
        cases (both rfl).1
        cases (both rfl).2
        refine ⟨_, rfl, ?_⟩
        constructor
        · rfl
        · rfl
        · rintro ⟨⟩
        · rintro ⟨⟩
        · rintro ⟨⟩
        · exact agrees.stationNetif
        · exact agrees.accessPointNetif

theorem wifiAccessPointStop_sound (agrees : Agrees system radio)
    (reached : Transition.run Radio.step .off system.calls = some radio) (setMode : Bool) :
    Sound (wifiAccessPointStop system setMode).2 := by
  rw [wifiAccessPointStop]
  cases running : system.flags.accessPointRunning with
  | false => exact agrees.sound reached
  | true =>
      have up := agrees.running running
      have ready : radio.initialized = true := agrees.initialized.trans up
      have taken : Transition.run Radio.step radio [.driver (.setMode .station) setMode] =
          some (radio.after (.driver (.setMode .station) setMode)) := by
        simp [Transition.run, Radio.step, RadioCall.ready, ready]
      cases setMode with
      | false =>
          refine (sound_append reached rfl).mpr ⟨_, taken, ?_⟩
          exact { agrees with }
      | true =>
          refine (sound_append reached rfl).mpr ⟨_, taken, ?_⟩
          exact {
            initialized := agrees.initialized
            started := agrees.started
            mode := fun _ => rfl
            running := fun impossible => by cases impossible
            stack := agrees.stack
            stationNetif := agrees.stationNetif
            accessPointNetif := agrees.accessPointNetif }

/-- An initialization that fails leaves nothing behind if the driver goes. -/
theorem wifiInitialize_sound_iff (agrees : Agrees system radio)
    (reached : Transition.run Radio.step .off system.calls = some radio) (answers : InitAnswers) :
    Sound (wifiInitialize system answers).2 ↔ Undone system (.initializeWiFi answers) := by
  rw [wifiInitialize, Undone]
  cases up : system.flags.wifiInitialized with
  | true =>
      refine iff_of_true (agrees.sound reached) ?_
      rintro ⟨⟩
  | false =>
      cases nvsOk : (initializeNvs answers).1 with
      | false =>
          rcases initializeNvs_run radio answers with ⟨nvs, ranNvs, _⟩
          simp only [nvsOk, Bool.false_eq_true, if_false, Bool.not_false, if_true]
          refine iff_of_true ((sound_append reached rfl).mpr ⟨_, ranNvs, { agrees with }⟩) ?_
          rintro _ ⟨⟩
      | true =>
          rcases @foundation_run radio answers nvsOk with ⟨netif, eventLoop, ran, connected⟩
          simp only [agrees.stationNetif] at ran connected
          cases stackOk : (initializeNetworkStack system.stationNetif answers).1 with
          | false =>
              simp only [nvsOk, stackOk, Bool.false_eq_true, if_false, Bool.not_false,
                Bool.not_true, if_true]
              refine iff_of_true ((sound_append reached (List.append_assoc _ _ _)).mpr
                ⟨_, ran, ?_⟩) (fun _ _ impossible => by cases impossible)
              exact {
                agrees with
                stack := fun impossible => by cases up.symm.trans impossible
                stationNetif := by rw [stackOk] }
          | true =>
              rcases connected stackOk with ⟨rfl, rfl⟩
              rw [stackOk, Bool.or_true] at ran
              have down := agrees.initialized.trans up
              have stopped := agrees.started.trans up
              rcases @startRadioInStationMode_run
                { radio with nvs := true, netif := true, eventLoop := true, stationNetif := true }
                rfl rfl rfl down stopped answers with ⟨mode, ranRadio, station⟩
              have behind {next : System} (more : next.calls = system.calls ++
                  (initializeNvs answers).2 ++
                  (initializeNetworkStack system.stationNetif answers).2 ++
                  (startRadioInStationMode answers).2) := by
                refine @sound_append system next radio ((initializeNvs answers).2 ++
                  (initializeNetworkStack system.stationNetif answers).2 ++
                  (startRadioInStationMode answers).2) reached ?_
                rw [more]
                simp only [List.append_assoc]
              simp only [Transition.run_append _ (_ ++ _), ran, Option.bind_some, ranRadio,
                Option.some.injEq, exists_eq_left'] at behind
              simp only [nvsOk, stackOk, Bool.false_eq_true, if_false, Bool.not_true]
              have result := startRadioInStationMode_fst answers
              cases radioOk : (startRadioInStationMode answers).1 with
              | true =>
                  rw [radioOk, eq_comm, Bool.and_eq_true] at result
                  rcases result with ⟨init, both⟩
                  refine iff_of_true ((behind rfl).mpr ?_) ?_
                  · exact {
                      initialized := by rw [init, both]; rfl
                      started := radioOk
                      mode := fun _ => by rw [station radioOk, agrees.idle_of_down up]; rfl
                      running := fun _ => rfl
                      stack := fun _ => ⟨rfl, rfl⟩
                      stationNetif := (Bool.or_true _).symm
                      accessPointNetif := agrees.accessPointNetif }
                  · rw [Bool.and_eq_true] at both
                    rintro _ _ _ _ (failed | failed)
                    · rw [both.1] at failed
                      cases failed
                    · rw [both.2] at failed
                      cases failed
              | false =>
                  rw [radioOk, eq_comm] at result
                  refine (behind rfl).trans ?_
                  constructor
                  · intro told _ _ _ init _
                    have gone := told.initialized.trans up
                    rw [init, Bool.true_and] at result
                    simpa [init, result] using gone
                  · intro undone
                    have gone : (answers.init &&
                        (answers.setMode && answers.start || !answers.deinit)) = false := by
                      cases init : answers.init with
                      | false => rfl
                      | true =>
                          rw [init, Bool.true_and] at result
                          have failed := Bool.and_eq_false_iff.mp result
                          rw [result, undone trivial trivial trivial init failed]
                          rfl
                    exact {
                      initialized := gone.trans up.symm
                      started := radioOk.trans up.symm
                      mode := fun impossible => by cases up.symm.trans impossible
                      running := agrees.running
                      stack := fun _ => ⟨rfl, rfl⟩
                      stationNetif := (Bool.or_true _).symm
                      accessPointNetif := agrees.accessPointNetif }

theorem accessPointNetif_run (agrees : Agrees system radio)
    (up : system.flags.wifiInitialized = true) {answers : Answers}
    (made : (system.flags.accessPointNetif || answers.createAccessPointNetif) = true)
    (undone : Bool) :
    Transition.run Radio.step radio (answers.answered undone
        (if system.flags.accessPointNetif then [] else [.createAccessPointNetif])) =
      some { radio with accessPointNetif := true } := by
  have same := agrees.accessPointNetif
  cases already : system.flags.accessPointNetif with
  | true =>
      rw [already] at same
      rcases radio with ⟨_, _, _, _, _, _, _, _⟩
      cases same
      rfl
  | false =>
      rw [already] at same
      rw [already, Bool.false_or] at made
      rcases agrees.stack up with ⟨netif, eventLoop⟩
      simp [Answers.answered, Answers.result, made, Transition.run, Radio.step, RadioCall.ready,
        netif, eventLoop, same, Radio.after]

/-- The mode behind a start: the switch, and the switch back when the access
point does not come up. -/
theorem accessPointCalls_run (agrees : Agrees system radio)
    (up : system.flags.wifiInitialized = true) {answers : Answers}
    (made : (system.flags.accessPointNetif || answers.createAccessPointNetif) = true)
    (config : ApConfig) (undone : Bool) :
    Transition.run Radio.step radio (answers.answered undone
        ((if system.flags.accessPointNetif then [] else [.createAccessPointNetif]) ++
          (applyAccessPointConfig config answers).2 ++
            if answers.setMode && answers.serves then [] else [.setMode .station])) =
      some {
        radio with
        accessPointNetif := true
        mode := if answers.setMode && (answers.serves || !undone) then .accessPoint
          else if undone then .station else radio.mode } := by
  have initialized := agrees.initialized.trans up
  have started := agrees.started.trans up
  have interface := accessPointNetif_run agrees up made undone
  have applied := @applyAccessPointConfig_run { radio with accessPointNetif := true }
    initialized started rfl config answers undone
  unfold Answers.answered at *
  rw [List.map_append, List.map_append, Transition.run_append, Transition.run_append, interface,
    Option.bind_some, applied, Option.bind_some]
  cases answers.setMode <;> cases answers.serves <;> cases undone <;>
    simp [Transition.run, Radio.step, RadioCall.ready, initialized, Radio.after, Answers.result]

theorem startedAccessPoint_unchanged {ssid password : Option CString} {answers : Answers}
    {undone : Bool}
    (nothing : (wifiAccessPointStart system.flags ssid password answers).2 = (system.flags, [])) :
    startedAccessPoint system ssid password answers undone = system := by
  simp only [startedAccessPoint, nothing]
  change { system with calls := system.calls ++ [] } = system
  rw [List.append_nil]

/-- An access point that does not come up leaves the radio in station mode if
the switch back succeeds. -/
theorem startedAccessPoint_sound_iff (agrees : Agrees system radio)
    (reached : Transition.run Radio.step .off system.calls = some radio)
    (ssid password : Option CString) (answers : Answers) (undone : Bool) :
    Sound (startedAccessPoint system ssid password answers undone) ↔
      Undone system (.accessPointStart ssid password answers undone) := by
  have sound := agrees.sound reached
  rw [Undone]
  cases ssid with
  | none =>
      rw [startedAccessPoint_unchanged rfl]
      refine iff_of_true sound ?_
      rintro ⟨⟩
  | some ssid =>
      by_cases empty : ssid.bytes = []
      · rw [startedAccessPoint_unchanged (by simp [wifiAccessPointStart, empty])]
        refine iff_of_true sound ?_
        intro named
        simp [empty] at named
      · cases up : system.flags.wifiInitialized with
        | false =>
            rw [startedAccessPoint_unchanged (by simp [wifiAccessPointStart, empty, up])]
            refine iff_of_true sound ?_
            rintro _ ⟨⟩
        | true =>
            cases running : system.flags.accessPointRunning with
            | true =>
                rw [startedAccessPoint_unchanged
                  (by simp [wifiAccessPointStart, empty, up, running])]
                refine iff_of_true sound ?_
                rintro _ _ ⟨⟩
            | false =>
                have started := wifiAccessPointStart_eq empty up running password answers
                cases made : system.flags.accessPointNetif || answers.createAccessPointNetif with
                | false =>
                    rw [if_neg (by rw [made]; decide)] at started
                    rcases Bool.or_eq_false_iff.mp made with ⟨missing, refused⟩
                    rcases agrees.stack up with ⟨netif, eventLoop⟩
                    have tried : Transition.run Radio.step radio
                        (answers.answered undone [.createAccessPointNetif]) = some radio := by
                      simp [Answers.answered, Answers.result, refused, Transition.run, Radio.step,
                        RadioCall.ready, netif, eventLoop, agrees.accessPointNetif, missing,
                        Radio.after]
                    rw [startedAccessPoint, started, sound_append reached rfl, tried]
                    refine iff_of_true ⟨radio, rfl, { agrees with }⟩ ?_
                    rintro _ _ _ ⟨⟩
                | true =>
                    rw [if_pos made] at started
                    have ran := accessPointCalls_run agrees up made
                      (buildAccessPointConfig ssid password) undone
                    rw [startedAccessPoint, started, sound_append reached rfl, ran]
                    simp only [Option.some.injEq, exists_eq_left']
                    constructor
                    · intro told _ _ _ _ setMode serves
                      have mode := told.mode up
                      rw [setMode, serves] at mode
                      cases undone with
                      | true => rfl
                      | false => cases mode
                    · intro back
                      have named : (some ssid).any (·.bytes != []) = true := bne_iff_ne.mpr empty
                      have station := agrees.mode up
                      rw [running] at station
                      have switched : (if answers.setMode && (answers.serves || !undone) then
                          Mode.accessPoint else if undone then .station else radio.mode) =
                          if answers.setMode && answers.serves then .accessPoint else .station := by
                        cases setMode : answers.setMode with
                        | false =>
                            rw [station]
                            cases undone <;> rfl
                        | true =>
                            cases serves : answers.serves with
                            | true => rfl
                            | false =>
                                cases back named trivial trivial trivial setMode serves
                                rfl
                      exact {
                        initialized := agrees.initialized
                        started := agrees.started
                        mode := fun _ => switched
                        running := fun _ => up
                        stack := agrees.stack
                        stationNetif := agrees.stationNetif
                        accessPointNetif := rfl }

/-- A station that connects or gives up stays in its mode. -/
theorem wifiStationConnect_run (agrees : Agrees system radio) {ssid password : Option CString}
    {answers : Answers} {driver : StationDriver} {timeline : List Moment}
    {attempt : Attempt Call Moment}
    (done : wifiStationConnect system.flags ssid password answers driver timeline =
      .done attempt) :
    Transition.run Radio.step radio (answers.answered answers.setMode attempt.calls) =
      some radio := by
  cases ssid with
  | none =>
      cases done
      rfl
  | some ssid =>
      rw [wifiStationConnect] at done
      split at done
      · cases done
        rfl
      · cases up : system.flags.wifiInitialized with
        | false =>
            simp only [up, Bool.not_false, if_true] at done
            cases done
            rfl
        | true =>
            cases running : system.flags.accessPointRunning with
            | true =>
                simp only [up, running, Bool.not_true, Bool.false_eq_true, if_false,
                  if_true] at done
                cases done
                rfl
            | false =>
                have mode := agrees.mode up
                rw [running] at mode
                have initialized := agrees.initialized.trans up
                have started := agrees.started.trans up
                have ran := startStationConnection_run initialized started mode ssid password
                  answers
                simp only [up, running, Bool.not_true, Bool.false_eq_true, if_false] at done
                cases requested : startStationConnection ssid password answers with
                | mk accepted calls =>
                    rw [requested] at done ran
                    cases accepted with
                    | false =>
                        cases done
                        exact ran
                    | true =>
                        rcases Exec.bind_eq_done_iff.mp done with ⟨outcome, _, ended⟩
                        split at ended
                        · cases ended
                          exact ran
                        · cases ended
                          unfold Answers.answered at *
                          rw [List.map_append, Transition.run_append, ran, Option.bind_some]
                          simp [Transition.run, Radio.step, RadioCall.ready, started, mode,
                            Radio.after]

/-- A call of the interface keeps the radio and the flags together exactly when
it undoes what it has to undo. -/
theorem step_sound_iff {call : ApiCall} (sound : Sound system)
    (taken : system.step call = some next) : Sound next ↔ Undone system call := by
  rcases sound with ⟨radio, reached, agrees⟩
  cases call with
  | initializeWiFi answers =>
      cases taken
      exact wifiInitialize_sound_iff agrees reached answers
  | deinitializeWiFi stop deinit =>
      cases taken
      exact wifiDeinitialize_sound_iff agrees reached stop deinit
  | accessPointStart ssid password answers undone =>
      cases taken
      exact startedAccessPoint_sound_iff agrees reached ssid password answers undone
  | accessPointStop setMode =>
      cases taken
      exact iff_of_true (wifiAccessPointStop_sound agrees reached setMode) trivial
  | stationConnect ssid password answers driver timeline =>
      rw [System.step] at taken
      split at taken
      · rename_i attempt done
        cases taken
        refine iff_of_true ((sound_append reached rfl).mpr ⟨radio, ?_, { agrees with }⟩) trivial
        exact wifiStationConnect_run agrees done
      · cases taken

end

theorem initial_sound : Sound .initial := by
  refine ⟨.off, rfl, ?_⟩
  constructor
  · rfl
  · rfl
  · rintro ⟨⟩
  · rintro ⟨⟩
  · rintro ⟨⟩
  · rfl
  · rfl

/-- Only a station that waits is not over. -/
theorem undone_of_waiting {system : System} {call : ApiCall} (waits : system.step call = none) :
    Undone system call := by
  cases call with
  | stationConnect => trivial
  | _ => cases waits

/-- In every state of a run of the interface no call was made that the radio was
not ready for, the radio is up exactly when `wifiInitialized` says so, and it is
in the mode that `accessPointRunning` says, if and only if every call of the run
that fails halfway, and every `WiFiDeinitialize`, undoes what was done. -/
theorem sound_iff_undone (calls : List ApiCall) :
    Transition.Always System.step Sound .initial calls ↔
      Transition.Guarded System.step Undone .initial calls :=
  Transition.always_iff_guarded (fun _ sound => sound)
    (fun _ _ _ sound undone taken => (step_sound_iff sound taken).mpr undone)
    (fun _ _ _ sound taken soundNext => (step_sound_iff sound taken).mp soundNext)
    (fun _ _ waits => undone_of_waiting waits) initial_sound

/-- The answers when everything succeeds. -/
def InitAnswers.all : InitAnswers where
  nvs := .ok
  erase := true
  nvsAgain := .ok
  netifInit := true
  eventLoop := .ok
  init := true
  setMode := true
  start := true
  deinit := true

/-- The switch back fails, and the radio stays an access point without the flag. -/
example : ¬ Transition.Guarded System.step Undone .initial
    [.initializeWiFi .all,
      .accessPointStart (some (.literal "net")) none { Answers.all with setConfig := false }
        false] := by
  decide +kernel

end ESP32
end WiFi
end NetLL
