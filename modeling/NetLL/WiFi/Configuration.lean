import NetLL.WiFi.Station

namespace NetLL
namespace WiFi
namespace ESP32

/-!
# Names from a scan to a configuration on ESP32

The SSID of a scanned network is handed back for a connection or an access
point.  It goes through three fields: the record and the network have a byte
for the terminator behind the longest name, and the configuration has not.
The driver would take a name that fills the field, but `snprintf` cuts off its
last byte.

A password has a byte to spare in its field, and is kept.
-/

/-- A password that WPA2 allows. -/
structure Passphrase where
  text : CString
  atLeast : 8 ≤ text.length
  atMost : text.length ≤ 63

/-- The SSID of the network as a caller hands it back. -/
def passedSsid (record : ApRecord) : CString :=
  CString.ofBytes (copyApRecord record).ssid

/-- The station configuration names this network. -/
def StaConfig.Names (config : StaConfig) (ssid : Ssid) : Prop :=
  Field.read config.ssid = ssid.name.bytes

/-- The configuration of the access point names this network, and its length. -/
def ApConfig.Names (config : ApConfig) (ssid : Ssid) : Prop :=
  Field.read config.ssid = ssid.name.bytes ∧ config.ssidLen.toNat = ssid.name.length

/-- A configuration that `WiFiStationConnect` hands to the driver. -/
def HandedToStation (ssid password : CString) (config : StaConfig) : Prop :=
  ∃ state answers driver timeline attempt,
    wifiStationConnect state (some ssid) (some password) answers driver timeline =
      .done attempt ∧
    Call.setConfig (.station config) ∈ attempt.calls

/-- A configuration that `WiFiAccessPointStart` hands to the driver. -/
def HandedToAccessPoint (ssid password : CString) (config : ApConfig) : Prop :=
  ∃ state answers, Call.setConfig (.accessPoint config) ∈
    (wifiAccessPointStart state (some ssid) (some password) answers).2.2

theorem passedSsid_bytes (record : ApRecord) : (passedSsid record).bytes = record.name := by
  have clean : 0 ∉ record.name := Memory.zero_not_mem_text _
  rcases Memory.split_at_zero record.terminated with ⟨back, split⟩
  have size := congrArg List.length split
  rw [record.ssidSize, List.length_append, List.length_cons] at size
  have fits : record.name.length < wifiSsidMaxLength + 1 := by
    change (Memory.text record.ssid).length < _
    omega
  exact (Field.read_store_eq_iff clean (Nat.succ_pos _)).mpr fits

/-! ## What is handed to the driver -/

theorem eq_of_setConfig_mem_start {ssid : CString} {password : Option CString} {answers : Answers}
    {config : Config} (handed : .setConfig config ∈ (startStationConnection ssid password answers).2) :
    config = .station (stationConfig ssid password) := by
  unfold startStationConnection at handed
  split at handed
  · simp at handed
  · split at handed <;> simpa using handed

theorem setConfig_mem_start {state : State} {ssid : CString} {password : Option CString}
    {answers : Answers} {driver : StationDriver} {timeline : List Moment}
    {attempt : Attempt Call Moment}
    (finished : wifiStationConnect state (some ssid) password answers driver timeline =
      .done attempt) {config : Config} (handed : .setConfig config ∈ attempt.calls) :
    ssid.bytes ≠ [] ∧ .setConfig config ∈ (startStationConnection ssid password answers).2 := by
  unfold wifiStationConnect at finished
  simp only at finished
  split at finished
  · cases finished
    cases handed
  · rename_i nonempty
    refine ⟨nonempty, ?_⟩
    split at finished
    · cases finished
      cases handed
    · split at finished
      · cases finished
        cases handed
      · split at finished
        · rename_i calls started
          cases finished
          rw [started]
          exact handed
        · rename_i calls started
          rcases Exec.bind_eq_done_iff.mp finished with ⟨outcome, _, whole⟩
          rw [started]
          split at whole
          · cases whole
            exact handed
          · cases whole
            simpa using handed

theorem handedToStation_iff {ssid password : CString} {config : StaConfig} :
    HandedToStation ssid password config ↔
      ssid.bytes ≠ [] ∧ config = stationConfig ssid (some password) := by
  constructor
  · rintro ⟨state, answers, driver, timeline, attempt, finished, handed⟩
    rcases setConfig_mem_start finished handed with ⟨nonempty, start⟩
    exact ⟨nonempty, Config.station.inj (eq_of_setConfig_mem_start start)⟩
  · rintro ⟨nonempty, rfl⟩
    -- the driver refuses the connection, and nothing is waited for
    refine ⟨⟨true, false, false⟩, { Answers.all with connect := false }, plainDriver, [],
      ⟨false, acceptedCalls ssid (some password), []⟩, ?_, ?_⟩
    · simp only [wifiStationConnect, if_neg nonempty]
      rfl
    · exact List.mem_cons_of_mem _ List.mem_cons_self

theorem eq_of_setConfig_mem_apply {given : ApConfig} {answers : Answers} {config : Config}
    (handed : .setConfig config ∈ (applyAccessPointConfig given answers).2) :
    config = .accessPoint given := by
  unfold applyAccessPointConfig configureAccessPointAddress at handed
  split at handed
  · simp at handed
  · split at handed
    · simpa using handed
    · split at handed <;> simpa using handed

theorem not_setConfig_mem_ensure (state : State) (answers : Answers) (config : Config) :
    .setConfig config ∉ (ensureAccessPointNetif state answers).2.2 := by
  unfold ensureAccessPointNetif
  split <;> simp

/-- Only the configuration that is applied is handed over. -/
theorem setConfig_mem_apply {state : State} {ssid : CString} {password : Option CString}
    {answers : Answers} {config : Config}
    (handed : .setConfig config ∈ (wifiAccessPointStart state (some ssid) password answers).2.2) :
    ssid.bytes ≠ [] ∧
      .setConfig config ∈
        (applyAccessPointConfig (buildAccessPointConfig ssid password) answers).2 := by
  have ensured := not_setConfig_mem_ensure state answers config
  unfold wifiAccessPointStart at handed
  simp only at handed
  split at handed
  · cases handed
  · rename_i nonempty
    refine ⟨nonempty, ?_⟩
    split at handed
    · cases handed
    · split at handed
      · cases handed
      · split at handed
        · rename_i calls ensure
          rw [ensure] at ensured
          exact absurd handed ensured
        · rename_i calls ensure
          rw [ensure] at ensured
          split at handed
          · rename_i more applied
            rw [applied]
            simpa [ensured] using handed
          · rename_i more applied
            rw [applied]
            simpa [ensured] using handed

theorem handedToAccessPoint_iff {ssid password : CString} {config : ApConfig} :
    HandedToAccessPoint ssid password config ↔
      ssid.bytes ≠ [] ∧ config = buildAccessPointConfig ssid (some password) := by
  constructor
  · rintro ⟨state, answers, handed⟩
    rcases setConfig_mem_apply handed with ⟨nonempty, applied⟩
    exact ⟨nonempty, Config.accessPoint.inj (eq_of_setConfig_mem_apply applied)⟩
  · rintro ⟨nonempty, rfl⟩
    refine ⟨⟨true, false, true⟩, .all, ?_⟩
    simp only [wifiAccessPointStart, if_neg nonempty]
    exact List.mem_cons_of_mem _ List.mem_cons_self

/-! ## What survives -/

theorem stationConfig_names_iff {ssid : Ssid} {given : CString} (same : given = ssid.name)
    (password : Option CString) :
    (stationConfig given password).Names ssid ↔ ssid.name.length < configSsidSize := by
  subst same
  exact Field.read_store_eq_iff ssid.name.clean (by decide)

theorem buildAccessPointConfig_names_iff {ssid : Ssid} {given : CString}
    (same : given = ssid.name) (password : Option CString) :
    (buildAccessPointConfig given password).Names ssid ↔ ssid.name.length < configSsidSize := by
  subst same
  have kept := @Field.read_store_eq_iff configSsidSize _ ssid.name.clean (by decide)
  constructor
  · exact fun names => kept.mp names.1
  · intro fits
    have small : ssid.name.bytes.length < UInt8.size := Nat.lt_trans fits (by decide)
    refine ⟨kept.mpr fits, ?_⟩
    change (UInt8.ofNat (Field.read (storeSsid ssid.name)).length).toNat = _
    rw [storeSsid, kept.mpr fits, UInt8.toNat_ofNat_of_lt' small]
    rfl

theorem read_storePassword (password : Passphrase) :
    Field.read (storePassword (some password.text)) = password.text.bytes := by
  have atLeast := password.atLeast
  have atMost := password.atMost
  have nonempty : password.text.bytes ≠ [] := by
    intro empty
    rw [CString.length, empty] at atLeast
    cases atLeast
  rw [storePassword]
  simp only [if_neg nonempty]
  exact (Field.read_store_eq_iff password.text.clean (by decide)).mpr (Nat.lt_succ_of_le atMost)

/-- The name of a scanned network survives in every configuration that it is
handed back for, of a station as of an access point, if and only if it leaves
room for a terminator.  The password always survives. -/
theorem ssid_survives_iff (ssid : Ssid) (record : ApRecord) (password : Passphrase)
    (recorded : record.name = ssid.name.bytes) :
    ((∀ config, HandedToStation (passedSsid record) password.text config → config.Names ssid) ↔
        ssid.name.length < configSsidSize) ∧
      ((∀ config, HandedToAccessPoint (passedSsid record) password.text config →
          config.Names ssid) ↔ ssid.name.length < configSsidSize) ∧
      (∀ config, HandedToStation (passedSsid record) password.text config →
        Field.read config.password = password.text.bytes) ∧
      ∀ config, HandedToAccessPoint (passedSsid record) password.text config →
        Field.read config.password = password.text.bytes := by
  have same : passedSsid record = ssid.name :=
    CString.ext ((passedSsid_bytes record).trans recorded)
  have nonempty : (passedSsid record).bytes ≠ [] := by
    rw [same]
    exact ssid.nonempty
  refine ⟨⟨fun names => ?_, fun fits config handed => ?_⟩,
    ⟨fun names => ?_, fun fits config handed => ?_⟩, fun config handed => ?_,
    fun config handed => ?_⟩
  · exact (stationConfig_names_iff same _).mp (names _ (handedToStation_iff.mpr ⟨nonempty, rfl⟩))
  · rw [(handedToStation_iff.mp handed).2]
    exact (stationConfig_names_iff same _).mpr fits
  · exact (buildAccessPointConfig_names_iff same _).mp
      (names _ (handedToAccessPoint_iff.mpr ⟨nonempty, rfl⟩))
  · rw [(handedToAccessPoint_iff.mp handed).2]
    exact (buildAccessPointConfig_names_iff same _).mpr fits
  · rw [(handedToStation_iff.mp handed).2]
    exact read_storePassword password
  · rw [(handedToAccessPoint_iff.mp handed).2]
    exact read_storePassword password

def Passphrase.sample : Passphrase :=
  ⟨.literal "password", by decide +kernel, by decide +kernel⟩

theorem home_survives :
    (∀ config, HandedToStation (passedSsid (recordOf .home)) Passphrase.sample.text config →
        config.Names .home) ∧
      ∀ config, HandedToAccessPoint (passedSsid (recordOf .home)) Passphrase.sample.text config →
        config.Names .home := by
  have survives := ssid_survives_iff .home (recordOf .home) .sample (name_recordOf .home)
  have fits : Ssid.home.name.length < configSsidSize := by decide +kernel
  exact ⟨survives.1.mpr fits, survives.2.1.mpr fits⟩

/-- A name of 32 bytes. -/
def Ssid.longest : Ssid :=
  ⟨.literal "the-32-bytes-of-the-longest-name", by decide +kernel, by decide +kernel⟩

/-- The longest name loses its last byte in both configurations. -/
theorem longest_name_is_cut :
    Ssid.longest.name.length = wifiSsidMaxLength ∧
      (recordOf Ssid.longest).name = Ssid.longest.name.bytes ∧
      (∃ config, HandedToStation (passedSsid (recordOf Ssid.longest)) Passphrase.sample.text config ∧
        Field.read config.ssid = ascii "the-32-bytes-of-the-longest-nam" ∧
        ¬ config.Names Ssid.longest) ∧
      ∃ config,
        HandedToAccessPoint (passedSsid (recordOf Ssid.longest)) Passphrase.sample.text config ∧
        Field.read config.ssid = ascii "the-32-bytes-of-the-longest-nam" ∧
        config.ssidLen = 31 ∧ ¬ config.Names Ssid.longest := by
  have same : passedSsid (recordOf Ssid.longest) = Ssid.longest.name :=
    CString.ext ((passedSsid_bytes _).trans (name_recordOf _))
  rw [same]
  refine ⟨by decide +kernel, name_recordOf _,
    ⟨_, handedToStation_iff.mpr ⟨Ssid.longest.nonempty, rfl⟩, by decide +kernel, ?_⟩,
    _, handedToAccessPoint_iff.mpr ⟨Ssid.longest.nonempty, rfl⟩, by decide +kernel,
    by decide +kernel, ?_⟩
  · rw [stationConfig_names_iff rfl]
    decide +kernel
  · rw [buildAccessPointConfig_names_iff rfl]
    decide +kernel

end ESP32
end WiFi
end NetLL
