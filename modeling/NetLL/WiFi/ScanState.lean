import NetLL.WiFi.Netsh

namespace NetLL
namespace WiFi
namespace Simulator

/-!
# The state of a scan, line by line

The lines of a report can come in any order and with any text.  What one line
can do to the state is said once, by its kind, and the rest follows by
induction on the lines: the pointer to the entry that is being filled never
leaves the entry that was appended last, so an earlier entry keeps its values.

An entry is described by the lines alone.  Its own line is the BSSID line that
raised the number of entries past it, and its name comes from the SSID line
that stands last in front of that line.
-/

/-- The line begins a network. -/
def isSsidLine (line : CString) : Bool :=
  isPrefixedIndexLine line.bytes (ascii "SSID")

/-- The line begins an access point. -/
def isBssidLine (line : CString) : Bool :=
  isPrefixedIndexLine line.bytes (ascii "BSSID")

theorem isSsidLine_eq_false {line : CString} (bssidLine : isBssidLine line = true) :
    isSsidLine line = false := by
  have ssid : ascii "SSID" = 83 :: ascii "SID" := by decide +kernel
  have bssid : ascii "BSSID" = 66 :: ascii "SSID" := by decide +kernel
  unfold isBssidLine isPrefixedIndexLine at bssidLine
  unfold isSsidLine isPrefixedIndexLine
  cases cursor : skipBlanks line.bytes with
  | nil => rw [ssid]; rfl
  | cons byte rest =>
      rw [cursor, bssid] at bssidLine
      have first : (66 : UInt8) = byte := by
        by_contra different
        simp [List.isPrefixOf, different] at bssidLine
      rw [← first, ssid]
      rfl

variable {maxNetworks : Nat}

/-! ## What a line does -/

/-- The effect of a line on the state. -/
inductive Effect (state : ScanState maxNetworks) (line : CString) :
    ScanState maxNetworks → Prop where
  | network (ssidLine : isSsidLine line = true) :
      Effect state line (beginNetwork state (valueAfterColon line.bytes))
  | appended (bssidLine : isBssidLine line = true)
      (text : (valueAfterColon line.bytes).isSome = true) (haveSsid : state.haveSsid = true)
      (room : state.foundNetworks < maxNetworks) {entry : WiFiNetwork}
      (named : entry.ssid = zeroed (wifiSsidMaxLength + 1) state.currentSsid)
      (strength : entry.rssi = fallbackRssi) :
      Effect state line { state with
        networks := state.networks.set state.foundNetworks entry room
        foundNetworks := state.foundNetworks + 1
        currentNetwork := some ⟨state.foundNetworks, room⟩ }
  | dropped (bssidLine : isBssidLine line = true)
      (why : (valueAfterColon line.bytes).isSome = true → state.haveSsid = true →
        maxNetworks ≤ state.foundNetworks) :
      Effect state line { state with currentNetwork := none }
  | authentication (noBssid : isBssidLine line = false) (noSsid : isSsidLine line = false)
      (authMode : WiFiAuthMode) : Effect state line { state with currentAuthMode := authMode }
  | changed (noBssid : isBssidLine line = false) (noSsid : isSsidLine line = false)
      {index : Fin maxNetworks} (current : state.currentNetwork = some index)
      {change : WiFiNetwork → WiFiNetwork} (named : ∀ entry, (change entry).ssid = entry.ssid)
      (strength : ∀ entry, (change entry).rssi = entry.rssi ∨
        ∃ value, (change entry).rssi = rssiFromSignalPercentage value) :
      Effect state line (state.update index change)
  | passed (noBssid : isBssidLine line = false) (noSsid : isSsidLine line = false) :
      Effect state line state

theorem beginBssid_effect (state : ScanState maxNetworks) {line : CString}
    (bssidLine : isBssidLine line = true) :
    Effect state line (beginBssid state (valueAfterColon line.bytes)) := by
  cases text : valueAfterColon line.bytes with
  | none =>
      refine .dropped bssidLine fun colon => ?_
      rw [text] at colon
      cases colon
  | some value =>
      simp only [beginBssid]
      split
      · rename_i room
        exact .appended bssidLine (by rw [text]; rfl) room.1 room.2 rfl rfl
      · rename_i full
        exact .dropped bssidLine fun _ haveSsid => Nat.le_of_not_lt fun room => full ⟨haveSsid, room⟩

theorem update_effect {state : ScanState maxNetworks} {line : CString}
    (noBssid : isBssidLine line = false) (noSsid : isSsidLine line = false)
    {index : Fin maxNetworks} (current : state.currentNetwork = some index) :
    Effect state line
      (if isLabelledLine line.bytes labelSignalPt labelSignalEn then
        match valueAfterColon line.bytes with
        | some value => state.update index ({ · with rssi := rssiFromSignalPercentage value })
        | none => state
      else if isLabelledLine line.bytes labelChannelPt labelChannelEn then
        match valueAfterColon line.bytes with
        | some value => state.update index ({ · with channel := UInt16.ofInt (Scan.atoi value) })
        | none => state
      else state) := by
  cases valueAfterColon line.bytes with
  | none =>
      split
      · exact .passed noBssid noSsid
      · split <;> exact .passed noBssid noSsid
  | some value =>
      split
      · exact .changed noBssid noSsid current (fun _ => rfl) fun _ => Or.inr ⟨value, rfl⟩
      · split
        · exact .changed noBssid noSsid current (fun _ => rfl) fun _ => Or.inl rfl
        · exact .passed noBssid noSsid

/-- What a line does is one of the six. -/
theorem consumeLine_effect (state : ScanState maxNetworks) (line : CString) :
    Effect state line (consumeLine state line.bytes) := by
  unfold consumeLine
  split
  · rename_i bssidLine
    exact beginBssid_effect state bssidLine
  · rename_i noBssid
    have other : isBssidLine line = false := Bool.eq_false_iff.mpr noBssid
    split
    · rename_i ssidLine
      exact .network ssidLine
    · rename_i noSsid
      have neither : isSsidLine line = false := Bool.eq_false_iff.mpr noSsid
      split
      · cases valueAfterColon line.bytes with
        | none => exact .passed other neither
        | some value => exact .authentication other neither _
      · cases current : state.currentNetwork with
        | none => exact .passed other neither
        | some index => exact update_effect other neither current

theorem get_set {networks : Vector WiFiNetwork maxNetworks} {position : Nat}
    (room : position < maxNetworks) (entry : WiFiNetwork) (index : Fin maxNetworks) :
    (networks.set position entry room).get index =
      if index.val = position then entry else networks.get index := by
  by_cases here : index.val = position
  · subst here
    rw [if_pos rfl]
    exact Vector.getElem_set_self room
  · rw [if_neg here]
    exact Vector.getElem_set_ne room index.isLt (Ne.symm here)

theorem entry_update (state : ScanState maxNetworks) (other index : Fin maxNetworks)
    (change : WiFiNetwork → WiFiNetwork) :
    (state.update other change).entry index =
      if other = index then change (state.entry index) else state.entry index := by
  have set := @get_set _ state.networks _ other.isLt (change (state.entry other)) index
  by_cases here : other = index
  · subst here
    rw [if_pos rfl] at set ⊢
    exact set
  · rw [if_neg fun same => here (Fin.ext same.symm)] at set
    rw [if_neg here]
    exact set

namespace Effect

variable {state next : ScanState maxNetworks} {line : CString}

/-- Only the entry that is being filled changes, and the one that is appended. -/
theorem frame (effect : Effect state line next) (index : Fin maxNetworks) :
    next.entry index = state.entry index ∨ state.currentNetwork = some index ∨
      index.val = state.foundNetworks ∧ next.foundNetworks = state.foundNetworks + 1 ∧
        next.currentNetwork = some index := by
  cases effect with
  | network | dropped | authentication | passed => exact Or.inl rfl
  | appended _ _ _ room =>
      by_cases here : index.val = state.foundNetworks
      · exact Or.inr (Or.inr ⟨here, rfl, congrArg some (Fin.ext here.symm)⟩)
      · exact Or.inl ((get_set room _ index).trans (if_neg here))
  | @changed _ _ other current =>
      rw [entry_update]
      split
      · rename_i here
        rw [here] at current
        exact Or.inr (Or.inl current)
      · exact Or.inl rfl

/-- The entries are not given up, and one line appends one at most. -/
theorem found (effect : Effect state line next) :
    next.foundNetworks = state.foundNetworks ∨
      next.foundNetworks = state.foundNetworks + 1 ∧ isBssidLine line = true ∧
        state.haveSsid = true ∧ state.foundNetworks < maxNetworks := by
  cases effect with
  | appended bssidLine _ haveSsid room => exact Or.inr ⟨rfl, bssidLine, haveSsid, room⟩
  | _ => exact Or.inl rfl

/-- The pointer leads to the last entry, or nowhere. -/
theorem current (effect : Effect state line next)
    (last : ∀ index, state.currentNetwork = some index → index.val + 1 = state.foundNetworks)
    {index : Fin maxNetworks} (points : next.currentNetwork = some index) :
    index.val + 1 = next.foundNetworks := by
  cases effect with
  | network | dropped => cases points
  | appended =>
      cases points
      rfl
  | authentication | changed | passed => exact last index points

/-- Only an SSID line changes the name that is carried along. -/
theorem ssid (effect : Effect state line next) :
    if isSsidLine line then
      next.haveSsid = true ∧
        next.currentSsid = ((valueAfterColon line.bytes).getD []).take wifiSsidMaxLength
    else next.haveSsid = state.haveSsid ∧ next.currentSsid = state.currentSsid := by
  cases effect with
  | network ssidLine =>
      rw [if_pos ssidLine]
      exact ⟨rfl, rfl⟩
  | appended bssidLine =>
      rw [isSsidLine_eq_false bssidLine]
      exact ⟨rfl, rfl⟩
  | dropped bssidLine =>
      rw [isSsidLine_eq_false bssidLine]
      exact ⟨rfl, rfl⟩
  | authentication _ noSsid | changed _ noSsid | passed _ noSsid =>
      rw [noSsid]
      exact ⟨rfl, rfl⟩

/-- An entry behind the line was there before, with the same name, or has been
appended with the name that is carried along. -/
theorem entry (effect : Effect state line next) {index : Fin maxNetworks}
    (below : index.val < next.foundNetworks) :
    (index.val < state.foundNetworks ∧ (next.entry index).ssid = (state.entry index).ssid ∧
        ((next.entry index).rssi = (state.entry index).rssi ∨
          ∃ value, (next.entry index).rssi = rssiFromSignalPercentage value)) ∨
      index.val = state.foundNetworks ∧ next.foundNetworks = state.foundNetworks + 1 ∧
        isBssidLine line = true ∧ state.haveSsid = true ∧
        (next.entry index).ssid = zeroed (wifiSsidMaxLength + 1) state.currentSsid ∧
        (next.entry index).rssi = fallbackRssi := by
  cases effect with
  | network | dropped | authentication | passed => exact Or.inl ⟨below, rfl, Or.inl rfl⟩
  | @appended bssidLine _ haveSsid room entry named strength =>
      by_cases here : index.val = state.foundNetworks
      · have set := (@get_set _ state.networks _ room entry index).trans (if_pos here)
        refine Or.inr ⟨here, rfl, bssidLine, haveSsid, ?_, ?_⟩
        · exact (congrArg WiFiNetwork.ssid set).trans named
        · exact (congrArg WiFiNetwork.rssi set).trans strength
      · have kept := (@get_set _ state.networks _ room entry index).trans (if_neg here)
        refine Or.inl ⟨?_, congrArg WiFiNetwork.ssid kept, Or.inl (congrArg WiFiNetwork.rssi kept)⟩
        change index.val < state.foundNetworks + 1 at below
        omega
  | @changed _ _ other _ change named strength =>
      refine Or.inl ⟨below, ?_⟩
      rw [entry_update]
      split
      · exact ⟨named _, strength _⟩
      · exact ⟨rfl, Or.inl rfl⟩

end Effect

/-! ## Entries that are left alone -/

/-- No line changes one of the first entries any more. -/
structure Settled (state : ScanState maxNetworks) (count : Nat) : Prop where
  found : count ≤ state.foundNetworks
  behind : ∀ index, state.currentNetwork = some index → count ≤ index.val

theorem Settled.consume {state next : ScanState maxNetworks} {line : CString} {count : Nat}
    (settled : Settled state count) (effect : Effect state line next) :
    Settled next count ∧
      ∀ index : Fin maxNetworks, index.val < count →
        next.entry index = state.entry index := by
  refine ⟨⟨?_, fun index points => ?_⟩, fun index below => ?_⟩
  · have found := settled.found
    rcases effect.found with same | ⟨more, _⟩ <;> omega
  · cases effect with
    | network | dropped => cases points
    | appended =>
        cases points
        exact settled.found
    | authentication | changed | passed => exact settled.behind index points
  · rcases effect.frame index with same | points | ⟨here, _⟩
    · exact same
    · exact absurd (settled.behind index points) (Nat.not_le_of_lt below)
    · have found := settled.found
      omega

/-- Lines that are consumed in a state. -/
def consumeMore (state : ScanState maxNetworks) (lines : List CString) : ScanState maxNetworks :=
  lines.foldl (fun state line => consumeLine state line.bytes) state

theorem Settled.consumeMore {state : ScanState maxNetworks} {count : Nat}
    (settled : Settled state count) (lines : List CString) {index : Fin maxNetworks}
    (below : index.val < count) :
    (consumeMore state lines).entry index = state.entry index := by
  induction lines generalizing state with
  | nil => rfl
  | cons line rest inductionHypothesis =>
      rcases settled.consume (consumeLine_effect state line) with ⟨next, kept⟩
      exact (inductionHypothesis next).trans (kept index below)

/-! ## The invariant -/

/-- The state behind these lines of a report. -/
def consumeLines (networks : Vector WiFiNetwork maxNetworks) (lines : List CString) :
    ScanState maxNetworks :=
  consumeMore (initialState networks 0) lines

/-- The SSID line that stands last. -/
def latestSsidLine (lines : List CString) : Option CString :=
  (lines.filter isSsidLine).getLast?

/-- What the lines say of the entry at an index: the BSSID line that appended
it, the SSID line in front of that one, and the name in it. -/
def Described (networks : Vector WiFiNetwork maxNetworks) (lines : List CString) (index : Nat)
    (entry : WiFiNetwork) : Prop :=
  ∃ before bssidLine after ssidLine,
    lines = before ++ bssidLine :: after ∧ isBssidLine bssidLine = true ∧
    (consumeLines networks before).foundNetworks = index ∧
    (consumeLines networks (before ++ [bssidLine])).foundNetworks = index + 1 ∧
    latestSsidLine before = some ssidLine ∧
    entry.ssid = zeroed (wifiSsidMaxLength + 1)
      (((valueAfterColon ssidLine.bytes).getD []).take wifiSsidMaxLength) ∧
    -100 ≤ entry.rssi.toInt ∧ entry.rssi.toInt ≤ -45

/-- What holds of the state behind these lines. -/
structure Invariant (networks : Vector WiFiNetwork maxNetworks) (lines : List CString) : Prop where
  found : (consumeLines networks lines).foundNetworks ≤ maxNetworks
  current : ∀ index, (consumeLines networks lines).currentNetwork = some index →
    index.val + 1 = (consumeLines networks lines).foundNetworks
  haveSsid : (consumeLines networks lines).haveSsid = (latestSsidLine lines).isSome
  currentSsid : ∀ ssidLine, latestSsidLine lines = some ssidLine →
    (consumeLines networks lines).currentSsid =
      ((valueAfterColon ssidLine.bytes).getD []).take wifiSsidMaxLength
  entries : ∀ index : Fin maxNetworks, index.val < (consumeLines networks lines).foundNetworks →
    Described networks lines index.val ((consumeLines networks lines).entry index)

theorem consumeLines_snoc (networks : Vector WiFiNetwork maxNetworks) (lines : List CString)
    (line : CString) :
    consumeLines networks (lines ++ [line]) =
      consumeLine (consumeLines networks lines) line.bytes :=
  List.foldl_append

theorem consumeLines_append (networks : Vector WiFiNetwork maxNetworks)
    (lines more : List CString) :
    consumeLines networks (lines ++ more) = consumeMore (consumeLines networks lines) more :=
  List.foldl_append

theorem latestSsidLine_snoc (lines : List CString) (line : CString) :
    latestSsidLine (lines ++ [line]) =
      if isSsidLine line then some line else latestSsidLine lines := by
  unfold latestSsidLine
  rw [List.filter_append, List.filter_singleton]
  cases isSsidLine line with
  | true => exact List.getLast?_concat
  | false => exact congrArg List.getLast? (List.append_nil _)

theorem rssiFromSignalPercentage_range (value : List UInt8) :
    -100 ≤ (rssiFromSignalPercentage value).toInt ∧
      (rssiFromSignalPercentage value).toInt ≤ -45 := by
  have clamped : ∀ percentage : Int, 0 ≤ max 0 (min 100 percentage) ∧
      max 0 (min 100 percentage) ≤ 100 := by omega
  rcases clamped (Scan.atoi value) with ⟨low, high⟩
  unfold rssiFromSignalPercentage
  rw [Int16.toInt_ofInt_of_le (by omega) (by omega)]
  omega

theorem fallbackRssi_range : -100 ≤ fallbackRssi.toInt ∧ fallbackRssi.toInt ≤ -45 := by
  decide

variable {networks : Vector WiFiNetwork maxNetworks} {lines : List CString}

theorem Described.snoc {index : Nat} {entry : WiFiNetwork}
    (described : Described networks lines index entry) (line : CString) :
    Described networks (lines ++ [line]) index entry := by
  rcases described with ⟨before, bssidLine, after, ssidLine, split, rest⟩
  refine ⟨before, bssidLine, after ++ [line], ssidLine, ?_, rest⟩
  rw [split, List.append_assoc, List.cons_append]

/-- A description speaks of the name and the strength only. -/
theorem Described.of_change {index : Nat} {entry changed : WiFiNetwork}
    (described : Described networks lines index entry) (named : changed.ssid = entry.ssid)
    (strength : changed.rssi = entry.rssi ∨ ∃ value, changed.rssi = rssiFromSignalPercentage value) :
    Described networks lines index changed := by
  rcases described with ⟨before, bssidLine, after, ssidLine, split, isBssid, reached, next, latest,
    name, range⟩
  refine ⟨before, bssidLine, after, ssidLine, split, isBssid, reached, next, latest,
    named.trans name, ?_⟩
  rcases strength with same | ⟨value, read⟩
  · rw [same]
    exact range
  · rw [read]
    exact rssiFromSignalPercentage_range value

theorem initial_invariant (networks : Vector WiFiNetwork maxNetworks) : Invariant networks [] where
  found := Nat.zero_le _
  current := by rintro _ ⟨⟩
  haveSsid := rfl
  currentSsid := by rintro _ ⟨⟩
  entries := fun _ below => absurd below (Nat.not_lt_zero _)

/-- The appended entry is described by the line that has appended it. -/
theorem Invariant.appended (invariant : Invariant networks lines) {line : CString}
    (bssidLine : isBssidLine line = true)
    (haveSsid : (consumeLines networks lines).haveSsid = true) {entry : WiFiNetwork}
    (named : entry.ssid =
      zeroed (wifiSsidMaxLength + 1) (consumeLines networks lines).currentSsid)
    (strength : entry.rssi = fallbackRssi)
    (more : (consumeLines networks (lines ++ [line])).foundNetworks =
      (consumeLines networks lines).foundNetworks + 1) :
    Described networks (lines ++ [line]) (consumeLines networks lines).foundNetworks entry := by
  rw [invariant.haveSsid] at haveSsid
  rcases Option.isSome_iff_exists.mp haveSsid with ⟨ssidLine, latest⟩
  refine ⟨lines, line, [], ssidLine, rfl, bssidLine, rfl, more, latest, ?_, ?_⟩
  · rw [named, invariant.currentSsid ssidLine latest]
  · rw [strength]
    exact fallbackRssi_range

theorem Invariant.consume_entries (invariant : Invariant networks lines) (line : CString)
    (index : Fin maxNetworks)
    (below : index.val < (consumeLines networks (lines ++ [line])).foundNetworks) :
    Described networks (lines ++ [line]) index.val
      ((consumeLines networks (lines ++ [line])).entry index) := by
  have effect := consumeLine_effect (consumeLines networks lines) line
  rw [← consumeLines_snoc] at effect
  rcases effect.entry below with ⟨older, named, strength⟩ | appended
  · exact ((invariant.entries index older).snoc line).of_change named strength
  · rcases appended with ⟨here, more, bssidLine, haveSsid, named, strength⟩
    have described := invariant.appended bssidLine haveSsid named strength more
    rw [← here] at described
    exact described

theorem Invariant.consume (invariant : Invariant networks lines) (line : CString) :
    Invariant networks (lines ++ [line]) := by
  have effect := consumeLine_effect (consumeLines networks lines) line
  rw [← consumeLines_snoc] at effect
  have ssid := effect.ssid
  refine ⟨?_, fun _ points => effect.current invariant.current points, ?_, ?_,
    invariant.consume_entries line⟩
  · have found := invariant.found
    rcases effect.found with same | ⟨more, _, _, room⟩ <;> omega
  · rw [latestSsidLine_snoc]
    split at ssid
    · rw [if_pos ‹_›]
      exact ssid.1
    · rw [if_neg ‹_›]
      exact ssid.1.trans invariant.haveSsid
  · intro ssidLine latest
    rw [latestSsidLine_snoc] at latest
    split at ssid
    · rw [if_pos ‹_›] at latest
      cases latest
      exact ssid.2
    · rw [if_neg ‹_›] at latest
      exact ssid.2.trans (invariant.currentSsid ssidLine latest)

theorem consumeLines_invariant (networks : Vector WiFiNetwork maxNetworks)
    (lines : List CString) : Invariant networks lines := by
  induction lines using List.reverseRecOn with
  | nil => exact initial_invariant networks
  | append_singleton lines line inductionHypothesis => exact inductionHypothesis.consume line

/-- The line ends what is said of an access point: it begins a network, or an
access point for which the table has no entry. -/
def Ends (state : ScanState maxNetworks) (line : CString) : Prop :=
  isSsidLine line = true ∨ isBssidLine line = true ∧ state.foundNetworks = maxNetworks

/-- Behind such a line the entries so far are settled. -/
theorem settled_of_ends {state : ScanState maxNetworks} {line : CString} (ends : Ends state line) :
    Settled (consumeLine state line.bytes) state.foundNetworks ∧
      (consumeLine state line.bytes).networks = state.networks := by
  have effect := consumeLine_effect state line
  generalize consumeLine state line.bytes = next at effect ⊢
  cases effect with
  | network | dropped => exact ⟨⟨Nat.le_refl _, by rintro _ ⟨⟩⟩, rfl⟩
  | appended bssidLine _ _ room =>
      rcases ends with ssidLine | ⟨_, full⟩
      · rw [isSsidLine_eq_false bssidLine] at ssidLine
        cases ssidLine
      · exact absurd full (Nat.ne_of_lt room)
  | authentication noBssid noSsid | changed noBssid noSsid | passed noBssid noSsid =>
      rcases ends with ssidLine | ⟨bssidLine, _⟩
      · rw [noSsid] at ssidLine
        cases ssidLine
      · rw [noBssid] at bssidLine
        cases bssidLine

/-- Whatever the lines are, the state behind them keeps its invariant, one more
line changes the entry at the pointer or the one that it appends, and behind a
line that begins a network, or an access point that is dropped, the entries so
far stay as they are. -/
theorem scanState_invariant (networks : Vector WiFiNetwork maxNetworks) (lines : List CString) :
    Invariant networks lines ∧
      (∀ line (index : Fin maxNetworks),
        (consumeLines networks (lines ++ [line])).entry index ≠
            (consumeLines networks lines).entry index →
          (consumeLines networks lines).currentNetwork = some index ∨
            index.val = (consumeLines networks lines).foundNetworks ∧
              (consumeLines networks (lines ++ [line])).foundNetworks =
                (consumeLines networks lines).foundNetworks + 1 ∧
              (consumeLines networks (lines ++ [line])).currentNetwork = some index) ∧
      ∀ line rest (index : Fin maxNetworks), Ends (consumeLines networks lines) line →
        index.val < (consumeLines networks lines).foundNetworks →
          (consumeLines networks (lines ++ line :: rest)).entry index =
            (consumeLines networks lines).entry index := by
  refine ⟨consumeLines_invariant networks lines, fun line index moved => ?_,
    fun line rest index ends below => ?_⟩
  · have effect := consumeLine_effect (consumeLines networks lines) line
    rw [← consumeLines_snoc] at effect
    rcases effect.frame index with same | change
    · exact absurd same moved
    · exact change
  · rcases settled_of_ends ends with ⟨settled, same⟩
    rw [consumeLines_append]
    exact (settled.consumeMore rest below).trans (congrArg (Vector.get · index) same)

end Simulator
end WiFi
end NetLL
