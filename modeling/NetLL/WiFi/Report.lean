import NetLL.Library.Table
import NetLL.WiFi.Netsh

namespace NetLL
namespace WiFi
namespace Simulator

/-!
# Reports and the networks in them

A report is a record of its parts: networks with their access points, and the
blanks and the other lines around them.  Its bytes are the parts in order, as
`netsh.exe` prints them in either language.  Parsing the bytes fills the table
with the access points, each attributed to its own network.
-/

inductive Language where
  | english
  | portuguese
deriving DecidableEq, Repr

/-- The values that the parser looks for. -/
inductive Field where
  | authentication
  | signal
  | channel
deriving DecidableEq, Repr

def Language.label : Language → Field → List UInt8
  | english, .authentication => labelAuthenticationEn
  | english, .signal => labelSignalEn
  | english, .channel => labelChannelEn
  | portuguese, .authentication => labelAuthenticationPt
  | portuguese, .signal => labelSignalPt
  | portuguese, .channel => labelChannelPt

/-- The line is one of this field in either language. -/
def isFieldLine (line : List UInt8) (field : Field) : Bool :=
  isLabelledLine line (Language.portuguese.label field) (Language.english.label field)

/-! ## The parts of a report -/

/-- What stands around the label and the value of a line. -/
structure Layout where
  indent : List UInt8
  before : List UInt8
  after : List UInt8
  trailing : List UInt8
  indent_is : ∀ byte ∈ indent, isBlank byte = true
  before_is : ∀ byte ∈ before, isBlank byte = true
  after_is : ∀ byte ∈ after, isBlank byte = true
  trailing_is : ∀ byte ∈ trailing, isBlank byte = true ∨ byte = 13

/-- A line with a label and a value. -/
def Layout.line (layout : Layout) (label value : List UInt8) : List UInt8 :=
  layout.indent ++ (label ++ (layout.before ++ 58 :: (layout.after ++ (value ++ layout.trailing))))

/-- The number behind a keyword. -/
structure Index where
  digits : List UInt8
  nonempty : digits ≠ []
  digits_are : ∀ byte ∈ digits, Decimal.IsDigit byte

theorem digit_kept {byte : UInt8} (digit : Decimal.IsDigit byte) :
    isBlank byte = false ∧ isTrailing byte = false := by
  have all : ∀ byte, Decimal.IsDigit byte → isBlank byte = false ∧ isTrailing byte = false :=
    Scan.all_bytes (by decide +kernel)
  exact all byte digit

theorem Index.begins (index : Index) : ∃ digit rest, index.digits = digit :: rest ∧
    Decimal.IsDigit digit ∧ isBlank digit = false := by
  cases split : index.digits with
  | nil => exact absurd split index.nonempty
  | cons digit rest =>
      have isDigit := index.digits_are digit (by rw [split]; exact List.mem_cons_self)
      exact ⟨digit, rest, rfl, isDigit, (digit_kept isDigit).1⟩

/-- A keyword with its number. -/
def Index.label (index : Index) (keyword : List UInt8) : List UInt8 :=
  keyword ++ 32 :: index.digits

/-- What the program gets to see of a line that the host ended. -/
def shown (line : List UInt8) : List UInt8 :=
  Memory.text (line ++ [10])

/-- A line without a keyword or a label. -/
structure OtherLine where
  line : List UInt8
  no_feed : 10 ∉ line
  no_bssid : isPrefixedIndexLine (shown line) (ascii "BSSID") = false
  no_ssid : isPrefixedIndexLine (shown line) (ascii "SSID") = false
  no_field : ∀ field, isFieldLine (shown line) field = false

/-- An octet as two hexadecimal digits, in either letter case. -/
structure Octet where
  high : UInt8
  low : UInt8
  first : Nat
  second : Nat
  high_is : Scan.hexDigit high = some first
  low_is : Scan.hexDigit low = some second

def Octet.value (octet : Octet) : UInt8 :=
  (16 * octet.first + octet.second).toUInt8

/-- The octets with colons between them. -/
def octetsText (octets : List Octet) : List UInt8 :=
  [58].intercalate (octets.map fun octet => [octet.high, octet.low])

/-- The lines of an access point. -/
structure AccessPoint where
  index : Index
  octets : List Octet
  signal : Nat
  channel : UInt16
  bssidLayout : Layout
  afterBssid : List OtherLine
  signalLayout : Layout
  afterSignal : List OtherLine
  channelLayout : Layout
  afterChannel : List OtherLine
  octets_are : octets.length = wifiBssidLength
  signal_is : signal ≤ 100

/-- The lines of a network. -/
structure Network where
  index : Index
  ssid : List UInt8
  authentication : List UInt8
  ssidLayout : Layout
  afterSsid : List OtherLine
  authenticationLayout : Layout
  afterAuthentication : List OtherLine
  accessPoints : List AccessPoint
  ssid_short : ssid.length ≤ wifiSsidMaxLength
  ssid_is : ∀ byte ∈ ssid, byte ≠ 10 ∧ byte ≠ 0
  ssid_first : ∀ byte ∈ ssid.head?, isBlank byte = false
  ssid_last : ∀ byte ∈ ssid.getLast?, isTrailing byte = false
  authentication_is : ∀ byte ∈ authentication, byte ≠ 10 ∧ byte ≠ 0

def AccessPoint.lines (point : AccessPoint) (language : Language) : List (List UInt8) :=
  point.bssidLayout.line (point.index.label (ascii "BSSID")) (octetsText point.octets) ::
    point.afterBssid.map OtherLine.line ++
    point.signalLayout.line (language.label .signal) (Decimal.render point.signal ++ [37]) ::
    point.afterSignal.map OtherLine.line ++
    point.channelLayout.line (language.label .channel) (Decimal.render point.channel.toNat) ::
    point.afterChannel.map OtherLine.line

def Network.lines (network : Network) (language : Language) : List (List UInt8) :=
  network.ssidLayout.line (network.index.label (ascii "SSID")) network.ssid ::
    network.afterSsid.map OtherLine.line ++
    network.authenticationLayout.line (language.label .authentication) network.authentication ::
    network.afterAuthentication.map OtherLine.line ++
    network.accessPoints.flatMap (AccessPoint.lines · language)

/-- The lines that a report consists of. -/
def reportLines (language : Language) (heading : List OtherLine) (networks : List Network) :
    List (List UInt8) :=
  heading.map OtherLine.line ++ networks.flatMap (Network.lines · language)

/-- A report whose lines fit the line buffer. -/
structure Report where
  language : Language
  heading : List OtherLine
  networks : List Network
  short : ∀ line ∈ reportLines language heading networks, line.length < 511

/-- The report as the command writes it. -/
def Report.bytes (report : Report) : List UInt8 :=
  (reportLines report.language report.heading report.networks).flatMap (· ++ [10])

/-! ## What a report says -/

/-- An access point as an entry of the table. -/
def AccessPoint.entry (point : AccessPoint) (ssid : List UInt8) (authMode : WiFiAuthMode) :
    WiFiNetwork where
  ssid := zeroed (wifiSsidMaxLength + 1) ssid
  bssid := point.octets.map Octet.value
  channel := point.channel
  authMode := authMode
  rssi := Int16.ofInt (point.signal / 2 - 100)
  ssidSize := length_zeroed _ _
  bssidSize := by rw [List.length_map, point.octets_are]

def Network.entries (network : Network) : List WiFiNetwork :=
  network.accessPoints.map fun point =>
    point.entry network.ssid (authModeFromText network.authentication)

def Report.entries (report : Report) : List WiFiNetwork :=
  report.networks.flatMap Network.entries

/-! ## Values in their lines -/

/-- The value without the blanks around it. -/
def trim (text : List UInt8) : List UInt8 :=
  (skipBlanks text).rdropWhile isTrailing

theorem isTrailing_of_isBlank {byte : UInt8} (blank : isBlank byte = true) :
    isTrailing byte = true := by
  simp only [isBlank, Bool.or_eq_true] at blank
  simp only [isTrailing, Bool.or_eq_true]
  rcases blank with space | tab
  · exact Or.inl (Or.inr space)
  · exact Or.inr tab

theorem rdropWhile_append_of_pos {keep : UInt8 → Bool} {back : List UInt8}
    (all : ∀ byte ∈ back, keep byte = true) (front : List UInt8) :
    (front ++ back).rdropWhile keep = front.rdropWhile keep := by
  rw [List.rdropWhile, List.reverse_append, List.dropWhile_append_of_pos
    (fun byte member => all byte (List.mem_reverse.mp member)), List.rdropWhile]

namespace Layout

variable (layout : Layout)

theorem trailing_cut : ∀ byte ∈ layout.trailing ++ [10], isTrailing byte = true := by
  intro byte member
  rcases List.mem_append.mp member with inside | feed
  · rcases layout.trailing_is byte inside with blank | return_
    · exact isTrailing_of_isBlank blank
    · rw [return_]
      rfl
  · rw [List.mem_singleton.mp feed]
    rfl

theorem trim_value {value : List UInt8} (first : ∀ byte ∈ value.head?, isBlank byte = false)
    (last : ∀ byte ∈ value.getLast?, isTrailing byte = false) :
    trim (layout.after ++ (value ++ (layout.trailing ++ [10]))) = value := by
  have cut := layout.trailing_cut
  rw [trim, skipBlanks, List.dropWhile_append_of_pos layout.after_is]
  cases value with
  | nil =>
      rw [List.nil_append, List.rdropWhile_eq_nil_iff]
      intro byte member
      exact cut byte ((List.dropWhile_sublist _).mem member)
  | cons byte rest =>
      have kept : isBlank byte = false := first byte rfl
      rw [List.cons_append, List.dropWhile_cons_of_neg (by simp [kept]), ← List.cons_append,
        rdropWhile_append_of_pos cut, List.rdropWhile_eq_self_iff]
      intro nonempty
      rw [last _ (List.getLast?_eq_getLast_of_ne_nil nonempty)]
      exact Bool.false_ne_true

/-- The value with everything behind the colon. -/
def tail (value : List UInt8) : List UInt8 :=
  layout.after ++ (value ++ (layout.trailing ++ [10]))

/-- A text that may stand in front of the colon. -/
structure IsLabel (label : List UInt8) : Prop where
  begins : ∃ first rest, label = first :: rest ∧ isBlank first = false
  clean : ∀ byte ∈ label, byte ≠ 0 ∧ byte ≠ 58 ∧ byte ≠ 10

theorem blank_clean {blanks : List UInt8} (are : ∀ byte ∈ blanks, isBlank byte = true) :
    ∀ byte ∈ blanks, byte ≠ 0 ∧ byte ≠ 58 ∧ byte ≠ 10 := by
  intro byte member
  have blank := are byte member
  refine ⟨?_, ?_, ?_⟩ <;> (rintro rfl; cases blank)

theorem shown_line {label value : List UInt8} (isLabel : IsLabel label) (clean : 0 ∉ value) :
    shown (layout.line label value) =
      layout.indent ++ (label ++ (layout.before ++ 58 :: layout.tail value)) := by
  have trailing : 0 ∉ layout.trailing := by
    intro member
    rcases layout.trailing_is 0 member with blank | return_
    · cases blank
    · cases return_
  have colon : (0 : UInt8) ≠ 58 := by decide
  have noZero : 0 ∉ layout.line label value ++ [10] := by
    simp only [line, List.mem_append, List.mem_cons, not_or]
    exact ⟨⟨fun member => (blank_clean layout.indent_is 0 member).1 rfl,
      fun member => (isLabel.clean 0 member).1 rfl,
      fun member => (blank_clean layout.before_is 0 member).1 rfl, colon,
      fun member => (blank_clean layout.after_is 0 member).1 rfl, clean, trailing⟩, by decide⟩
  rw [shown, Memory.text_of_zero_not_mem noZero]
  simp only [line, tail, List.append_assoc, List.cons_append]

theorem no_feed {label value : List UInt8} (isLabel : IsLabel label) (clean : 10 ∉ value) :
    10 ∉ layout.line label value := by
  have trailing : 10 ∉ layout.trailing := by
    intro member
    rcases layout.trailing_is 10 member with blank | return_
    · cases blank
    · cases return_
  have colon : (10 : UInt8) ≠ 58 := by decide
  simp only [line, List.mem_append, List.mem_cons, not_or]
  exact ⟨fun member => (blank_clean layout.indent_is 10 member).2.2 rfl,
    fun member => (isLabel.clean 10 member).2.2 rfl,
    fun member => (blank_clean layout.before_is 10 member).2.2 rfl, colon,
    fun member => (blank_clean layout.after_is 10 member).2.2 rfl, clean, trailing⟩

theorem skipBlanks_line {label value : List UInt8} (isLabel : IsLabel label) (clean : 0 ∉ value) :
    skipBlanks (shown (layout.line label value)) =
      label ++ (layout.before ++ 58 :: layout.tail value) := by
  rcases isLabel.begins with ⟨first, rest, split, notBlank⟩
  rw [layout.shown_line isLabel clean, skipBlanks, List.dropWhile_append_of_pos layout.indent_is,
    split, List.cons_append, List.dropWhile_cons_of_neg (by simp [notBlank])]

theorem valueAfterColon_line {label value : List UInt8} (isLabel : IsLabel label)
    (clean : 0 ∉ value) :
    valueAfterColon (shown (layout.line label value)) = some (trim (layout.tail value)) := by
  have front : ∀ byte ∈ layout.indent ++ (label ++ layout.before), (byte != 58) = true := by
    intro byte member
    rw [bne_iff_ne]
    rcases List.mem_append.mp member with indent | member
    · exact (blank_clean layout.indent_is byte indent).2.1
    · rcases List.mem_append.mp member with label | before
      · exact (isLabel.clean byte label).2.1
      · exact (blank_clean layout.before_is byte before).2.1
  have split : shown (layout.line label value) =
      (layout.indent ++ (label ++ layout.before)) ++ 58 :: layout.tail value := by
    rw [layout.shown_line isLabel clean]
    simp only [List.append_assoc]
  rw [valueAfterColon, split, List.dropWhile_append_of_pos front,
    List.dropWhile_cons_of_neg (by decide)]
  rfl

theorem isLabelledLine_line {label value : List UInt8} (isLabel : IsLabel label)
    (clean : 0 ∉ value) {labelPt labelEn : List UInt8}
    (language : label = labelPt ∨ (label = labelEn ∧
      labelPt.isPrefixOf (label ++ (layout.before ++ 58 :: layout.tail value)) = false)) :
    isLabelledLine (shown (layout.line label value)) labelPt labelEn = true := by
  have here : label.isPrefixOf (label ++ (layout.before ++ 58 :: layout.tail value)) = true :=
    List.isPrefixOf_iff_prefix.mpr (List.prefix_append _ _)
  have colon : (skipBlanks ((label ++ (layout.before ++ 58 :: layout.tail value)).drop
      label.length)).head? = some 58 := by
    rw [List.drop_left, skipBlanks, List.dropWhile_append_of_pos layout.before_is]
    rfl
  rw [isLabelledLine, layout.skipBlanks_line isLabel clean]
  rcases language with portuguese | ⟨english, other⟩
  · subst portuguese
    simp only [here, if_true, colon, beq_self_eq_true]
  · subst english
    simp only [other, Bool.false_eq_true, if_false, here, if_true, colon, beq_self_eq_true]

/-- A line that begins with none of the labels is no line of theirs. -/
theorem not_isLabelledLine_line {label value : List UInt8} (isLabel : IsLabel label)
    (clean : 0 ∉ value) {labelPt labelEn : List UInt8}
    (noPt : labelPt.isPrefixOf (label ++ (layout.before ++ 58 :: layout.tail value)) = false)
    (noEn : labelEn.isPrefixOf (label ++ (layout.before ++ 58 :: layout.tail value)) = false) :
    isLabelledLine (shown (layout.line label value)) labelPt labelEn = false := by
  rw [isLabelledLine, layout.skipBlanks_line isLabel clean]
  simp only [noPt, noEn, Bool.false_eq_true, if_false]

/-- A keyword with its number begins a network or an access point. -/
theorem isPrefixedIndexLine_line {keyword value : List UInt8} (index : Index)
    (isLabel : IsLabel (index.label keyword)) (clean : 0 ∉ value) :
    isPrefixedIndexLine (shown (layout.line (index.label keyword) value)) keyword = true := by
  rw [isPrefixedIndexLine, layout.skipBlanks_line isLabel clean]
  have here : keyword.isPrefixOf
      (index.label keyword ++ (layout.before ++ 58 :: layout.tail value)) = true := by
    rw [Index.label, List.append_assoc]
    exact List.isPrefixOf_iff_prefix.mpr (List.prefix_append _ _)
  have behind : (index.label keyword ++ (layout.before ++ 58 :: layout.tail value)).drop
      keyword.length = 32 :: (index.digits ++ (layout.before ++ 58 :: layout.tail value)) := by
    rw [Index.label, List.append_assoc, List.drop_left, List.cons_append]
  rcases index.begins with ⟨digit, rest, split, isDigit, notBlank⟩
  have skipped : skipBlanks (32 :: (index.digits ++ (layout.before ++ 58 :: layout.tail value))) =
      digit :: (rest ++ (layout.before ++ 58 :: layout.tail value)) := by
    have blank : isBlank 32 = true := rfl
    rw [skipBlanks, List.dropWhile_cons_of_pos blank, split, List.cons_append,
      List.dropWhile_cons_of_neg (by simp [notBlank])]
  simp only [here, if_true, behind, List.head?_cons, beq_self_eq_true, skipped, Option.any_some,
    decide_eq_true isDigit]

theorem not_isPrefixedIndexLine_line {label value keyword : List UInt8} (isLabel : IsLabel label)
    (clean : 0 ∉ value)
    (other : keyword.isPrefixOf (label ++ (layout.before ++ 58 :: layout.tail value)) = false) :
    isPrefixedIndexLine (shown (layout.line label value)) keyword = false := by
  rw [isPrefixedIndexLine, layout.skipBlanks_line isLabel clean]
  simp only [other, Bool.false_eq_true, if_false]

end Layout

/-! ## What the values say -/

/-- A word of other bytes does not notice what is cut off around a text. -/
theorem contains_pad {word front back : List UInt8} (nonempty : word ≠ [])
    (solid : ∀ byte ∈ word, isTrailing byte = false)
    (frontPad : ∀ byte ∈ front, isTrailing byte = true)
    (backPad : ∀ byte ∈ back, isTrailing byte = true) (text : List UInt8) :
    contains (front ++ (text ++ back)) word = contains text word := by
  have absent {pad : List UInt8} (are : ∀ byte ∈ pad, isTrailing byte = true) :
      ∀ byte ∈ pad, byte ∉ word := by
    intro byte member inWord
    have cut := are byte member
    rw [solid byte inWord] at cut
    cases cut
  rw [Bool.eq_iff_iff, contains, contains, Search.isSome_find_iff nonempty,
    Search.isSome_find_iff nonempty, Search.infix_append_left_iff nonempty (absent frontPad),
    Search.infix_append_right_iff nonempty (absent backPad)]

theorem contains_trim {word : List UInt8} (nonempty : word ≠ [])
    (solid : ∀ byte ∈ word, isTrailing byte = false) (text : List UInt8) :
    contains (trim text) word = contains text word := by
  have split : text = text.takeWhile isBlank ++
      (trim text ++ (skipBlanks text).rtakeWhile isTrailing) := by
    rw [trim, List.rdropWhile_append_rtakeWhile, skipBlanks, List.takeWhile_append_dropWhile]
  have front : ∀ byte ∈ text.takeWhile isBlank, isTrailing byte = true :=
    fun byte member => isTrailing_of_isBlank (List.mem_takeWhile_imp member)
  have back : ∀ byte ∈ (skipBlanks text).rtakeWhile isTrailing, isTrailing byte = true :=
    fun byte member => List.mem_rtakeWhile_imp member
  conv_rhs => rw [split]
  exact (contains_pad nonempty solid front back _).symm

/-- The mode of a text is the mode of its line. -/
theorem authModeFromText_trim (layout : Layout) (text : List UInt8) :
    authModeFromText (trim (layout.tail text)) = authModeFromText text := by
  have same {word : List UInt8} (nonempty : word ≠ [])
      (solid : ∀ byte ∈ word, isTrailing byte = false) :
      contains (trim (layout.tail text)) word = contains text word := by
    rw [contains_trim nonempty solid, Layout.tail]
    exact contains_pad nonempty solid
      (fun byte member => isTrailing_of_isBlank (layout.after_is byte member))
      layout.trailing_cut text
  rw [authModeFromText, same (by decide) (by decide +kernel), same (by decide) (by decide +kernel),
    same (by decide) (by decide +kernel), same (by decide) (by decide +kernel)]
  rfl

theorem octetsText_singleton (octet : Octet) : octetsText [octet] = [octet.high, octet.low] :=
  List.intercalate_singleton

theorem octetsText_cons_cons (octet next : Octet) (others : List Octet) :
    octetsText (octet :: next :: others) =
      octet.high :: octet.low :: 58 :: octetsText (next :: others) :=
  List.intercalate_cons_cons

theorem scanOctets_text (octets : List Octet) : scanOctets octets.length (octetsText octets) =
    some (octets.map fun octet => UInt32.ofNat (16 * octet.first + octet.second)) := by
  induction octets with
  | nil => rfl
  | cons octet rest inductionHypothesis =>
      cases rest with
      | nil =>
          have scanned := Scan.scanHex_pair octet.high_is octet.low_is
            (fun byte member => absurd member (Option.not_mem_none byte) :
              ∀ byte ∈ ([] : List UInt8).head?, Scan.hexDigit byte = none)
          rw [octetsText_singleton]
          change (Scan.scanHex [octet.high, octet.low]).map _ = _
          rw [scanned]
          rfl
      | cons next others =>
          have stops : ∀ byte ∈ (58 :: octetsText (next :: others)).head?,
              Scan.hexDigit byte = none := by
            intro byte member
            cases member
            decide
          have scanned := Scan.scanHex_pair octet.high_is octet.low_is stops
          rw [octetsText_cons_cons, List.length_cons, scanOctets, scanned]
          · simp only [inductionHypothesis]
            rfl
          · exact Nat.succ_ne_zero _

theorem octetsText_kept (octets : List Octet) : ∀ byte ∈ octetsText octets,
    isBlank byte = false ∧ isTrailing byte = false ∧ byte ≠ 0 := by
  have all : ∀ byte, byte = 58 ∨ (Scan.hexDigit byte).isSome = true →
      isBlank byte = false ∧ isTrailing byte = false ∧ byte ≠ 0 :=
    Scan.all_bytes (by decide +kernel)
  intro byte member
  apply all byte
  induction octets with
  | nil => cases member
  | cons octet rest inductionHypothesis =>
      have high : (Scan.hexDigit octet.high).isSome = true := by rw [octet.high_is]; rfl
      have low : (Scan.hexDigit octet.low).isSome = true := by rw [octet.low_is]; rfl
      cases rest with
      | nil =>
          rw [octetsText_singleton] at member
          rcases List.mem_cons.mp member with same | member
          · exact Or.inr (same ▸ high)
          · exact Or.inr (List.mem_singleton.mp member ▸ low)
      | cons next others =>
          rw [octetsText_cons_cons] at member
          rcases List.mem_cons.mp member with same | member
          · exact Or.inr (same ▸ high)
          · rcases List.mem_cons.mp member with same | member
            · exact Or.inr (same ▸ low)
            · rcases List.mem_cons.mp member with same | member
              · exact Or.inl same
              · exact inductionHypothesis member

theorem trim_octets (layout : Layout) (octets : List Octet) :
    trim (layout.tail (octetsText octets)) = octetsText octets :=
  layout.trim_value
    (fun byte member => (octetsText_kept octets byte (List.mem_of_head? member)).1)
    (fun byte member => (octetsText_kept octets byte (List.mem_of_getLast? member)).2.1)

theorem parseBssid_text (point : AccessPoint) (bssid : List UInt8) :
    parseBssid (octetsText point.octets) bssid = point.octets.map Octet.value := by
  have octet (octet : Octet) : (UInt32.ofNat (16 * octet.first + octet.second)).toUInt8 =
      octet.value := by
    apply UInt8.toNat_inj.mp
    simp [Octet.value]
  rw [parseBssid, ← point.octets_are, scanOctets_text]
  simp only [List.map_map]
  congr 1
  funext each
  exact octet each

theorem head_render (number : Nat) (back : List UInt8) :
    ∀ byte ∈ (Decimal.render number ++ back).head?, isBlank byte = false := by
  intro byte member
  cases split : Decimal.render number with
  | nil => exact absurd split (Decimal.render_ne_nil number)
  | cons digit rest =>
      have isDigit := Decimal.isDigit_render number digit (by rw [split]; exact List.mem_cons_self)
      rw [split] at member
      cases member
      exact (digit_kept isDigit).1

/-- The numeral of a percentage in its line. -/
theorem trim_signal (layout : Layout) (number : Nat) :
    trim (layout.tail (Decimal.render number ++ [37])) = Decimal.render number ++ [37] := by
  apply layout.trim_value (head_render number [37])
  intro byte member
  rw [List.getLast?_concat] at member
  cases member
  decide

theorem trim_numeral (layout : Layout) (number : Nat) :
    trim (layout.tail (Decimal.render number)) = Decimal.render number := by
  have first := head_render number []
  rw [List.append_nil] at first
  apply layout.trim_value first
  intro byte member
  exact (digit_kept (Decimal.isDigit_render number byte (List.mem_of_getLast? member))).2

theorem rssi_signal {number : Nat} (small : number ≤ 100) :
    rssiFromSignalPercentage (Decimal.render number ++ [37]) = Int16.ofInt (number / 2 - 100) := by
  have stops : ∀ byte ∈ [(37 : UInt8)].head?, ¬ Decimal.IsDigit byte := by
    intro byte member
    cases member
    decide
  have clamped : max 0 (min 100 (number : Int)) = number := by omega
  rw [rssiFromSignalPercentage, Scan.atoi_render (by omega) stops]
  simp only [clamped]

theorem channel_numeral (channel : UInt16) :
    UInt16.ofInt (Scan.atoi (Decimal.render channel.toNat)) = channel := by
  have small := channel.toNat_lt
  have read := @Scan.atoi_render channel.toNat (by omega) [] (by simp)
  have same : ((channel.toNat : Int) % 2 ^ 16).toNat = channel.toNat := by omega
  rw [List.append_nil] at read
  rw [read, UInt16.ofInt, same, UInt16.ofNat_toNat]

/-! ## The state after a line -/

variable {maxNetworks : Nat}

/-- The state after a line of the report. -/
def step (state : ScanState maxNetworks) (line : List UInt8) : ScanState maxNetworks :=
  consumeLine state (shown line)

/-- `ConsumeLine` by the kind of the line. -/
theorem step_eq (state : ScanState maxNetworks) (line : List UInt8) : step state line =
    if isPrefixedIndexLine (shown line) (ascii "BSSID") then
      beginBssid state (valueAfterColon (shown line))
    else if isPrefixedIndexLine (shown line) (ascii "SSID") then
      beginNetwork state (valueAfterColon (shown line))
    else if isFieldLine (shown line) .authentication then
      match valueAfterColon (shown line) with
      | some value => { state with currentAuthMode := authModeFromText value }
      | none => state
    else
      match state.currentNetwork with
      | none => state
      | some index =>
          if isFieldLine (shown line) .signal then
            match valueAfterColon (shown line) with
            | some value => state.update index ({ · with rssi := rssiFromSignalPercentage value })
            | none => state
          else if isFieldLine (shown line) .channel then
            match valueAfterColon (shown line) with
            | some value =>
                state.update index ({ · with channel := UInt16.ofInt (Scan.atoi value) })
            | none => state
          else state := by
  rfl

theorem step_other (state : ScanState maxNetworks) (other : OtherLine) :
    step state other.line = state := by
  rw [step_eq]
  simp only [other.no_bssid, other.no_ssid, other.no_field, Bool.false_eq_true, if_false]
  cases state.currentNetwork <;> rfl

theorem foldl_others (state : ScanState maxNetworks) (others : List OtherLine) :
    (others.map OtherLine.line).foldl step state = state := by
  induction others with
  | nil => rfl
  | cons other rest inductionHypothesis =>
      rw [List.map_cons, List.foldl_cons, step_other, inductionHypothesis]

theorem isLabel_index {keyword : List UInt8} (index : Index)
    (begins : ∃ first rest, keyword = first :: rest ∧ isBlank first = false)
    (clean : ∀ byte ∈ keyword, byte ≠ 0 ∧ byte ≠ 58 ∧ byte ≠ 10) :
    Layout.IsLabel (index.label keyword) := by
  rcases begins with ⟨first, rest, split, notBlank⟩
  refine ⟨⟨first, rest ++ 32 :: index.digits, ?_, notBlank⟩, ?_⟩
  · rw [Index.label, split, List.cons_append]
  · intro byte member
    rcases List.mem_append.mp member with inside | behind
    · exact clean byte inside
    · rcases List.mem_cons.mp behind with space | digit
      · rw [space]
        decide
      · have isDigit := index.digits_are byte digit
        refine ⟨?_, ?_, ?_⟩ <;> (rintro rfl; revert isDigit; decide)

theorem isLabel_bssid (index : Index) : Layout.IsLabel (index.label (ascii "BSSID")) :=
  isLabel_index index ⟨_, _, rfl, by decide +kernel⟩ (by decide +kernel)

theorem isLabel_ssid (index : Index) : Layout.IsLabel (index.label (ascii "SSID")) :=
  isLabel_index index ⟨_, _, rfl, by decide +kernel⟩ (by decide +kernel)

theorem isLabel_field (language : Language) (field : Field) :
    Layout.IsLabel (language.label field) := by
  cases language <;> cases field <;> exact ⟨⟨_, _, rfl, by decide +kernel⟩, by decide +kernel⟩

theorem step_bssid (state : ScanState maxNetworks) (layout : Layout) (index : Index)
    {value : List UInt8} (clean : 0 ∉ value) :
    step state (layout.line (index.label (ascii "BSSID")) value) =
      beginBssid state (some (trim (layout.tail value))) := by
  rw [step_eq, layout.isPrefixedIndexLine_line index (isLabel_bssid index) clean, if_pos rfl,
    layout.valueAfterColon_line (isLabel_bssid index) clean]

theorem step_ssid (state : ScanState maxNetworks) (layout : Layout) (index : Index)
    {value : List UInt8} (clean : 0 ∉ value) :
    step state (layout.line (index.label (ascii "SSID")) value) =
      beginNetwork state (some (trim (layout.tail value))) := by
  rw [step_eq, layout.not_isPrefixedIndexLine_line (isLabel_ssid index) clean rfl,
    layout.isPrefixedIndexLine_line index (isLabel_ssid index) clean,
    layout.valueAfterColon_line (isLabel_ssid index) clean]
  rfl

/-- A line of a field begins with no keyword. -/
theorem no_keyword (layout : Layout) (language : Language) (field : Field) {value : List UInt8}
    (clean : 0 ∉ value) :
    isPrefixedIndexLine (shown (layout.line (language.label field) value)) (ascii "BSSID") = false ∧
      isPrefixedIndexLine (shown (layout.line (language.label field) value)) (ascii "SSID") =
        false := by
  have isLabel := isLabel_field language field
  constructor
  · apply layout.not_isPrefixedIndexLine_line isLabel clean
    cases language <;> cases field <;> rfl
  · apply layout.not_isPrefixedIndexLine_line isLabel clean
    cases language <;> cases field <;> rfl

/-- A line of a field is taken for a line of that field, and of no other. -/
theorem isFieldLine_line (layout : Layout) (language : Language) (field other : Field)
    {value : List UInt8} (clean : 0 ∉ value) :
    isFieldLine (shown (layout.line (language.label field) value)) other =
      decide (field = other) := by
  have isLabel := isLabel_field language field
  by_cases same : field = other
  · subst same
    rw [decide_eq_true rfl]
    apply layout.isLabelledLine_line isLabel clean
    cases language
    · exact Or.inr ⟨rfl, by cases field <;> rfl⟩
    · exact Or.inl rfl
  · rw [decide_eq_false same]
    apply layout.not_isLabelledLine_line isLabel clean
    · cases language <;> cases field <;> cases other <;> first | rfl | exact absurd rfl same
    · cases language <;> cases field <;> cases other <;> first | rfl | exact absurd rfl same

theorem step_authentication (state : ScanState maxNetworks) (layout : Layout) (language : Language)
    {value : List UInt8} (clean : 0 ∉ value) :
    step state (layout.line (language.label .authentication) value) =
      { state with currentAuthMode := authModeFromText (trim (layout.tail value)) } := by
  have keyword := no_keyword layout language .authentication clean
  rw [step_eq, keyword.1, keyword.2, isFieldLine_line layout language _ _ clean,
    layout.valueAfterColon_line (isLabel_field language _) clean]
  rfl

/-- A signal or channel line changes the entry that is being filled. -/
theorem step_signal {state : ScanState maxNetworks} {index : Fin maxNetworks}
    (current : state.currentNetwork = some index) (layout : Layout) (language : Language)
    {value : List UInt8} (clean : 0 ∉ value) :
    step state (layout.line (language.label .signal) value) = state.update index
      ({ · with rssi := rssiFromSignalPercentage (trim (layout.tail value)) }) := by
  have keyword := no_keyword layout language .signal clean
  rw [step_eq, keyword.1, keyword.2, isFieldLine_line layout language _ _ clean,
    isFieldLine_line layout language _ _ clean,
    layout.valueAfterColon_line (isLabel_field language _) clean, current]
  rfl

theorem step_channel {state : ScanState maxNetworks} {index : Fin maxNetworks}
    (current : state.currentNetwork = some index) (layout : Layout) (language : Language)
    {value : List UInt8} (clean : 0 ∉ value) :
    step state (layout.line (language.label .channel) value) = state.update index
      ({ · with channel := UInt16.ofInt (Scan.atoi (trim (layout.tail value))) }) := by
  have keyword := no_keyword layout language .channel clean
  rw [step_eq, keyword.1, keyword.2, isFieldLine_line layout language _ _ clean,
    isFieldLine_line layout language _ _ clean, isFieldLine_line layout language _ _ clean,
    layout.valueAfterColon_line (isLabel_field language _) clean, current]
  rfl

theorem step_passed {state : ScanState maxNetworks} (none_ : state.currentNetwork = none)
    (layout : Layout) (language : Language) {field : Field} (other : field ≠ .authentication)
    {value : List UInt8} (clean : 0 ∉ value) :
    step state (layout.line (language.label field) value) = state := by
  have keyword := no_keyword layout language field clean
  rw [step_eq, keyword.1, keyword.2, isFieldLine_line layout language _ _ clean,
    decide_eq_false other, none_]
  rfl

/-! ## The state after a report -/

/-- The table of the scan. -/
def ScanState.table (state : ScanState maxNetworks) : Table WiFiNetwork maxNetworks where
  slots := state.networks
  count := state.foundNetworks

/-- The state that has just begun an entry. -/
def ScanState.begun (state : ScanState maxNetworks) (room : state.foundNetworks < maxNetworks)
    (network : WiFiNetwork) : ScanState maxNetworks :=
  { state with
    networks := state.networks.set state.foundNetworks network room
    foundNetworks := state.foundNetworks + 1
    currentNetwork := some ⟨state.foundNetworks, room⟩ }

/-- Changing the entry is having begun the changed entry. -/
theorem ScanState.update_begun (state : ScanState maxNetworks)
    (room : state.foundNetworks < maxNetworks) (network : WiFiNetwork)
    (change : WiFiNetwork → WiFiNetwork) :
    (state.begun room network).update ⟨state.foundNetworks, room⟩ change =
      state.begun room (change network) := by
  have entry : (state.begun room network).networks[state.foundNetworks] = network :=
    Vector.getElem_set_self room
  have networks : (state.begun room network).networks.set state.foundNetworks (change network) room =
      state.networks.set state.foundNetworks (change network) room :=
    Vector.set_set network room
  rw [ScanState.update]
  simp only [Fin.getElem_fin, entry, networks]
  rfl

theorem ScanState.table_begun (state : ScanState maxNetworks)
    (room : state.foundNetworks < maxNetworks) (network : WiFiNetwork) :
    (state.begun room network).table = state.table.push network := by
  have free : state.table.count < maxNetworks := room
  rw [Table.push, dif_pos free]
  rfl

/-- The state carries the name and the mode of the network that was begun. -/
structure Carries (state : ScanState maxNetworks) (ssid : List UInt8) (authMode : WiFiAuthMode) :
    Prop where
  haveSsid : state.haveSsid = true
  currentSsid : state.currentSsid = ssid
  currentAuthMode : state.currentAuthMode = authMode

theorem not_mem_render (number : Nat) : 0 ∉ Decimal.render number ∧ 10 ∉ Decimal.render number := by
  constructor
  · intro member
    have digit := Decimal.isDigit_render number 0 member
    revert digit
    decide
  · intro member
    have digit := Decimal.isDigit_render number 10 member
    revert digit
    decide

/-- The lines of an access point put its entry into the table, if there is room. -/
theorem foldl_point {state : ScanState maxNetworks} {ssid : List UInt8} {authMode : WiFiAuthMode}
    (carries : Carries state ssid authMode) (point : AccessPoint) (language : Language) :
    ((point.lines language).foldl step state).table =
        state.table.push (point.entry ssid authMode) ∧
      Carries ((point.lines language).foldl step state) ssid authMode := by
  rcases carries with ⟨haveSsid, rfl, rfl⟩
  have octetsClean : 0 ∉ octetsText point.octets :=
    fun member => (octetsText_kept point.octets 0 member).2.2 rfl
  have signalClean : 0 ∉ Decimal.render point.signal ++ [37] := by
    rw [List.mem_append, not_or]
    exact ⟨(not_mem_render _).1, by decide⟩
  rw [AccessPoint.lines, List.foldl_append, List.foldl_append, List.foldl_cons, List.foldl_cons,
    List.foldl_cons, foldl_others, foldl_others, foldl_others,
    step_bssid state point.bssidLayout point.index octetsClean, trim_octets]
  by_cases room : state.foundNetworks < maxNetworks
  · have begun : beginBssid state (some (octetsText point.octets)) = state.begun room
        { point.entry state.currentSsid state.currentAuthMode with
          channel := fallbackChannel, rssi := fallbackRssi } := by
      rw [beginBssid, dif_pos ⟨haveSsid, room⟩]
      simp only [parseBssid_text]
      rfl
    rw [begun, step_signal rfl point.signalLayout language signalClean, ScanState.update_begun,
      step_channel rfl point.channelLayout language (not_mem_render _).1,
      ScanState.update_begun, trim_signal, trim_numeral, rssi_signal point.signal_is,
      channel_numeral]
    exact ⟨state.table_begun room _, haveSsid, rfl, rfl⟩
  · have dropped : beginBssid state (some (octetsText point.octets)) =
        { state with currentNetwork := none } := by
      rw [beginBssid, dif_neg fun both => room both.2]
    rw [dropped, step_passed rfl point.signalLayout language (by decide) signalClean,
      step_passed rfl point.channelLayout language (by decide) (not_mem_render _).1]
    have full : ¬ state.table.count < maxNetworks := room
    refine ⟨?_, haveSsid, rfl, rfl⟩
    rw [Table.push, dif_neg full]
    rfl

/-- The access points of a network are put into the table one after the other. -/
theorem foldl_points {state : ScanState maxNetworks} {ssid : List UInt8} {authMode : WiFiAuthMode}
    (carries : Carries state ssid authMode) (points : List AccessPoint) (language : Language) :
    ((points.flatMap (AccessPoint.lines · language)).foldl step state).table =
      state.table.fill (points.map (AccessPoint.entry · ssid authMode)) := by
  induction points generalizing state with
  | nil => rfl
  | cons point rest inductionHypothesis =>
      rcases foldl_point carries point language with ⟨table, later⟩
      rw [List.flatMap_cons, List.foldl_append, inductionHypothesis later, table]
      rfl

/-- The lines of a network put its access points into the table. -/
theorem foldl_network (state : ScanState maxNetworks) (network : Network) (language : Language) :
    ((network.lines language).foldl step state).table = state.table.fill network.entries := by
  have ssidClean : 0 ∉ network.ssid := fun member => (network.ssid_is 0 member).2 rfl
  have modeClean : 0 ∉ network.authentication :=
    fun member => (network.authentication_is 0 member).2 rfl
  have value : trim (network.ssidLayout.tail network.ssid) = network.ssid :=
    network.ssidLayout.trim_value network.ssid_first network.ssid_last
  have whole : network.ssid.take wifiSsidMaxLength = network.ssid :=
    List.take_of_length_le network.ssid_short
  rw [Network.lines, List.foldl_append, List.foldl_append, List.foldl_cons, List.foldl_cons,
    foldl_others, foldl_others, step_ssid state network.ssidLayout network.index ssidClean,
    step_authentication _ network.authenticationLayout language modeClean, value,
    authModeFromText_trim]
  have carries : Carries { beginNetwork state (some network.ssid) with
      currentAuthMode := authModeFromText network.authentication } network.ssid
      (authModeFromText network.authentication) := ⟨rfl, whole, rfl⟩
  exact foldl_points carries network.accessPoints language

theorem foldl_networks (state : ScanState maxNetworks) (networks : List Network)
    (language : Language) :
    ((networks.flatMap (Network.lines · language)).foldl step state).table =
      state.table.fill (networks.flatMap Network.entries) := by
  induction networks generalizing state with
  | nil => rfl
  | cons network rest inductionHypothesis =>
      rw [List.flatMap_cons, List.foldl_append, inductionHypothesis, foldl_network,
        List.flatMap_cons, Table.fill_append]

theorem no_feed_others (others : List OtherLine) :
    ∀ line ∈ others.map OtherLine.line, 10 ∉ line := by
  intro line member
  rcases List.mem_map.mp member with ⟨other, _, rfl⟩
  exact other.no_feed

theorem no_feed_point (point : AccessPoint) (language : Language) :
    ∀ line ∈ point.lines language, 10 ∉ line := by
  have octets : 10 ∉ octetsText point.octets := by
    intro member
    cases (octetsText_kept point.octets 10 member).2.1
  have signal : 10 ∉ Decimal.render point.signal ++ [37] := by
    rw [List.mem_append, not_or]
    exact ⟨(not_mem_render _).2, by decide⟩
  intro line member
  simp only [AccessPoint.lines, List.mem_append, List.mem_cons] at member
  rcases member with ((same | other) | same | other) | same | other
  · exact same ▸ point.bssidLayout.no_feed (isLabel_bssid _) octets
  · exact no_feed_others _ line other
  · exact same ▸ point.signalLayout.no_feed (isLabel_field _ _) signal
  · exact no_feed_others _ line other
  · exact same ▸ point.channelLayout.no_feed (isLabel_field _ _) (not_mem_render _).2
  · exact no_feed_others _ line other

theorem no_feed_network (network : Network) (language : Language) :
    ∀ line ∈ network.lines language, 10 ∉ line := by
  have ssid : 10 ∉ network.ssid := fun member => (network.ssid_is 10 member).1 rfl
  have mode : 10 ∉ network.authentication :=
    fun member => (network.authentication_is 10 member).1 rfl
  intro line member
  simp only [Network.lines, List.mem_append, List.mem_cons, List.mem_flatMap] at member
  rcases member with ((same | other) | same | other) | ⟨point, _, inside⟩
  · exact same ▸ network.ssidLayout.no_feed (isLabel_ssid _) ssid
  · exact no_feed_others _ line other
  · exact same ▸ network.authenticationLayout.no_feed (isLabel_field _ _) mode
  · exact no_feed_others _ line other
  · exact no_feed_point point language line inside

/-- The lines of a report are read one by one. -/
theorem reads_bytes (report : Report) :
    Lines.reads 10 (lineBufferSize - 1) [] report.bytes =
      (reportLines report.language report.heading report.networks).map (· ++ [10]) := by
  apply Lines.reads_lines
  intro line member
  refine ⟨?_, report.short line member⟩
  rcases List.mem_append.mp member with heading | member
  · exact no_feed_others _ line heading
  · rcases List.mem_flatMap.mp member with ⟨network, _, inside⟩
    exact no_feed_network network report.language line inside

/-- Parsing a report fills the table with its access points, in their order,
and leaves what does not fit and the other entries of the table alone. -/
theorem parseNetshOutput_report (report : Report) {maxNetworks : Nat}
    (networks : Vector WiFiNetwork maxNetworks) :
    (parseNetshOutput report.bytes 0 networks 0).1 = true ∧
      (parseNetshOutput report.bytes 0 networks 0).2.foundNetworks =
        min maxNetworks report.entries.length ∧
      ∀ (index : Nat) (inside : index < maxNetworks),
        (parseNetshOutput report.bytes 0 networks 0).2.networks[index] =
          (report.entries[index]?).getD networks[index] := by
  have final : (parseNetshOutput report.bytes 0 networks 0).2.table =
      (Table.mk networks 0).fill report.entries := by
    rw [parseNetshOutput, reads_bytes, List.foldl_map]
    change ((reportLines report.language report.heading report.networks).foldl step
      (initialState networks 0)).table = _
    rw [reportLines, List.foldl_append, foldl_others, foldl_networks]
    rfl
  have count := Table.count_fill (Table.mk networks 0) (Nat.zero_le _) report.entries
  refine ⟨rfl, ?_, ?_⟩
  · rw [← final, Nat.zero_add] at count
    exact count
  · intro index inside
    have slot := Table.getElem_fill (Table.mk networks 0) report.entries inside
    rw [if_neg (Nat.not_lt_zero _), Nat.sub_zero] at slot
    simp only [← final] at slot
    exact slot

/-! ## A report of two networks -/

def indented : Layout where
  indent := ascii "    "
  before := ascii "  "
  after := [32]
  trailing := [32, 13]
  indent_is := by decide +kernel
  before_is := by decide +kernel
  after_is := by decide +kernel
  trailing_is := by decide +kernel

def firstIndex : Index := ⟨ascii "1", by decide +kernel, by decide +kernel⟩

/-- A line whose text begins like a label. -/
def utilization : OtherLine where
  line := ascii "      Channel Utilization:  12"
  no_feed := by decide
  no_bssid := by decide +kernel
  no_ssid := by decide +kernel
  no_field := by
    intro field
    cases field <;> decide +kernel

def hiddenPoint : AccessPoint where
  index := firstIndex
  octets := List.replicate 6 ⟨97, 66, 10, 11, by decide, by decide⟩
  signal := 85
  channel := 13
  bssidLayout := indented
  afterBssid := []
  signalLayout := indented
  afterSignal := [utilization]
  channelLayout := indented
  afterChannel := []
  octets_are := rfl
  signal_is := by decide

/-- A network with no name and one access point. -/
def hiddenNetwork : Network where
  index := firstIndex
  ssid := []
  authentication := ascii "WPA3-Personal"
  ssidLayout := indented
  afterSsid := [utilization]
  authenticationLayout := indented
  afterAuthentication := []
  accessPoints := [hiddenPoint]
  ssid_short := by decide
  ssid_is := by decide +kernel
  ssid_first := by decide +kernel
  ssid_last := by decide +kernel
  authentication_is := by decide +kernel

/-- A network whose name looks like a line of the report. -/
def namedNetwork : Network :=
  { hiddenNetwork with
    ssid := ascii "Signal : 5%"
    accessPoints := [hiddenPoint, hiddenPoint]
    ssid_short := by decide
    ssid_is := by decide +kernel
    ssid_first := by decide +kernel
    ssid_last := by decide +kernel }

def smallReport : Report where
  language := .portuguese
  heading := [utilization]
  networks := [hiddenNetwork, namedNetwork]
  short := by decide +kernel

/-- What the table may hold before the scan. -/
def earlier : Vector WiFiNetwork 2 :=
  Vector.replicate 2 (hiddenPoint.entry [] .unknown)

theorem parseNetshOutput_smallReport :
    (parseNetshOutput smallReport.bytes 0 earlier 0).2.networks[1] =
      hiddenPoint.entry (ascii "Signal : 5%") .wpa3 :=
  ((parseNetshOutput_report smallReport earlier).2.2 1 (by decide)).trans (by rfl)

end Simulator
end WiFi
end NetLL
