import NetLL.Server.Arrival
import NetLL.Server.HeaderSection

namespace NetLL
namespace Server

open Decimal

/-!
# Messages and the verdict on them

A message is a request with any method token, as a record of its parts with
the conditions that make them parts.  Its bytes are the parts in order.
Whatever the segments in which these bytes arrive, every server reads the whole
message, and the verdict is that of the route table on the token and the path.
-/

/-- A text that may stand inside a header line. -/
def IsLineText (line : List UInt8) : Prop :=
  ∀ byte ∈ line, byte ≠ 13 ∧ byte ≠ 10 ∧ byte ≠ 0

instance : DecidablePred IsLineText := fun line =>
  inferInstanceAs (Decidable (∀ byte ∈ line, byte ≠ 13 ∧ byte ≠ 10 ∧ byte ≠ 0))

/-- A `Content-Length` field, its name in any letter case. -/
structure LengthField where
  name : List UInt8
  blanks : List UInt8
  digits : List UInt8
  trailing : List UInt8
  name_is : name.map lowerCase = contentLengthLabel.map lowerCase
  blanks_are : ∀ byte ∈ blanks, IsBlank byte
  digits_are : ∀ byte ∈ digits, IsDigit byte
  digits_nonempty : digits ≠ []
  trailing_are : ∀ byte ∈ trailing, IsBlank byte

/-- The header line of a length field. -/
def LengthField.line (field : LengthField) : List UInt8 :=
  field.name ++ field.blanks ++ field.digits ++ field.trailing

/-- Another header line. -/
structure OtherLine where
  line : List UInt8
  nonempty : line ≠ []
  text : IsLineText line
  other : ¬ BeginsWith contentLengthLabel line

/-- A request with any method token.  A token is no `Content-Length` field. -/
structure Message where
  token : List UInt8
  target : List UInt8
  version : Option (List UInt8)
  before : List OtherLine
  length : Option LengthField
  after : List OtherLine
  body : List UInt8
  token_is : ∀ byte ∈ token, byte ≠ 32 ∧ byte ≠ 13 ∧ byte ≠ 10 ∧ byte ≠ 0
  token_other : ¬ BeginsWith contentLengthLabel token
  target_is : ∀ byte ∈ target, byte ≠ 32 ∧ byte ≠ 13 ∧ byte ≠ 10 ∧ byte ≠ 0
  version_is : ∀ text, version = some text → IsLineText text
  body_is : body.length = (length.map (fun field => value field.digits)).getD 0

theorem isLineText_version (text : List UInt8) (same : some (ascii "HTTP/1.1") = some text) :
    IsLineText text := by
  cases same
  decide +kernel

theorem length_bodyless : ([] : List UInt8).length =
    ((none : Option LengthField).map (fun field => value field.digits)).getD 0 :=
  rfl

/-! ## Length fields -/

namespace LengthField

variable (field : LengthField)

theorem length_name : field.name.length = contentLengthLabel.length := by
  have lengths := congrArg List.length field.name_is
  rwa [List.length_map, List.length_map] at lengths

theorem beginsWith : BeginsWith contentLengthLabel field.line := by
  unfold BeginsWith LengthField.line
  rw [List.append_assoc, List.append_assoc, List.take_left' field.length_name, field.name_is]

/-- The code reads the digits that the field carries. -/
theorem numeral_line : numeral field.line = field.digits := by
  have behind : field.line.drop contentLengthLabel.length =
      field.blanks ++ (field.digits ++ field.trailing) := by
    rw [LengthField.line, List.append_assoc, List.append_assoc, List.drop_left' field.length_name]
  have blank : ∀ byte ∈ field.blanks, decide (IsBlank byte) = true := by
    intro byte member
    exact decide_eq_true (field.blanks_are byte member)
  have digit : ∀ byte ∈ field.digits, decide (IsDigit byte) = true := by
    intro byte member
    exact decide_eq_true (field.digits_are byte member)
  have stop : field.trailing.takeWhile (IsDigit ·) = [] := by
    cases split : field.trailing with
    | nil => rfl
    | cons byte rest =>
        have blankByte := field.trailing_are byte (by rw [split]; exact List.mem_cons_self)
        have notDigit : ¬ IsDigit byte := fun digit => not_isBlank_of_isDigit digit blankByte
        rw [List.takeWhile_cons_of_neg (by simpa using notDigit)]
  have kept : (field.digits ++ field.trailing).dropWhile (IsBlank ·) =
      field.digits ++ field.trailing := by
    cases split : field.digits with
    | nil => exact absurd split field.digits_nonempty
    | cons byte rest =>
        have notBlank := not_isBlank_of_isDigit
          (field.digits_are byte (by rw [split]; exact List.mem_cons_self))
        rw [List.cons_append, List.dropWhile_cons_of_neg (by simpa using notBlank)]
  rw [numeral, behind, List.dropWhile_append_of_pos blank, kept,
    List.takeWhile_append_of_pos digit, stop, List.append_nil]

theorem line_nonempty : field.line ≠ [] := by
  apply List.ne_nil_of_length_pos
  have enough := field.beginsWith.length_le
  rw [length_contentLengthLabel] at enough
  omega

/-- No letter of the label is a line end or a zero byte in either case. -/
theorem text : IsLineText field.line := by
  intro byte member
  simp only [LengthField.line, List.mem_append, or_assoc] at member
  rcases member with name | blank | digit | blank
  · have image := List.mem_map_of_mem (f := lowerCase) name
    rw [field.name_is] at image
    refine ⟨?_, ?_, ?_⟩ <;> (intro equal; rw [equal] at image; revert image; decide)
  · rcases field.blanks_are byte blank with equal | equal <;> rw [equal] <;> decide
  · have range := field.digits_are byte digit
    refine ⟨?_, ?_, ?_⟩ <;> (intro equal; rw [equal] at range; revert range; decide)
  · rcases field.trailing_are byte blank with equal | equal <;> rw [equal] <;> decide

end LengthField

/-! ## The bytes of a message -/

namespace Message

variable (message : Message)

/-- The version text with the space in front of it. -/
def versionPart : List UInt8 :=
  (message.version.map (32 :: ·)).getD []

/-- The request line without its line end. -/
def first : List UInt8 :=
  message.token ++ 32 :: (message.target ++ message.versionPart)

def lines : List (List UInt8) :=
  message.before.map OtherLine.line ++ (message.length.map LengthField.line).toList ++
    message.after.map OtherLine.line

/-- The message on the wire. -/
def bytes : List UInt8 :=
  headerSection message.first message.lines ++ message.body

/-- What the callback is to be given. -/
def decoded : HttpRequest where
  method := (parseMethod message.token).getD .get
  path := pathOf message.target
  query := queryOf message.target
  body := message.body
  bodyLength := message.body.length

theorem text_of_mem_lines {line : List UInt8} (member : line ∈ message.lines) :
    line ≠ [] ∧ IsLineText line := by
  simp only [lines, List.mem_append, List.mem_map, Option.mem_toList, Option.map_eq_some_iff]
    at member
  rcases member with (⟨other, _, rfl⟩ | ⟨field, _, rfl⟩) | ⟨other, _, rfl⟩
  · exact ⟨other.nonempty, other.text⟩
  · exact ⟨field.line_nonempty, field.text⟩
  · exact ⟨other.nonempty, other.text⟩

theorem text_first : IsLineText message.first := by
  intro byte member
  simp only [first, List.mem_append, List.mem_cons] at member
  rcases member with token | space | target | version
  · exact ⟨(message.token_is byte token).2.1, (message.token_is byte token).2.2⟩
  · rw [space]
    decide
  · exact ⟨(message.target_is byte target).2.1, (message.target_is byte target).2.2⟩
  · cases present : message.version with
    | none =>
        rw [versionPart, present] at version
        cases version
    | some text =>
        rw [versionPart, present] at version
        rcases List.mem_cons.mp version with space | inside
        · rw [space]
          decide
        · exact message.version_is text present byte inside

theorem oneLine_of_text {line : List UInt8} (text : IsLineText line) : OneLine line :=
  oneLine_of_no_return (fun member => (text 13 member).1 rfl)

/-- The length of the message line and the header lines behind it. -/
def headerLength : Nat :=
  (headerSection message.first message.lines).length

theorem length_bytes : message.headerLength + message.body.length = message.bytes.length := by
  rw [bytes, List.length_append, headerLength]

theorem zero_not_mem_headers : 0 ∉ headerSection message.first message.lines := by
  intro member
  simp only [headerSection, renderLines, List.mem_append, List.mem_flatMap] at member
  have ends : (0 : UInt8) ∉ crlf := by decide
  rcases member with ((inFirst | inEnd) | ⟨line, inLines, inLine | inEnd⟩) | inEnd
  · exact (message.text_first 0 inFirst).2.2 rfl
  · exact ends inEnd
  · exact ((message.text_of_mem_lines inLines).2 0 inLine).2.2 rfl
  · exact ends inEnd
  · exact ends inEnd

theorem find_headerSeparator (behind : List UInt8) :
    Search.find headerSeparator (headerSection message.first message.lines ++ behind) =
      some (message.headerLength - 4) := by
  apply find_headerSeparator_section
  · exact oneLine_of_text message.text_first
  · intro line member
    have text := message.text_of_mem_lines member
    exact ⟨text.1, oneLine_of_text text.2⟩

theorem first_not_beginsWith : ¬ BeginsWith contentLengthLabel message.first := by
  intro begins
  rcases Nat.lt_or_ge message.token.length contentLengthLabel.length with short | enough
  · -- the space behind the token would be a letter of the label
    have member : 32 ∈ message.first.take contentLengthLabel.length := by
      rw [first, List.take_append, List.mem_append]
      right
      cases room : contentLengthLabel.length - message.token.length with
      | zero => omega
      | succ more =>
          rw [List.take_succ_cons]
          exact List.mem_cons_self
    exact absurd (begins.lowerCase_mem member) (by decide +kernel)
  · exact message.token_other ((BeginsWith.append_iff _ _ enough).mp begins)

/-- The header section announces its field, and otherwise leaves the word to
what follows. -/
theorem announcement_headers (behind : List UInt8) :
    announcement (headerSection message.first message.lines ++ behind) =
      (message.length.map LengthField.digits).or (announcement behind) := by
  have oneLines : ∀ line ∈ message.lines, OneLine line := fun line member =>
    oneLine_of_text (message.text_of_mem_lines member).2
  have others (lines : List OtherLine) :
      ∀ line ∈ lines.map OtherLine.line, ¬ BeginsWith contentLengthLabel line := by
    intro line member
    rcases List.mem_map.mp member with ⟨other, _, rfl⟩
    exact other.other
  have shown : headerSection message.first message.lines ++ behind =
      message.first ++ crlf ++ (renderLines (message.before.map OtherLine.line) ++
        (renderLines (message.length.map LengthField.line).toList ++
          (renderLines (message.after.map OtherLine.line) ++ (crlf ++ behind)))) := by
    simp only [headerSection, lines, renderLines, List.flatMap_append, List.append_assoc]
  rw [shown, announcement_line (oneLine_of_text message.text_first),
    if_neg message.first_not_beginsWith, announcement_renderLines _ (others _)]
  · cases present : message.length with
    | none =>
        have nothing : renderLines (Option.map LengthField.line none).toList = [] := rfl
        rw [nothing, List.nil_append, announcement_renderLines _ (others _), announcement_crlf]
        · rfl
        · intro line member
          exact oneLines line (List.mem_append_right _ member)
    | some field =>
        have one : renderLines (Option.map LengthField.line (some field)).toList =
            field.line ++ crlf := List.append_nil _
        rw [one, announcement_line (oneLine_of_text field.text), if_pos field.beginsWith,
          field.numeral_line]
        rfl
  · intro line member
    exact oneLines line (List.mem_append_left _ (List.mem_append_left _ member))

/-- No early look at a well-formed message reads a wrong length. -/
theorem contentLengthOf_view {modulus size : Nat} (small : message.body.length < modulus)
    (past : message.headerLength ≤ size)
    (inside : size ≤ message.bytes.length) (behind : List UInt8) :
    contentLengthOf modulus (view (message.bytes ++ behind) size) = message.body.length := by
  have shown : (message.bytes ++ behind).take size =
      headerSection message.first message.lines ++
        message.body.take (size - message.headerLength) := by
    rw [List.take_append_of_le_length inside, bytes, List.take_append,
      List.take_of_length_le past, headerLength]
  rw [contentLengthOf_eq, view, shown, Memory.text_append message.zero_not_mem_headers,
    announcedLength, message.announcement_headers]
  have length := message.body_is
  cases present : message.length with
  | none =>
      rw [present] at length
      have empty : message.body = [] := List.eq_nil_of_length_eq_zero length
      rw [empty, List.take_nil, Memory.text_nil, announcement]
      exact Nat.zero_mod modulus
  | some field =>
      rw [present] at length
      change message.body.length = value field.digits at length
      change value field.digits % modulus = message.body.length
      rw [← length, Nat.mod_eq_of_lt small]

end Message

/-! ## The run -/

namespace Message

variable (message : Message)

theorem headerEndOf_bytes (fits : message.bytes.length ≤ capacity) (behind : List UInt8) :
    headerEndOf (message.bytes ++ behind) = some message.headerLength := by
  have four : 4 ≤ message.headerLength := by
    have two : crlf.length = 2 := rfl
    simp only [headerLength, headerSection, List.length_append]
    omega
  have shown : (message.bytes ++ behind).take capacity =
      headerSection message.first message.lines ++ (message.body ++ behind).take
        (capacity - message.headerLength) := by
    have inside : message.headerLength ≤ capacity := by
      rw [← message.length_bytes] at fits
      omega
    rw [bytes, List.append_assoc, List.take_append, List.take_of_length_le inside, headerLength]
  rw [headerEndOf, shown, Memory.text_append message.zero_not_mem_headers,
    message.find_headerSeparator, Option.map_some, Nat.sub_add_cancel four]

section Segmented

variable {message} {segments : List (List UInt8)}

theorem segments_ne_nil (split : Splits segments message.bytes)
    (positive : 0 < message.headerLength) : segments ≠ [] := by
  rintro rfl
  have empty := congrArg List.length split.whole
  rw [List.flatten_nil, List.length_nil, ← message.length_bytes] at empty
  omega

theorem boundary_segments (split : Splits segments message.bytes) (nonempty : segments ≠ [])
    (more : List (List UInt8)) {position : Nat} (inside : position ≤ message.bytes.length) :
    Segments.boundary (segments ++ more) position = Segments.boundary segments position := by
  rw [Segments.boundary_append _ _ (by rw [split.whole]; exact inside), if_neg nonempty]

/-- The header section is noticed while the message arrives. -/
theorem noticedAt_segments_le (split : Splits segments message.bytes) (nonempty : segments ≠ [])
    (more : List (List UInt8)) :
    noticedAt (segments ++ more) message.headerLength ≤ message.bytes.length := by
  have last := Segments.boundary_le_length segments message.headerLength
  have inside := message.length_bytes
  rw [split.whole] at last
  rw [noticedAt, boundary_segments split nonempty more (by omega)]
  omega

end Segmented

/-- Whatever the segments, the reader ends with the message and its length. -/
theorem gather_segments (platform : Platform) (fits : message.bytes.length ≤ capacity)
    {segments : List (List UInt8)} (split : Splits segments message.bytes)
    (rest : List RecvResult) :
    platform.policy.gather (segments.map .received ++ rest) =
      .done (.complete message.bytes message.headerLength message.body.length) := by
  let more := (platform.policy.feed rest).1
  have size := message.length_bytes
  have stream : (segments ++ more).flatten = message.bytes ++ more.flatten := by
    rw [List.flatten_append, split.whole]
  have found : headerEndOf (segments ++ more).flatten = some message.headerLength := by
    rw [stream]
    exact message.headerEndOf_bytes fits more.flatten
  have nonempty := segments_ne_nil split (headerEndOf_le found).1
  have bounds := Policy.noticedAt_bounds found
  have early := noticedAt_segments_le split nonempty more
  have announced : platform.policy.headerAt (segments ++ more).flatten message.headerLength
      (noticedAt (segments ++ more) message.headerLength) =
        ⟨message.headerLength, message.body.length⟩ := by
    have word : capacity < platform.policy.modulus := by
      rw [platform.policy_modulus]
      exact platform.capacity_lt_modulus
    rw [Policy.headerAt, stream, message.contentLengthOf_view (by omega) bounds.1 early]
  have wanted : platform.policy.target (platform.policy.headerAt (segments ++ more).flatten
      message.headerLength (noticedAt (segments ++ more) message.headerLength)) =
        some message.bytes.length := by
    rw [announced, platform.target_of_fits (size.trans_le fits), size]
  have whole : min capacity (Segments.boundary (segments ++ more)
      (max (noticedAt (segments ++ more) message.headerLength) message.bytes.length)) =
        message.bytes.length := by
    have reached := Segments.boundary_length segments
    rw [split.whole] at reached
    rw [Nat.max_eq_right early, boundary_segments split nonempty more (Nat.le_refl _), reached,
      Nat.min_eq_right fits]
  have arrived : message.bytes.length ≤ (segments ++ more).flatten.length := by
    rw [stream, List.length_append]
    omega
  have cut : min (message.bytes.length - message.headerLength) message.body.length =
      message.body.length := by
    omega
  rw [Policy.gather_eq, Policy.feed_segments _ split.nonempty,
    Policy.reading_complete found wanted arrived, whole, announced, stream, List.take_left,
    Header.reading, cut]

theorem headers_display : ∃ delimiter headers, IsDelimiter delimiter ∧
    headerSection message.first message.lines =
      message.token ++ 32 :: (message.target ++ delimiter :: headers) := by
  cases present : message.version with
  | none =>
      refine ⟨13, 10 :: (renderLines message.lines ++ crlf), by decide, ?_⟩
      simp only [headerSection, first, versionPart, present, crlf, Option.map_none,
        Option.getD_none, List.append_assoc, List.cons_append, List.nil_append]
  | some version =>
      refine ⟨32, version ++ (crlf ++ (renderLines message.lines ++ crlf)), by decide, ?_⟩
      simp only [headerSection, first, versionPart, present, Option.map_some, Option.getD_some,
        List.append_assoc, List.cons_append]

/-- What the route table makes of a message. -/
def verdict (server : Registrations) : Verdict :=
  match server.matchRoute (pathOf message.target) ((parseMethod message.token).getD .get)
      (parseMethod message.token).isSome with
  | (none, pathExists) => .refusal (if pathExists then 405 else 404)
  | (some route, _) => .call route message.decoded

/-- The request line of a message, as the parser finds it. -/
theorem exists_shownLine : ∃ (line : ShownLine message.bytes) (headers : List UInt8),
    line.method = message.token ∧ line.target = message.target ∧
      line.tail = headers ++ message.body ∧
      message.headerLength =
        message.token.length + 1 + message.target.length + 1 + headers.length := by
  rcases message.headers_display with ⟨delimiter, headers, delimiter_is, display⟩
  refine ⟨{ method := message.token
            target := message.target
            delimiter := delimiter
            tail := headers ++ message.body
            display := ?_
            method_space := fun member => (message.token_is 32 member).1 rfl
            method_clean := fun member => (message.token_is 0 member).2.2.2 rfl
            target_delimiter := ?_
            target_clean := fun member => (message.target_is 0 member).2.2.2 rfl
            delimiter_is := delimiter_is }, headers, rfl, rfl, rfl, ?_⟩
  · rw [bytes, display]
    simp only [List.append_assoc, List.cons_append]
  · rintro byte member (space | return_ | feed)
    · exact (message.target_is byte member).1 space
    · exact (message.target_is byte member).2.1 return_
    · exact (message.target_is byte member).2.2.1 feed
  · rw [headerLength, display]
    simp only [List.length_append, List.length_cons]
    omega

/-- The verdict on the bytes of a message is the route table's. -/
theorem judge_bytes (server : Registrations) (fits : message.bytes.length ≤ capacity) :
    judge server (message.bytes ++ [0]) message.headerLength message.body.length =
      .done (message.verdict server) := by
  rcases message.exists_shownLine with ⟨line, headers, method, target, tail, size⟩
  have target_clean : 0 ∉ message.target := fun member => (message.target_is 0 member).2.2.2 rfl
  have small : message.body.length < 2 ^ 16 := by
    have least : capacity = 2047 := rfl
    rw [bytes, List.length_append] at fits
    omega
  have viewed := viewRequest_cutLine message.token target_clean headers message.body 0 []
    ((parseMethod message.token).getD .get) small
  rw [judge_shown server line (List.mem_singleton.mpr rfl), ShownLine.matched, ShownLine.cut,
    method, target, tail, size, viewed, verdict]
  cases server.matchRoute (pathOf message.target) ((parseMethod message.token).getD .get)
      (parseMethod message.token).isSome with
  | mk found pathExists => cases found <;> rfl

end Message

/-- On every platform, a message that fits is decided by the route table,
however the network cuts it and whatever comes after it. -/
theorem decision_message (platform : Platform) (server : Registrations) (message : Message)
    (fits : message.bytes.length ≤ capacity) {segments : List (List UInt8)}
    (split : Splits segments message.bytes) (rest : List RecvResult) :
    decision platform server (segments.map .received ++ rest) =
      .done (some (message.verdict server)) := by
  rw [decision, message.gather_segments platform fits split rest]
  simp only [Exec.done_bind, settle, message.judge_bytes server fits, Exec.pure_eq]

theorem serveConnection_message (platform : Platform) (server : Registrations)
    (application : Application) (stack : Option CString) {buffer : List UInt8}
    (size : buffer.length = httpServerMaxRequestSize) (message : Message)
    (fits : message.bytes.length ≤ capacity) {segments : List (List UInt8)}
    (split : Splits segments message.bytes) (rest : List RecvResult) (script : List SendResult) :
    serveConnection platform server application stack buffer (segments.map .received ++ rest)
        script =
      .done (reply platform.write application stack script (message.verdict server)) :=
  serveConnection_decided (decision_message platform server message fits split rest) application
    stack size script

end Server
end NetLL
