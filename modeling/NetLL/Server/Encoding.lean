import NetLL.Library.Lines
import NetLL.Server.Answer

namespace NetLL
namespace Server

/-!
# Reading a response back

A client splits what it received at the first blank line.  The lines in front
of it are the status line and the fields, and everything behind it is the
body.  A response that was written whole is read back as it was left by the
callback if its custom header ends its own lines and its body is there; and
only then, because otherwise the first blank line is missing or lies in the
body, or the announced length is not the length of the body.
-/

/-- What a client reads off the bytes of a response. -/
structure DecodedResponse where
  statusCode : Nat
  fields : List (List UInt8)
  body : List UInt8
deriving DecidableEq

/-- The value of the first field with this label. -/
def DecodedResponse.field (decoded : DecodedResponse) (label : List UInt8) : Option (List UInt8) :=
  (decoded.fields.find? (label.isPrefixOf ·)).map (·.drop label.length)

/-- A client that splits the bytes at the first blank line. -/
def decodeResponse (bytes : List UInt8) : Option DecodedResponse :=
  match Search.find headerSeparator bytes with
  | none => none
  | some position =>
      match Lines.split 13 10 (bytes.take position) with
      | [] => none
      | status :: fields =>
          some {
            statusCode := Decimal.value
              ((status.drop (ascii "HTTP/1.1 ").length).takeWhile (Decimal.IsDigit ·))
            fields
            body := bytes.drop (position + headerSeparator.length) }

/-- A client recovers the record and these custom header lines.  The server
writes three fields of its own in front of them. -/
structure Recovers (response : HttpResponse) (lines : List (List UInt8))
    (decoded : DecodedResponse) : Prop where
  statusCode : decoded.statusCode = response.statusCode.toNat
  contentType : decoded.field (ascii "Content-Type: ") = some (contentTypeOf response)
  customHeader : decoded.fields.drop 3 = lines
  body : decoded.body = bodyBytes response
  contentLength : (decoded.field (ascii "Content-Length: ")).map Decimal.value =
    some decoded.body.length

/-- The custom header is these lines, joined by line ends, with or without a
line end behind the last one. -/
structure HeaderLines (response : HttpResponse) (lines : List (List UInt8)) : Prop where
  nonempty : ∀ line ∈ lines, line ≠ []
  no_return : ∀ line ∈ lines, 13 ∉ line
  no_feed : ∀ line ∈ lines, 10 ∉ line
  joined : customText response = crlf.intercalate lines ∨ customText response = renderLines lines

/-- The custom header is empty or brings its last line end. -/
def EndsItsLines (response : HttpResponse) : Prop :=
  customText response = [] ∨ crlf <:+ customText response

instance (response : HttpResponse) : Decidable (EndsItsLines response) :=
  inferInstanceAs (Decidable (customText response = [] ∨ crlf <:+ customText response))

/-! ## Lines that are joined -/

theorem intercalate_crlf {lines : List (List UInt8)} (some_ : lines ≠ []) :
    crlf.intercalate lines ++ crlf = renderLines lines := by
  induction lines with
  | nil => exact absurd rfl some_
  | cons line rest inductionHypothesis =>
      cases rest with
      | nil => simp [renderLines, List.intercalate_singleton]
      | cons next rest =>
          rw [List.intercalate_cons_cons, List.append_assoc,
            inductionHypothesis (List.cons_ne_nil _ _)]
          simp [renderLines]

theorem headerSection_eq_intercalate (first : List UInt8) (lines : List (List UInt8)) :
    headerSection first lines = crlf.intercalate (first :: lines) ++ headerSeparator := by
  have twice : headerSeparator = crlf ++ crlf := rfl
  rw [twice, ← List.append_assoc, intercalate_crlf (List.cons_ne_nil _ _)]
  rfl

theorem intercalate_last {lines : List (List UInt8)} (some_ : lines ≠ [])
    (nonempty : ∀ line ∈ lines, line ≠ []) (no_feed : ∀ line ∈ lines, 10 ∉ line) :
    ∃ front byte, crlf.intercalate lines = front ++ [byte] ∧ byte ≠ 10 := by
  induction lines with
  | nil => exact absurd rfl some_
  | cons line rest inductionHypothesis =>
      cases rest with
      | nil =>
          have filled := nonempty line List.mem_cons_self
          refine ⟨line.dropLast, line.getLast filled, ?_, ?_⟩
          · rw [List.intercalate_singleton, List.dropLast_append_getLast]
          · intro feed
            exact no_feed line List.mem_cons_self (feed ▸ List.getLast_mem filled)
      | cons next rest =>
          rcases inductionHypothesis (List.cons_ne_nil _ _)
            (fun other member => nonempty other (List.mem_cons_of_mem _ member))
            (fun other member => no_feed other (List.mem_cons_of_mem _ member)) with
            ⟨front, byte, shown, different⟩
          refine ⟨line ++ crlf ++ front, byte, ?_, different⟩
          rw [List.intercalate_cons_cons, shown, List.append_assoc _ front]

namespace HeaderLines

variable {response : HttpResponse} {lines : List (List UInt8)}

/-- A custom header that ends its lines is its lines, each with its line end. -/
theorem rendered (header : HeaderLines response lines) (ends : EndsItsLines response) :
    customText response = renderLines lines := by
  rcases header.joined with joined | rendered
  · by_cases empty : lines = []
    · rw [joined, empty]
      rfl
    · rcases intercalate_last empty header.nonempty header.no_feed with
        ⟨front, byte, shown, different⟩
      rw [EndsItsLines, joined, shown] at ends
      rcases ends with none_ | ⟨before, last⟩
      · cases front <;> cases none_
      · have split : before ++ crlf = before ++ [13] ++ [10] := by simp [crlf]
        rw [split] at last
        have same := (List.append_inj' last rfl).2
        exact absurd (List.cons.inj same).1.symm different
  · exact rendered

/-- A custom header that does not is its lines without the last line end. -/
theorem unended (header : HeaderLines response lines) (open_ : ¬ EndsItsLines response) :
    customText response ++ crlf = renderLines lines := by
  rw [EndsItsLines, not_or] at open_
  have some_ : lines ≠ [] := by
    intro empty
    apply open_.1
    rcases header.joined with joined | rendered
    · rw [joined, empty]
      rfl
    · rw [rendered, empty]
      rfl
  rcases header.joined with joined | rendered
  · rw [joined, intercalate_crlf some_]
  · apply absurd _ open_.2
    rw [rendered, ← intercalate_crlf some_]
    exact List.suffix_append _ _

theorem oneLines (header : HeaderLines response lines) : ∀ line ∈ lines, line ≠ [] ∧ OneLine line :=
  fun line member => ⟨header.nonempty line member, oneLine_of_no_return (header.no_return line member)⟩

end HeaderLines

/-! ## The header as lines -/

/-- The three fields that the server writes. -/
def serverLines (response : HttpResponse) : List (List UInt8) :=
  [contentTypeLine response, contentLengthLine response, connectionLine]

theorem serverLines_oneLines {response : HttpResponse} (plain : 13 ∉ contentTypeOf response) :
    ∀ line ∈ serverLines response, line ≠ [] ∧ OneLine line := by
  have label : (13 : UInt8) ∉ ascii "Content-Type: " := by decide
  have typeLine : 13 ∉ contentTypeLine response := by
    rw [contentTypeLine, List.mem_append, not_or]
    exact ⟨label, plain⟩
  simp only [serverLines, List.forall_mem_cons, List.not_mem_nil, false_implies, implies_true,
    and_true]
  exact ⟨⟨List.cons_ne_nil _ _, oneLine_of_no_return typeLine⟩,
    ⟨List.cons_ne_nil _ _, oneLine_of_no_return (return_not_mem_contentLengthLine response)⟩,
    ⟨List.cons_ne_nil _ _, oneLine_of_no_return (by decide)⟩⟩

theorem HeaderLines.oneLines_fields {response : HttpResponse} {lines : List (List UInt8)}
    (header : HeaderLines response lines) (plain : 13 ∉ contentTypeOf response) :
    ∀ line ∈ serverLines response ++ lines, line ≠ [] ∧ OneLine line := by
  intro line member
  rcases List.mem_append.mp member with own | custom
  · exact serverLines_oneLines plain line own
  · exact header.oneLines line custom

theorem statusLine_oneLine (statusCode : UInt16) : OneLine (statusLine statusCode) :=
  oneLine_of_no_return (return_not_mem_statusLine statusCode)

theorem responseHeader_ended {response : HttpResponse} {lines : List (List UInt8)}
    (rendered : customText response = renderLines lines) : responseHeader response =
      headerSection (statusLine response.statusCode) (serverLines response ++ lines) := by
  rw [responseHeader_eq, rendered, headerSection]
  simp only [renderLines, serverLines, List.flatMap_append, List.flatMap_cons, List.flatMap_nil,
    List.append_assoc, List.append_nil]

theorem responseHeader_unended {response : HttpResponse} {lines : List (List UInt8)}
    (unended : customText response ++ crlf = renderLines lines) : responseHeader response ++ crlf =
      headerSection (statusLine response.statusCode) (serverLines response ++ lines) := by
  rw [responseHeader_eq, List.append_assoc crlf, unended, headerSection]
  simp only [renderLines, serverLines, List.flatMap_append, List.flatMap_cons, List.flatMap_nil,
    List.append_assoc, List.append_nil]

/-! ## Decoding -/

theorem decodeResponse_section {first : List UInt8} {lines : List (List UInt8)}
    (oneFirst : OneLine first) (oneLines : ∀ line ∈ lines, line ≠ [] ∧ OneLine line)
    (body : List UInt8) : decodeResponse (headerSection first lines ++ body) =
      some ⟨Decimal.value
        ((first.drop (ascii "HTTP/1.1 ").length).takeWhile (Decimal.IsDigit ·)), lines, body⟩ := by
  have found := find_headerSeparator_section first lines body oneFirst oneLines
  have shown := headerSection_eq_intercalate first lines
  have size : (headerSection first lines).length - 4 = (crlf.intercalate (first :: lines)).length := by
    rw [shown, List.length_append]
    rfl
  have front : (headerSection first lines ++ body).take ((headerSection first lines).length - 4) =
      crlf.intercalate (first :: lines) := by
    rw [size, shown, List.append_assoc, List.take_left]
  have back : (headerSection first lines ++ body).drop
      ((headerSection first lines).length - 4 + headerSeparator.length) = body := by
    rw [size, shown, List.drop_left' List.length_append]
  have whole : ∀ line ∈ first :: lines, Search.find [13, 10] line = none := by
    intro line member
    rcases List.mem_cons.mp member with equal | member
    · exact equal ▸ oneFirst
    · exact (oneLines line member).2
  have pieces : Lines.split 13 10 (crlf.intercalate (first :: lines)) = first :: lines :=
    Lines.split_intercalate (by decide) whole
  rw [decodeResponse, found]
  simp only [front, back, pieces]

/-- The numeral of the status line is the status code. -/
theorem statusCode_statusLine (statusCode : UInt16) :
    Decimal.value (((statusLine statusCode).drop (ascii "HTTP/1.1 ").length).takeWhile
      (Decimal.IsDigit ·)) = statusCode.toNat := by
  have rest : (statusLine statusCode).drop (ascii "HTTP/1.1 ").length =
      Decimal.render statusCode.toNat ++ 32 :: reasonPhrase statusCode := by
    simp only [statusLine, List.append_assoc]
    exact List.drop_left
  have digits : ∀ byte ∈ Decimal.render statusCode.toNat, decide (Decimal.IsDigit byte) = true :=
    fun byte member => decide_eq_true (Decimal.isDigit_render _ byte member)
  rw [rest, List.takeWhile_append_of_pos digits, List.takeWhile_cons_of_neg (by decide),
    List.append_nil, Decimal.value_render]

theorem field_here (statusCode : Nat) (label value : List UInt8) (rest : List (List UInt8))
    (body : List UInt8) :
    DecodedResponse.field ⟨statusCode, (label ++ value) :: rest, body⟩ label = some value := by
  have here : label.isPrefixOf (label ++ value) = true :=
    List.isPrefixOf_iff_prefix.mpr (List.prefix_append _ _)
  simp only [DecodedResponse.field, List.find?_cons, here, Option.map_some, List.drop_left]

theorem field_later (statusCode : Nat) {label line : List UInt8}
    (other : label.isPrefixOf line = false) (rest : List (List UInt8)) (body : List UInt8) :
    DecodedResponse.field ⟨statusCode, line :: rest, body⟩ label =
      DecodedResponse.field ⟨statusCode, rest, body⟩ label := by
  simp only [DecodedResponse.field, List.find?_cons, other]

/-- A response whose custom header ends its lines is decoded field by field. -/
theorem recovers_iff {response : HttpResponse} {lines : List (List UInt8)} :
    Recovers response lines ⟨response.statusCode.toNat, serverLines response ++ lines,
        bodyBytes response⟩ ↔
      response.bodyLength.toNat ≤ (response.body.getD []).length := by
  have lengthField : DecodedResponse.field ⟨response.statusCode.toNat,
      serverLines response ++ lines, bodyBytes response⟩ (ascii "Content-Length: ") =
      some (Decimal.render response.bodyLength.toNat) :=
    (field_later _ rfl _ _).trans (field_here _ _ _ _ _)
  constructor
  · intro recovers
    have announced := recovers.contentLength
    rw [lengthField, Option.map_some, Decimal.value_render, Option.some.injEq] at announced
    rw [announced]
    exact List.length_take_le' _ _
  · intro present
    refine ⟨rfl, field_here _ _ _ _ _, rfl, rfl, ?_⟩
    rw [lengthField, Option.map_some, Decimal.value_render, length_bodyBytes present]

/-- Without its last line end the header has no blank line, so the first one
lies behind the header, if there is one. -/
theorem decodeResponse_unended {response : HttpResponse} {lines : List (List UInt8)}
    (plain : 13 ∉ contentTypeOf response) (header : HeaderLines response lines)
    (open_ : ¬ EndsItsLines response) {decoded : DecodedResponse}
    (decodes : decodeResponse (responseHeader response ++ bodyBytes response) = some decoded) :
    decoded.body.length < (bodyBytes response).length := by
  have shown := responseHeader_unended (header.unended open_)
  have last := find_headerSeparator_section (statusLine response.statusCode) _ []
    (statusLine_oneLine _) (header.oneLines_fields plain)
  rw [List.append_nil, ← shown, List.length_append] at last
  have four : headerSeparator.length = 4 := rfl
  have two : crlf.length = 2 := rfl
  rw [decodeResponse] at decodes
  cases found : Search.find headerSeparator (responseHeader response ++ bodyBytes response) with
  | none =>
      rw [found] at decodes
      cases decodes
  | some position =>
      have behind : (responseHeader response).length < position + 4 := by
        by_contra inside
        have inHeader : Search.find headerSeparator
            ((responseHeader response ++ bodyBytes response).take (responseHeader response).length) =
            some position :=
          (Search.find_take_eq_some_iff headerSeparator_ne_nil _ _ _).mpr ⟨found, by omega⟩
        rw [List.take_left] at inHeader
        have again := Search.find_append headerSeparator_ne_nil inHeader crlf
        rw [last, Option.some.injEq] at again
        omega
      have fits := Search.find_fits headerSeparator_ne_nil found
      rw [List.length_append] at fits
      simp only [found] at decodes
      split at decodes
      · cases decodes
      · cases decodes
        rw [List.length_drop, List.length_append]
        omega

/-- What a response writer sent is read back exactly when the custom header
ends its lines and the body is there. -/
theorem decodes_iff (platform : Platform) (script : List SendResult) {response : HttpResponse}
    {lines : List (List UInt8)} (plain : 13 ∉ contentTypeOf response)
    (header : HeaderLines response lines)
    (complete : (platform.write script response).ending = .complete) :
    (∃ decoded, decodeResponse (platform.write script response).bytes = some decoded ∧
        Recovers response lines decoded) ↔
      EndsItsLines response ∧ response.bodyLength.toNat ≤ (response.body.getD []).length := by
  rw [platform.write_eq] at complete ⊢
  rw [(writeResponseWith_complete platform.writer_sends complete).2]
  by_cases ends : EndsItsLines response
  · rw [responseHeader_ended (header.rendered ends),
      decodeResponse_section (statusLine_oneLine _) (header.oneLines_fields plain), statusCode_statusLine]
    simp only [Option.some.injEq, exists_eq_left', ends, true_and]
    exact recovers_iff
  · simp only [ends, false_and, iff_false]
    rintro ⟨decoded, decodes, recovers⟩
    have shorter := decodeResponse_unended plain header ends decodes
    rw [recovers.body] at shorter
    exact Nat.lt_irrefl _ shorter

/-! ## Three responses -/

/-- A response with five bytes announced. -/
def greeting (customHeader : Option CString) (body : Option (List UInt8)) : HttpResponse where
  statusCode := 200
  contentType := some (CString.literal "text/plain")
  customHeader := customHeader
  body := body
  bodyLength := 5

/-- The line of a custom header. -/
def nodeLine : List UInt8 := ascii "X-Node: 7"

theorem decodes_greeting : ∃ decoded,
    decodeResponse (Platform.esp32.write [.accepted 100, .interrupted, .accepted 100, .accepted 5]
        (greeting (some closedHeader) (some (ascii "hello")))).bytes = some decoded ∧
      Recovers (greeting (some closedHeader) (some (ascii "hello"))) [nodeLine] decoded :=
  (decodes_iff .esp32 [.accepted 100, .interrupted, .accepted 100, .accepted 5] (by decide)
    ⟨by decide, by decide, by decide, Or.inr (by decide)⟩ (by decide +kernel)).mpr (by decide)

/-- A custom header without its last line end leaves no blank line, and a
length without a body announces more than is sent. -/
theorem responses_are_misread :
    HeaderLines (greeting (some (CString.literal "X-Node: 7")) (some (ascii "hello"))) [nodeLine] ∧
      (writeResponse [.accepted 256, .accepted 256]
        (greeting (some (CString.literal "X-Node: 7")) (some (ascii "hello")))).ending = .complete ∧
      decodeResponse (writeResponse [.accepted 256, .accepted 256]
        (greeting (some (CString.literal "X-Node: 7")) (some (ascii "hello")))).bytes = none ∧
      HeaderLines (greeting none none) [] ∧
      (writeResponse [.accepted 256] (greeting none none)).ending = .complete ∧
      ∃ decoded, decodeResponse (writeResponse [.accepted 256] (greeting none none)).bytes =
          some decoded ∧
        decoded.field (ascii "Content-Length: ") = some (ascii "5") ∧ decoded.body = [] ∧
        ¬ Recovers (greeting none none) [] decoded := by
  refine ⟨⟨by decide, by decide, by decide, Or.inl (by decide)⟩, by decide +kernel,
    by decide +kernel, ⟨by decide, by decide, by decide, Or.inl rfl⟩, by decide +kernel, ?_⟩
  refine ⟨⟨200, [ascii "Content-Type: text/plain", ascii "Content-Length: 5",
    ascii "Connection: close"], []⟩, by decide +kernel, by decide, rfl, fun recovers => ?_⟩
  exact absurd recovers.contentLength (by decide +kernel)

end Server
end NetLL
