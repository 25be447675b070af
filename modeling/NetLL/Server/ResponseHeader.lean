import NetLL.Server.HeaderSection
import NetLL.Server.Response

namespace NetLL
namespace Server

/-!
# The text of a response header

The header that `snprintf` prints is a status line, three lines of the
server's own, the custom header as it is, and one more line end.  The server
adds no line end of its own between the custom header and the last one, so
the blank line is there only if the custom header is empty or brings its line
end itself.
-/

/-- The first line of a response. -/
def statusLine (statusCode : UInt16) : List UInt8 :=
  ascii "HTTP/1.1 " ++ Decimal.render statusCode.toNat ++ ascii " " ++ reasonPhrase statusCode

def contentTypeOf (response : HttpResponse) : List UInt8 :=
  (response.contentType.getD defaultContentType).bytes

def contentTypeLine (response : HttpResponse) : List UInt8 :=
  ascii "Content-Type: " ++ contentTypeOf response

def contentLengthLine (response : HttpResponse) : List UInt8 :=
  ascii "Content-Length: " ++ Decimal.render response.bodyLength.toNat

def connectionLine : List UInt8 :=
  ascii "Connection: close"

/-- The custom header as it is printed; a null pointer prints nothing. -/
def customText (response : HttpResponse) : List UInt8 :=
  (response.customHeader.map CString.bytes).getD []

theorem responseHeader_eq (response : HttpResponse) : responseHeader response =
    statusLine response.statusCode ++ crlf ++ (contentTypeLine response ++ crlf ++
      (contentLengthLine response ++ crlf ++
        (connectionLine ++ (crlf ++ customText response ++ crlf)))) := by
  have lineEnd : ascii "\r\n" = crlf := by decide
  have last : ascii "Connection: close\r\n" = connectionLine ++ crlf := by decide
  simp only [responseHeader, headerFront, lineEnd, last, statusLine, contentTypeLine,
    contentTypeOf, contentLengthLine, customText, List.append_assoc]

/-! ## The lines of the server -/

theorem return_not_mem_render (number : Nat) : 13 ∉ Decimal.render number := by
  intro member
  have digit : Decimal.IsDigit 13 := Decimal.isDigit_render number 13 member
  revert digit
  decide

theorem return_not_mem_reasonPhrase (statusCode : UInt16) : 13 ∉ reasonPhrase statusCode := by
  unfold reasonPhrase
  repeat' split
  all_goals decide

theorem return_not_mem_statusLine (statusCode : UInt16) : 13 ∉ statusLine statusCode := by
  have label : (13 : UInt8) ∉ ascii "HTTP/1.1 " := by decide
  have space : (13 : UInt8) ∉ ascii " " := by decide
  simp only [statusLine, List.mem_append, not_or]
  exact ⟨⟨⟨label, return_not_mem_render _⟩, space⟩, return_not_mem_reasonPhrase _⟩

theorem return_not_mem_contentLengthLine (response : HttpResponse) :
    13 ∉ contentLengthLine response := by
  have label : (13 : UInt8) ∉ ascii "Content-Length: " := by decide
  simp only [contentLengthLine, List.mem_append, not_or]
  exact ⟨label, return_not_mem_render _⟩

/-! ## No terminator -/

theorem zero_not_mem_render (number : Nat) : 0 ∉ Decimal.render number := by
  intro member
  have digit : Decimal.IsDigit 0 := Decimal.isDigit_render number 0 member
  revert digit
  decide

theorem zero_not_mem_reasonPhrase (statusCode : UInt16) : 0 ∉ reasonPhrase statusCode := by
  unfold reasonPhrase
  repeat' split
  all_goals decide

theorem zero_not_mem_responseHeader (response : HttpResponse) : 0 ∉ responseHeader response := by
  have labels : (0 : UInt8) ∉ ascii "HTTP/1.1 " ∧ (0 : UInt8) ∉ ascii " " ∧
      (0 : UInt8) ∉ ascii "Content-Type: " ∧ (0 : UInt8) ∉ ascii "Content-Length: " ∧
      (0 : UInt8) ∉ connectionLine ∧ (0 : UInt8) ∉ crlf := by decide
  rcases labels with ⟨version, space, type, length, connection, lineEnd⟩
  have custom : 0 ∉ customText response := by
    unfold customText
    cases response.customHeader with
    | none => exact List.not_mem_nil
    | some text => exact text.clean
  have contentType : 0 ∉ contentTypeOf response := (response.contentType.getD _).clean
  rw [responseHeader_eq]
  simp only [statusLine, contentTypeLine, contentLengthLine, List.mem_append, not_or]
  exact ⟨⟨⟨⟨⟨version, zero_not_mem_render _⟩, space⟩, zero_not_mem_reasonPhrase _⟩, lineEnd⟩,
    ⟨⟨type, contentType⟩, lineEnd⟩, ⟨⟨length, zero_not_mem_render _⟩, lineEnd⟩, connection,
    ⟨lineEnd, custom⟩, lineEnd⟩

/-! ## Where the header ends -/

/-- What decides where the header ends: the content type holds no blank line
and makes none with the line end behind it, and the first blank line between
the line ends around the custom header is the last one. -/
structure EndsInBlankLine (response : HttpResponse) : Prop where
  contentType : Search.find headerSeparator (contentTypeOf response ++ crlf) = none
  customHeader : Search.find headerSeparator (crlf ++ customText response ++ crlf) =
    some (customText response).length

instance (response : HttpResponse) : Decidable (EndsInBlankLine response) :=
  decidable_of_iff
    (Search.find headerSeparator (contentTypeOf response ++ crlf) = none ∧
      Search.find headerSeparator (crlf ++ customText response ++ crlf) =
        some (customText response).length)
    ⟨fun holds => ⟨holds.1, holds.2⟩, fun ends => ⟨ends.contentType, ends.customHeader⟩⟩

/-- The bytes in front of the custom header, without the last line end. -/
def headerFrontLength (response : HttpResponse) : Nat :=
  (statusLine response.statusCode).length + 2 + ((contentTypeLine response).length + 2 +
    ((contentLengthLine response).length + 2 + connectionLine.length))

theorem length_responseHeader_eq (response : HttpResponse) :
    (responseHeader response).length =
      headerFrontLength response + ((customText response).length + 4) := by
  rw [responseHeader_eq, headerFrontLength]
  simp only [List.length_append]
  have two : crlf.length = 2 := rfl
  omega

/-- Without a blank line in the content type, the first blank line of the
header is the first one around the custom header. -/
theorem find_responseHeader {response : HttpResponse}
    (contentType : Search.find headerSeparator (contentTypeOf response ++ crlf) = none) :
    Search.find headerSeparator (responseHeader response) =
      (Search.find headerSeparator (crlf ++ customText response ++ crlf)).map
        (headerFrontLength response + ·) := by
  have separator : headerSeparator = 13 :: [10, 13, 10] := rfl
  have status := (oneLine_of_no_return (return_not_mem_statusLine response.statusCode)).unbroken
  have length_ := (oneLine_of_no_return (return_not_mem_contentLengthLine response)).unbroken
  have connection : (13 : UInt8) ∉ connectionLine := by decide
  have label : (13 : UInt8) ∉ ascii "Content-Type: " := by decide
  have typeLine : Search.find headerSeparator (contentTypeLine response ++ crlf) = none := by
    rw [contentTypeLine, List.append_assoc, separator, Search.find_skip _ label, ← separator,
      contentType]
    rfl
  rw [responseHeader_eq, find_headerSeparator_part status (by simp [contentTypeLine, crlf, ascii]),
    find_headerSeparator_part typeLine (by simp [contentLengthLine, crlf, ascii]),
    find_headerSeparator_part length_ (by simp [connectionLine, crlf, ascii]), separator,
    Search.find_skip _ connection]
  simp only [Option.map_map]
  congr 1
  funext position
  simp only [Function.comp_apply, headerFrontLength]
  omega

theorem contentType_of_found {response : HttpResponse}
    (found : Search.find headerSeparator (responseHeader response) =
      some ((responseHeader response).length - 4)) :
    Search.find headerSeparator (contentTypeOf response ++ crlf) = none := by
  let front := statusLine response.statusCode ++ crlf ++ ascii "Content-Type: "
  let back := contentLengthLine response ++ crlf ++
    (connectionLine ++ (crlf ++ customText response ++ crlf))
  have shown : responseHeader response = front ++ (contentTypeOf response ++ crlf ++ back) := by
    rw [responseHeader_eq]
    simp only [front, back, contentTypeLine, List.append_assoc]
  rw [Search.find_eq_none_iff headerSeparator_ne_nil]
  intro position stands
  have inside := stands.fits headerSeparator_ne_nil
  have here : Search.StandsAt headerSeparator (responseHeader response)
      (front.length + position) := by
    unfold Search.StandsAt
    rw [shown, ← List.drop_drop, List.drop_left]
    exact stands.append headerSeparator_ne_nil back
  have least := ((Search.find_eq_some_iff headerSeparator_ne_nil _ _).mp found).2
  have size := congrArg List.length shown
  have four : headerSeparator.length = 4 := rfl
  have two : crlf.length = 2 := rfl
  have rest : 2 ≤ back.length := by
    simp only [back, List.length_append]
    omega
  simp only [List.length_append] at size inside
  exact least _ (by omega) here

/-- The header ends in its first blank line exactly when the content type and
the custom header let it. -/
theorem endsInBlankLine_iff (response : HttpResponse) :
    Search.find headerSeparator (responseHeader response) =
        some ((responseHeader response).length - 4) ↔ EndsInBlankLine response := by
  have last : (responseHeader response).length - 4 =
      headerFrontLength response + (customText response).length := by
    rw [length_responseHeader_eq]
    omega
  constructor
  · intro found
    have contentType := contentType_of_found found
    refine ⟨contentType, ?_⟩
    rw [find_responseHeader contentType, last, Option.map_eq_some_iff] at found
    rcases found with ⟨position, found, place⟩
    rw [found, Nat.add_left_cancel place]
  · intro ends
    rw [find_responseHeader ends.contentType, ends.customHeader, last]
    rfl

end Server
end NetLL
