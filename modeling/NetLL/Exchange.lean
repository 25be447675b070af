import NetLL.Client.UrlParts
import NetLL.Server.Decoding

namespace NetLL

open Client Client.Simulator
open Server

/-!
# The client's request at the servers

The Simulator's client takes a URL apart and puts host and path into a
request.  The request of every plain URL is a message, so every server reads
the whole of it, however the network cuts it, and routes it by the path of the
URL.  The length of the parts is what keeps the request inside both buffers,
and the bytes that the parts may not hold are what keeps its lines apart.
-/

/-- The parts of an `http` URL. -/
structure PlainUrl where
  host : List UInt8
  port : Option (List UInt8)
  path : List UInt8
  host_nonempty : host ≠ []
  host_short : host.length < hostSize
  host_is : ∀ byte ∈ host,
    byte ≠ 47 ∧ byte ≠ 58 ∧ byte ≠ 63 ∧ byte ≠ 13 ∧ byte ≠ 10 ∧ byte ≠ 0
  port_is : ∀ digits, port = some digits →
    1 ≤ digits.length ∧ digits.length ≤ 5 ∧ ∀ byte ∈ digits, Decimal.IsDigit byte
  path_short : path.length < pathSize
  path_slash : path.head? = some 47
  path_is : ∀ byte ∈ path, byte ≠ 32 ∧ byte ≠ 13 ∧ byte ≠ 10 ∧ byte ≠ 0

namespace PlainUrl

variable (url : PlainUrl)

/-- The parts behind the scheme. -/
def toAddress : Address where
  host := url.host
  port := url.port
  path := some url.path
  host_nonempty := url.host_nonempty
  host_is := by
    intro byte member
    have clean := url.host_is byte member
    exact ⟨clean.1, clean.2.1, clean.2.2.2.2.2⟩
  port_is := by
    intro digits present
    have digit := url.port_is digits present
    exact ⟨List.length_pos_iff.mp digit.1, digit.2.2⟩
  path_is := by
    rintro bytes ⟨⟩
    exact ⟨url.path_slash, fun member => (url.path_is 0 member).2.2.2 rfl⟩

/-- The URL among those of any scheme. -/
def parts : UrlParts := ⟨.http, url.toAddress⟩

/-- The URL as it is handed to the client. -/
def text : CString :=
  url.parts.text

/-- What a server is to make of the URL. -/
def request : HttpRequest where
  method := .get
  path := pathOf url.path
  query := queryOf url.path
  body := []
  bodyLength := 0

/-! ## Taking the URL apart -/

/-- The client finds the host and the path of the URL, whole. -/
theorem parseUrl_text :
    (parseUrl url.text).host.bytes = url.host ∧ (parseUrl url.text).path.bytes = url.path := by
  have host : (parseUrl url.text).host = url.toAddress.hostText :=
    @UrlParts.host_eq url.parts url.host_short
  have path : (parseUrl url.text).path = url.toAddress.resourceText :=
    @UrlParts.path_eq url.parts url.path_short
  rw [host, path]
  exact ⟨rfl, rfl⟩

/-! ## The request as a message -/

theorem host_line : IsLineText (ascii "Host: " ++ url.host) ∧
    ¬ BeginsWith contentLengthLabel (ascii "Host: " ++ url.host) := by
  constructor
  · intro byte member
    rcases List.mem_append.mp member with label | host
    · have text : IsLineText (ascii "Host: ") := by decide +kernel
      exact text byte label
    · have clean := url.host_is byte host
      exact ⟨clean.2.2.2.1, clean.2.2.2.2.1, clean.2.2.2.2.2⟩
  · intro begins
    have member : 115 ∈ (ascii "Host: " ++ url.host).take contentLengthLabel.length :=
      List.mem_cons_of_mem _ (List.mem_cons_of_mem _ List.mem_cons_self)
    exact absurd (begins.lowerCase_mem member) (by decide +kernel)

/-- The request that the client builds, with its parts. -/
def wellFormed : WellFormedRequest where
  method := .get
  target := url.path
  version := some (ascii "HTTP/1.0")
  before :=
    [⟨ascii "Host: " ++ url.host, List.cons_ne_nil _ _, url.host_line.1, url.host_line.2⟩,
      ⟨ascii "User-Agent: " ++ userAgent.bytes, by decide +kernel, by decide +kernel,
        by decide +kernel⟩,
      ⟨ascii "Accept: */*", by decide +kernel, by decide +kernel, by decide +kernel⟩]
  length := none
  after := []
  body := []
  target_is := url.path_is
  version_is := by
    intro text same
    cases same
    decide +kernel
  body_is := rfl

theorem buildRequest_text :
    buildRequest (parseUrl url.text).host (parseUrl url.text).path = url.wellFormed.bytes := by
  have lineEnd : ascii "\r\n" = crlf := by decide
  have version : ascii " HTTP/1.0\r\n" = 32 :: (ascii "HTTP/1.0" ++ crlf) := by decide
  have accept : ascii "Accept: */*\r\n" = ascii "Accept: */*" ++ crlf := by decide
  have method : ascii "GET " = HttpMethod.get.token ++ [32] := by decide
  simp only [buildRequest, url.parseUrl_text, lineEnd, version, accept, method,
    WellFormedRequest.bytes, WellFormedRequest.message, wellFormed, Message.bytes, headerSection,
    Message.first, Message.versionPart, Message.lines, renderLines, Option.map_some,
    Option.getD_some, List.map_cons, List.map_nil, Option.map_none, Option.toList_none,
    List.append_nil, List.flatMap_cons, List.flatMap_nil, List.append_assoc, List.cons_append,
    List.nil_append]

/-- What the route table makes of the URL. -/
def verdict (server : Registrations) : Verdict :=
  match server.matchRoute (pathOf url.path) .get true with
  | (none, pathExists) => .refusal (if pathExists then 405 else 404)
  | (some route, _) => .call route url.request

theorem message_verdict (server : Registrations) :
    url.wellFormed.message.verdict server = url.verdict server := by
  have parsed : parseMethod url.wellFormed.message.token = some .get :=
    (parseMethod_eq_some_iff _ _).mpr rfl
  rw [Message.verdict, parsed, WellFormedRequest.message_decoded]
  rfl

/-- A request that is routed is not refused as it stands. -/
theorem verdict_ne (server : Registrations) :
    url.verdict server ≠ .refusal 400 ∧ url.verdict server ≠ .refusal 413 := by
  rw [verdict]
  cases server.matchRoute (pathOf url.path) .get true with
  | mk found pathExists =>
      cases found with
      | none => cases pathExists <;> simp
      | some route => simp

end PlainUrl

/-- The request that the client builds from a plain URL fits its buffer, and
every server reads the whole of it and answers it as the route table says. -/
theorem request_understood (url : PlainUrl) :
    (buildRequest (parseUrl url.text).host (parseUrl url.text).path).length < requestSize ∧
      ∀ (platform : Platform) (server : Registrations) (application : Application)
        (stack : Option CString) (buffer : List UInt8) (segments : List (List UInt8))
        (rest : List RecvResult) (script : List Server.SendResult),
        buffer.length = httpServerMaxRequestSize →
        Splits segments (buildRequest (parseUrl url.text).host (parseUrl url.text).path) →
        (∃ headerEnd, platform.policy.gather (segments.map .received ++ rest) =
            .done (.complete (buildRequest (parseUrl url.text).host (parseUrl url.text).path)
              headerEnd 0)) ∧
          serveConnection platform server application stack buffer
              (segments.map .received ++ rest) script =
            .done (reply platform.write application stack script (url.verdict server)) ∧
          url.verdict server ≠ .refusal 400 ∧ url.verdict server ≠ .refusal 413 := by
  have short := buildRequest_fits (parseUrl url.text)
  have fits : url.wellFormed.message.bytes.length ≤ capacity := by
    have same : url.wellFormed.message.bytes = url.wellFormed.bytes := rfl
    have size : capacity = requestSize - 1 := rfl
    rw [same, ← url.buildRequest_text]
    omega
  refine ⟨short, ?_⟩
  intro platform server application stack buffer segments rest script size split
  rw [url.buildRequest_text] at split ⊢
  refine ⟨⟨_, url.wellFormed.message.gather_segments platform fits split rest⟩, ?_,
    url.verdict_ne server⟩
  rw [← url.message_verdict]
  exact serveConnection_message platform server application stack size url.wellFormed.message fits
    split rest script

/-- A URL with a port, and a colon and two question marks behind it. -/
def tileUrl : PlainUrl where
  host := ascii "board 7"
  port := some (ascii "8080")
  path := ascii "/tile:3?x=1?y"
  host_nonempty := by decide
  host_short := by decide
  host_is := by decide +kernel
  port_is := by
    intro digits same
    cases same
    decide +kernel
  path_short := by decide
  path_slash := by decide
  path_is := by decide +kernel

/-- Its request in two segments, at a default endpoint. -/
theorem request_understood_tile :
    serveConnection .esp32 ⟨[], some ⟨.post, CString.literal "/", 1, 2⟩, by decide⟩
        (fun _ _ _ => ⟨none, none, none, none, none⟩) none (List.replicate 2048 170)
        ([(buildRequest (parseUrl tileUrl.text).host (parseUrl tileUrl.text).path).take 3,
          (buildRequest (parseUrl tileUrl.text).host (parseUrl tileUrl.text).path).drop 3].map
            .received ++ []) [] =
      .done (reply Platform.esp32.write (fun _ _ _ => ⟨none, none, none, none, none⟩) none []
        (.call ⟨.post, CString.literal "/", 1, 2⟩
          ⟨.get, ascii "/tile:3", some (ascii "x=1?y"), [], 0⟩)) :=
  ((request_understood tileUrl).2 .esp32 ⟨[], some ⟨.post, CString.literal "/", 1, 2⟩, by decide⟩
    (fun _ _ _ => ⟨none, none, none, none, none⟩) none (List.replicate 2048 170) _ [] []
    List.length_replicate ⟨by decide +kernel, by decide +kernel⟩).2.1

end NetLL
