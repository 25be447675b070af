import NetLL.Client.FirstRead
import NetLL.Exchange
import NetLL.Server.Encoding

namespace NetLL

open Client Client.Simulator
open Server hiding SendResult Ending

/-!
# A file from the library's own server

The client's request is a message, so the server routes it by the path of the
URL.  What its writer sends comes back as the stream that the client reads into
the file.  Between the two, the network cuts both streams as it likes.  The
file gets the body that the endpoint left exactly when the header fits the
writer's buffer, ends in its own blank line, and comes whole in the first read.
-/

/-- One download of the Simulator's client from a server: what is asked, who
serves it, and what both sockets make of it. -/
structure Fetch where
  url : PlainUrl
  filePath : CString
  /-- The result of the send of the request. -/
  sent : Simulator.SendResult
  platform : Platform
  server : Registrations
  application : Application
  stack : Option CString
  buffer : List UInt8
  size : buffer.length = httpServerMaxRequestSize
  /-- The receive results of the server. -/
  received : List RecvResult
  /-- The send results of the server. -/
  script : List Server.SendResult
  /-- The receive results of the client. -/
  results : List ReceiveResult

namespace Fetch

variable (fetch : Fetch)

def request : List UInt8 :=
  buildRequest (parseUrl fetch.url.text).host (parseUrl fetch.url.text).path

/-- What the server does on its connection. -/
def served : Exec (List Server.Event) :=
  serveConnection fetch.platform fetch.server fetch.application fetch.stack fetch.buffer
    fetch.received fetch.script

/-- The record that the server answers from. -/
def response : HttpResponse :=
  (fetch.url.verdict fetch.server).response fetch.application fetch.stack

/-- The header fits the buffer that it is formatted in. -/
def HeaderFits : Prop :=
  (responseHeader fetch.response).length < responseHeaderSize

/-- What the download meets, with what its stack held. -/
def environment (headerBuffer beyond : List UInt8)
    (size : headerBuffer.length = headerBufferSize) : Environment where
  connects _ _ := true
  establishes _ := false
  sent := fetch.sent
  results := fetch.results
  opens _ := true
  headerBuffer
  beyond
  size

/-- The server receives the request in some pieces, whatever comes behind it. -/
def Arrives : Prop :=
  ∃ segments rest, Splits segments fetch.request ∧
    fetch.received = segments.map .received ++ rest

/-- The network takes the whole request and brings it to the server, and it
brings all that the server sends to the client, each in pieces. -/
structure Carried : Prop where
  takes : sendRequest fetch.sent fetch.request = fetch.request
  arrives : fetch.Arrives
  written : fetch.HeaderFits → (fetch.platform.write fetch.script fetch.response).ending = .complete
  answer : ∀ events, fetch.served = .done events →
    (reads fetch.results).flatten = sentBytes events
  ends : ending fetch.results = some .closed

/-- Whatever the client's stack held, the download is a success, and the file
has the body that the server answered with. -/
def Stores : Prop :=
  ∀ (headerBuffer beyond : List UInt8) (size : headerBuffer.length = headerBufferSize),
    ∃ events, httpDownloadFile (fetch.environment headerBuffer beyond size) fetch.url.text
        fetch.filePath = .done { returned := true, events } ∧
      writtenBytes (fileEvents events) = bodyBytes fetch.response

/-- The first read of the client brings the whole header. -/
def FirstReadCovers : Prop :=
  ∃ first, (reads fetch.results).head? = some first ∧
    (responseHeader fetch.response).length ≤ first.length

/-! ## The server's side -/

/-- The server reads the request whole and announces what the route table makes
of the URL. -/
theorem served_eq (arrives : fetch.Arrives) :
    fetch.served = .done (reply fetch.platform.write fetch.application fetch.stack fetch.script
      (fetch.url.verdict fetch.server)) := by
  rcases arrives with ⟨segments, rest, split, received⟩
  have fits : fetch.url.wellFormed.message.bytes.length ≤ capacity := by
    have short := buildRequest_fits (parseUrl fetch.url.text)
    have same : fetch.url.wellFormed.message.bytes = fetch.url.wellFormed.bytes := rfl
    have size : capacity = requestSize - 1 := rfl
    rw [same, ← fetch.url.buildRequest_text]
    omega
  rw [request, fetch.url.buildRequest_text] at split
  rw [served, received, ← fetch.url.message_verdict]
  exact serveConnection_message fetch.platform fetch.server fetch.application fetch.stack fetch.size
    fetch.url.wellFormed.message fits split rest fetch.script

theorem stream_eq (carried : fetch.Carried) : (reads fetch.results).flatten =
    (fetch.platform.write fetch.script fetch.response).bytes := by
  rw [carried.answer _ (fetch.served_eq carried.arrives), sentBytes_reply]
  rfl

theorem stream_of_fits (carried : fetch.Carried) (fits : fetch.HeaderFits) :
    (reads fetch.results).flatten = responseHeader fetch.response ++ bodyBytes fetch.response := by
  have complete := carried.written fits
  rw [fetch.stream_eq carried]
  rw [fetch.platform.write_eq] at complete ⊢
  exact (writeResponseWith_complete fetch.platform.writer_sends complete).2

/-- A header that does not fit is not sent, and nothing behind it. -/
theorem reads_of_long (carried : fetch.Carried) (long : ¬ fetch.HeaderFits) :
    reads fetch.results = [] := by
  have empty := fetch.stream_eq carried
  rw [fetch.platform.write_eq, writeResponseWith_long (Nat.not_lt.mp long)] at empty
  cases received : reads fetch.results with
  | nil => rfl
  | cons first rest =>
      rw [received, List.flatten_cons, List.append_eq_nil_iff] at empty
      exact absurd empty.1 (isRead_first received).1

/-! ## The client's side -/

/-- A download of a plain URL reads a response into the file. -/
theorem httpDownloadFile_eq (headerBuffer beyond : List UInt8)
    (size : headerBuffer.length = headerBufferSize) :
    ∃ front, fileEvents front = [] ∧
      httpDownloadFile (fetch.environment headerBuffer beyond size) fetch.url.text fetch.filePath =
        readResponseToFile true headerBuffer beyond fetch.results >>= fun outcome =>
          .done {
            returned := outcome.returned
            events := front ++ outcome.file.map .file ++ [.disconnected] } := by
  have plain : (parseUrl fetch.url.text).https = false := by
    change (parseScheme fetch.url.parts.text).1 = false
    rw [fetch.url.parts.parseScheme_text]
    rfl
  refine ⟨[.createdDirectories fetch.filePath,
    .connected (parseUrl fetch.url.text).host (parseUrl fetch.url.text).port,
    .requested (sendRequest fetch.sent fetch.request)], rfl, ?_⟩
  simp only [httpDownloadFile, plain, environment, Bool.not_true, Bool.false_eq_true, if_false,
    Bool.false_and]
  rfl

/-- The download stores the body exactly when reading the response does. -/
theorem stores_iff_storesBody :
    fetch.Stores ↔ StoresBody fetch.results (bodyBytes fetch.response) := by
  refine forall_congr' fun headerBuffer => forall_congr' fun beyond => forall_congr' fun size => ?_
  rcases fetch.httpDownloadFile_eq headerBuffer beyond size with ⟨front, nothing, same⟩
  rw [same]
  constructor
  · rintro ⟨events, downloads, written⟩
    rcases Exec.bind_eq_done_iff.mp downloads with ⟨outcome, read, same⟩
    rw [Exec.done.injEq, Download.mk.injEq] at same
    rcases same with ⟨returned, same⟩
    rw [← same, fileEvents_file nothing] at written
    exact ⟨outcome, read, returned, written⟩
  · rintro ⟨outcome, read, returned, written⟩
    refine ⟨front ++ outcome.file.map .file ++ [.disconnected], ?_, ?_⟩
    · rw [read, Exec.done_bind, returned]
    · rw [fileEvents_file nothing, written]

theorem not_storesBody_of_nothing {results : List ReceiveResult} (nothing : reads results = [])
    (body : List UInt8) : ¬ StoresBody results body := by
  intro stores
  rcases (readResponseToFile_stores_iff zeroBuffer_length [] results body).mp
    (stores _ [] zeroBuffer_length) with ⟨_, found, located, _⟩
  rw [nothing] at located
  cases located

/-! ## Both together -/

/-- A download from a server of the library stores the body of the answer
exactly when the header fits its buffer, ends in its first blank line, and is
covered by the first read. -/
theorem stores_iff (carried : fetch.Carried) :
    fetch.Stores ↔ fetch.HeaderFits ∧ EndsInBlankLine fetch.response ∧ fetch.FirstReadCovers := by
  rw [fetch.stores_iff_storesBody]
  by_cases fits : fetch.HeaderFits
  · have stream := fetch.stream_of_fits carried fits
    have ends : ending fetch.results ≠ none := by
      rw [carried.ends]
      exact Option.some_ne_none _
    have nonempty : 0 < (responseHeader fetch.response).length := by
      rw [length_responseHeader_eq]
      omega
    cases received : reads fetch.results with
    | nil =>
        have size := congrArg List.length stream
        rw [received, List.length_append] at size
        change 0 = _ at size
        omega
    | cons first rest =>
        rw [received, List.flatten_cons] at stream
        rw [storesBody_iff received stream (zero_not_mem_responseHeader _) ends,
          endsInBlankLine_iff, FirstReadCovers, received]
        simp [fits]
  · have nothing := fetch.reads_of_long carried fits
    exact iff_of_false (not_storesBody_of_nothing nothing _) (fun holds => fits holds.1)

end Fetch

/-- A page of five bytes at the default endpoint of an ESP32, in two reads. -/
def greetingFetch : Fetch where
  url := tileUrl
  filePath := .literal "tile"
  sent := .accepted requestSize
  platform := .esp32
  server := defaultServer
  application := answering (some closedHeader) (some (ascii "hello"))
  stack := none
  buffer := List.replicate httpServerMaxRequestSize 170
  size := List.length_replicate
  received :=
    [.received ((buildRequest (parseUrl tileUrl.text).host (parseUrl tileUrl.text).path).take 3),
      .received ((buildRequest (parseUrl tileUrl.text).host (parseUrl tileUrl.text).path).drop 3)]
  script := [.accepted 50, .interrupted, .accepted 256, .accepted 5]
  results := arrival [responseHeader (greeting (some closedHeader) (some (ascii "hello"))) ++
    ascii "he", ascii "llo"] .closed

theorem greetingFetch_response :
    greetingFetch.response = greeting (some closedHeader) (some (ascii "hello")) := by
  have routed : tileUrl.verdict defaultServer = .call defaultEndpoint tileUrl.request := rfl
  rw [Fetch.response]
  change (tileUrl.verdict defaultServer).response _ none = _
  rw [routed]
  rfl

theorem greetingFetch_isRead : ∀ bytes ∈
    [responseHeader (greeting (some closedHeader) (some (ascii "hello"))) ++ ascii "he",
      ascii "llo"], IsRead bytes := by
  decide +kernel

theorem greetingFetch_arrives : greetingFetch.Arrives := by
  refine ⟨[greetingFetch.request.take 3, greetingFetch.request.drop 3], [], ⟨?_, ?_⟩, rfl⟩
  · rw [List.flatten_cons, List.flatten_singleton, List.take_append_drop]
  · decide +kernel

theorem greetingFetch_carried : greetingFetch.Carried where
  takes := by
    have short := buildRequest_fits (parseUrl tileUrl.text)
    exact List.take_of_length_le (Nat.le_of_lt short)
  arrives := greetingFetch_arrives
  written := by
    intro _
    rw [greetingFetch_response]
    decide +kernel
  answer := by
    intro events served
    rw [greetingFetch.served_eq greetingFetch_arrives, Exec.done.injEq] at served
    rw [← served, sentBytes_reply]
    change _ = (greetingFetch.platform.write greetingFetch.script greetingFetch.response).bytes
    rw [greetingFetch_response]
    change (reads (arrival _ .closed)).flatten = _
    rw [reads_arrival greetingFetch_isRead]
    decide +kernel
  ends := ending_arrival greetingFetch_isRead .closed

/-- The two reads are stored as the page of five bytes. -/
theorem greetingFetch_stores : greetingFetch.Stores := by
  refine (greetingFetch.stores_iff greetingFetch_carried).mpr ?_
  rw [Fetch.HeaderFits, Fetch.FirstReadCovers, greetingFetch_response]
  refine ⟨by decide +kernel, by decide +kernel, _,
    congrArg List.head? (reads_arrival greetingFetch_isRead .closed), ?_⟩
  rw [List.length_append]
  exact Nat.le_add_right _ _

end NetLL
