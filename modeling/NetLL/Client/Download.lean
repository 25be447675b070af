import NetLL.Client.ResponseBody
import NetLL.Client.Url

namespace NetLL
namespace Client
namespace Simulator

open Server (headerSeparator headerSeparator_ne_nil announcement)

/-!
# The result of a download

`HttpDownloadFile` reports whether a file was opened.  The result of the send
is thrown away, the status line is not read, and neither is the length that
the response announces.  A transfer that failed there is reported as a success
as soon as a header end was found and the file could be opened.
-/

/-- The result of the one `send` or `SSL_write` of the request. -/
inductive SendResult where
  | accepted (count : Nat)
  | failed
deriving DecidableEq, Repr

/-- What a download meets: the name service and the peer, the TLS library, the
transport, the file system, and what the stack held before the call. -/
structure Environment where
  connects : CString → CString → Bool
  establishes : CString → Bool
  sent : SendResult
  results : List ReceiveResult
  opens : CString → Bool
  headerBuffer : List UInt8
  beyond : List UInt8
  size : headerBuffer.length = headerBufferSize

/-- What a download does, in order. -/
inductive DownloadEvent where
  | createdDirectories (filePath : CString)
  | connected (host port : CString)
  | secured (host : CString)
  | requested (accepted : List UInt8)
  | file (event : FileEvent)
  | disconnected
deriving DecidableEq

structure Download where
  returned : Bool
  events : List DownloadEvent
deriving DecidableEq

/-- What is done to the file among other things. -/
def fileEvents (events : List DownloadEvent) : List FileEvent :=
  events.filterMap fun
    | .file event => some event
    | _ => none

theorem fileEvents_file {front : List DownloadEvent} (nothing : fileEvents front = [])
    (events : List FileEvent) :
    fileEvents (front ++ events.map .file ++ [.disconnected]) = events := by
  have kept : fileEvents (events.map .file) = events := by
    rw [fileEvents, List.filterMap_map]
    exact List.filterMap_some
  rw [fileEvents, List.filterMap_append, List.filterMap_append]
  change fileEvents front ++ fileEvents (events.map .file) ++ [] = events
  rw [nothing, kept, List.nil_append, List.append_nil]

/-- `SendRequest`: the bytes that the transport takes.  The result is not used. -/
def sendRequest (sent : SendResult) (data : List UInt8) : List UInt8 :=
  match sent with
  | .accepted count => data.take count
  | .failed => []

/-- `HttpDownloadFile`. -/
def httpDownloadFile (environment : Environment) (url filePath : CString) : Exec Download := do
  let parsed := parseUrl url
  let events := [DownloadEvent.createdDirectories filePath]
  if !environment.connects parsed.host parsed.port then
    return { returned := false, events }
  let events := events ++ [.connected parsed.host parsed.port]
  if parsed.https && !environment.establishes parsed.host then
    return { returned := false, events := events ++ [.disconnected] }
  let events := if parsed.https then events ++ [.secured parsed.host] else events
  let request := buildRequest parsed.host parsed.path
  let events := events ++ [.requested (sendRequest environment.sent request)]
  let outcome ← readResponseToFile (environment.opens filePath) environment.headerBuffer
    environment.beyond environment.results
  return {
    returned := outcome.returned
    events := events ++ outcome.file.map .file ++ [.disconnected] }

theorem httpDownloadFile_cases {environment : Environment} {url filePath : CString}
    {download : Download} (done : httpDownloadFile environment url filePath = .done download) :
    download = ⟨false, [.createdDirectories filePath]⟩ ∨
      download = ⟨false, [.createdDirectories filePath,
        .connected (parseUrl url).host (parseUrl url).port, .disconnected]⟩ ∨
      ∃ outcome, readResponseToFile (environment.opens filePath) environment.headerBuffer
          environment.beyond environment.results = .done outcome ∧
        download = ⟨outcome.returned, [.createdDirectories filePath,
            .connected (parseUrl url).host (parseUrl url).port] ++
          (if (parseUrl url).https then [.secured (parseUrl url).host] else []) ++
          [.requested (sendRequest environment.sent
            (buildRequest (parseUrl url).host (parseUrl url).path))] ++
          outcome.file.map .file ++ [.disconnected]⟩ := by
  simp only [httpDownloadFile] at done
  split at done
  · cases done
    exact Or.inl rfl
  · split at done
    · cases done
      exact Or.inr (Or.inl rfl)
    · rcases Exec.bind_eq_done_iff.mp done with ⟨outcome, read, same⟩
      cases same
      refine Or.inr (Or.inr ⟨outcome, read, ?_⟩)
      cases (parseUrl url).https <;> rfl

/-! ## What a success should mean -/

/-- The bytes received. -/
def Environment.stream (environment : Environment) : List UInt8 :=
  (reads environment.results).flatten

/-- The number in the status line: the three digits behind its first space. -/
def statusCode (stream : List UInt8) : Option Nat :=
  let statusLine := match Search.find Server.crlf stream with
    | none => stream
    | some lineEnd => stream.take lineEnd
  let digits := ((statusLine.dropWhile (· != 32)).drop 1).takeWhile (Decimal.IsDigit ·)
  if digits.length = 3 then some (Decimal.value digits) else none

/-- Where the body of a response starts; a response that stops inside its header
section has none. -/
def bodyStart (stream : List UInt8) : Nat :=
  match Search.find headerSeparator stream with
  | none => stream.length
  | some separator => separator + 4

/-- The whole request was accepted, the status was 200, the stream did not end
in an error, and the body has the length that the header section announces. -/
structure Successful (environment : Environment) (url : CString) : Prop where
  request : sendRequest environment.sent (buildRequest (parseUrl url).host (parseUrl url).path) =
    buildRequest (parseUrl url).host (parseUrl url).path
  status : statusCode environment.stream = some 200
  ending : ending environment.results = some .closed
  length : ∀ digits, announcement (environment.stream.take (bodyStart environment.stream)) =
    some digits → (environment.stream.drop (bodyStart environment.stream)).length =
      Decimal.value digits

/-- A download that returns true was successful. -/
def SoundResult (environment : Environment) (url filePath : CString) : Prop :=
  ∀ events, httpDownloadFile environment url filePath = .done { returned := true, events } →
    Successful environment url

/-! ## What a success does mean -/

/-- The bytes that these reads leave in the buffer. -/
def stored (segments : List (List UInt8)) : List UInt8 :=
  segments.flatten.take headerBufferSize

/-- The search of the buffer when these reads are stored in it. -/
def searchAfter (initial : List UInt8) (segments : List (List UInt8)) : Exec (Option Nat) :=
  Memory.strstr (Memory.overlay (stored segments) initial) headerSeparator

/-- After some read, the string in `headerBuffer` has a blank line, and no
search before it ran out of memory. -/
def HeaderEndShown (initial : List UInt8) (segments : List (List UInt8)) : Prop :=
  ∃ index separator, index < segments.length ∧
    searchAfter initial (segments.take (index + 1)) = .done (some separator) ∧
    ∀ earlier < index, searchAfter initial (segments.take (earlier + 1)) ≠ .fault

/-- The tests that `HttpDownloadFile` makes. -/
structure PassesTests (environment : Environment) (url filePath : CString) : Prop where
  connects : environment.connects (parseUrl url).host (parseUrl url).port = true
  establishes : (parseUrl url).https = true → environment.establishes (parseUrl url).host = true
  shown : HeaderEndShown (environment.headerBuffer ++ environment.beyond) (reads environment.results)
  opens : environment.opens filePath = true
  ends : ending environment.results ≠ none

theorem keep_stored (front : List (List UInt8)) (bytes : List UInt8) :
    keep (stored front) bytes = stored (front ++ [bytes]) := by
  have room : (stored front).length ≤ headerBufferSize := List.length_take_le _ _
  rw [keep_eq room, stored, stored, List.flatten_append, List.flatten_singleton,
    List.take_append, List.take_append, List.take_take, Nat.min_self, List.length_take]
  congr 2
  omega

theorem searchAfter_ne_waiting (initial : List UInt8) (segments : List (List UInt8)) :
    searchAfter initial segments ≠ .waiting := by
  unfold searchAfter Memory.strstr
  intro waits
  split at waits
  · cases waits
  · split at waits <;> cases waits

theorem locate_iff (initial : List UInt8) (front segments : List (List UInt8)) :
    (∃ found, locate initial (stored front) segments = .done (some found)) ↔
      ∃ index separator, index < segments.length ∧
        searchAfter initial (front ++ segments.take (index + 1)) = .done (some separator) ∧
        ∀ earlier < index,
          searchAfter initial (front ++ segments.take (earlier + 1)) ≠ .fault := by
  induction segments generalizing front with
  | nil =>
      constructor
      · rintro ⟨found, impossible⟩
        cases impossible
      · rintro ⟨index, separator, inside, _⟩
        exact absurd inside (Nat.not_lt_zero index)
  | cons bytes rest inductionHypothesis =>
      have more (index : Nat) : front ++ (bytes :: rest).take (index + 1) =
          front ++ [bytes] ++ rest.take index := by
        rw [List.take_succ_cons, List.append_assoc, List.singleton_append]
      have once : searchAfter initial (front ++ [bytes] ++ rest.take 0) =
          searchAfter initial (front ++ [bytes]) :=
        congrArg (searchAfter initial) (List.append_nil _)
      simp only [more]
      rw [locate, keep_stored]
      change (∃ found, searchAfter initial (front ++ [bytes]) >>= _ = _) ↔ _
      cases first : searchAfter initial (front ++ [bytes]) with
      | waiting => exact absurd first (searchAfter_ne_waiting _ _)
      | fault =>
          constructor
          · rintro ⟨found, impossible⟩
            cases impossible
          · rintro ⟨index, separator, _, shown, fine⟩
            cases index with
            | zero =>
                rw [once, first] at shown
                cases shown
            | succ index => exact absurd (once.trans first) (fine 0 (Nat.succ_pos index))
      | done position =>
          cases position with
          | some separator =>
              refine iff_of_true ⟨_, rfl⟩ ⟨0, separator, Nat.succ_pos _, once.trans first, ?_⟩
              intro earlier below
              exact absurd below (Nat.not_lt_zero earlier)
          | none =>
              rw [Exec.done_bind]
              refine (inductionHypothesis (front ++ [bytes])).trans ?_
              constructor
              · rintro ⟨index, separator, inside, shown, fine⟩
                refine ⟨index + 1, separator, Nat.succ_lt_succ inside, shown, ?_⟩
                intro earlier below
                cases earlier with
                | zero =>
                    rw [once, first]
                    exact fun impossible => by cases impossible
                | succ earlier => exact fine earlier (Nat.lt_of_succ_lt_succ below)
              · rintro ⟨index, separator, inside, shown, fine⟩
                cases index with
                | zero =>
                    rw [once, first] at shown
                    cases shown
                | succ index =>
                    refine ⟨index, separator, Nat.lt_of_succ_lt_succ inside, shown, ?_⟩
                    intro earlier below
                    exact fine (earlier + 1) (Nat.succ_lt_succ below)

/-- Reading the response reports true exactly when the file was opened behind a
header end and the stream has ended. -/
theorem transfer_returned_iff (opens : Bool) (initial : List UInt8)
    (segments : List (List UInt8)) (last : Option Ending) :
    (∃ file, transfer opens initial [] segments last = .done { returned := true, file }) ↔
      opens = true ∧ HeaderEndShown initial segments ∧ last ≠ none := by
  have shown := locate_iff initial [] segments
  change (∃ found, locate initial [] segments = _) ↔ HeaderEndShown initial segments at shown
  rw [← shown, transfer]
  cases located : locate initial [] segments with
  | waiting => simp
  | fault => simp
  | done found =>
      cases found with
      | none =>
          rw [Exec.done_bind]
          cases last <;> simp [conclude]
      | some found =>
          rw [Exec.done_bind]
          cases opens <;> cases last <;> simp [conclude]

/-- A download returns true exactly when it passes the tests it makes. -/
theorem httpDownloadFile_returned_iff (environment : Environment) (url filePath : CString) :
    (∃ events, httpDownloadFile environment url filePath = .done { returned := true, events }) ↔
      PassesTests environment url filePath := by
  have reading := transfer_returned_iff (environment.opens filePath)
    (environment.headerBuffer ++ environment.beyond) (reads environment.results)
    (ending environment.results)
  rw [← readResponseToFile_eq _ environment.size] at reading
  have tests : PassesTests environment url filePath ↔
      environment.connects (parseUrl url).host (parseUrl url).port = true ∧
        ((parseUrl url).https = true → environment.establishes (parseUrl url).host = true) ∧
        ∃ file, readResponseToFile (environment.opens filePath) environment.headerBuffer
          environment.beyond environment.results = .done { returned := true, file } := by
    rw [reading]
    constructor
    · rintro ⟨connects, establishes, shown, opens, ends⟩
      exact ⟨connects, establishes, opens, shown, ends⟩
    · rintro ⟨connects, establishes, opens, shown, ends⟩
      exact ⟨connects, establishes, shown, opens, ends⟩
  rw [tests, httpDownloadFile]
  cases connects : environment.connects (parseUrl url).host (parseUrl url).port with
  | false => simp
  | true =>
      cases secure : (parseUrl url).https && !environment.establishes (parseUrl url).host with
      | true =>
          rw [Bool.and_eq_true, Bool.not_eq_true'] at secure
          simp [secure.1, secure.2]
      | false =>
          have established : (parseUrl url).https = true →
              environment.establishes (parseUrl url).host = true := by
            intro https
            rwa [https, Bool.true_and, Bool.not_eq_false'] at secure
          simp only [Bool.not_true, Bool.false_eq_true, if_false, true_and]
          refine Iff.trans ?_ (and_iff_right established).symm
          constructor
          · rintro ⟨events, returned⟩
            rcases Exec.bind_eq_done_iff.mp returned with ⟨⟨result, file⟩, read, same⟩
            cases same
            exact ⟨file, read⟩
          · rintro ⟨file, read⟩
            exact ⟨_, Exec.bind_eq_done_iff.mpr ⟨_, read, rfl⟩⟩

/-- A download that returns true was successful exactly when the environment
that passes the tests is one in which the transfer succeeds. -/
theorem soundResult_iff (environment : Environment) (url filePath : CString) :
    SoundResult environment url filePath ↔
      (PassesTests environment url filePath → Successful environment url) := by
  rw [← httpDownloadFile_returned_iff]
  constructor
  · rintro sound ⟨events, returned⟩
    exact sound events returned
  · intro successful events returned
    exact successful ⟨events, returned⟩

/-! ## A failed transfer that is reported as a success -/

theorem headerEndShown_first {bytes : List UInt8} {separator : Nat}
    (fits : bytes.length ≤ headerBufferSize)
    (found : Search.find headerSeparator (Memory.text bytes) = some separator)
    (initial : List UInt8) (rest : List (List UInt8)) :
    HeaderEndShown initial (bytes :: rest) := by
  have whole : stored [bytes] = bytes := by
    rw [stored, List.flatten_singleton, List.take_of_length_le fits]
  refine ⟨0, separator, Nat.succ_pos _, ?_, ?_⟩
  · change searchAfter initial [bytes] = _
    rw [searchAfter, whole]
    exact Memory.strstr_of_found headerSeparator_ne_nil found initial
  · intro earlier below
    exact absurd below (Nat.not_lt_zero earlier)

def notFoundResponse : List UInt8 :=
  ascii "HTTP/1.0 404 Not Found\r\n\r\ngone"

/-- A peer that takes the request and answers that there is no such file. -/
def notFound : Environment where
  connects := fun _ _ => true
  establishes := fun _ => true
  sent := .accepted requestSize
  results := arrival [notFoundResponse] .closed
  opens := fun _ => true
  headerBuffer := zeroBuffer
  beyond := []
  size := zeroBuffer_length

/-- The page that explains the failure is saved as the file. -/
theorem notFound_reported :
    ¬ SoundResult notFound (CString.literal "http://host/file") (CString.literal "file") := by
  intro sound
  have isRead : ∀ bytes ∈ [notFoundResponse], IsRead bytes := by decide
  have received : reads notFound.results = [notFoundResponse] := reads_arrival isRead .closed
  have found : Search.find headerSeparator (Memory.text notFoundResponse) = some 22 := by decide
  have passes : PassesTests notFound (CString.literal "http://host/file")
      (CString.literal "file") := by
    constructor
    · rfl
    · intro _
      rfl
    · rw [received]
      exact headerEndShown_first (by decide) found _ []
    · rfl
    · rw [notFound, ending_arrival isRead]
      exact Option.some_ne_none _
  rcases (httpDownloadFile_returned_iff _ _ _).mpr passes with ⟨events, returned⟩
  have status := (sound events returned).status
  rw [Environment.stream, received] at status
  exact absurd status (by decide)

end Simulator
end Client
end NetLL
