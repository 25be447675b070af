import NetLL.Library.Writer
import NetLL.Client.Download
import NetLL.Client.ESP32
import NetLL.Client.Transfer

namespace NetLL
namespace Client

/-!
# What a successful download has stored

Every call of `WriteFile` is a statement, and its result is thrown away.  So
the pieces that the file is given do not depend on what becomes of them, and
neither does the result of the download.  How much of each piece the file
stores is a parameter here, by the number of the call.

A piece of the body is what comes in one read, in one buffer or in one event.
Some of them are not given to the file, or not whole: the Simulator leaves out
what does not fit the header buffer, and RP2040 leaves out a buffer that comes
with an error.
-/

/-! ## The Simulator -/

namespace Simulator

open Server (headerSeparator headerSeparator_ne_nil)

/-- The pieces that are passed to `WriteFile`, one after another. -/
def writtenPieces (events : List DownloadEvent) : List (List UInt8) :=
  events.filterMap fun
    | .file (.wrote bytes) => some bytes
    | _ => none

/-- What has come when the header end is found. -/
def Found.received (found : Found) (segments : List (List UInt8)) : List UInt8 :=
  (segments.take (segments.length - found.rest.length)).flatten

/-- Where the header end is found among the reads. -/
def Environment.located (environment : Environment) : Exec (Option Found) :=
  locate (environment.headerBuffer ++ environment.beyond) [] (reads environment.results)

/-- The pieces of the body: what has come behind the header end when it is
found, and every read after that. -/
def Environment.bodyPieces (environment : Environment) : List (List UInt8) :=
  match environment.located with
  | .done (some found) =>
      (found.received (reads environment.results)).drop found.headerEnd :: found.rest
  | _ => []

/-- What has come when the header end is found fits the header buffer, or it
has no part of the body. -/
def Environment.FrontFits (environment : Environment) : Prop :=
  ∀ found, environment.located = .done (some found) →
    (found.received (reads environment.results)).length ≤ max headerBufferSize found.headerEnd

/-- The header end is found behind some reads, which are stored as far as they
fit. -/
theorem locate_split {initial : List UInt8} (before : List (List UInt8))
    {segments : List (List UInt8)} {found : Found}
    (located : locate initial (stored before) segments = .done (some found)) :
    ∃ front separator, segments = front ++ found.rest ∧ found.held = stored (before ++ front) ∧
      found.headerEnd = separator + 4 ∧
      Memory.strstr (Memory.overlay found.held initial) headerSeparator =
        .done (some separator) := by
  induction segments generalizing before with
  | nil => cases located
  | cons bytes rest inductionHypothesis =>
      rw [locate, keep_stored] at located
      rcases Exec.bind_eq_done_iff.mp located with ⟨position, searched, located⟩
      cases position with
      | some separator =>
          cases located
          exact ⟨[bytes], separator, rfl, rfl, rfl, searched⟩
      | none =>
          rcases inductionHypothesis _ located with ⟨front, separator, split, held, found⟩
          refine ⟨bytes :: front, separator, congrArg (bytes :: ·) split, ?_, found⟩
          rw [held, List.append_assoc, List.singleton_append]

/-- What has come when the header end of a run is found is stored as far as it
fits, and the reads behind it are the rest of the stream. -/
structure Found.FoundIn (found : Found) (environment : Environment) : Prop where
  held : found.held = (found.received (reads environment.results)).take headerBufferSize
  stream : environment.stream = found.received (reads environment.results) ++ found.rest.flatten
  nonempty : ∀ bytes ∈ found.rest, bytes ≠ []
  searched : ∃ separator, found.headerEnd = separator + 4 ∧
    Memory.strstr (Memory.overlay found.held (environment.headerBuffer ++ environment.beyond))
      headerSeparator = .done (some separator)

theorem Environment.foundIn {environment : Environment} {found : Found}
    (located : environment.located = .done (some found)) : found.FoundIn environment := by
  rcases locate_split [] located with ⟨front, separator, split, held, headerEnd, searched⟩
  have received : found.received (reads environment.results) = front.flatten := by
    rw [Found.received, split, List.length_append, Nat.add_sub_cancel, List.take_left]
  constructor
  · rw [held, received, stored, List.nil_append]
  · rw [stream, received, split, List.flatten_append]
  · intro bytes member
    refine (reads_isRead environment.results bytes ?_).1
    rw [split]
    exact List.mem_append_right _ member
  · exact ⟨separator, headerEnd, searched⟩

/-- The pieces that are given to the file: the part of the body that is stored
in the header buffer, if there is one, and the reads behind it. -/
def Found.pieces (found : Found) : List (List UInt8) :=
  (if found.headerEnd < found.held.length then [found.held.drop found.headerEnd] else []) ++
    found.rest

theorem writtenPieces_append (front back : List DownloadEvent) :
    writtenPieces (front ++ back) = writtenPieces front ++ writtenPieces back :=
  List.filterMap_append

theorem writtenPieces_file (found : Found) :
    writtenPieces ((found.file ++ [FileEvent.closed]).map .file) = found.pieces := by
  have reads (rest : List (List UInt8)) :
      writtenPieces ((rest.map FileEvent.wrote).map .file) = rest := by
    unfold writtenPieces
    rw [List.map_map, List.filterMap_map]
    exact List.filterMap_some
  have front : writtenPieces (found.front.map .file) =
      if found.headerEnd < found.held.length then [found.held.drop found.headerEnd] else [] := by
    rw [Found.front]
    split <;> rfl
  have opened : writtenPieces [.file .opened] = [] := rfl
  have closed : writtenPieces [.file .closed] = [] := rfl
  rw [Found.file, List.cons_append, List.cons_append, List.map_cons, List.map_append,
    List.map_append, ← List.singleton_append, writtenPieces_append, writtenPieces_append,
    writtenPieces_append, front, reads, opened, List.map_singleton, closed, List.append_nil,
    List.nil_append, Found.pieces]

/-- A download that returns true has found the header end, and has given its
pieces to the file. -/
theorem writtenPieces_of_returned {environment : Environment} {url filePath : CString}
    {download : Download} (done : httpDownloadFile environment url filePath = .done download)
    (returned : download.returned = true) :
    ∃ found, environment.located = .done (some found) ∧
      writtenPieces download.events = found.pieces := by
  rcases httpDownloadFile_cases done with rfl | rfl | ⟨outcome, read, rfl⟩
  · cases returned
  · cases returned
  · rw [readResponseToFile_eq _ environment.size, transfer] at read
    rcases Exec.bind_eq_done_iff.mp read with ⟨result, located, concluded⟩
    change outcome.returned = true at returned
    cases result with
    | none =>
        cases last : ending environment.results with
        | none =>
            rw [last] at concluded
            cases concluded
        | some =>
            rw [last] at concluded
            cases concluded
            cases returned
    | some found =>
        refine ⟨found, located, ?_⟩
        have file : outcome.file = found.file ++ [.closed] := by
          dsimp only at concluded
          split at concluded
          · cases last : ending environment.results with
            | none =>
                rw [last] at concluded
                cases concluded
            | some =>
                rw [last] at concluded
                cases concluded
                rfl
          · cases concluded
            cases returned
        have before : writtenPieces ([.createdDirectories filePath,
              .connected (parseUrl url).host (parseUrl url).port] ++
            (if (parseUrl url).https then [.secured (parseUrl url).host] else []) ++
            [.requested (sendRequest environment.sent
              (buildRequest (parseUrl url).host (parseUrl url).path))]) = [] := by
          cases (parseUrl url).https <;> rfl
        have after : writtenPieces [.disconnected] = [] := rfl
        rw [file, writtenPieces_append, writtenPieces_append, before, after, writtenPieces_file,
          List.nil_append, List.append_nil]

theorem Environment.bodyPieces_of_located {environment : Environment} {found : Found}
    (located : environment.located = .done (some found)) :
    environment.bodyPieces =
      (found.received (reads environment.results)).drop found.headerEnd :: found.rest := by
  rw [bodyPieces, located]

/-- A header end among the stored bytes is the first one of the stream, and the
pieces of the body are the stream behind it. -/
theorem Environment.flatten_bodyPieces {environment : Environment} {found : Found}
    (located : environment.located = .done (some found))
    (inside : found.headerEnd ≤ found.held.length) :
    environment.bodyPieces.flatten = environment.stream.drop (bodyStart environment.stream) := by
  rcases environment.foundIn located with ⟨held, stream, _, separator, headerEnd, searched⟩
  have four : headerSeparator.length = 4 := rfl
  have came : found.headerEnd ≤ (found.received (reads environment.results)).length := by
    rw [held, List.length_take] at inside
    omega
  have first : Search.find headerSeparator environment.stream = some separator := by
    have stored : Search.find headerSeparator found.held = some separator :=
      Memory.find_of_strstr headerSeparator_ne_nil searched (by omega)
    rw [held] at stored
    have received := ((Search.find_take_eq_some_iff headerSeparator_ne_nil _ _ _).mp stored).1
    rw [stream]
    exact Search.find_append headerSeparator_ne_nil received _
  have start : bodyStart environment.stream = found.headerEnd := by
    rw [bodyStart, first, headerEnd]
  rw [environment.bodyPieces_of_located located, start, List.flatten_cons]
  conv_rhs => rw [stream]
  rw [List.drop_append_of_le_length came]

/-- The front of the body is given to the file whole when it fits, and when it
does not fit, something of it is left out. -/
theorem Found.flatten_pieces (found : Found) (received : List UInt8)
    (held : found.held = received.take headerBufferSize) :
    found.pieces.flatten.length ≤ (received.drop found.headerEnd ++ found.rest.flatten).length ∧
      (found.pieces.flatten = received.drop found.headerEnd ++ found.rest.flatten ↔
        received.length ≤ max headerBufferSize found.headerEnd) := by
  have given : found.pieces.flatten =
      (received.take headerBufferSize).drop found.headerEnd ++ found.rest.flatten := by
    rw [pieces, List.flatten_append, ← held]
    split
    · rw [List.flatten_singleton]
    · rename_i past
      rw [List.drop_eq_nil_of_le (Nat.le_of_not_lt past), List.flatten_nil]
  rw [given, List.append_cancel_right_eq]
  constructor
  · simp only [List.length_append, List.length_drop, List.length_take]
    omega
  · constructor
    · intro same
      have sizes := congrArg List.length same
      simp only [List.length_drop, List.length_take] at sizes
      omega
    · intro here
      rcases le_max_iff.mp here with fits | past
      · rw [List.take_of_length_le fits]
      · rw [List.drop_eq_nil_of_le past, List.drop_eq_nil_of_le]
        exact Nat.le_trans (List.length_take_le' _ _) past

/-- With the front of the body in the buffer, the pieces that the file is given
are the pieces of the body that are not empty. -/
theorem pieces_eq_filter {environment : Environment} {found : Found}
    (located : environment.located = .done (some found)) (fits : environment.FrontFits) :
    found.pieces = environment.bodyPieces.filter (· ≠ []) := by
  have held := (environment.foundIn located).held
  have rest : found.rest.filter (· ≠ []) = found.rest :=
    List.filter_eq_self.mpr fun bytes member =>
      decide_eq_true ((environment.foundIn located).nonempty bytes member)
  have here := fits found located
  rw [environment.bodyPieces_of_located located, Found.pieces, held, List.filter_cons, rest]
  by_cases behind : (found.received (reads environment.results)).length ≤ found.headerEnd
  · -- nothing has come behind the header end
    have short := Nat.le_trans (List.length_take_le' headerBufferSize _) behind
    rw [List.drop_eq_nil_of_le behind, if_neg (Nat.not_lt.mpr short)]
    rfl
  · have whole : (found.received (reads environment.results)).take headerBufferSize =
        found.received (reads environment.results) := List.take_of_length_le (by omega)
    have some_ : (found.received (reads environment.results)).drop found.headerEnd ≠ [] := by
      rw [ne_eq, List.drop_eq_nil_iff]
      exact behind
    rw [whole, if_pos (Nat.lt_of_not_le behind), if_pos (decide_eq_true some_)]
    rfl

/-- The file of a download that returns true holds the pieces of the body
exactly when none of them is cut in front of the file, or by it. -/
theorem contents_eq_iff (stored : Nat → Nat) {environment : Environment} {url filePath : CString}
    {download : Download} (done : httpDownloadFile environment url filePath = .done download)
    (returned : download.returned = true) :
    Writer.contents stored (writtenPieces download.events) = environment.bodyPieces.flatten ↔
      environment.FrontFits ∧ Writer.StoresAll stored (environment.bodyPieces.filter (· ≠ [])) := by
  rcases writtenPieces_of_returned done returned with ⟨found, located, given⟩
  rcases found.flatten_pieces _ (environment.foundIn located).held with ⟨fewer, whole⟩
  have fits : environment.FrontFits ↔
      (found.received (reads environment.results)).length ≤
        max headerBufferSize found.headerEnd := by
    constructor
    · intro every
      exact every found located
    · intro here other same
      rw [located, Exec.done.injEq, Option.some.injEq] at same
      rw [← same]
      exact here
  rw [given, environment.bodyPieces_of_located located, List.flatten_cons,
    Writer.contents_eq_iff fewer, whole, ← fits]
  refine and_congr_right fun every => ?_
  rw [pieces_eq_filter located every, environment.bodyPieces_of_located located]

end Simulator

/-! ## RP2040 -/

namespace RP2040

/-- The pieces that are passed to `WriteFile`, one after another. -/
def writtenPieces (log : List Event) : List (List UInt8) :=
  log.filterMap fun
    | .wrote bytes => some bytes
    | _ => none

/-- The buffers of a chain that lwIP delivers. -/
def Action.bodyPieces : Action → List (List UInt8)
  | .bodyReceived (some segments) _ => segments
  | _ => []

/-- The buffers that come without an error. -/
def Action.givenPieces : Action → List (List UInt8)
  | .bodyReceived (some segments) .ok => segments
  | _ => []

/-- A chain that comes with an error has no bytes. -/
def Action.LosesNothing : Action → Prop
  | .bodyReceived (some segments) .failed => segments.flatten = []
  | _ => True

theorem writtenPieces_append (front back : List Event) :
    writtenPieces (front ++ back) = writtenPieces front ++ writtenPieces back :=
  List.filterMap_append

theorem writtenPieces_wrote (segments : List (List UInt8)) :
    writtenPieces (segments.map .wrote) = segments := by
  unfold writtenPieces
  rw [List.filterMap_map]
  exact List.filterMap_some

theorem writtenPieces_call {transfer next : Transfer} {action : Action}
    (taken : httpDownloadFile transfer action = some next) :
    writtenPieces next.log = writtenPieces transfer.log := by
  have leave (success : Bool) {events : List Event} (silent : writtenPieces events = []) :
      writtenPieces (transfer.leave success events).log = writtenPieces transfer.log := by
    change writtenPieces (transfer.log ++ events ++ [.returned success]) = _
    rw [writtenPieces_append, writtenPieces_append, silent, List.append_nil]
    exact List.append_nil _
  have more {event : Event} (silent : writtenPieces [event] = []) :
      writtenPieces (transfer.log ++ [event]) = writtenPieces transfer.log := by
    rw [writtenPieces_append, silent, List.append_nil]
  cases callStep_of_taken taken with
  | refuse => exact leave false rfl
  | close => exact leave _ rfl
  | parse | «open» | start => exact more rfl
  | startFails | finish | giveUp | poll | endPoll | wake => rfl

theorem writtenPieces_step {transfer next : Transfer} {action : Action}
    (taken : step transfer action = some next) :
    writtenPieces next.log = writtenPieces transfer.log ++ action.givenPieces := by
  cases action with
  | bodyReceived buffer error =>
      simp only [step] at taken
      split at taken
      · cases taken
        unfold bodyReceived Action.givenPieces
        cases buffer with
        | none => exact writtenPieces_append transfer.log [.bodyReceived]
        | some segments =>
            cases error with
            | failed => exact writtenPieces_append transfer.log [.bodyReceived]
            | ok =>
                refine (writtenPieces_append transfer.log _).trans (congrArg _ ?_)
                exact writtenPieces_wrote segments
      · cases taken
  | transferFinished result serverStatus error =>
      simp only [step] at taken
      split at taken
      · cases taken
        exact writtenPieces_append transfer.log [.transferFinished]
      · cases taken
  | advance time =>
      cases taken
      exact (List.append_nil _).symm
  | _ => exact (writtenPieces_call taken).trans (List.append_nil _).symm

theorem writtenPieces_run {url filePath : Option CString} {clock : Nat} {actions : List Action}
    {final : Transfer}
    (reached : Transition.run step (Transfer.initial url filePath clock) actions = some final) :
    writtenPieces final.log = actions.flatMap Action.givenPieces :=
  Transition.shown_run (fun transfer => writtenPieces transfer.log)
    (fun _ _ _ taken => writtenPieces_step taken) reached

theorem givenPieces_le (action : Action) :
    action.givenPieces.flatten.length ≤ action.bodyPieces.flatten.length ∧
      (action.bodyPieces.flatten.length ≤ action.givenPieces.flatten.length ↔
        action.LosesNothing) ∧
      (action.LosesNothing → action.givenPieces.flatten = action.bodyPieces.flatten) := by
  cases action with
  | bodyReceived buffer error =>
      cases buffer with
      | none => exact ⟨Nat.le_refl _, iff_of_true (Nat.le_refl _) trivial, fun _ => rfl⟩
      | some segments =>
          cases error with
          | ok => exact ⟨Nat.le_refl _, iff_of_true (Nat.le_refl _) trivial, fun _ => rfl⟩
          | failed =>
              refine ⟨Nat.zero_le _, ?_, fun empty => empty.symm⟩
              exact Nat.le_zero.trans List.length_eq_zero_iff
  | _ => exact ⟨Nat.le_refl _, iff_of_true (Nat.le_refl _) trivial, fun _ => rfl⟩

theorem givenPieces_run (actions : List Action) :
    (actions.flatMap Action.givenPieces).flatten.length ≤
        (actions.flatMap Action.bodyPieces).flatten.length ∧
      ((actions.flatMap Action.givenPieces).flatten =
          (actions.flatMap Action.bodyPieces).flatten ↔
        ∀ action ∈ actions, action.LosesNothing) := by
  have sizes : (actions.flatMap Action.givenPieces).flatten.length ≤
        (actions.flatMap Action.bodyPieces).flatten.length ∧
      ((actions.flatMap Action.bodyPieces).flatten.length ≤
          (actions.flatMap Action.givenPieces).flatten.length →
        ∀ action ∈ actions, action.LosesNothing) := by
    induction actions with
    | nil => exact ⟨Nat.le_refl _, fun _ action member => by cases member⟩
    | cons action rest inductionHypothesis =>
        rcases givenPieces_le action with ⟨fewer, exact_, _⟩
        simp only [List.flatMap_cons, List.flatten_append, List.length_append,
          List.forall_mem_cons]
        refine ⟨Nat.add_le_add fewer inductionHypothesis.1, fun enough => ⟨exact_.mp ?_, ?_⟩⟩
        · have later := inductionHypothesis.1
          omega
        · exact inductionHypothesis.2 (by omega)
  refine ⟨sizes.1, fun same => sizes.2 (Nat.le_of_eq (congrArg List.length same.symm)), ?_⟩
  clear sizes
  induction actions with
  | nil => exact fun _ => rfl
  | cons action rest inductionHypothesis =>
      intro whole
      rcases List.forall_mem_cons.mp whole with ⟨here, later⟩
      rw [List.flatMap_cons, List.flatMap_cons, List.flatten_append, List.flatten_append,
        (givenPieces_le action).2.2 here, inductionHypothesis later]

/-- The file of a run holds the buffers that came exactly when none of them is
lost in front of the file, or in it. -/
theorem contents_eq_iff (stored : Nat → Nat) {url filePath : Option CString} {clock : Nat}
    {actions : List Action} {final : Transfer}
    (reached : Transition.run step (Transfer.initial url filePath clock) actions = some final) :
    Writer.contents stored (writtenPieces final.log) =
        (actions.flatMap Action.bodyPieces).flatten ↔
      (∀ action ∈ actions, action.LosesNothing) ∧
        Writer.StoresAll stored (actions.flatMap Action.givenPieces) := by
  rcases givenPieces_run actions with ⟨fewer, whole⟩
  rw [writtenPieces_run reached, Writer.contents_eq_iff fewer, whole]

end RP2040

/-! ## ESP32 -/

namespace ESP32

/-- The pieces that are passed to `WriteFile`, one after another. -/
def writtenPieces (events : List DownloadEvent) : List (List UInt8) :=
  events.filterMap fun
    | .wrote bytes => some bytes
    | _ => none

/-- The data of the events. -/
def Environment.bodyPieces (environment : Environment) : List (List UInt8) :=
  environment.delivered.filterMap fun
    | .onData data => some data
    | .other => none

theorem writtenPieces_append (front back : List DownloadEvent) :
    writtenPieces (front ++ back) = writtenPieces front ++ writtenPieces back :=
  List.filterMap_append

/-- The handler gives the file every event's data that is not empty. -/
theorem writtenPieces_delivered (environment : Environment) :
    writtenPieces (environment.delivered.flatMap onHttpEvent) =
      environment.bodyPieces.filter (· ≠ []) := by
  unfold Environment.bodyPieces
  induction environment.delivered with
  | nil => rfl
  | cons event rest inductionHypothesis =>
      rw [List.flatMap_cons, writtenPieces_append, inductionHypothesis]
      cases event with
      | other => rfl
      | onData data =>
          cases data with
          | nil => rfl
          | cons => rfl

/-- A download that returns true has given the data to the file. -/
theorem writtenPieces_of_returned {environment : Environment} {url filePath : Option CString}
    (returned : (httpDownloadFile environment url filePath).returned = true) :
    writtenPieces (httpDownloadFile environment url filePath).events =
      environment.bodyPieces.filter (· ≠ []) := by
  cases url with
  | none => cases returned
  | some url =>
      cases filePath with
      | none => cases returned
      | some filePath =>
          simp only [httpDownloadFile] at returned ⊢
          split
          · rename_i refused
            rw [if_pos refused] at returned
            cases returned
          · rename_i opened
            rw [if_neg opened] at returned
            split
            · rename_i refused
              rw [if_pos refused] at returned
              cases returned
            · rw [writtenPieces_append, writtenPieces_append, writtenPieces_delivered]
              exact List.append_nil _

/-- The file of a download that returns true holds the data exactly when every
write stores it whole. -/
theorem contents_eq_iff (stored : Nat → Nat) {environment : Environment}
    {url filePath : Option CString}
    (returned : (httpDownloadFile environment url filePath).returned = true) :
    Writer.contents stored (writtenPieces (httpDownloadFile environment url filePath).events) =
        environment.bodyPieces.flatten ↔
      Writer.StoresAll stored (environment.bodyPieces.filter (· ≠ [])) := by
  have whole : (environment.bodyPieces.filter (· ≠ [])).flatten = environment.bodyPieces.flatten :=
    List.flatten_filter_ne_nil
  rw [writtenPieces_of_returned returned, Writer.contents_eq_iff (by rw [whole])]
  exact and_iff_right whole

end ESP32

/-! ## All three -/

/-- A download that returns true has stored the body exactly when no piece of
it is lost in front of the file, and the file stores every piece that it is
given whole. -/
theorem stored_iff (stored : Nat → Nat) :
    (∀ environment url filePath download,
      Simulator.httpDownloadFile environment url filePath = .done download →
        download.returned = true →
          (Writer.contents stored (Simulator.writtenPieces download.events) =
              environment.bodyPieces.flatten ↔
            environment.FrontFits ∧
              Writer.StoresAll stored (environment.bodyPieces.filter (· ≠ [])))) ∧
    (∀ url filePath clock actions final,
      Transition.run RP2040.step (RP2040.Transfer.initial url filePath clock) actions =
          some final →
        final.stage = .returned true →
          (Writer.contents stored (RP2040.writtenPieces final.log) =
              (actions.flatMap RP2040.Action.bodyPieces).flatten ↔
            (∀ action ∈ actions, action.LosesNothing) ∧
              Writer.StoresAll stored (actions.flatMap RP2040.Action.givenPieces))) ∧
    ∀ (environment : ESP32.Environment) url filePath,
      (ESP32.httpDownloadFile environment url filePath).returned = true →
        (Writer.contents stored
              (ESP32.writtenPieces (ESP32.httpDownloadFile environment url filePath).events) =
            environment.bodyPieces.flatten ↔
          Writer.StoresAll stored (environment.bodyPieces.filter (· ≠ []))) :=
  ⟨fun _ _ _ _ => Simulator.contents_eq_iff stored,
    fun _ _ _ _ _ reached _ => RP2040.contents_eq_iff stored reached,
    fun _ _ _ => ESP32.contents_eq_iff stored⟩

def okResponse : List UInt8 :=
  ascii "HTTP/1.0 200 OK\r\n\r\nok"

/-- A peer that answers with two bytes. -/
def answering : Simulator.Environment where
  connects := fun _ _ => true
  establishes := fun _ => true
  sent := .accepted Simulator.requestSize
  results := Simulator.arrival [okResponse] .closed
  opens := fun _ => true
  headerBuffer := Simulator.zeroBuffer
  beyond := []
  size := Simulator.zeroBuffer_length

theorem answering_reads : Simulator.reads answering.results = [okResponse] :=
  Simulator.reads_arrival (by decide) .closed

theorem answering_located :
    answering.located = .done (some { held := okResponse, headerEnd := 19, rest := [] }) := by
  have found : Search.find Server.headerSeparator (Memory.text okResponse) = some 15 := by decide
  have kept : Simulator.keep [] okResponse = okResponse := by decide
  rw [Simulator.Environment.located, answering_reads, Simulator.locate, kept,
    Memory.strstr_of_found Server.headerSeparator_ne_nil found]
  rfl

/-- The data of one event. -/
def delivering : ESP32.Environment where
  opens := fun _ => true
  initializes := fun _ => true
  delivered := [.other, .onData (ascii "ok")]
  error := .ok
  status := 200

/-- On a full card nothing of the two bytes is stored, and every platform
returns true. -/
theorem nothing_stored :
    (∃ download, Simulator.httpDownloadFile answering (CString.literal "http://host/file")
        (CString.literal "file") = .done download ∧ download.returned = true ∧
      Writer.contents (fun _ => 0) (Simulator.writtenPieces download.events) ≠
        answering.bodyPieces.flatten) ∧
    (∃ final, Transition.run RP2040.step RP2040.someCall RP2040.answeredInTime = some final ∧
      final.stage = .returned true ∧
      Writer.contents (fun _ => 0) (RP2040.writtenPieces final.log) ≠
        (RP2040.answeredInTime.flatMap RP2040.Action.bodyPieces).flatten) ∧
    (ESP32.httpDownloadFile delivering (some (CString.literal "http://host/file"))
        (some (CString.literal "file"))).returned = true ∧
      Writer.contents (fun _ => 0)
          (ESP32.writtenPieces (ESP32.httpDownloadFile delivering
            (some (CString.literal "http://host/file")) (some (CString.literal "file"))).events) ≠
        delivering.bodyPieces.flatten := by
  refine ⟨?_, ⟨_, rfl, rfl, by decide⟩, by decide, by decide⟩
  have found : Search.find Server.headerSeparator (Memory.text okResponse) = some 15 := by decide
  have shown : Simulator.HeaderEndShown (answering.headerBuffer ++ answering.beyond)
      (Simulator.reads answering.results) := by
    rw [answering_reads]
    exact Simulator.headerEndShown_first (by decide) found _ []
  have passes : Simulator.PassesTests answering (CString.literal "http://host/file")
      (CString.literal "file") := by
    refine ⟨rfl, fun _ => rfl, shown, rfl, ?_⟩
    rw [answering, Simulator.ending_arrival (by decide)]
    exact Option.some_ne_none _
  rcases (Simulator.httpDownloadFile_returned_iff _ _ _).mpr passes with ⟨events, done⟩
  refine ⟨_, done, rfl, fun same => ?_⟩
  have all := ((Simulator.contents_eq_iff (fun _ => 0) done rfl).mp same).2
  rw [answering.bodyPieces_of_located answering_located, answering_reads] at all
  exact absurd (all 0 _ rfl) (by decide)

end Client
end NetLL
