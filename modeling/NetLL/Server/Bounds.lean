import NetLL.Library.Cursor
import NetLL.Server.FirstLine

namespace NetLL
namespace Server

/-!
# The servers with their assertions

Here the servers are written once more with what must hold at each step.  A
subtraction that would go below zero, a cast that would lose bits and a string
that would not end in the bytes received are faults, as a read or a write
outside the buffer is.  `ContentLengthOf` moves its cursor byte by byte.

A run of these servers is the run of the servers, so no assertion ever fails.
-/

/-- An assertion. -/
def require (property : Prop) [Decidable property] : Exec Unit :=
  if property then .done () else .fault

theorem require_bind {α : Type} {property : Prop} [Decidable property] (holds : property)
    (next : Unit → Exec α) : require property >>= next = next () := by
  rw [require, if_pos holds]
  rfl

/-! ## The announced length -/

theorem lt_length_of_cstring {memory string : List UInt8} {line : Nat} {first : UInt8}
    (read : Memory.cstring memory line = .done (first :: string)) : line < memory.length := by
  by_contra past
  rw [Memory.cstring, List.drop_eq_nil_of_le (Nat.le_of_not_lt past), if_neg List.not_mem_nil]
    at read
  cases read

/-- `ContentLengthOf` in its block of memory, from the line that its pointer
has reached. -/
def contentLengthAt (modulus : Nat) (memory : List UInt8) (line : Nat) : Exec Nat :=
  match _read : Memory.cstring memory line with
  | .waiting => .waiting
  | .fault => .fault
  | .done [] => .done 0
  | .done (first :: rest) =>
      if BeginsWith contentLengthLabel (first :: rest) then do
        let cursor ← Memory.passOver (IsBlank ·) memory (line + contentLengthLabel.length)
        let stop ← Memory.passOver (Decimal.IsDigit ·) memory cursor
        let digits ← Memory.slice memory cursor (stop - cursor)
        return Decimal.accumulate modulus digits
      else
        match Search.find crlf (first :: rest) with
        | none => .done 0
        | some index => contentLengthAt modulus memory (line + (index + 2))
termination_by memory.length - line
decreasing_by
  have inside := lt_length_of_cstring _read
  omega

theorem numeral_at (modulus : Nat) {memory : List UInt8} {line : Nat}
    (terminated : 0 ∈ memory.drop line)
    (begins : BeginsWith contentLengthLabel (Memory.text (memory.drop line))) :
    (do
      let cursor ← Memory.passOver (IsBlank ·) memory (line + contentLengthLabel.length)
      let stop ← Memory.passOver (Decimal.IsDigit ·) memory cursor
      let digits ← Memory.slice memory cursor (stop - cursor)
      return Decimal.accumulate modulus digits) =
      Exec.done (Decimal.accumulate modulus (numeral (Memory.text (memory.drop line)))) := by
  have behind : 0 ∈ memory.drop (line + contentLengthLabel.length) := by
    rw [Memory.drop_add]
    exact Memory.terminated_drop terminated begins.length_le
  have rest : Memory.text (memory.drop (line + contentLengthLabel.length)) =
      (Memory.text (memory.drop line)).drop contentLengthLabel.length := by
    rw [Memory.drop_add, Memory.text_drop begins.length_le]
  rcases Memory.passOver_spec (IsBlank ·) (by decide) behind with
    ⟨cursor, blanks, later, digits, _⟩
  rcases Memory.passOver_spec (Decimal.IsDigit ·) (by decide) later with
    ⟨stop, passed, _, _, read⟩
  rw [blanks, Exec.done_bind, passed, Exec.done_bind, read, digits, rest]
  rfl

/-- The walk stays in its string, and finds what that string announces. -/
theorem contentLengthAt_eq (modulus : Nat) {memory : List UInt8} {line : Nat}
    (terminated : 0 ∈ memory.drop line) :
    contentLengthAt modulus memory line =
      .done (contentLengthOf modulus (Memory.text (memory.drop line))) := by
  induction size : memory.length - line using Nat.strong_induction_on generalizing line with
  | _ size inductionHypothesis =>
      have read : Memory.cstring memory line = .done (Memory.text (memory.drop line)) :=
        if_pos terminated
      rw [contentLengthAt]
      split
      · rename_i waits
        rw [read] at waits
        cases waits
      · rename_i faults
        rw [read] at faults
        cases faults
      · rename_i empty
        rw [read, Exec.done.injEq] at empty
        rw [empty, contentLengthOf]
      · rename_i first rest shown
        have inside := lt_length_of_cstring shown
        rw [read, Exec.done.injEq] at shown
        by_cases begins : BeginsWith contentLengthLabel (first :: rest)
        · rw [if_pos begins, shown, contentLengthOf, if_pos begins, ← shown]
          exact numeral_at modulus terminated (by rw [shown]; exact begins)
        · rw [if_neg begins, shown, contentLengthOf, if_neg begins]
          cases found : Search.find crlf (first :: rest) with
          | none => rfl
          | some index =>
              have fits := Search.find_fits crlf_ne_nil found
              have two : crlf.length = 2 := rfl
              rw [← shown] at fits
              have place : index + 2 ≤ (Memory.text (memory.drop line)).length := by omega
              have behind : 0 ∈ memory.drop (line + (index + 2)) := by
                rw [Memory.drop_add]
                exact Memory.terminated_drop terminated place
              have rest : Memory.text (memory.drop (line + (index + 2))) =
                  (first :: rest).drop (index + 2) := by
                rw [Memory.drop_add, Memory.text_drop place, shown]
              simp only
              rw [inductionHypothesis _ (by omega) behind rfl, rest]

/-! ## The request handed to a callback -/

/-- Terminate the body and hand the request over.  The path, the query and the
body end inside the bytes received and the byte behind them, and the length of
the body fits its field. -/
def handOver (received headerEnd bodyLength : Nat) (line : RequestLine) (method : HttpMethod) :
    Exec HttpRequest := do
  let buffer ← Memory.write line.buffer (headerEnd + bodyLength) [0]
  let reach := buffer.take (received + 1)
  let path ← Memory.cstring reach line.path
  let query ← match line.query with
    | none => pure none
    | some query => do
        let string ← Memory.cstring reach query
        pure (some string)
  require (bodyLength < 2 ^ 16)
  let body ← Memory.slice reach headerEnd bodyLength
  let terminator ← Memory.slice reach (headerEnd + bodyLength) 1
  require (terminator = [0])
  return { method, path, query, body, bodyLength }

/-- The verdict on a complete request that is handed over. -/
def checkedJudge (server : Registrations) (memory : List UInt8)
    (received headerEnd bodyLength : Nat) : Exec Verdict :=
  routeWith .refusal (fun route line method => do
    let request ← handOver received headerEnd bodyLength line method
    return .call route request) server memory

theorem slice_of_write {memory after : List UInt8} {place : Nat} {byte : UInt8}
    (written : Memory.write memory place [byte] = .done after) :
    Memory.slice after place 1 = .done [byte] := by
  unfold Memory.write at written
  split at written
  · rename_i inside
    rw [List.length_singleton] at inside
    cases written
    have front : (memory.take place).length = place := by
      rw [List.length_take]
      omega
    have read := Memory.slice_middle (memory.take place) [byte] (memory.drop (place + 1))
    rwa [front] at read
  · cases written

/-- In a buffer that ends behind the bytes received, the request is handed over
as the callback sees it, whatever is behind them. -/
theorem handOver_append {line : RequestLine} (inside : line.Inside) {received headerEnd : Nat}
    {bodyLength : Nat} (size : line.buffer.length = received + 1)
    (fits : headerEnd + bodyLength ≤ received) (room : received ≤ capacity)
    (method : HttpMethod) (stale : List UInt8) :
    handOver received headerEnd bodyLength { line with buffer := line.buffer ++ stale } method =
      viewRequest { line with buffer := line.buffer ++ stale } method headerEnd bodyLength := by
  rcases inside.terminated.write (show headerEnd + bodyLength < line.buffer.length by omega) with
    ⟨after, written, terminated, length⟩
  rcases terminated.cstring (length ▸ inside.path) with ⟨path, pathRead⟩
  have small : bodyLength < 2 ^ 16 := by
    have word : capacity < 2 ^ 16 := by decide
    omega
  have reach : (after ++ stale).take (received + 1) = after := by
    rw [← size, ← length]
    exact List.take_left
  have bodyRead : Memory.slice after headerEnd bodyLength =
      .done ((after.drop headerEnd).take bodyLength) := if_pos (by omega)
  have terminator := slice_of_write written
  simp only [handOver, viewRequest, Memory.write_append written, Exec.done_bind, reach, pathRead,
    Memory.cstring_append pathRead, Nat.mod_eq_of_lt small, require_bind small, bodyRead,
    Memory.slice_append bodyRead, terminator, require_bind trivial]
  cases query : line.query with
  | none => rfl
  | some offset =>
      rcases terminated.cstring (length ▸ inside.query offset query) with ⟨string, queryRead⟩
      simp only [queryRead, Memory.cstring_append queryRead, Exec.done_bind, Exec.pure_eq]

theorem checkedJudge_eq (server : Registrations) {bytes : List UInt8}
    {headerEnd bodyLength : Nat} (fits : headerEnd + bodyLength ≤ bytes.length)
    (room : bytes.length ≤ capacity) (stale : List UInt8) :
    checkedJudge server (bytes ++ 0 :: stale) bytes.length headerEnd bodyLength =
      judge server (bytes ++ 0 :: stale) headerEnd bodyLength := by
  by_cases has : HasRequestLine (Memory.text bytes)
  · rcases has.shown with ⟨line⟩
    have handed (method : HttpMethod) :
        handOver bytes.length headerEnd bodyLength (line.cut (0 :: stale)) method =
          viewRequest (line.cut (0 :: stale)) method headerEnd bodyLength := by
      rw [line.cut_stale]
      exact handOver_append (cutLine_inside ⟨line.tail, rfl⟩) line.length_cut fits room method stale
    rw [checkedJudge, judge_shown server line List.mem_cons_self,
      routeWith_shown _ _ server line List.mem_cons_self]
    simp only [handed]
  · rw [checkedJudge, routeWith, judge, parseRequestLine_eq_none has]
    rfl

/-! ## The Simulator and ESP32 -/

namespace Posix

/-- What follows the loop of `ReadRequest`: the header section was received. -/
def checkedAfterLoop (modulus : Nat) (state : ReadState) : Exec ReadResult :=
  if state.headersComplete then do
    require (state.headerEnd ≤ state.received)
    return .complete state.buffer state.received state.headerEnd
      (if Word.sub modulus state.received state.headerEnd < state.announcedBody then
        Word.sub modulus state.received state.headerEnd
      else state.announcedBody)
  else pure .refused

/-- One round of the loop of `ReadRequest`.  What follows the loop is run by
whoever runs the loop. -/
def checkedRound (modulus : Nat) (state : ReadState) (result : RecvResult) :
    Exec (Round ReadState (Exec ReadResult)) :=
  match result with
  | .interrupted => pure (.again state)
  | .failed => pure (.stop (pure .refused))
  | .received available => do
      require (state.received ≤ capacity)
      let bytes := available.take (Word.sub modulus capacity state.received)
      if bytes = [] then
        return .stop (checkedAfterLoop modulus state)
      let buffer ← Memory.write state.buffer state.received bytes
      let received := state.received + bytes.length
      let buffer ← Memory.write buffer received [0]
      let state := { state with buffer, received }
      if state.headersComplete then
        if Word.add modulus state.headerEnd state.announcedBody ≤ received then
          return .stop (checkedAfterLoop modulus state)
        return .again state
      let headers ← Memory.cstring buffer 0
      match Search.find headerSeparator headers with
      | none => return .again state
      | some separator =>
          let headerEnd := separator + 4
          let announcedBody ← contentLengthAt modulus buffer 0
          let state := { state with headersComplete := true, headerEnd, announcedBody }
          require (headerEnd ≤ capacity)
          if Word.sub modulus capacity headerEnd < announcedBody then
            return .stop (pure .refused)
          if Word.add modulus headerEnd announcedBody ≤ received then
            return .stop (checkedAfterLoop modulus state)
          return .again state

/-- `ReadRequest`. -/
def checkedReadRequest (modulus : Nat) (buffer : List UInt8) (results : List RecvResult) :
    Exec ReadResult := do
  let afterwards ← Exec.loop (fun state : ReadState => decide (state.received < capacity))
    (checkedRound modulus) (checkedAfterLoop modulus) results
    { buffer, received := 0, headerEnd := 0, announcedBody := 0, headersComplete := false }
  afterwards

/-- `ServeConnection`. -/
def checkedConnection (modulus : Nat) (server : Registrations) (application : Application)
    (stack : Option CString) (buffer : List UInt8) (results : List RecvResult)
    (script : List SendResult) : Exec (List Event) := do
  match ← checkedReadRequest modulus buffer results with
  | .refused => return writeStatusOnly writeResponse stack script 413
  | .complete buffer totalRead bodyOffset bodyLength =>
      let verdict ← checkedJudge server buffer totalRead bodyOffset bodyLength
      return reply writeResponse application stack script verdict

theorem checkedAfterLoop_eq (modulus : Nat) {state : ReadState} {gathering : Gathering}
    (describes : Describes state gathering) :
    checkedAfterLoop modulus state = .done (afterLoop modulus state) := by
  cases noticed : gathering.header with
  | none =>
      have incomplete := describes.unnoticed noticed
      simp only [checkedAfterLoop, afterLoop, incomplete, Bool.false_eq_true, if_false,
        Exec.pure_eq]
  | some header =>
      rcases describes.noticed header noticed with ⟨complete, headerEnd, _, inside, _⟩
      have received : state.headerEnd ≤ state.received := by
        rw [headerEnd, describes.received]
        exact inside
      simp only [checkedAfterLoop, afterLoop, complete, if_true, require_bind received,
        Exec.pure_eq]

/-- While the loop runs, every assertion of a round holds. -/
theorem checkedRound_eq {modulus : Nat} (large : 2 * httpServerMaxRequestSize ≤ modulus)
    {state : ReadState} {gathering : Gathering} (awaits : Awaits state gathering)
    (room : state.received < capacity) (result : RecvResult) :
    checkedRound modulus state result =
      readRound modulus state result >>= fun round => .done (round.map .done) := by
  have least : capacity + 1 = httpServerMaxRequestSize := rfl
  have word : capacity < modulus := by omega
  have describes := awaits.describes
  have received := describes.received
  cases result with
  | interrupted => rfl
  | failed => rfl
  | received available =>
      have offered := describes.holds.offered word received
      simp only [checkedRound, readRound, require_bind (Nat.le_of_lt room), offered]
      by_cases nothing : available.take (capacity - gathering.bytes.length) = []
      · rw [if_pos nothing, if_pos nothing, checkedAfterLoop_eq modulus describes]
        rfl
      · rw [if_neg nothing, if_neg nothing]
        have fits := describes.holds.take_fits available
        generalize available.take (capacity - gathering.bytes.length) = fresh at nothing fits ⊢
        rcases describes.holds.store_bind fits with ⟨after, holds, stored⟩
        rw [received, stored, stored, ← List.length_append]
        cases noticed : gathering.header with
        | some header =>
            have stored := describes.stored noticed holds
            rw [if_pos (describes.noticed header noticed).1,
              if_pos (describes.noticed header noticed).1, checkedAfterLoop_eq modulus stored]
            split <;> rfl
        | none =>
            have incomplete := describes.unnoticed noticed
            have terminated : 0 ∈ after.drop 0 := by
              rw [List.drop_zero]
              exact holds.terminator (by simp [nothing])
            have string := holds.cstring (by simp [nothing])
            have text : Memory.text (after.drop 0) = Memory.text (gathering.bytes ++ fresh) := by
              rw [Memory.cstring, if_pos terminated, Exec.done.injEq] at string
              exact string
            rw [if_neg (by simp [incomplete]), if_neg (by simp [incomplete]), string]
            simp only [Exec.done_bind, contentLengthAt_eq modulus terminated, text]
            cases found : Search.find headerSeparator (Memory.text (gathering.bytes ++ fresh)) with
            | none => rfl
            | some separator =>
                have inside := Search.find_fits headerSeparator_ne_nil found
                have four : headerSeparator.length = 4 := rfl
                have shorter := Memory.text_length_le (gathering.bytes ++ fresh)
                rw [List.length_append] at shorter
                have before : separator + 4 ≤ capacity := by omega
                have space : Word.sub modulus capacity (separator + 4) =
                    capacity - (separator + 4) :=
                  Word.sub_of_le before (by omega)
                simp only [require_bind before, space]
                split
                · rfl
                · rename_i small
                  have describesFound := describes_found holds found (Nat.le_of_not_lt small)
                  rw [checkedAfterLoop_eq modulus describesFound]
                  split <;> rfl

/-- The loop with its assertions is the loop. -/
theorem checkedReadRequest_eq {modulus : Nat} (large : 2 * httpServerMaxRequestSize ≤ modulus)
    {buffer : List UInt8} (size : buffer.length = httpServerMaxRequestSize)
    (results : List RecvResult) :
    checkedReadRequest modulus buffer results = readRequest modulus buffer results := by
  have leaves : ∀ state, (∃ gathering, Awaits state gathering) →
      decide (state.received < capacity) = false →
        checkedAfterLoop modulus state = .done (afterLoop modulus state) := by
    rintro state ⟨gathering, awaits⟩ _
    exact checkedAfterLoop_eq modulus awaits.describes
  have rounds : ∀ state result, (∃ gathering, Awaits state gathering) →
      decide (state.received < capacity) = true →
        checkedRound modulus state result =
          readRound modulus state result >>= fun round => .done (round.map .done) := by
    rintro state result ⟨gathering, awaits⟩ room
    exact checkedRound_eq large awaits (of_decide_eq_true room) result
  have keeps : ∀ state result next, (∃ gathering, Awaits state gathering) →
      decide (state.received < capacity) = true →
        readRound modulus state result = .done (.again next) →
          ∃ gathering, Awaits next gathering := by
    rintro state result next ⟨gathering, awaits⟩ room again
    have step := readRound_related large state gathering result awaits
    rw [again] at step
    generalize (policy modulus).gatherRound gathering result = right at step
    cases step with
    | done related =>
        cases related with
        | again related => exact ⟨_, related⟩
  rw [checkedReadRequest, Exec.loop_map _ Exec.done leaves rounds keeps results _
    ⟨{ bytes := [], header := none }, ⟨Holds.initial size, rfl, fun _ => rfl,
      fun header absent => by cases absent⟩, fun header absent => by cases absent⟩,
    Exec.bind_assoc]
  exact Exec.bind_done _

/-- The Simulator and ESP32 run as they do without their assertions. -/
theorem checkedConnection_eq {modulus : Nat} (large : 2 * httpServerMaxRequestSize ≤ modulus)
    (server : Registrations) (application : Application) (stack : Option CString)
    {buffer : List UInt8} (size : buffer.length = httpServerMaxRequestSize)
    (results : List RecvResult) (script : List SendResult) :
    checkedConnection modulus server application stack buffer results script =
      serveConnection modulus server application stack buffer results script := by
  have related := readRequest_related large size results
  rw [checkedConnection, checkedReadRequest_eq large size, serveConnection]
  cases read : readRequest modulus buffer results with
  | waiting => rfl
  | fault => rfl
  | done result =>
      rw [read] at related
      generalize (policy modulus).gather results = gathered at related
      cases related with
      | done yields =>
          cases yields with
          | refused => rfl
          | complete holds header_pos inside =>
              rcases holds.terminated (by rintro rfl; simp at inside; omega) with ⟨stale, split⟩
              subst split
              rw [Exec.done_bind, Exec.done_bind]
              refine Eq.trans ?_ (posix_judges server application stack script _ _ _).symm
              rw [← checkedJudge_eq server inside holds.room]
              rfl

end Posix

/-! ## RP2040 -/

namespace RP2040

/-- `CompleteHeaders`. -/
def checkedHeaders (connection : ConnectionContext) : Exec ConnectionContext := do
  match ← findHeaderEnd connection with
  | none => return connection
  | some headerLength =>
      let expectedBodyLength ← contentLengthAt sizeModulus connection.requestBuffer 0
      return { connection with headersComplete := true, headerLength, expectedBodyLength }

/-- One round of the loop of `ServeConnection`. -/
def checkedRound (connection : ConnectionContext) (result : RecvResult) :
    Exec (Round ConnectionContext Departure) :=
  match result with
  | .interrupted => pure (.stop .closed)
  | .failed => pure (.stop .closed)
  | .received available => do
      require (connection.requestLength ≤ capacity)
      let bytes := available.take (Word.sub sizeModulus capacity connection.requestLength)
      if bytes = [] then
        return .stop .closed
      let buffer ← Memory.write connection.requestBuffer connection.requestLength bytes
      let requestLength := connection.requestLength + bytes.length
      let buffer ← Memory.write buffer requestLength [0]
      let connection := { connection with requestBuffer := buffer, requestLength }
      let connection ←
        if connection.headersComplete then pure connection else checkedHeaders connection
      if !connection.headersComplete then
        return .again connection
      if capacity < Word.add sizeModulus connection.headerLength connection.expectedBodyLength then
        return .stop .tooLarge
      if !requestIsComplete connection then
        return .again connection
      return .stop (.dispatch connection)

/-- `DispatchRequest`. -/
def checkedDispatch (server : Registrations) (application : Application)
    (stack : Option CString) (script : List SendResult) (connection : ConnectionContext) :
    Exec (List Event) := do
  require (connection.headerLength ≤ connection.requestLength)
  let available := Word.sub sizeModulus connection.requestLength connection.headerLength
  let bodyLength :=
    if available < connection.expectedBodyLength then available
    else connection.expectedBodyLength
  let verdict ← checkedJudge server connection.requestBuffer connection.requestLength
    connection.headerLength bodyLength
  return reply sendResponse application stack script verdict

/-- `ServeConnection` on the cleared context. -/
def checkedConnection (server : Registrations) (application : Application)
    (stack : Option CString) (results : List RecvResult) (script : List SendResult) :
    Exec (List Event) := do
  let departure ← Exec.loop
    (fun connection : ConnectionContext => decide (connection.requestLength < capacity))
    checkedRound (fun _ => Departure.tooLarge) results .cleared
  match departure with
  | .tooLarge => return writeStatusOnly sendResponse stack script 413
  | .closed => return []
  | .dispatch connection => checkedDispatch server application stack script connection

theorem checkedHeaders_eq {connection : ConnectionContext}
    (terminated : 0 ∈ connection.requestBuffer) :
    checkedHeaders connection = completeHeaders connection := by
  have start : 0 ∈ connection.requestBuffer.drop 0 := by rwa [List.drop_zero]
  have read : Memory.cstring connection.requestBuffer 0 =
      .done (Memory.text (connection.requestBuffer.drop 0)) := if_pos start
  cases found : Search.find headerSeparator (Memory.text (connection.requestBuffer.drop 0)) <;>
    simp only [checkedHeaders, completeHeaders, findHeaderEnd, read, Exec.done_bind,
      contentLengthAt_eq sizeModulus start, Exec.pure_eq, found, Option.map_none, Option.map_some]

/-- While the loop runs, every assertion of a round holds. -/
theorem checkedRound_eq {connection : ConnectionContext} {gathering : Gathering}
    (describes : Describes connection gathering) (room : connection.requestLength < capacity)
    (result : RecvResult) : checkedRound connection result = serveRound connection result := by
  have word : capacity < sizeModulus := by decide
  have received := describes.received
  cases result with
  | interrupted => rfl
  | failed => rfl
  | received available =>
      have offered := describes.holds.offered word received
      simp only [checkedRound, serveRound, require_bind (Nat.le_of_lt room), offered]
      by_cases nothing : available.take (capacity - gathering.bytes.length) = []
      · rw [if_pos nothing, if_pos nothing]
      · rw [if_neg nothing, if_neg nothing]
        have fits := describes.holds.take_fits available
        generalize available.take (capacity - gathering.bytes.length) = fresh at nothing fits ⊢
        rcases describes.holds.store_bind fits with ⟨after, holds, stored⟩
        have terminated : 0 ∈ after := holds.terminator (by simp [nothing])
        rw [received, stored, stored, checkedHeaders_eq terminated]

/-- The loop with its assertions is the loop. -/
theorem checkedLoop_eq (results : List RecvResult) :
    Exec.loop (fun connection : ConnectionContext => decide (connection.requestLength < capacity))
        checkedRound (fun _ => Departure.tooLarge) results .cleared =
      Exec.loop (fun connection : ConnectionContext => decide (connection.requestLength < capacity))
        serveRound (fun _ => Departure.tooLarge) results .cleared := by
  have rounds : ∀ connection result, (∃ gathering, Describes connection gathering) →
      decide (connection.requestLength < capacity) = true →
        checkedRound connection result =
          serveRound connection result >>= fun round => .done (round.map id) := by
    rintro connection result ⟨gathering, describes⟩ room
    rw [checkedRound_eq describes (of_decide_eq_true room) result]
    simp only [Round.map_id]
    exact (Exec.bind_done _).symm
  have keeps : ∀ connection result next, (∃ gathering, Describes connection gathering) →
      decide (connection.requestLength < capacity) = true →
        serveRound connection result = .done (.again next) →
          ∃ gathering, Describes next gathering := by
    rintro connection result next ⟨gathering, describes⟩ room again
    have step := serveRound_related connection gathering result describes
    rw [again] at step
    generalize policy.gatherRound gathering result = right at step
    cases step with
    | done related =>
        cases related with
        | again related => exact ⟨_, related⟩
  have leaves : ∀ connection, (∃ gathering, Describes connection gathering) →
      decide (connection.requestLength < capacity) = false →
        Departure.tooLarge = id Departure.tooLarge := fun _ _ _ => rfl
  refine (Exec.loop_map _ id leaves rounds keeps results _
    ⟨{ bytes := [], header := none }, Holds.initial List.length_replicate, rfl, fun _ => rfl,
      fun header absent => by cases absent⟩).trans ?_
  exact Exec.bind_done _

theorem checkedDispatch_eq (server : Registrations) (application : Application)
    (stack : Option CString) (script : List SendResult) {connection : ConnectionContext}
    {bytes : List UInt8} {header : Header}
    (describes : Describes connection { bytes, header := some header }) :
    checkedDispatch server application stack script connection =
      dispatchRequest server application stack script connection := by
  rcases describes.noticed header rfl with ⟨_, headerEnd, announced, inside, _⟩
  have room := describes.holds.room
  have received : connection.requestLength = bytes.length := describes.received
  have word : capacity < sizeModulus := by decide
  change header.headerEnd ≤ bytes.length at inside
  change bytes.length ≤ capacity at room
  have below : connection.headerLength ≤ connection.requestLength := by
    rw [headerEnd, received]
    exact inside
  have difference : Word.sub sizeModulus bytes.length header.headerEnd =
      bytes.length - header.headerEnd := Word.sub_of_le inside (by omega)
  rcases describes.holds.terminated (by rintro rfl; simp at inside; omega) with ⟨stale, split⟩
  rw [rp2040_judges server application stack script connection rfl, checkedDispatch,
    require_bind below]
  change connection.requestBuffer = bytes ++ 0 :: stale at split
  simp only [received, headerEnd, split, difference]
  rw [checkedJudge_eq server (by split <;> omega) room]
  rfl

/-- RP2040 runs as it does without its assertions. -/
theorem checkedConnection_eq (server : Registrations) (application : Application)
    (stack : Option CString) (results : List RecvResult) (script : List SendResult) :
    checkedConnection server application stack results script =
      serveConnection server application stack results script := by
  have related := serveLoop_related results
  rw [checkedConnection, checkedLoop_eq, serveConnection, serveContext]
  cases ran : Exec.loop
      (fun connection : ConnectionContext => decide (connection.requestLength < capacity))
      serveRound (fun _ => Departure.tooLarge) results .cleared with
  | waiting => rfl
  | fault => rfl
  | done departure =>
      rw [ran] at related
      generalize policy.gather results = gathered at related
      cases related with
      | done departs =>
          cases departs with
          | tooLarge => rfl
          | closed => rfl
          | dispatch describes =>
              exact checkedDispatch_eq server application stack script describes

end RP2040

/-! ## No assertion fails -/

/-- What one accepted connection makes visible when every step is asserted. -/
def checkedConnection (platform : Platform) (server : Registrations) (application : Application)
    (stack : Option CString) (buffer : List UInt8) (results : List RecvResult)
    (script : List SendResult) : Exec (List Event) :=
  match platform with
  | .simulator =>
      Posix.checkedConnection (2 ^ 64) server application stack buffer results script
  | .esp32 => Posix.checkedConnection (2 ^ 32) server application stack buffer results script
  | .rp2040 => RP2040.checkedConnection server application stack results script

/-- A reader never faults. -/
theorem gather_ne_fault (policy : Policy) (results : List RecvResult) :
    policy.gather results ≠ .fault := by
  have concludes (ending : Ending) (gathering : Gathering) :
      policy.conclude ending gathering ≠ .fault := by
    cases ending <;> rintro ⟨⟩
  rw [Policy.gather_eq]
  cases found : headerEndOf (policy.feed results).1.flatten with
  | none =>
      rw [Policy.reading_unnoticed found]
      split
      · rintro ⟨⟩
      · exact concludes _ _
  | some headerEnd =>
      rw [Policy.reading_noticed found]
      split
      · rintro ⟨⟩
      · rw [Policy.finishFrom]
        split
        · rintro ⟨⟩
        · exact concludes _ _

/-- What was received is decided inside the buffer. -/
theorem decision_ne_fault (platform : Platform) (server : Registrations)
    (results : List RecvResult) : decision platform server results ≠ .fault := by
  rw [decision]
  cases gathered : platform.policy.gather results with
  | waiting => rintro ⟨⟩
  | fault => exact absurd gathered (gather_ne_fault _ _)
  | done reading =>
      cases reading with
      | refused => rintro ⟨⟩
      | dropped => rintro ⟨⟩
      | complete bytes headerEnd bodyLength =>
          rcases judge_append server (complete_of_gather gathered).inside with ⟨verdict, judged⟩
          simp only [Exec.done_bind, settle, judged []]
          rintro ⟨⟩

/-- On every platform and for every input, the server with its assertions runs
as the server does, and neither of them ever faults: every read and write of
the buffer is inside it, no subtraction goes below zero, the cast of the body's
length loses nothing, and what a callback is handed ends inside the bytes
received and the byte behind them. -/
theorem buffer_never_overrun (platform : Platform) (server : Registrations)
    (application : Application) (stack : Option CString) {buffer : List UInt8}
    (size : buffer.length = httpServerMaxRequestSize) (results : List RecvResult)
    (script : List SendResult) :
    checkedConnection platform server application stack buffer results script =
        serveConnection platform server application stack buffer results script ∧
      checkedConnection platform server application stack buffer results script ≠ .fault := by
  have same : checkedConnection platform server application stack buffer results script =
      serveConnection platform server application stack buffer results script := by
    cases platform with
    | simulator => exact Posix.checkedConnection_eq (by decide) server application stack size _ _
    | esp32 => exact Posix.checkedConnection_eq (by decide) server application stack size _ _
    | rp2040 => exact RP2040.checkedConnection_eq server application stack results script
  refine ⟨same, ?_⟩
  rw [same, serveConnection_eq platform server application stack size]
  have safe := decision_ne_fault platform server results
  cases decided : decision platform server results with
  | waiting => rintro ⟨⟩
  | done verdict => rintro ⟨⟩
  | fault => exact absurd decided safe

/-- A body that fills the buffer, with zero bytes in it, in two segments. -/
def fullRequest : List RecvResult :=
  let headers := ascii "POST / HTTP/1.1\r\nContent-Length: 2006\r\n\r\n"
  [.received (headers ++ List.replicate 1000 0), .interrupted, .received (List.replicate 3000 97)]

theorem fullRequest_inside :
    checkedConnection .esp32 defaultServer idle none (List.replicate 2048 255) fullRequest [] =
        serveConnection .esp32 defaultServer idle none (List.replicate 2048 255) fullRequest [] ∧
      checkedConnection .esp32 defaultServer idle none (List.replicate 2048 255) fullRequest [] ≠
        .fault :=
  buffer_never_overrun .esp32 defaultServer idle none List.length_replicate fullRequest []

end Server
end NetLL
