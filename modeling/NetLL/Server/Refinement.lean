import NetLL.Server.Posix
import NetLL.Server.RP2040
import NetLL.Server.Reading

namespace NetLL
namespace Server

/-!
# The servers refine the reader

The buffer of a server holds the bytes received so far and a terminator, and
behind it whatever was there before.  The read loops of the servers keep this
and take the steps of the abstract reader under their platform's policy.  The
buffer, the machine arithmetic and the stale bytes are then out of the way of
every statement about requests.
-/

/-! ## The buffer -/

/-- The block begins with these bytes, and with a terminator behind them once
anything was received. -/
structure Holds (buffer bytes : List UInt8) : Prop where
  size : buffer.length = httpServerMaxRequestSize
  room : bytes.length ≤ capacity
  front : ∃ tail, buffer = bytes ++ tail ∧ (bytes = [] ∨ ∃ stale, tail = 0 :: stale)

theorem Holds.initial {buffer : List UInt8} (size : buffer.length = httpServerMaxRequestSize) :
    Holds buffer [] :=
  ⟨size, Nat.zero_le _, buffer, rfl, Or.inl rfl⟩

/-- What `recv` is offered is the room that is left. -/
theorem Holds.take_fits {buffer bytes : List UInt8} (holds : Holds buffer bytes)
    (available : List UInt8) :
    bytes.length + (available.take (capacity - bytes.length)).length ≤ capacity := by
  have room := holds.room
  rw [List.length_take]
  omega

theorem Holds.offered {buffer bytes : List UInt8} (holds : Holds buffer bytes) {modulus : Nat}
    (word : capacity < modulus) {received : Nat} (stored : received = bytes.length) :
    Word.sub modulus capacity received = capacity - bytes.length := by
  rw [stored]
  exact Word.sub_of_le holds.room word

theorem Holds.store {buffer bytes fresh : List UInt8} (holds : Holds buffer bytes)
    (fits : bytes.length + fresh.length ≤ capacity) :
    ∃ written after, Memory.write buffer bytes.length fresh = .done written ∧
      Memory.write written (bytes.length + fresh.length) [0] = .done after ∧
      Holds after (bytes ++ fresh) := by
  rcases holds.front with ⟨tail, split, _⟩
  have sizes := holds.size
  have least : capacity + 1 = httpServerMaxRequestSize := rfl
  rw [split, List.length_append] at sizes
  have enough : fresh.length < tail.length := by omega
  obtain ⟨old, stale, rest⟩ : ∃ old stale, tail.drop fresh.length = old :: stale := by
    cases rest : tail.drop fresh.length with
    | nil =>
        have empty := congrArg List.length rest
        rw [List.length_drop, List.length_nil] at empty
        omega
    | cons old stale => exact ⟨old, stale, rfl⟩
  have shown : buffer = bytes ++ tail.take fresh.length ++ old :: stale := by
    rw [split, List.append_assoc, ← rest, List.take_append_drop]
  have width : (tail.take fresh.length).length = fresh.length := by
    rw [List.length_take]
    omega
  have first := Memory.write_middle bytes (tail.take fresh.length) (old :: stale) fresh width
  have second := Memory.write_byte (bytes ++ fresh) old 0 stale
  rw [List.length_append] at second
  rw [← shown] at first
  refine ⟨_, _, first, second, ?_, by rwa [List.length_append], 0 :: stale, rfl,
    Or.inr ⟨stale, rfl⟩⟩
  rw [Memory.write_length second, Memory.write_length first, holds.size]

/-- A round goes on with the bytes and their terminator stored. -/
theorem Holds.store_bind {buffer bytes fresh : List UInt8} (holds : Holds buffer bytes)
    (fits : bytes.length + fresh.length ≤ capacity) :
    ∃ after, Holds after (bytes ++ fresh) ∧ ∀ (β : Type) (next : List UInt8 → Exec β),
      (Memory.write buffer bytes.length fresh >>= fun written =>
        Memory.write written (bytes.length + fresh.length) [0] >>= next) = next after := by
  rcases holds.store fits with ⟨written, after, first, second, stored⟩
  refine ⟨after, stored, fun _ next => ?_⟩
  rw [first, Exec.done_bind, second, Exec.done_bind]

theorem Holds.terminated {buffer bytes : List UInt8} (holds : Holds buffer bytes)
    (nonempty : bytes ≠ []) : ∃ stale, buffer = bytes ++ 0 :: stale := by
  rcases holds.front with ⟨tail, split, empty | ⟨stale, zero⟩⟩
  · exact absurd empty nonempty
  · exact ⟨stale, by rw [split, zero]⟩

theorem Holds.terminator {buffer bytes : List UInt8} (holds : Holds buffer bytes)
    (nonempty : bytes ≠ []) : 0 ∈ buffer := by
  rcases holds.terminated nonempty with ⟨stale, split⟩
  rw [split]
  exact List.mem_append_right _ List.mem_cons_self

/-- The string in the buffer is the text of the bytes received. -/
theorem Holds.cstring {buffer bytes : List UInt8} (holds : Holds buffer bytes)
    (nonempty : bytes ≠ []) : Memory.cstring buffer 0 = .done (Memory.text bytes) := by
  rcases holds.terminated nonempty with ⟨stale, split⟩
  rw [split, Memory.cstring, List.drop_zero, if_pos (by simp), Memory.text_append_zero]

/-! ## The Simulator and ESP32 -/

namespace Posix

theorem target_le (header : Header) (size : Nat) (bounded : header.headerEnd ≤ capacity)
    (wanted : (if capacity - header.headerEnd < header.announced then none
      else some (header.headerEnd + header.announced)) = some size) : size ≤ capacity := by
  split at wanted
  · cases wanted
  · cases wanted
    omega

/-- The decisions of `ReadRequest`. -/
def policy (modulus : Nat) : Policy where
  modulus := modulus
  target := fun header =>
    if capacity - header.headerEnd < header.announced then none
    else some (header.headerEnd + header.announced)
  target_le := target_le
  retries := true
  atClose := fun gathering =>
    match gathering.header with
    | none => .refused
    | some header => header.reading gathering.bytes
  atFailure := .refused

/-- The loop's variables describe the reader. -/
structure Describes (state : ReadState) (gathering : Gathering) : Prop where
  holds : Holds state.buffer gathering.bytes
  received : state.received = gathering.bytes.length
  unnoticed : gathering.header = none → state.headersComplete = false
  noticed : ∀ header, gathering.header = some header →
    state.headersComplete = true ∧ state.headerEnd = header.headerEnd ∧
      state.announcedBody = header.announced ∧ header.headerEnd ≤ gathering.bytes.length ∧
      0 < header.headerEnd ∧ header.announced ≤ capacity - header.headerEnd

/-- Between rounds, a loop that has its header still waits for bytes. -/
structure Awaits (state : ReadState) (gathering : Gathering) : Prop where
  describes : Describes state gathering
  short : ∀ header, gathering.header = some header →
    gathering.bytes.length < header.headerEnd + header.announced

/-- The outputs of `ReadRequest` describe what was read. -/
inductive Yields : ReadResult → Reading → Prop where
  | refused : Yields .refused .refused
  | complete {buffer bytes : List UInt8} {headerEnd bodyLength : Nat}
      (holds : Holds buffer bytes) (header_pos : 0 < headerEnd)
      (inside : headerEnd + bodyLength ≤ bytes.length) :
      Yields (.complete buffer bytes.length headerEnd bodyLength)
        (.complete bytes headerEnd bodyLength)

theorem afterLoop_noticed {modulus : Nat} (large : httpServerMaxRequestSize ≤ modulus)
    {state : ReadState} {bytes : List UInt8} {header : Header}
    (describes : Describes state { bytes, header := some header }) :
    Yields (afterLoop modulus state) (header.reading bytes) := by
  rcases describes.noticed header rfl with ⟨complete, headerEnd, announced, inside, positive, _⟩
  have room := describes.holds.room
  have received := describes.received
  have least : capacity + 1 = httpServerMaxRequestSize := rfl
  have difference : Word.sub modulus state.received state.headerEnd =
      bytes.length - header.headerEnd := by
    rw [received, headerEnd]
    exact Word.sub_of_le inside (by omega)
  have shorter : (if Word.sub modulus state.received state.headerEnd < state.announcedBody then
      Word.sub modulus state.received state.headerEnd else state.announcedBody) =
      min (bytes.length - header.headerEnd) header.announced := by
    rw [difference, announced]
    split <;> omega
  rw [afterLoop, if_pos complete, shorter, received, headerEnd]
  change header.headerEnd ≤ bytes.length at inside
  change Yields (.complete state.buffer bytes.length header.headerEnd _)
    (.complete bytes header.headerEnd _)
  exact .complete describes.holds positive (by omega)

/-- When no more bytes come, the loop is left as the reader concludes. -/
theorem afterLoop_atClose {modulus : Nat} (large : httpServerMaxRequestSize ≤ modulus)
    {state : ReadState} {gathering : Gathering} (describes : Describes state gathering) :
    Yields (afterLoop modulus state) ((policy modulus).atClose gathering) := by
  cases noticed : gathering.header with
  | none =>
      have incomplete := describes.unnoticed noticed
      simp only [policy, noticed, afterLoop, incomplete, Bool.false_eq_true, if_false]
      exact .refused
  | some header =>
      simp only [policy, noticed]
      refine afterLoop_noticed large ?_
      rw [← noticed]
      exact describes

theorem Describes.stored {state : ReadState} {gathering : Gathering} {header : Header}
    (describes : Describes state gathering) (noticed : gathering.header = some header)
    {after fresh : List UInt8} (holds : Holds after (gathering.bytes ++ fresh)) :
    Describes { state with buffer := after, received := (gathering.bytes ++ fresh).length }
      { bytes := gathering.bytes ++ fresh, header := some header } := by
  rcases describes.noticed header noticed with
    ⟨complete, headerEnd, announced, inside, positive, small⟩
  refine ⟨holds, rfl, fun absent => (by cases absent), fun other same => ?_⟩
  cases same
  exact ⟨complete, headerEnd, announced, by rw [List.length_append]; omega, positive, small⟩

/-- The variables of the round that finds the blank line, when the length it
reads there fits. -/
theorem describes_found {modulus : Nat} {bytes after : List UInt8} (holds : Holds after bytes)
    {separator : Nat} (found : Search.find headerSeparator (Memory.text bytes) = some separator)
    (fits : contentLengthOf modulus (Memory.text bytes) ≤ capacity - (separator + 4)) :
    Describes
      { buffer := after
        received := bytes.length
        headerEnd := separator + 4
        announcedBody := contentLengthOf modulus (Memory.text bytes)
        headersComplete := true }
      { bytes
        header := some
          { headerEnd := separator + 4
            announced := contentLengthOf modulus (Memory.text bytes) } } := by
  have inside := Search.find_fits headerSeparator_ne_nil found
  have four : headerSeparator.length = 4 := rfl
  have shorter := Memory.text_length_le bytes
  refine ⟨holds, rfl, fun absent => (by cases absent), fun other same => ?_⟩
  cases same
  exact ⟨rfl, rfl, rfl, by simp only; omega, Nat.succ_pos _, fits⟩

/-- With a header, `ReadRequest` weighs the bytes at hand as the reader does. -/
theorem settle_related {modulus : Nat} (large : 2 * httpServerMaxRequestSize ≤ modulus)
    {state : ReadState} {bytes : List UInt8} {header : Header}
    (describes : Describes state { bytes, header := some header }) :
    Exec.Related (Round.Related Awaits Yields)
      (if Word.add modulus state.headerEnd state.announcedBody ≤ state.received then
        pure (.stop (afterLoop modulus state))
      else pure (.again state))
      (.done ((policy modulus).weigh bytes header)) := by
  rcases describes.noticed header rfl with ⟨_, headerEnd, announced, inside, _, fits⟩
  have room := describes.holds.room
  have received : state.received = bytes.length := describes.received
  have least : capacity + 1 = httpServerMaxRequestSize := rfl
  change header.headerEnd ≤ bytes.length at inside
  change bytes.length ≤ capacity at room
  have sum : Word.add modulus state.headerEnd state.announcedBody =
      header.headerEnd + header.announced := by
    rw [headerEnd, announced]
    exact Word.add_of_lt (by omega)
  have wanted : (policy modulus).target header = some (header.headerEnd + header.announced) :=
    if_neg (by omega)
  rw [sum, received, Policy.weigh, wanted]
  by_cases enough : header.headerEnd + header.announced ≤ bytes.length
  · simp only [if_pos enough]
    exact .done (.stop (afterLoop_noticed (by omega) describes))
  · simp only [if_neg enough]
    refine .done (.again ⟨describes, fun other same => ?_⟩)
    cases same
    exact Nat.lt_of_not_le enough

/-- One round of `ReadRequest` is one step of the reader. -/
theorem readRound_related {modulus : Nat} (large : 2 * httpServerMaxRequestSize ≤ modulus)
    (state : ReadState) (gathering : Gathering) (result : RecvResult)
    (awaits : Awaits state gathering) :
    Exec.Related (Round.Related Awaits Yields) (readRound modulus state result)
      ((policy modulus).gatherRound gathering result) := by
  have least : capacity + 1 = httpServerMaxRequestSize := rfl
  have word : capacity < modulus := by omega
  have describes := awaits.describes
  have received := describes.received
  cases result with
  | interrupted => exact .done (.again awaits)
  | failed => exact .done (.stop .refused)
  | received available =>
      have offered := describes.holds.offered word received
      simp only [readRound, Policy.gatherRound, offered]
      by_cases nothing : available.take (capacity - gathering.bytes.length) = []
      · rw [if_pos nothing, if_pos nothing]
        exact .done (.stop (afterLoop_atClose (by omega) describes))
      · rw [if_neg nothing, if_neg nothing]
        have fits := describes.holds.take_fits available
        generalize available.take (capacity - gathering.bytes.length) = fresh at nothing fits ⊢
        rcases describes.holds.store_bind fits with ⟨after, holds, stored⟩
        rw [received, stored, ← List.length_append]
        cases noticed : gathering.header with
        | some header =>
            rw [if_pos (describes.noticed header noticed).1]
            exact settle_related large (describes.stored noticed holds)
        | none =>
            have incomplete := describes.unnoticed noticed
            rw [if_neg (by simp [incomplete]), holds.cstring (by simp [nothing])]
            simp only [Exec.done_bind, Option.none_or, Policy.notice]
            cases found : Search.find headerSeparator (Memory.text (gathering.bytes ++ fresh)) with
            | none =>
                exact .done (.again ⟨⟨holds, rfl, fun _ => incomplete,
                  fun header absent => by cases absent⟩, fun header absent => by cases absent⟩)
            | some separator =>
                have inside := Search.find_fits headerSeparator_ne_nil found
                have four : headerSeparator.length = 4 := rfl
                have shorter := Memory.text_length_le (gathering.bytes ++ fresh)
                have size : (gathering.bytes ++ fresh).length ≤ capacity := by
                  rw [List.length_append]
                  exact fits
                have space : Word.sub modulus capacity (separator + 4) =
                    capacity - (separator + 4) :=
                  Word.sub_of_le (by omega) (by omega)
                simp only [Option.map_some, space]
                split
                · rename_i tooLarge
                  have refused : (policy modulus).target
                      { headerEnd := separator + 4
                        announced := contentLengthOf (policy modulus).modulus
                          (Memory.text (gathering.bytes ++ fresh)) } = none :=
                    if_pos tooLarge
                  simp only [Policy.weigh, refused]
                  exact .done (.stop .refused)
                · rename_i small
                  exact settle_related large (describes_found holds found (Nat.le_of_not_lt small))

/-- `ReadRequest` computes what the reader computes, and leaves the request
with its terminator in the buffer. -/
theorem readRequest_related {modulus : Nat} (large : 2 * httpServerMaxRequestSize ≤ modulus)
    {buffer : List UInt8} (size : buffer.length = httpServerMaxRequestSize)
    (results : List RecvResult) :
    Exec.Related Yields (readRequest modulus buffer results)
      ((policy modulus).gather results) := by
  refine Exec.loop_related ?_ ?_
    (fun state gathering result awaits _ => readRound_related large state gathering result awaits)
    results _ _
    ⟨⟨Holds.initial size, rfl, fun _ => rfl, fun header absent => by cases absent⟩,
      fun header absent => by cases absent⟩
  · intro state gathering awaits
    rw [awaits.describes.received]
  · intro state gathering awaits full
    have enough : capacity ≤ gathering.bytes.length := by
      rw [← awaits.describes.received]
      simpa using full
    cases noticed : gathering.header with
    | none =>
        rw [afterLoop, if_neg (by simp [awaits.describes.unnoticed noticed])]
        exact .refused
    | some header =>
        rcases awaits.describes.noticed header noticed with ⟨_, _, _, inside, _, fits⟩
        have room := awaits.describes.holds.room
        have short := awaits.short header noticed
        omega

end Posix

/-! ## RP2040 -/

namespace RP2040

/-- The decisions of RP2040's `ServeConnection`. -/
def policy : Policy where
  modulus := sizeModulus
  target := fun header =>
    if capacity < Word.add sizeModulus header.headerEnd header.announced then none
    else some (Word.add sizeModulus header.headerEnd header.announced)
  target_le := by
    intro header size _ wanted
    split at wanted
    · cases wanted
    · cases wanted
      omega
  retries := false
  atClose := fun _ => .dropped
  atFailure := .dropped

/-- The connection's state describes the reader. -/
structure Describes (connection : ConnectionContext) (gathering : Gathering) : Prop where
  holds : Holds connection.requestBuffer gathering.bytes
  received : connection.requestLength = gathering.bytes.length
  unnoticed : gathering.header = none → connection.headersComplete = false
  noticed : ∀ header, gathering.header = some header →
    connection.headersComplete = true ∧ connection.headerLength = header.headerEnd ∧
      connection.expectedBodyLength = header.announced ∧
      header.headerEnd ≤ gathering.bytes.length ∧ 0 < header.headerEnd

/-- The ways out of the loop are the results of the reader. -/
inductive Departs : Departure → Reading → Prop where
  | tooLarge : Departs .tooLarge .refused
  | closed : Departs .closed .dropped
  | dispatch {connection : ConnectionContext} {bytes : List UInt8} {header : Header}
      (describes : Describes connection { bytes, header := some header }) :
      Departs (.dispatch connection) (header.reading bytes)

theorem Describes.stored {connection : ConnectionContext} {gathering : Gathering} {header : Header}
    (describes : Describes connection gathering) (noticed : gathering.header = some header)
    {after fresh : List UInt8} (holds : Holds after (gathering.bytes ++ fresh)) :
    Describes
      { connection with
        requestBuffer := after
        requestLength := (gathering.bytes ++ fresh).length }
      { bytes := gathering.bytes ++ fresh, header := some header } := by
  rcases describes.noticed header noticed with ⟨complete, headerEnd, announced, inside, positive⟩
  refine ⟨holds, rfl, fun absent => (by cases absent), fun other same => ?_⟩
  cases same
  exact ⟨complete, headerEnd, announced, by rw [List.length_append]; omega, positive⟩

/-- The state after the round that finds the blank line. -/
theorem describes_found {bytes after : List UInt8} (holds : Holds after bytes) {separator : Nat}
    (found : Search.find headerSeparator (Memory.text bytes) = some separator) :
    Describes
      { requestBuffer := after
        requestLength := bytes.length
        headerLength := separator + 4
        expectedBodyLength := contentLengthOf sizeModulus (Memory.text bytes)
        headersComplete := true }
      { bytes
        header := some
          { headerEnd := separator + 4
            announced := contentLengthOf sizeModulus (Memory.text bytes) } } := by
  have inside := Search.find_fits headerSeparator_ne_nil found
  have four : headerSeparator.length = 4 := rfl
  have shorter := Memory.text_length_le bytes
  refine ⟨holds, rfl, fun absent => (by cases absent), fun other same => ?_⟩
  cases same
  exact ⟨rfl, rfl, rfl, by simp only; omega, Nat.succ_pos _⟩

/-- With its headers complete, `ServeConnection` weighs the bytes at hand as
the reader does. -/
theorem settle_related {connection : ConnectionContext} {bytes : List UInt8} {header : Header}
    (describes : Describes connection { bytes, header := some header }) :
    Exec.Related (Round.Related Describes Departs)
      (if !connection.headersComplete then pure (.again connection)
      else if capacity < Word.add sizeModulus connection.headerLength
          connection.expectedBodyLength then pure (.stop .tooLarge)
      else if !requestIsComplete connection then pure (.again connection)
      else pure (.stop (.dispatch connection)))
      (.done (policy.weigh bytes header)) := by
  rcases describes.noticed header rfl with ⟨complete, headerEnd, announced, _, _⟩
  have received : connection.requestLength = bytes.length := describes.received
  have whole : requestIsComplete connection =
      decide (Word.add sizeModulus header.headerEnd header.announced ≤ bytes.length) := by
    rw [requestIsComplete, complete, headerEnd, announced, received, Bool.true_and]
  rw [if_neg (by simp [complete]), headerEnd, announced, whole]
  by_cases tooLarge : capacity < Word.add sizeModulus header.headerEnd header.announced
  · have refused : policy.target header = none := if_pos tooLarge
    rw [if_pos tooLarge]
    simp only [Policy.weigh, refused]
    exact .done (.stop .tooLarge)
  · have wanted : policy.target header =
        some (Word.add sizeModulus header.headerEnd header.announced) := if_neg tooLarge
    rw [if_neg tooLarge]
    simp only [Policy.weigh, wanted]
    by_cases enough : Word.add sizeModulus header.headerEnd header.announced ≤ bytes.length
    · rw [if_neg (by simp [enough]), if_pos enough]
      exact .done (.stop (.dispatch describes))
    · rw [if_pos (by simp [enough]), if_neg enough]
      exact .done (.again describes)

/-- One round of `ServeConnection` is one step of the reader. -/
theorem serveRound_related (connection : ConnectionContext) (gathering : Gathering)
    (result : RecvResult) (describes : Describes connection gathering) :
    Exec.Related (Round.Related Describes Departs) (serveRound connection result)
      (policy.gatherRound gathering result) := by
  have least : capacity + 1 = httpServerMaxRequestSize := rfl
  have word : capacity < sizeModulus := by decide
  have received := describes.received
  cases result with
  | interrupted => exact .done (.stop .closed)
  | failed => exact .done (.stop .closed)
  | received available =>
      have offered := describes.holds.offered word received
      simp only [serveRound, Policy.gatherRound, offered]
      by_cases nothing : available.take (capacity - gathering.bytes.length) = []
      · rw [if_pos nothing, if_pos nothing]
        exact .done (.stop .closed)
      · rw [if_neg nothing, if_neg nothing]
        have fits := describes.holds.take_fits available
        generalize available.take (capacity - gathering.bytes.length) = fresh at nothing fits ⊢
        rcases describes.holds.store_bind fits with ⟨after, holds, stored⟩
        rw [received, stored, ← List.length_append]
        cases noticed : gathering.header with
        | some header =>
            rw [if_pos (describes.noticed header noticed).1]
            exact settle_related (describes.stored noticed holds)
        | none =>
            have incomplete := describes.unnoticed noticed
            have headers : Memory.cstring after 0 =
                .done (Memory.text (gathering.bytes ++ fresh)) := holds.cstring (by simp [nothing])
            rw [if_neg (by simp [incomplete])]
            simp only [completeHeaders, findHeaderEnd, headers, Exec.done_bind, Exec.pure_eq,
              Option.none_or, Policy.notice]
            cases found : Search.find headerSeparator (Memory.text (gathering.bytes ++ fresh)) with
            | none =>
                simp only [Option.map_none, Exec.done_bind, incomplete, Bool.not_false, if_true]
                exact .done (.again ⟨holds, rfl, fun _ => rfl, fun header absent => by cases absent⟩)
            | some separator =>
                simp only [Option.map_some, Exec.done_bind]
                exact settle_related (describes_found holds found)

/-- The loop of `ServeConnection` ends as the reader does. -/
theorem serveLoop_related (results : List RecvResult) :
    Exec.Related Departs
      (Exec.loop (fun connection : ConnectionContext => decide (connection.requestLength < capacity))
        serveRound (fun _ => Departure.tooLarge) results .cleared)
      (policy.gather results) := by
  refine Exec.loop_related ?_ (fun _ _ _ _ => .tooLarge)
    (fun connection gathering result describes _ =>
      serveRound_related connection gathering result describes) results _ _
    ⟨Holds.initial List.length_replicate, rfl, fun _ => rfl,
      fun header absent => by cases absent⟩
  intro connection gathering describes
  rw [describes.received]

end RP2040

end Server
end NetLL
