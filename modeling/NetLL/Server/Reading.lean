import NetLL.Library.Segments
import NetLL.Server.ContentLength
import NetLL.Server.Interface

namespace NetLL
namespace Server

/-!
# Reading a request, abstractly

A reader gathers bytes until it has a header section and then until it has
what the header announces.  This is all that matters of the two read loops:
there is no buffer here, no terminator and no machine word, only the bytes
received so far and the header, once it was noticed.  What the platforms
decide differently is a policy.

The run of a reader is computed in closed form from the segments in which the
stream arrives.  The reader sees the stream at segment ends only, so it
notices the header at the first end behind the blank line, and it is done at
the first end behind the bytes it waits for.
-/

/-- What a reader knows of a header section: where it ends, and the word the
platform computed from what the bytes at hand announce. -/
structure Header where
  headerEnd : Nat
  announced : Nat
deriving DecidableEq, Repr

/-- The result of reading one request. -/
inductive Reading where
  | refused
  | dropped
  | complete (bytes : List UInt8) (headerEnd bodyLength : Nat)
deriving DecidableEq, Repr

/-- A reader between two receive results. -/
structure Gathering where
  bytes : List UInt8
  header : Option Header
deriving DecidableEq, Repr

/-- How the stream ends: nothing more comes, the peer closed, or `recv` failed. -/
inductive Ending where
  | silent
  | closed
  | failed
deriving DecidableEq, Repr

/-- The request with the bytes at hand.  The body is what was announced, or
what there is of it. -/
def Header.reading (header : Header) (bytes : List UInt8) : Reading :=
  .complete bytes header.headerEnd (min (bytes.length - header.headerEnd) header.announced)

/-- What a platform decides: the modulus of its word, the number of bytes to
wait for, if they fit at all, whether an interrupted `recv` is repeated, and
what is done when no more bytes come. -/
structure Policy where
  modulus : Nat
  target : Header → Option Nat
  target_le : ∀ header size, header.headerEnd ≤ capacity → target header = some size →
    size ≤ capacity
  retries : Bool
  atClose : Gathering → Reading
  atFailure : Reading

namespace Policy

/-- The header, once the blank line is among the bytes. -/
def notice (policy : Policy) (bytes : List UInt8) : Option Header :=
  (Search.find headerSeparator (Memory.text bytes)).map fun separator =>
    { headerEnd := separator + 4
      announced := contentLengthOf policy.modulus (Memory.text bytes) }

/-- What a reader does with more bytes and a header. -/
def weigh (policy : Policy) (bytes : List UInt8) (header : Header) : Round Gathering Reading :=
  match policy.target header with
  | none => .stop .refused
  | some target =>
      if target ≤ bytes.length then .stop (header.reading bytes)
      else .again { bytes, header := some header }

/-- One receive result. -/
def gatherRound (policy : Policy) (gathering : Gathering) (result : RecvResult) :
    Exec (Round Gathering Reading) :=
  match result with
  | .interrupted => .done (if policy.retries then .again gathering else .stop policy.atFailure)
  | .failed => .done (.stop policy.atFailure)
  | .received available =>
      let fresh := available.take (capacity - gathering.bytes.length)
      if fresh = [] then .done (.stop (policy.atClose gathering))
      else
        let bytes := gathering.bytes ++ fresh
        match gathering.header.or (policy.notice bytes) with
        | none => .done (.again { bytes, header := none })
        | some header => .done (policy.weigh bytes header)

/-- A reader with room left keeps receiving; a full one without a request
refuses. -/
def gatherFrom (policy : Policy) : List RecvResult → Gathering → Exec Reading :=
  Exec.loop (fun gathering : Gathering => decide (gathering.bytes.length < capacity))
    policy.gatherRound (fun _ => .refused)

/-- The run of a reader on the receive results of one connection. -/
def gather (policy : Policy) (results : List RecvResult) : Exec Reading :=
  policy.gatherFrom results { bytes := [], header := none }

/-! ## Segments -/

/-- The segments a reader receives, and how they end. -/
def feed (policy : Policy) : List RecvResult → List (List UInt8) × Ending
  | [] => ([], .silent)
  | .interrupted :: rest => if policy.retries then policy.feed rest else ([], .failed)
  | .failed :: _ => ([], .failed)
  | .received bytes :: rest =>
      if bytes = [] then ([], .closed) else (bytes :: (policy.feed rest).1, (policy.feed rest).2)

/-- A reader that is not done when the segments end. -/
def conclude (policy : Policy) (ending : Ending) (gathering : Gathering) : Exec Reading :=
  match ending with
  | .silent => .waiting
  | .closed => .done (policy.atClose gathering)
  | .failed => .done policy.atFailure

/-- The bytes a reader has when it first has this many, counting what it had
before the segments. -/
def sizeAt (held : Nat) (segments : List (List UInt8)) (position : Nat) : Nat :=
  min capacity (held + Segments.boundary segments (position - held))

/-- The rest of a run behind the header. -/
def finishFrom (policy : Policy) (held : List UInt8) (segments : List (List UInt8))
    (ending : Ending) (header : Header) (target : Nat) : Exec Reading :=
  let stream := held ++ segments.flatten
  if target ≤ stream.length then
    .done (header.reading (stream.take (sizeAt held.length segments target)))
  else policy.conclude ending { bytes := stream, header := some header }

/-- The run of a reader that holds some bytes without a header section. -/
def readingFrom (policy : Policy) (held : List UInt8) (segments : List (List UInt8))
    (ending : Ending) : Exec Reading :=
  let stream := held ++ segments.flatten
  match Search.find headerSeparator (Memory.text (stream.take capacity)) with
  | none =>
      if capacity ≤ stream.length then .done .refused
      else policy.conclude ending { bytes := stream, header := none }
  | some separator =>
      let noticed := sizeAt held.length segments (separator + 4)
      let header : Header :=
        { headerEnd := separator + 4
          announced := contentLengthOf policy.modulus (Memory.text (stream.take noticed)) }
      match policy.target header with
      | none => .done .refused
      | some target => policy.finishFrom held segments ending header (max noticed target)

/-- The run of a reader in closed form. -/
def reading (policy : Policy) (segments : List (List UInt8)) (ending : Ending) : Exec Reading :=
  policy.readingFrom [] segments ending

/-! ## One segment -/

theorem take_first (held bytes rest : List UInt8) (room : held.length < capacity) :
    (held ++ (bytes ++ rest)).take (min capacity (held.length + bytes.length)) =
      held ++ bytes.take (capacity - held.length) := by
  have size : min capacity (held.length + bytes.length) =
      held.length + min (capacity - held.length) bytes.length := by omega
  rw [size, List.take_length_add_append, ← List.take_take, List.take_append_of_le_length
    (Nat.le_refl _), List.take_length]

theorem length_first (held bytes : List UInt8) (room : held.length < capacity) :
    (held ++ bytes.take (capacity - held.length)).length =
      min capacity (held.length + bytes.length) := by
  rw [List.length_append, List.length_take]
  omega

theorem sizeAt_here {held position : Nat} {bytes : List UInt8} {rest : List (List UInt8)}
    (inside : position ≤ held + bytes.length) :
    sizeAt held (bytes :: rest) position = min capacity (held + bytes.length) := by
  rw [sizeAt, Segments.boundary, if_pos (by omega)]

theorem sizeAt_later {held position : Nat} {bytes : List UInt8} {rest : List (List UInt8)}
    (past : held + bytes.length < position) :
    sizeAt held (bytes :: rest) position = sizeAt (held + bytes.length) rest position := by
  rw [sizeAt, sizeAt, Segments.boundary, if_neg (by omega)]
  congr 1
  have shift : position - held - bytes.length = position - (held + bytes.length) := by omega
  rw [shift]
  omega

theorem feed_received {policy : Policy} {bytes : List UInt8} (nonempty : bytes ≠ [])
    (rest : List RecvResult) :
    policy.feed (.received bytes :: rest) = (bytes :: (policy.feed rest).1, (policy.feed rest).2) := by
  rw [feed, if_neg nonempty]

theorem finishFrom_here {policy : Policy} {held bytes : List UInt8} {rest : List (List UInt8)}
    {ending : Ending} {header : Header} {target : Nat} (room : held.length < capacity)
    (inside : target ≤ held.length + bytes.length) :
    policy.finishFrom held (bytes :: rest) ending header target =
      .done (header.reading (held ++ bytes.take (capacity - held.length))) := by
  rw [finishFrom, List.flatten_cons, sizeAt_here inside, take_first held bytes _ room,
    if_pos (by simp only [List.length_append]; omega)]

theorem finishFrom_later {policy : Policy} {held bytes : List UInt8} {rest : List (List UInt8)}
    {ending : Ending} {header : Header} {target : Nat}
    (past : held.length + bytes.length < target) :
    policy.finishFrom held (bytes :: rest) ending header target =
      policy.finishFrom (held ++ bytes) rest ending header target := by
  have sizes : (held ++ bytes).length = held.length + bytes.length := List.length_append
  rw [finishFrom, finishFrom, List.flatten_cons, sizeAt_later past, ← List.append_assoc, sizes]

/-! ## Behind the header -/

/-- A reader that knows its header reads on until it has the bytes it waits
for, or the stream ends. -/
theorem gatherFrom_header {policy : Policy} {header : Header} {target : Nat}
    (bounded : header.headerEnd ≤ capacity) (wanted : policy.target header = some target)
    (results : List RecvResult) (held : List UInt8) (short : held.length < target) :
    policy.gatherFrom results { bytes := held, header := some header } =
      policy.finishFrom held (policy.feed results).1 (policy.feed results).2 header target := by
  have fits := policy.target_le header target bounded wanted
  have room : held.length < capacity := by omega
  have unfinished : ¬ target ≤ (held ++ ([] : List (List UInt8)).flatten).length := by
    rw [List.flatten_nil, List.append_nil]
    omega
  induction results generalizing held with
  | nil =>
      rw [gatherFrom, Exec.loop, if_pos (by simpa using room), feed, finishFrom, if_neg unfinished]
      rfl
  | cons result rest inductionHypothesis =>
      rw [gatherFrom, Exec.loop, if_pos (by simpa using room)]
      cases result with
      | interrupted =>
          by_cases retries : policy.retries = true
          · simp only [gatherRound, retries, if_true, feed]
            exact inductionHypothesis held short room unfinished
          · simp only [gatherRound, retries, feed, Bool.false_eq_true, if_false]
            rw [finishFrom, if_neg unfinished]
            rfl
      | failed =>
          simp only [gatherRound, feed]
          rw [finishFrom, if_neg unfinished]
          rfl
      | received bytes =>
          by_cases empty : bytes = []
          · subst empty
            simp only [gatherRound, List.take_nil, if_true, feed]
            rw [finishFrom, if_neg unfinished, List.flatten_nil, List.append_nil]
            rfl
          · have fresh : bytes.take (capacity - held.length) ≠ [] := by
              rw [ne_eq, List.take_eq_nil_iff, not_or]
              exact ⟨by omega, empty⟩
            rw [feed_received empty]
            simp only [gatherRound, if_neg fresh, Option.some_or, weigh, wanted,
              length_first held bytes room]
            by_cases inside : target ≤ held.length + bytes.length
            · rw [if_pos (by omega), finishFrom_here room inside]
            · have whole : bytes.take (capacity - held.length) = bytes :=
                List.take_of_length_le (by omega)
              rw [if_neg (by omega), finishFrom_later (by omega), whole]
              exact inductionHypothesis (held ++ bytes)
                (by rw [List.length_append]; omega) (by rw [List.length_append]; omega)
                (by rw [List.flatten_nil, List.append_nil, List.length_append]; omega)

/-! ## In front of the header -/

theorem notice_eq_none_iff (policy : Policy) (bytes : List UInt8) :
    policy.notice bytes = none ↔ Search.find headerSeparator (Memory.text bytes) = none :=
  Option.map_eq_none_iff

/-- The blank line is found in a piece of the stream exactly when it lies in
that piece. -/
theorem find_separator_take (stream : List UInt8) {size separator : Nat} (inside : size ≤ capacity)
    (found : Search.find headerSeparator (Memory.text (stream.take capacity)) = some separator) :
    Search.find headerSeparator (Memory.text (stream.take size)) =
      if separator + 4 ≤ size then some separator else none := by
  have piece : stream.take size = (stream.take capacity).take size := by
    rw [List.take_take, Nat.min_eq_left inside]
  rw [piece, Memory.text_take]
  split
  · rename_i fits
    exact (Search.find_take_eq_some_iff headerSeparator_ne_nil _ _ _).mpr ⟨found, fits⟩
  · rename_i past
    cases result : Search.find headerSeparator ((Memory.text (stream.take capacity)).take size) with
    | none => rfl
    | some other =>
        rcases (Search.find_take_eq_some_iff headerSeparator_ne_nil _ _ _).mp result with
          ⟨whole, fits⟩
        rw [found, Option.some.injEq] at whole
        subst whole
        exact absurd fits past

theorem separator_le {stream : List UInt8} {separator : Nat}
    (found : Search.find headerSeparator (Memory.text (stream.take capacity)) = some separator) :
    separator + 4 ≤ capacity ∧ separator + 4 ≤ stream.length := by
  have fits := Search.find_fits headerSeparator_ne_nil found
  have four : headerSeparator.length = 4 := rfl
  have shorter := Memory.text_length_le (stream.take capacity)
  rw [List.length_take] at shorter
  omega

/-- With nothing more to come, a reader without a header concludes. -/
theorem readingFrom_nil {policy : Policy} {held : List UInt8} {ending : Ending}
    (room : held.length < capacity) (unnoticed : policy.notice held = none) :
    policy.readingFrom held [] ending =
      policy.conclude ending { bytes := held, header := none } := by
  have whole : (held ++ ([] : List (List UInt8)).flatten) = held := by
    rw [List.flatten_nil, List.append_nil]
  rw [notice_eq_none_iff] at unnoticed
  have missing : Search.find headerSeparator (Memory.text (held.take capacity)) = none := by
    rwa [List.take_of_length_le (by omega)]
  unfold readingFrom
  simp only [whole, missing]
  rw [if_neg (by omega)]

theorem readingFrom_unnoticed {policy : Policy} {held bytes : List UInt8}
    {rest : List (List UInt8)} {ending : Ending} (room : held.length + bytes.length < capacity)
    (unnoticed : policy.notice (held ++ bytes) = none) :
    policy.readingFrom held (bytes :: rest) ending =
      policy.readingFrom (held ++ bytes) rest ending := by
  have sizes : (held ++ bytes).length = held.length + bytes.length := List.length_append
  rw [notice_eq_none_iff] at unnoticed
  unfold readingFrom
  simp only [List.flatten_cons, ← List.append_assoc]
  cases found : Search.find headerSeparator
      (Memory.text ((held ++ bytes ++ rest.flatten).take capacity)) with
  | none => rfl
  | some separator =>
      have late : held.length + bytes.length < separator + 4 := by
        have early := find_separator_take (held ++ bytes ++ rest.flatten) (Nat.le_of_lt room) found
        rw [List.take_left' sizes, unnoticed] at early
        by_contra fits
        rw [if_pos (by omega)] at early
        cases early
      simp only [sizeAt_later late, sizes]
      cases policy.target _ with
      | none => rfl
      | some target =>
          apply finishFrom_later
          have bound := (separator_le found).1
          have enough : separator + 4 ≤ held.length + bytes.length +
              Segments.boundary rest (separator + 4 - (held.length + bytes.length)) := by
            have inStream := (separator_le found).2
            simp only [List.length_append] at inStream
            have reached := Segments.le_boundary rest
              (separator + 4 - (held.length + bytes.length)) (by omega)
            omega
          have atLeast : separator + 4 ≤ sizeAt (held.length + bytes.length) rest (separator + 4) :=
            Nat.le_min.mpr ⟨bound, enough⟩
          omega

/-- A full reader without a header refuses, whatever is still to come. -/
theorem gatherFrom_full (policy : Policy) (results : List RecvResult) (held : List UInt8)
    (full : held.length = capacity) :
    policy.gatherFrom results { bytes := held, header := none } = .done .refused := by
  cases results with
  | nil => rw [gatherFrom, Exec.loop, if_neg (by simp [full])]
  | cons result rest => rw [gatherFrom, Exec.loop, if_neg (by simp [full])]

theorem readingFrom_full {policy : Policy} {held bytes : List UInt8} {rest : List (List UInt8)}
    {ending : Ending} (room : held.length < capacity)
    (full : capacity ≤ held.length + bytes.length)
    (unnoticed : policy.notice (held ++ bytes.take (capacity - held.length)) = none) :
    policy.readingFrom held (bytes :: rest) ending = .done .refused := by
  have piece := take_first held bytes rest.flatten room
  rw [Nat.min_eq_left full] at piece
  rw [notice_eq_none_iff, ← piece] at unnoticed
  unfold readingFrom
  simp only [List.flatten_cons, unnoticed]
  rw [if_pos (by simp only [List.length_append]; omega)]

theorem readingFrom_noticed {policy : Policy} {held bytes : List UInt8} {rest : List (List UInt8)}
    {ending : Ending} {header : Header} (room : held.length < capacity)
    (noticed : policy.notice (held ++ bytes.take (capacity - held.length)) = some header) :
    policy.readingFrom held (bytes :: rest) ending =
      match policy.target header with
      | none => .done .refused
      | some target => policy.finishFrom held (bytes :: rest) ending header
          (max (min capacity (held.length + bytes.length)) target) := by
  have piece := take_first held bytes rest.flatten room
  have size := length_first held bytes room
  rcases Option.map_eq_some_iff.mp noticed with ⟨separator, found, headerEq⟩
  rw [← piece] at found headerEq
  have whole : Search.find headerSeparator
      (Memory.text ((held ++ (bytes ++ rest.flatten)).take capacity)) = some separator := by
    have cut : (held ++ (bytes ++ rest.flatten)).take (min capacity (held.length + bytes.length)) =
        ((held ++ (bytes ++ rest.flatten)).take capacity).take
          (min capacity (held.length + bytes.length)) := by
      rw [List.take_take, Nat.min_comm capacity, Nat.min_assoc, Nat.min_self]
    rw [cut, Memory.text_take] at found
    exact ((Search.find_take_eq_some_iff headerSeparator_ne_nil _ _ _).mp found).1
  have inside : separator + 4 ≤ held.length + bytes.length := by
    have early := find_separator_take _ (Nat.min_le_left capacity (held.length + bytes.length)) whole
    rw [found] at early
    by_contra past
    rw [if_neg (by omega)] at early
    cases early
  unfold readingFrom
  simp only [List.flatten_cons, whole, sizeAt_here inside, headerEq]

theorem notice_le {policy : Policy} {bytes : List UInt8} {header : Header}
    (noticed : policy.notice bytes = some header) : header.headerEnd ≤ bytes.length := by
  rcases Option.map_eq_some_iff.mp noticed with ⟨separator, found, headerEq⟩
  have fits := Search.find_fits headerSeparator_ne_nil found
  have four : headerSeparator.length = 4 := rfl
  have shorter := Memory.text_length_le bytes
  rw [← headerEq]
  change separator + 4 ≤ bytes.length
  omega

/-- The round that notices the header, and the rounds after it. -/
theorem weigh_noticed {policy : Policy} {held bytes : List UInt8} {header : Header}
    (room : held.length < capacity)
    (noticed : policy.notice (held ++ bytes.take (capacity - held.length)) = some header)
    (rest : List RecvResult) :
    (match policy.weigh (held ++ bytes.take (capacity - held.length)) header with
      | .again next => policy.gatherFrom rest next
      | .stop result => .done result) =
    policy.readingFrom held (bytes :: (policy.feed rest).1) (policy.feed rest).2 := by
  have size := length_first held bytes room
  have bounded := notice_le noticed
  rw [size] at bounded
  rw [readingFrom_noticed room noticed, weigh]
  cases wanted : policy.target header with
  | none => rfl
  | some target =>
      have fits := policy.target_le header target (by omega) wanted
      simp only [size]
      by_cases inside : target ≤ min capacity (held.length + bytes.length)
      · rw [if_pos inside, Nat.max_eq_left inside, finishFrom_here room (Nat.min_le_right _ _)]
      · have whole : bytes.take (capacity - held.length) = bytes :=
          List.take_of_length_le (by omega)
        rw [if_neg inside, Nat.max_eq_right (by omega), whole, finishFrom_later (by omega)]
        exact gatherFrom_header (by omega) wanted rest (held ++ bytes)
          (by rw [List.length_append]; omega)

/-- The loop is the closed form. -/
theorem gatherFrom_eq (policy : Policy) (results : List RecvResult) (held : List UInt8)
    (room : held.length < capacity) (unnoticed : policy.notice held = none) :
    policy.gatherFrom results { bytes := held, header := none } =
      policy.readingFrom held (policy.feed results).1 (policy.feed results).2 := by
  induction results generalizing held with
  | nil =>
      rw [gatherFrom, Exec.loop, if_pos (by simpa using room), feed, readingFrom_nil room unnoticed]
      rfl
  | cons result rest inductionHypothesis =>
      rw [gatherFrom, Exec.loop, if_pos (by simpa using room)]
      cases result with
      | interrupted =>
          by_cases retries : policy.retries = true
          · simp only [gatherRound, retries, if_true, feed]
            exact inductionHypothesis held room unnoticed
          · simp only [gatherRound, retries, feed, Bool.false_eq_true, if_false]
            rw [readingFrom_nil room unnoticed]
            rfl
      | failed =>
          simp only [gatherRound, feed]
          rw [readingFrom_nil room unnoticed]
          rfl
      | received bytes =>
          by_cases empty : bytes = []
          · subst empty
            simp only [gatherRound, List.take_nil, if_true, feed]
            rw [readingFrom_nil room unnoticed]
            rfl
          · have fresh : bytes.take (capacity - held.length) ≠ [] := by
              rw [ne_eq, List.take_eq_nil_iff, not_or]
              exact ⟨by omega, empty⟩
            have size := length_first held bytes room
            rw [feed_received empty]
            simp only [gatherRound, if_neg fresh, Option.none_or]
            cases noticed : policy.notice (held ++ bytes.take (capacity - held.length)) with
            | none =>
                by_cases full : capacity ≤ held.length + bytes.length
                · rw [readingFrom_full room full noticed]
                  exact gatherFrom_full policy rest _ (by rw [size]; omega)
                · have whole : bytes.take (capacity - held.length) = bytes :=
                    List.take_of_length_le (by omega)
                  rw [whole] at noticed
                  rw [readingFrom_unnoticed (by omega) noticed, whole]
                  exact inductionHypothesis (held ++ bytes)
                    (by rw [List.length_append]; omega) noticed
            | some header =>
                rw [← weigh_noticed room noticed rest]
                simp only
                cases policy.weigh (held ++ bytes.take (capacity - held.length)) header <;> rfl

/-- Every run of a reader, in closed form. -/
theorem gather_eq (policy : Policy) (results : List RecvResult) :
    policy.gather results = policy.reading (policy.feed results).1 (policy.feed results).2 := by
  have room : ([] : List UInt8).length < capacity := by decide
  exact gatherFrom_eq policy results [] room rfl

end Policy

end Server
end NetLL
