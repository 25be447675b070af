import NetLL.Server.Service

namespace NetLL
namespace Server

/-!
# A stream in segments

A client sends a stream, and the network cuts it.  The receive results of a
connection are the segments of the stream and the way it ends.  A segment
longer than the space asked for is received up to that space.

The closed form of a reader's run is restated here for streams.  The header
section ends where it ends in the stream, whatever the cut.  What is read of
the announced length is decided by the first segment end behind that place.
-/

/-- The segments are pieces of at least one byte, and are the stream in order. -/
structure Splits (segments : List (List UInt8)) (stream : List UInt8) : Prop where
  whole : segments.flatten = stream
  nonempty : ∀ segment ∈ segments, segment ≠ []

/-- The receive result that reports how a stream ends. -/
def Ending.results : Ending → List RecvResult
  | .silent => []
  | .closed => [.received []]
  | .failed => [.failed]

/-- The receive results of a stream in segments. -/
def arrival (segments : List (List UInt8)) (ending : Ending) : List RecvResult :=
  segments.map .received ++ ending.results

/-- Where the header section of a stream ends, if it ends within the buffer. -/
def headerEndOf (stream : List UInt8) : Option Nat :=
  (Search.find headerSeparator (Memory.text (stream.take capacity))).map (· + 4)

/-- The string in the buffer when this many bytes were received. -/
def view (stream : List UInt8) (size : Nat) : List UInt8 :=
  Memory.text (stream.take size)

/-- The number of bytes at hand in the round that completes the headers. -/
def noticedAt (segments : List (List UInt8)) (headerEnd : Nat) : Nat :=
  min capacity (Segments.boundary segments headerEnd)

namespace Splits

theorem single {stream : List UInt8} (nonempty : stream ≠ []) : Splits [stream] stream := by
  constructor
  · rw [List.flatten_singleton]
  · intro segment member
    rw [List.mem_singleton.mp member]
    exact nonempty

theorem cut {stream : List UInt8} {place : Nat} (positive : 0 < place)
    (inside : place < stream.length) : Splits [stream.take place, stream.drop place] stream := by
  constructor
  · simp
  · intro segment member
    rw [List.mem_cons, List.mem_singleton] at member
    rcases member with first | second
    · rw [first, ne_eq, List.take_eq_nil_iff, not_or]
      exact ⟨by omega, by rintro rfl; simp at inside⟩
    · rw [second, ne_eq, List.drop_eq_nil_iff]
      omega

/-- Every place of a stream is the first segment end at or after any earlier
place, for some split of the stream. -/
theorem exists_boundary {stream : List UInt8} {place : Nat} (positive : 0 < place)
    (inside : place ≤ stream.length) :
    ∃ segments, Splits segments stream ∧
      ∀ position, position ≤ place → Segments.boundary segments position = place := by
  rcases Nat.eq_or_lt_of_le inside with last | before
  · refine ⟨[stream], single (by rintro rfl; simp at last; omega), fun position early => ?_⟩
    rw [Segments.boundary_singleton stream (by omega), last]
  · exact ⟨_, cut positive before, fun position early => Segments.boundary_cut stream inside early⟩

end Splits

theorem headerEndOf_eq_some_iff (stream : List UInt8) (headerEnd : Nat) :
    headerEndOf stream = some headerEnd ↔
      ∃ separator, Search.find headerSeparator (view stream capacity) = some separator ∧
        separator + 4 = headerEnd :=
  Option.map_eq_some_iff

theorem headerEndOf_le {stream : List UInt8} {headerEnd : Nat}
    (found : headerEndOf stream = some headerEnd) :
    0 < headerEnd ∧ headerEnd ≤ capacity ∧ headerEnd ≤ stream.length := by
  rcases (headerEndOf_eq_some_iff _ _).mp found with ⟨separator, here, rfl⟩
  have bounds := Policy.separator_le here
  exact ⟨by omega, bounds.1, bounds.2⟩

theorem view_take (stream : List UInt8) {size whole : Nat} (inside : size ≤ whole) :
    view stream size = (view stream whole).take size := by
  unfold view
  rw [← Memory.text_take, List.take_take, Nat.min_eq_left inside]

theorem view_headerEnd {stream : List UInt8} {headerEnd : Nat}
    (found : headerEndOf stream = some headerEnd) :
    view stream headerEnd = stream.take headerEnd := by
  have bounds := headerEndOf_le found
  rcases (headerEndOf_eq_some_iff _ _).mp found with ⟨separator, here, equal⟩
  have fits := Search.find_fits headerSeparator_ne_nil here
  have four : headerSeparator.length = 4 := rfl
  have shown : (view stream headerEnd).length = headerEnd := by
    rw [view_take stream bounds.2.1, List.length_take]
    omega
  have initial : view stream headerEnd <+: stream.take headerEnd := List.takeWhile_prefix _
  apply initial.eq_of_length
  rw [shown, List.length_take]
  omega

/-- Behind the header section, a view shows more of the text that follows. -/
theorem view_append {stream : List UInt8} {headerEnd size : Nat}
    (found : headerEndOf stream = some headerEnd) (past : headerEnd ≤ size) :
    view stream size = stream.take headerEnd ++ view (stream.drop headerEnd) (size - headerEnd) := by
  have clean : 0 ∉ stream.take headerEnd := by
    rw [← view_headerEnd found]
    exact Memory.zero_not_mem_text _
  have split : stream.take size =
      stream.take headerEnd ++ (stream.drop headerEnd).take (size - headerEnd) := by
    rw [← List.take_add, Nat.add_sub_cancel' past]
  rw [view, split, Memory.text_append clean]
  rfl

namespace Policy

theorem feed_segments (policy : Policy) {segments : List (List UInt8)}
    (nonempty : ∀ segment ∈ segments, segment ≠ []) (rest : List RecvResult) :
    policy.feed (segments.map .received ++ rest) =
      (segments ++ (policy.feed rest).1, (policy.feed rest).2) := by
  induction segments with
  | nil => rfl
  | cons segment more inductionHypothesis =>
      rw [List.map_cons, List.cons_append, feed_received (nonempty segment List.mem_cons_self),
        inductionHypothesis (fun other member => nonempty other (List.mem_cons_of_mem _ member))]
      rfl

theorem feed_arrival (policy : Policy) {segments : List (List UInt8)}
    (nonempty : ∀ segment ∈ segments, segment ≠ []) (ending : Ending) :
    policy.feed (arrival segments ending) = (segments, ending) := by
  have last : policy.feed ending.results = ([], ending) := by
    cases ending <;> simp [Ending.results, feed]
  rw [arrival, feed_segments policy nonempty, last, List.append_nil]

/-! ## The closed form for streams -/

/-- What the reader knows when it notices the header section. -/
def headerAt (policy : Policy) (stream : List UInt8) (headerEnd size : Nat) : Header where
  headerEnd := headerEnd
  announced := contentLengthOf policy.modulus (view stream size)

theorem sizeAt_zero (segments : List (List UInt8)) (position : Nat) :
    sizeAt 0 segments position = min capacity (Segments.boundary segments position) := by
  rw [sizeAt, Nat.zero_add, Nat.sub_zero]

theorem reading_unnoticed {policy : Policy} {segments : List (List UInt8)}
    (missing : headerEndOf segments.flatten = none) (ending : Ending) :
    policy.reading segments ending =
      if capacity ≤ segments.flatten.length then .done .refused
      else policy.conclude ending { bytes := segments.flatten, header := none } := by
  have absent := Option.map_eq_none_iff.mp missing
  simp only [reading, readingFrom, List.nil_append, absent]

theorem reading_noticed {policy : Policy} {segments : List (List UInt8)} {headerEnd : Nat}
    (found : headerEndOf segments.flatten = some headerEnd) (ending : Ending) :
    policy.reading segments ending =
      match policy.target
          (policy.headerAt segments.flatten headerEnd (noticedAt segments headerEnd)) with
      | none => .done .refused
      | some target => policy.finishFrom [] segments ending
          (policy.headerAt segments.flatten headerEnd (noticedAt segments headerEnd))
          (max (noticedAt segments headerEnd) target) := by
  rcases (headerEndOf_eq_some_iff _ _).mp found with ⟨separator, here, rfl⟩
  unfold view at here
  simp only [reading, readingFrom, List.nil_append, here, List.length_nil, sizeAt_zero]
  rfl

theorem noticedAt_bounds {segments : List (List UInt8)} {headerEnd : Nat}
    (found : headerEndOf segments.flatten = some headerEnd) :
    headerEnd ≤ noticedAt segments headerEnd ∧ noticedAt segments headerEnd ≤ capacity ∧
      noticedAt segments headerEnd ≤ segments.flatten.length := by
  have bounds := headerEndOf_le found
  have reached := Segments.le_boundary segments headerEnd bounds.2.2
  have last := Segments.boundary_le_length segments headerEnd
  unfold noticedAt
  omega

theorem reading_refused {policy : Policy} {segments : List (List UInt8)} {headerEnd : Nat}
    (found : headerEndOf segments.flatten = some headerEnd)
    (tooLarge : policy.target
      (policy.headerAt segments.flatten headerEnd (noticedAt segments headerEnd)) = none)
    (ending : Ending) : policy.reading segments ending = .done .refused := by
  rw [reading_noticed found, tooLarge]

theorem reading_complete {policy : Policy} {segments : List (List UInt8)} {headerEnd target : Nat}
    (found : headerEndOf segments.flatten = some headerEnd)
    (wanted : policy.target
      (policy.headerAt segments.flatten headerEnd (noticedAt segments headerEnd)) = some target)
    (arrived : target ≤ segments.flatten.length) (ending : Ending) :
    policy.reading segments ending =
      .done ((policy.headerAt segments.flatten headerEnd (noticedAt segments headerEnd)).reading
        (segments.flatten.take (min capacity
          (Segments.boundary segments (max (noticedAt segments headerEnd) target))))) := by
  have bounds := noticedAt_bounds found
  simp only [reading_noticed found, wanted, finishFrom, List.nil_append, List.length_nil,
    sizeAt_zero]
  rw [if_pos (by omega)]

theorem reading_short {policy : Policy} {segments : List (List UInt8)} {headerEnd target : Nat}
    (found : headerEndOf segments.flatten = some headerEnd)
    (wanted : policy.target
      (policy.headerAt segments.flatten headerEnd (noticedAt segments headerEnd)) = some target)
    (missing : segments.flatten.length < target) (ending : Ending) :
    policy.reading segments ending = policy.conclude ending
      { bytes := segments.flatten
        header := some
          (policy.headerAt segments.flatten headerEnd (noticedAt segments headerEnd)) } := by
  simp only [reading_noticed found, wanted, finishFrom, List.nil_append]
  rw [if_neg (by omega)]

end Policy

/-- The decision on a stream in segments. -/
theorem decision_arrival (platform : Platform) (server : Registrations)
    {segments : List (List UInt8)} (nonempty : ∀ segment ∈ segments, segment ≠ [])
    (ending : Ending) :
    decision platform server (arrival segments ending) =
      platform.policy.reading segments ending >>= settle server := by
  rw [decision, Policy.gather_eq, Policy.feed_arrival _ nonempty]

end Server
end NetLL
