import NetLL.Server.Arrival

namespace NetLL
namespace Server

open Decimal

/-!
# One stream in different segments

Two runs on the same stream can differ in two ways only.  The reader may look
for the announced length when it has bytes behind the blank line, and read it
there.  And the request line may end behind the request, so that a run that
received more of the stream finds it and another one does not.  A stream is
settled when it allows neither, and these are exactly the streams whose
outcome no cut can change.
-/

/-- The word `ContentLengthOf` returns in the round that completes the headers,
from the bytes held before and the segments still to come. -/
def lengthUsed (modulus : Nat) (held : List UInt8) : List (List UInt8) → Option Nat
  | [] => none
  | segment :: rest =>
      let bytes := held ++ segment.take (capacity - held.length)
      match Search.find headerSeparator (Memory.text bytes) with
      | some _ => some (contentLengthOf modulus (Memory.text bytes))
      | none => lengthUsed modulus bytes rest

/-- No cut of the stream changes what the connection makes visible, and no byte
behind the blank line has a part in the length that is used. -/
structure SegmentationInvariant (platform : Platform) (stream : List UInt8) : Prop where
  outcome : ∀ (server : Registrations) (application : Application) (stack : Option CString)
    (buffer : List UInt8) (script : List SendResult) (ending : Ending)
    (first second : List (List UInt8)), buffer.length = httpServerMaxRequestSize →
    Splits first stream → Splits second stream →
      serveConnection platform server application stack buffer (arrival first ending) script =
        serveConnection platform server application stack buffer (arrival second ending) script
  length : ∀ (headerEnd : Nat) (segments : List (List UInt8)),
    headerEndOf stream = some headerEnd → Splits segments stream →
      lengthUsed platform.modulus [] segments =
        some (contentLengthOf platform.modulus (stream.take headerEnd))

/-! ## Settled streams -/

/-- The header section announces a length, or the text that follows it in the
buffer announces nothing but zero. -/
def LengthSettled (stream : List UInt8) (headerEnd : Nat) : Prop :=
  announcement (stream.take headerEnd) ≠ none ∨
    ∀ digits, announcement (view (stream.drop headerEnd) (capacity - headerEnd)) = some digits →
      ∀ byte ∈ digits, digit byte = 0

/-- A complete request shows its request line in the bytes that complete it, or
it shows none in all of the buffer, or nothing follows it. -/
def LineSettled (platform : Platform) (stream : List UInt8) (headerEnd announced : Nat) : Prop :=
  ∀ target, platform.policy.target ⟨headerEnd, announced⟩ = some target →
    target ≤ stream.length →
      min capacity stream.length = max headerEnd target ∨
        ¬ HasRequestLine (view stream capacity) ∨
        (headerEnd + announced ≤ max headerEnd target ∧
          HasRequestLine (view stream (max headerEnd target)))

/-- The stream has no header section in the buffer, or both are settled. -/
def Settled (platform : Platform) (stream : List UInt8) : Prop :=
  ∀ headerEnd, headerEndOf stream = some headerEnd →
    LengthSettled stream headerEnd ∧
      LineSettled platform stream headerEnd
        (contentLengthOf platform.modulus (stream.take headerEnd))

/-! ## The length that is used -/

theorem lengthUsed_held {modulus : Nat} {held : List UInt8} {segments : List (List UInt8)}
    {separator : Nat} (room : held.length < capacity)
    (unnoticed : Search.find headerSeparator (Memory.text held) = none)
    (found : Search.find headerSeparator (view (held ++ segments.flatten) capacity) =
      some separator) :
    lengthUsed modulus held segments = some (contentLengthOf modulus
      (view (held ++ segments.flatten) (Policy.sizeAt held.length segments (separator + 4)))) := by
  induction segments generalizing held with
  | nil =>
      rw [List.flatten_nil, List.append_nil, view, List.take_of_length_le (by omega),
        unnoticed] at found
      cases found
  | cons segment rest inductionHypothesis =>
      have piece := Policy.take_first held segment rest.flatten room
      have early := Policy.find_separator_take _
        (Nat.min_le_left capacity (held.length + segment.length)) found
      rw [List.flatten_cons, piece] at early
      rw [lengthUsed]
      by_cases here : separator + 4 ≤ min capacity (held.length + segment.length)
      · rw [if_pos here] at early
        simp only [early]
        rw [Policy.sizeAt_here (by omega), List.flatten_cons, view, piece]
      · rw [if_neg here] at early
        have bound := (Policy.separator_le found).1
        have past : held.length + segment.length < separator + 4 := by omega
        have whole : segment.take (capacity - held.length) = segment :=
          List.take_of_length_le (by omega)
        have sizes : (held ++ segment).length = held.length + segment.length :=
          List.length_append
        rw [whole] at early
        simp only [whole, early]
        rw [List.flatten_cons, ← List.append_assoc] at found
        rw [inductionHypothesis (by omega) early found, Policy.sizeAt_later past,
          List.flatten_cons, ← List.append_assoc, sizes]

theorem lengthUsed_eq {modulus headerEnd : Nat} {segments : List (List UInt8)}
    (found : headerEndOf segments.flatten = some headerEnd) :
    lengthUsed modulus [] segments = some (contentLengthOf modulus
      (view segments.flatten (noticedAt segments headerEnd))) := by
  rcases (headerEndOf_eq_some_iff _ _).mp found with ⟨separator, here, rfl⟩
  have room : ([] : List UInt8).length < capacity := by decide
  have unnoticed : Search.find headerSeparator (Memory.text []) = none := by decide
  have used : lengthUsed modulus [] segments = _ := lengthUsed_held room unnoticed here
  rwa [List.nil_append, List.length_nil, Policy.sizeAt_zero] at used

theorem take_headerEnd {stream : List UInt8} {headerEnd : Nat}
    (found : headerEndOf stream = some headerEnd) :
    ∃ front, stream.take headerEnd = front ++ crlf := by
  have shown := view_headerEnd found
  rcases (headerEndOf_eq_some_iff _ _).mp found with ⟨separator, here, rfl⟩
  have early := Policy.find_separator_take stream (headerEndOf_le found).2.1 here
  rw [if_pos (Nat.le_refl _)] at early
  change Search.find headerSeparator (view stream (separator + 4)) = some separator at early
  rw [shown] at early
  have split := Search.find_split headerSeparator_ne_nil early
  have four : headerSeparator.length = 4 := rfl
  have nothing : (stream.take (separator + 4)).drop (separator + 4) = [] :=
    List.drop_eq_nil_of_le (List.length_take_le _ _)
  rw [four, nothing, List.append_nil] at split
  exact ⟨(stream.take (separator + 4)).take separator ++ crlf, by
    rw [List.append_assoc]
    exact split⟩

theorem announcement_view {stream : List UInt8} {headerEnd size : Nat}
    (found : headerEndOf stream = some headerEnd) (past : headerEnd ≤ size) :
    announcement (view stream size) = (announcement (stream.take headerEnd)).or
      (announcement (view (stream.drop headerEnd) (size - headerEnd))) := by
  rcases take_headerEnd found with ⟨front, ends⟩
  rw [view_append found past, ends, announcement_append]

theorem view_behind (stream : List UInt8) {headerEnd size : Nat} (inside : size ≤ capacity) :
    view (stream.drop headerEnd) (size - headerEnd) =
      (view (stream.drop headerEnd) (capacity - headerEnd)).take (size - headerEnd) :=
  view_take _ (by omega)

/-- Every look at the stream reads the same length exactly when the length is
settled. -/
theorem lengthSettled_iff {modulus : Nat} (large : 10 ≤ modulus) {stream : List UInt8}
    {headerEnd : Nat} (found : headerEndOf stream = some headerEnd) :
    LengthSettled stream headerEnd ↔
      ∀ size, headerEnd ≤ size → size ≤ min capacity stream.length →
        contentLengthOf modulus (view stream size) =
          contentLengthOf modulus (stream.take headerEnd) := by
  have bounds := headerEndOf_le found
  simp only [contentLengthOf_eq]
  cases announced : announcement (stream.take headerEnd) with
  | some digits =>
      have settled : LengthSettled stream headerEnd := Or.inl (by rw [announced]; simp)
      refine ⟨fun _ size past _ => ?_, fun _ => settled⟩
      have shown := announcement_view found past
      rw [announced, Option.some_or] at shown
      rw [announcedLength_of_eq_some shown, announcedLength_of_eq_some announced]
  | none =>
      have quiet : announcedLength (stream.take headerEnd) = 0 :=
        announcedLength_of_eq_none announced
      have shown {size : Nat} (past : headerEnd ≤ size) (inside : size ≤ capacity) :
          announcedLength (view stream size) =
            announcedLength ((view (stream.drop headerEnd) (capacity - headerEnd)).take
              (size - headerEnd)) := by
        rw [announcedLength, announcement_view found past, announced, Option.none_or,
          view_behind stream inside]
        rfl
      have silent := silent_views_iff large (view (stream.drop headerEnd) (capacity - headerEnd))
      constructor
      · rintro (absurd_ | zeros) size past inside
        · exact absurd announced absurd_
        · rw [shown past (by omega), silent.mpr zeros, quiet, Nat.zero_mod]
      · intro same
        refine Or.inr (silent.mp fun size => ?_)
        rcases Nat.le_total size (min capacity stream.length - headerEnd) with inside | past
        · have here := same (headerEnd + size) (by omega) (by omega)
          rw [shown (by omega) (by omega), Nat.add_sub_cancel_left, quiet, Nat.zero_mod] at here
          exact here
        · have here := same (min capacity stream.length) (by omega) (Nat.le_refl _)
          have short : (view (stream.drop headerEnd) (capacity - headerEnd)).length ≤
              min capacity stream.length - headerEnd := by
            have text := Memory.text_length_le ((stream.drop headerEnd).take (capacity - headerEnd))
            rw [List.length_take, List.length_drop] at text
            unfold view
            omega
          rw [shown (by omega) (by omega), List.take_of_length_le short, quiet, Nat.zero_mod]
            at here
          rw [List.take_of_length_le (Nat.le_trans short past)]
          exact here

/-! ## The verdict on more or fewer bytes -/

theorem HasRequestLine.later {stream : List UInt8} {place size : Nat}
    (has : HasRequestLine (view stream place)) (later : place ≤ size) :
    HasRequestLine (view stream size) := by
  have initial : view stream place <+: view stream size := by
    rw [view_take stream later]
    exact List.take_prefix _ _
  rcases initial with ⟨more, split⟩
  rw [← split]
  exact has.append more

/-- Behind a complete request that shows its line, further bytes are not part
of the verdict. -/
theorem judge_take (server : Registrations) {stream : List UInt8} {headerEnd bodyLength size : Nat}
    (has : HasRequestLine (view stream (headerEnd + bodyLength)))
    (inside : headerEnd + bodyLength ≤ stream.length) (later : headerEnd + bodyLength ≤ size) :
    judge server (stream.take size ++ [0]) headerEnd bodyLength =
      judge server (stream.take (headerEnd + bodyLength) ++ [0]) headerEnd bodyLength := by
  have length : (stream.take (headerEnd + bodyLength)).length = headerEnd + bodyLength := by
    rw [List.length_take]
    omega
  have split : stream.take size = stream.take (headerEnd + bodyLength) ++
      (stream.drop (headerEnd + bodyLength)).take (size - (headerEnd + bodyLength)) := by
    rw [← List.take_add, Nat.add_sub_cancel' later]
  cases more : (stream.drop (headerEnd + bodyLength)).take (size - (headerEnd + bodyLength)) with
  | nil => rw [split, more, List.append_nil]
  | cons byte rest =>
      rcases judge_append server (Nat.le_of_eq length.symm) with ⟨verdict, judged⟩
      rw [split, more, List.append_assoc, List.cons_append,
        judge_over server has length byte (List.mem_append_right rest (List.mem_singleton.mpr rfl)),
        judged, judged]

/-- On a settled stream, the verdict on a complete request does not depend on
how much of the stream was received. -/
theorem judge_settled {platform : Platform} {stream : List UInt8} {headerEnd announced target : Nat}
    (settled : LineSettled platform stream headerEnd announced)
    (wanted : platform.policy.target ⟨headerEnd, announced⟩ = some target)
    (inside : headerEnd ≤ stream.length) (arrived : target ≤ stream.length)
    (server : Registrations) {size : Nat} (past : max headerEnd target ≤ size)
    (last : size ≤ min capacity stream.length) :
    judge server (stream.take size ++ [0]) headerEnd (min (size - headerEnd) announced) =
      judge server (stream.take (min capacity stream.length) ++ [0]) headerEnd
        (min (min capacity stream.length - headerEnd) announced) := by
  rcases settled target wanted arrived with whole | refused | ⟨fits, has⟩
  · have equal : size = min capacity stream.length := by omega
    rw [equal]
  · have noLine {place : Nat} (early : place ≤ min capacity stream.length) :
        ¬ HasRequestLine (Memory.text (stream.take place ++ [0])) := by
      rw [Memory.text_append_zero]
      intro has
      exact refused (HasRequestLine.later has (Nat.le_trans early (Nat.min_le_left _ _)))
    have ends (bytes : List UInt8) : 0 ∈ bytes ++ [0] :=
      List.mem_append_right bytes (List.mem_singleton.mpr rfl)
    rw [judge_refused server (ends _) (noLine last),
      judge_refused server (ends _) (noLine (Nat.le_refl _))]
  · have sum := platform.target_le_sum wanted
    change target ≤ headerEnd + announced at sum
    have place : max headerEnd target = headerEnd + announced := by omega
    rw [place] at has past
    have here : min (size - headerEnd) announced = announced := by omega
    have there : min (min capacity stream.length - headerEnd) announced = announced := by omega
    rw [here, there, judge_take server has (by omega) past,
      judge_take server has (by omega) (Nat.le_trans past last)]

/-- Every cut of a stream whose length is settled has the same header. -/
theorem headerAt_settled {platform : Platform} {stream : List UInt8} {headerEnd : Nat}
    (settled : LengthSettled stream headerEnd) (found : headerEndOf stream = some headerEnd)
    {segments : List (List UInt8)} (split : Splits segments stream) :
    platform.policy.headerAt segments.flatten headerEnd (noticedAt segments headerEnd) =
      ⟨headerEnd, contentLengthOf platform.modulus (stream.take headerEnd)⟩ := by
  have place := Policy.noticedAt_bounds (split.whole ▸ found)
  have same := (lengthSettled_iff platform.ten_le_modulus found).mp settled
    (noticedAt segments headerEnd) place.1 (by rw [split.whole] at place; omega)
  rw [Policy.headerAt, split.whole, platform.policy_modulus, same]

/-- Every cut of a settled stream that brings the request is judged on all the
bytes that fit. -/
theorem reading_settled {platform : Platform} {stream : List UInt8} {headerEnd target : Nat}
    (settled : Settled platform stream) (found : headerEndOf stream = some headerEnd)
    (wanted : platform.policy.target
      ⟨headerEnd, contentLengthOf platform.modulus (stream.take headerEnd)⟩ = some target)
    (arrived : target ≤ stream.length) (server : Registrations) (ending : Ending)
    {segments : List (List UInt8)} (split : Splits segments stream) :
    platform.policy.reading segments ending >>= settle server =
      judge server (stream.take (min capacity stream.length) ++ [0]) headerEnd
        (min (min capacity stream.length - headerEnd)
          (contentLengthOf platform.modulus (stream.take headerEnd))) >>=
        fun verdict => .done (some verdict) := by
  rcases settled headerEnd found with ⟨lengthSettled, lineSettled⟩
  have bounds := headerEndOf_le found
  have used := @headerAt_settled platform stream headerEnd lengthSettled found segments split
  have place := Policy.noticedAt_bounds (split.whole ▸ found)
  rw [split.whole] at place
  have fits := platform.policy.target_le _ target bounds.2.1 wanted
  let size := min capacity
    (Segments.boundary segments (max (noticedAt segments headerEnd) target))
  have reached := Segments.le_boundary segments
    (max (noticedAt segments headerEnd) target) (by rw [split.whole]; omega)
  have last := Segments.boundary_le_length segments
    (max (noticedAt segments headerEnd) target)
  rw [split.whole] at last
  have past : max headerEnd target ≤ size := by omega
  have inside : size ≤ min capacity stream.length := by omega
  have length : (stream.take size).length = size := by
    rw [List.length_take]
    omega
  have judged := judge_settled lineSettled wanted bounds.2.2 arrived server past inside
  rw [Policy.reading_complete (split.whole ▸ found) (by rw [used, wanted])
    (by rw [split.whole]; exact arrived), used, split.whole, Header.reading, ← judged]
  change settle server (.complete (stream.take size) headerEnd
    (min ((stream.take size).length - headerEnd) _)) = _
  rw [length]
  rfl

/-- On a settled stream, the decision is the same for every cut. -/
theorem decision_settled {platform : Platform} {stream : List UInt8}
    (settled : Settled platform stream) (server : Registrations) (ending : Ending)
    {first second : List (List UInt8)} (firstSplits : Splits first stream)
    (secondSplits : Splits second stream) :
    decision platform server (arrival first ending) =
      decision platform server (arrival second ending) := by
  rw [decision_arrival platform server firstSplits.nonempty,
    decision_arrival platform server secondSplits.nonempty]
  cases found : headerEndOf stream with
  | none =>
      rw [Policy.reading_unnoticed (firstSplits.whole ▸ found),
        Policy.reading_unnoticed (secondSplits.whole ▸ found), firstSplits.whole,
        secondSplits.whole]
  | some headerEnd =>
      have used {segments : List (List UInt8)} (split : Splits segments stream) :=
        @headerAt_settled platform stream headerEnd (settled headerEnd found).1 found segments split
      cases wanted : platform.policy.target
          ⟨headerEnd, contentLengthOf platform.modulus (stream.take headerEnd)⟩ with
      | none =>
          rw [Policy.reading_refused (firstSplits.whole ▸ found) (by rw [used firstSplits, wanted]),
            Policy.reading_refused (secondSplits.whole ▸ found)
              (by rw [used secondSplits, wanted])]
      | some target =>
          by_cases arrived : target ≤ stream.length
          · rw [reading_settled settled found wanted arrived server ending firstSplits,
              reading_settled settled found wanted arrived server ending secondSplits]
          · rw [Policy.reading_short (firstSplits.whole ▸ found)
                (by rw [used firstSplits, wanted]) (by rw [firstSplits.whole]; omega),
              Policy.reading_short (secondSplits.whole ▸ found)
                (by rw [used secondSplits, wanted]) (by rw [secondSplits.whole]; omega),
              used firstSplits, used secondSplits, firstSplits.whole, secondSplits.whole]

/-! ## Streams that are not settled -/

def defaultEndpoint : Route where
  method := .get
  path := CString.literal "/"
  callback := 0
  context := 0

/-- A server with nothing but a default endpoint. -/
def defaultServer : Registrations where
  routes := []
  defaultRoute := some defaultEndpoint
  bounded := by decide

/-- A function that leaves the response as it is. -/
def idle : Application := fun _ _ _ => ⟨none, none, none, none, none⟩

/-- An invariant stream is decided alike for every cut. -/
theorem SegmentationInvariant.decision_eq {platform : Platform} {stream : List UInt8}
    (invariant : SegmentationInvariant platform stream) (server : Registrations) (ending : Ending)
    {first second : List (List UInt8)} (firstSplits : Splits first stream)
    (secondSplits : Splits second stream) :
    decision platform server (arrival first ending) =
      decision platform server (arrival second ending) := by
  have size : (List.replicate httpServerMaxRequestSize (0 : UInt8)).length =
      httpServerMaxRequestSize := List.length_replicate
  exact (serveConnection_eq_iff platform server idle none size _ _ []).mp
    (invariant.outcome server idle none _ [] ending first second size firstSplits secondSplits)

/-- Each number of bytes behind the header section is what some cut brings
with the header section. -/
theorem SegmentationInvariant.lengthSettled {platform : Platform} {stream : List UInt8}
    (invariant : SegmentationInvariant platform stream) {headerEnd : Nat}
    (found : headerEndOf stream = some headerEnd) : LengthSettled stream headerEnd := by
  have large := platform.ten_le_modulus
  have bounds := headerEndOf_le found
  rw [lengthSettled_iff large found]
  intro size past inside
  rcases Splits.exists_boundary (by omega : 0 < size)
      (by omega : size ≤ stream.length) with
    ⟨segments, split, ends⟩
  have used := invariant.length headerEnd segments found split
  rw [lengthUsed_eq (split.whole ▸ found), split.whole, noticedAt, ends headerEnd past,
    Nat.min_eq_right (by omega), Option.some.injEq] at used
  exact used

/-- With the same length for every cut, a cut at a place behind the header
section and the request is a run on the bytes in front of it. -/
theorem decision_cut {platform : Platform} {stream : List UInt8} {headerEnd target : Nat}
    (found : headerEndOf stream = some headerEnd) (lengthSettled : LengthSettled stream headerEnd)
    (wanted : platform.policy.target
      ⟨headerEnd, contentLengthOf platform.modulus (stream.take headerEnd)⟩ = some target)
    (server : Registrations) (ending : Ending) {size : Nat} (past : max headerEnd target ≤ size)
    (inside : size ≤ min capacity stream.length) :
    ∃ segments, Splits segments stream ∧
      decision platform server (arrival segments ending) =
        judge server (stream.take size ++ [0]) headerEnd
          (min (size - headerEnd) (contentLengthOf platform.modulus (stream.take headerEnd))) >>=
            fun verdict => .done (some verdict) := by
  have large := platform.ten_le_modulus
  have bounds := headerEndOf_le found
  rcases Splits.exists_boundary (by omega : 0 < size)
      (by omega : size ≤ stream.length) with
    ⟨segments, split, ends⟩
  have noticed : noticedAt segments headerEnd = size := by
    rw [noticedAt, ends headerEnd (by omega), Nat.min_eq_right (by omega)]
  have used : platform.policy.headerAt segments.flatten headerEnd (noticedAt segments headerEnd) =
      ⟨headerEnd, contentLengthOf platform.modulus (stream.take headerEnd)⟩ := by
    rw [noticed, Policy.headerAt, split.whole, platform.policy_modulus,
      (lengthSettled_iff large found).mp lengthSettled size (by omega) inside]
  have length : (stream.take size).length = size := by
    rw [List.length_take]
    omega
  have at_ : min capacity (Segments.boundary segments (max size target)) = size := by
    rw [Nat.max_eq_left (by omega), ends size (Nat.le_refl _), Nat.min_eq_right (by omega)]
  refine ⟨segments, split, ?_⟩
  rw [decision_arrival platform server split.nonempty,
    Policy.reading_complete (split.whole ▸ found) (by rw [used, wanted])
      (by rw [split.whole]; omega), used, noticed, split.whole, at_, Header.reading]
  change settle server (.complete (stream.take size) headerEnd
    (min ((stream.take size).length - headerEnd) _)) = _
  rw [length]
  rfl

/-- When more bytes than necessary change the verdict, two cuts show it. -/
theorem SegmentationInvariant.lineSettled {platform : Platform} {stream : List UInt8}
    (invariant : SegmentationInvariant platform stream) {headerEnd : Nat}
    (found : headerEndOf stream = some headerEnd) :
    LineSettled platform stream headerEnd
      (contentLengthOf platform.modulus (stream.take headerEnd)) := by
  intro target wanted arrived
  have bounds := headerEndOf_le found
  have fits := platform.policy.target_le _ target bounds.2.1 wanted
  have lengthSettled := invariant.lengthSettled found
  let least := max headerEnd target
  let most := min capacity stream.length
  let announced := contentLengthOf platform.modulus (stream.take headerEnd)
  have ordered : least ≤ most := by omega
  by_contra unsettled
  rw [not_or, not_or, not_not, not_and_or] at unsettled
  rcases unsettled with ⟨more, has, few⟩
  rcases decision_cut found lengthSettled wanted defaultServer .silent (Nat.le_refl least) ordered
    with ⟨first, firstSplits, firstDecision⟩
  rcases decision_cut found lengthSettled wanted defaultServer .silent ordered (Nat.le_refl most)
    with ⟨second, secondSplits, secondDecision⟩
  have same := invariant.decision_eq defaultServer .silent firstSplits secondSplits
  rw [firstDecision, secondDecision] at same
  have sizes {size : Nat} (inside : size ≤ stream.length) : (stream.take size).length = size := by
    rw [List.length_take]
    omega
  have whole : HasRequestLine (view stream most) := by
    have equal : stream.take most = stream.take capacity := by
      rw [← List.take_take, List.take_length]
    rwa [view, equal]
  have cap : capacity = 2047 := rfl
  have alone : defaultServer.routes = [] ∧ defaultServer.defaultRoute = some defaultEndpoint :=
    ⟨rfl, rfl⟩
  have room {size : Nat} (past : headerEnd ≤ size) (inside : size ≤ stream.length) :
      headerEnd + min (size - headerEnd) announced ≤ (stream.take size).length := by
    rw [sizes inside]
    omega
  rcases judge_default alone whole (room (by omega) (by omega)) with
    ⟨longer, longerJudged, longerLength⟩
  rw [longerJudged] at same
  by_cases shown : HasRequestLine (view stream least)
  · rcases judge_default alone shown (room (by omega) (by omega)) with
      ⟨shorter, shorterJudged, shorterLength⟩
    rw [shorterJudged] at same
    cases same
    rcases few with past | hidden
    · omega
    · exact hidden shown
  · have ends : 0 ∈ stream.take least ++ [0] :=
      List.mem_append_right _ (List.mem_singleton.mpr rfl)
    rw [judge_refused defaultServer ends (by rwa [Memory.text_append_zero])] at same
    cases same

/-- The streams whose outcome no cut can change are the settled ones. -/
theorem segmentationInvariant_iff (platform : Platform) (stream : List UInt8) :
    SegmentationInvariant platform stream ↔ Settled platform stream := by
  constructor
  · intro invariant headerEnd found
    exact ⟨invariant.lengthSettled found, invariant.lineSettled found⟩
  · intro settled
    constructor
    · intro server application stack buffer script ending first second size firstSplits secondSplits
      rw [serveConnection_eq_iff platform server application stack size]
      exact decision_settled settled server ending firstSplits secondSplits
    · intro headerEnd segments found split
      have large := platform.ten_le_modulus
      have place := Policy.noticedAt_bounds (split.whole ▸ found)
      have same := (lengthSettled_iff large found).mp (settled headerEnd found).1
        (noticedAt segments headerEnd) place.1 (by rw [split.whole] at place; omega)
      rw [lengthUsed_eq (split.whole ▸ found), split.whole, same]

/-- A request without a length, with a line in its body that looks like one. -/
def strayStream : List UInt8 :=
  ascii "GET / HTTP/1.1\r\n\r\nContent-Length: 3\r\n"

/-- The stray line is believed when it comes with the header section, and is
not seen when it comes later. -/
theorem strayStream_varies :
    ¬ SegmentationInvariant .simulator strayStream ∧ ¬ SegmentationInvariant .esp32 strayStream ∧
      ¬ SegmentationInvariant .rp2040 strayStream := by
  have whole : Splits [strayStream] strayStream := ⟨by decide, by decide⟩
  have halves : Splits [strayStream.take 18, strayStream.drop 18] strayStream :=
    ⟨by decide, by decide⟩
  refine ⟨fun invariant => ?_, fun invariant => ?_, fun invariant => ?_⟩
  · have same := invariant.decision_eq defaultServer .silent whole halves
    revert same
    decide +kernel
  · have same := invariant.decision_eq defaultServer .silent whole halves
    revert same
    decide +kernel
  · have same := invariant.decision_eq defaultServer .silent whole halves
    revert same
    decide +kernel

end Server
end NetLL
