import NetLL.Library.Transition
import NetLL.Client.ResponseBody

namespace NetLL
namespace Client
namespace Simulator

open Server (headerSeparator headerSeparator_ne_nil)

/-!
# What the search looks at

`SkipHeaders` is given the number of bytes received and searches without it.
It stops at a zero byte, which the copies into `headerBuffer` do not write.
A first read that has a zero byte or the blank line keeps every search of the
run inside the received bytes.  Behind any other first read the search walks
on into what the buffer held before.
-/

/-- Every search of a run on these results ends inside the received bytes, and
what the buffer held before the run makes no difference to it. -/
structure SearchesReceived (results : List ReceiveResult) : Prop where
  inside : ∀ (opens : Bool) (headerBuffer beyond : List UInt8) (before after : List ReceiveResult)
    (available : List UInt8) (state stored : ReadState) (skipped : Skipped),
    headerBuffer.length = headerBufferSize →
    results = before ++ .received available :: after →
    Transition.run (Transition.roundStep (readRound opens)) (initialState headerBuffer beyond)
      before = some state →
    state.headersSkipped = false → available ≠ [] →
    state.copy (available.take httpBufferSize) = .done stored →
    skipHeaders stored.memory stored.headerBufferLen = .done skipped →
      (∀ offset, skipped.body = some offset → offset ≤ stored.headerBufferLen) ∧
        0 ≤ skipped.bodyBytes
  same : ∀ (opens : Bool) (first second beyond : List UInt8),
    first.length = headerBufferSize → second.length = headerBufferSize →
      readResponseToFile opens first beyond results = readResponseToFile opens second beyond results

/-! ## Reads that decide the search -/

theorem keep_decides {held : List UInt8} (decides : Memory.Decides headerSeparator held)
    (bytes : List UInt8) : Memory.Decides headerSeparator (keep held bytes) :=
  decides.append headerSeparator_ne_nil _

theorem keep_first {bytes : List UInt8} (isRead : IsRead bytes) : keep [] bytes = bytes := by
  have fits : httpBufferSize ≤ headerBufferSize := by decide
  rw [keep, List.nil_append, List.length_nil, Nat.sub_zero,
    List.take_of_length_le (Nat.le_trans isRead.2 fits)]

theorem locate_cons_of_decides {held bytes : List UInt8}
    (decides : Memory.Decides headerSeparator (keep held bytes)) (initial : List UInt8)
    (rest : List (List UInt8)) :
    locate initial held (bytes :: rest) =
      match Search.find headerSeparator (Memory.text (keep held bytes)) with
      | none => locate initial (keep held bytes) rest
      | some separator =>
          .done (some { held := keep held bytes, headerEnd := separator + 4, rest }) := by
  rw [locate, decides.strstr_eq headerSeparator_ne_nil, Exec.done_bind]
  cases Search.find headerSeparator (Memory.text (keep held bytes)) <;> rfl

/-- Stored bytes that decide hide what the memory held. -/
theorem locate_of_decides {held : List UInt8} (decides : Memory.Decides headerSeparator held)
    (first second : List UInt8) (segments : List (List UInt8)) :
    locate first held segments = locate second held segments := by
  induction segments generalizing held with
  | nil => rfl
  | cons bytes rest inductionHypothesis =>
      have kept := keep_decides decides bytes
      rw [locate_cons_of_decides kept, locate_cons_of_decides kept, inductionHypothesis kept]

/-- The first read of a run has a zero byte or the blank line, if there is one. -/
def FirstReadDecides (results : List ReceiveResult) : Prop :=
  ∀ bytes, (reads results).head? = some bytes → Memory.Decides headerSeparator bytes

theorem same_of_firstReadDecides {results : List ReceiveResult}
    (decides : FirstReadDecides results) (opens : Bool) {first second : List UInt8}
    (firstSize : first.length = headerBufferSize) (secondSize : second.length = headerBufferSize)
    (beyond : List UInt8) :
    readResponseToFile opens first beyond results =
      readResponseToFile opens second beyond results := by
  rw [readResponseToFile_eq opens firstSize, readResponseToFile_eq opens secondSize, transfer,
    transfer]
  cases received : reads results with
  | nil => rfl
  | cons bytes rest =>
      have isRead := reads_isRead results bytes (by rw [received]; exact List.mem_cons_self)
      have here : Memory.Decides headerSeparator (keep [] bytes) := by
        rw [keep_first isRead]
        exact decides bytes (by rw [received]; rfl)
      rw [locate_cons_of_decides here, locate_cons_of_decides here,
        locate_of_decides here (first ++ beyond) (second ++ beyond)]

/-! ## Searches inside the received bytes -/

theorem skipHeaders_inside {held initial : List UInt8}
    (decides : Memory.Decides headerSeparator held) {skipped : Skipped}
    (result : skipHeaders (Memory.overlay held initial) held.length = .done skipped) :
    (∀ offset, skipped.body = some offset → offset ≤ held.length) ∧ 0 ≤ skipped.bodyBytes := by
  rw [skipHeaders, decides.strstr_eq headerSeparator_ne_nil, Exec.done_bind] at result
  cases found : Search.find headerSeparator (Memory.text held) with
  | none =>
      rw [found] at result
      cases result
      refine ⟨?_, Int.le_refl 0⟩
      intro offset impossible
      cases impossible
  | some separator =>
      rw [found] at result
      cases result
      have fits := Search.find_fits headerSeparator_ne_nil found
      have four : headerSeparator.length = 4 := rfl
      have shorter := Memory.text_length_le held
      constructor
      · intro offset equal
        cases equal
        omega
      · change 0 ≤ (held.length : Int) - (separator + 4 : Nat)
        omega

/-- A round that goes on got a read.  It has the header behind it, or it has
stored the read. -/
theorem readRound_again {opens : Bool} {state next : ReadState} {result : ReceiveResult}
    (again : readRound opens state result = .done (.again next)) :
    ∃ available, result = .received available ∧ available ≠ [] ∧
      (next.headersSkipped = true ∨
        state.headersSkipped = false ∧ state.copy (available.take httpBufferSize) = .done next) := by
  cases result with
  | failed => cases again
  | received available =>
      by_cases empty : available = []
      · subst empty
        cases again
      · refine ⟨available, rfl, empty, ?_⟩
        simp only [readRound, if_neg (take_ne_nil empty)] at again
        cases behind : state.headersSkipped with
        | true =>
            rw [behind] at again
            cases again
            exact Or.inl rfl
        | false =>
            rw [behind] at again
            simp only [Bool.false_eq_true, if_false] at again
            rcases Exec.bind_eq_done_iff.mp again with ⟨stored, copied, again⟩
            rcases Exec.bind_eq_done_iff.mp again with ⟨skipped, searched, again⟩
            cases body : skipped.body with
            | none =>
                rw [body] at again
                cases again
                exact Or.inr ⟨rfl, copied⟩
            | some offset =>
                left
                rw [body] at again
                cases opens with
                | false => cases again
                | true =>
                    simp only [Bool.not_true, Bool.false_eq_true, if_false] at again
                    rcases Exec.bind_eq_done_iff.mp again with ⟨written, front, again⟩
                    cases again
                    rw [ReadState.writeFront] at front
                    split at front
                    · rcases Exec.bind_eq_done_iff.mp front with ⟨bytes, _, front⟩
                      cases front
                      rfl
                    · cases front
                      rfl

section Runs

variable {headerBuffer : List UInt8} (beyond : List UInt8)

/-- The loop has the header behind it, or it has stored bytes that decide. -/
def Settled (headerBuffer beyond : List UInt8) (state : ReadState) : Prop :=
  state.headersSkipped = true ∨
    ∃ held, Memory.Decides headerSeparator held ∧ held.length ≤ headerBufferSize ∧
      state = ⟨Memory.overlay held (headerBuffer ++ beyond), held.length, false,
        state.fileOpened, state.file⟩

theorem settled_again {opens : Bool} (size : headerBuffer.length = headerBufferSize)
    {state next : ReadState} {result : ReceiveResult} (settled : Settled headerBuffer beyond state)
    (again : readRound opens state result = .done (.again next)) :
    Settled headerBuffer beyond next := by
  rcases readRound_again again with ⟨available, _, _, behind | ⟨infront, copied⟩⟩
  · exact Or.inl behind
  · rcases settled with behind | ⟨held, decides, room, shape⟩
    · rw [behind] at infront
      cases infront
    · rw [shape, copy_overlay size room, Exec.done.injEq] at copied
      subst copied
      exact Or.inr ⟨_, keep_decides decides _, keep_length_le room _, rfl⟩

theorem copy_initialState (size : headerBuffer.length = headerBufferSize) {available : List UInt8}
    (nonempty : available ≠ []) :
    (initialState headerBuffer beyond).copy (available.take httpBufferSize) =
      .done ⟨Memory.overlay (available.take httpBufferSize) (headerBuffer ++ beyond),
        (available.take httpBufferSize).length, false, false, []⟩ := by
  have copied := @copy_overlay headerBuffer beyond [] size (Nat.zero_le _)
    (available.take httpBufferSize) false false []
  rwa [keep_first ⟨take_ne_nil nonempty, List.length_take_le _ _⟩] at copied

theorem settled_run {opens : Bool} (size : headerBuffer.length = headerBufferSize)
    {first : ReceiveResult} {before rest : List ReceiveResult} {state : ReadState}
    (decides : FirstReadDecides (first :: rest))
    (reached : Transition.run (Transition.roundStep (readRound opens))
      (initialState headerBuffer beyond) (first :: before) = some state) :
    Settled headerBuffer beyond state := by
  rw [Transition.run] at reached
  cases taken : Transition.roundStep (readRound opens) (initialState headerBuffer beyond) first with
  | none =>
      rw [taken] at reached
      cases reached
  | some next =>
      rw [taken] at reached
      have settled : Settled headerBuffer beyond next := by
        rcases readRound_again (Transition.roundStep_eq_some_iff.mp taken) with
          ⟨available, same, nonempty, behind | ⟨_, copied⟩⟩
        · exact Or.inl behind
        · subst same
          rw [copy_initialState beyond size nonempty, Exec.done.injEq] at copied
          subst copied
          have fits : httpBufferSize ≤ headerBufferSize := by decide
          refine Or.inr ⟨_, decides _ ?_, Nat.le_trans (List.length_take_le _ _) fits, rfl⟩
          rw [reads, if_neg nonempty]
          rfl
      refine Transition.invariant_reached ?_ settled reached
      intro state action next settled taken
      exact settled_again beyond size settled (Transition.roundStep_eq_some_iff.mp taken)

theorem inside_of_firstReadDecides {results : List ReceiveResult}
    (decides : FirstReadDecides results) {opens : Bool}
    (size : headerBuffer.length = headerBufferSize) {before after : List ReceiveResult}
    {available : List UInt8} {state stored : ReadState} {skipped : Skipped}
    (split : results = before ++ .received available :: after)
    (reached : Transition.run (Transition.roundStep (readRound opens))
      (initialState headerBuffer beyond) before = some state)
    (infront : state.headersSkipped = false) (nonempty : available ≠ [])
    (copied : state.copy (available.take httpBufferSize) = .done stored)
    (searched : skipHeaders stored.memory stored.headerBufferLen = .done skipped) :
    (∀ offset, skipped.body = some offset → offset ≤ stored.headerBufferLen) ∧
      0 ≤ skipped.bodyBytes := by
  cases before with
  | nil =>
      cases reached
      rw [copy_initialState beyond size nonempty, Exec.done.injEq] at copied
      subst copied
      refine skipHeaders_inside (decides _ ?_) searched
      rw [split, List.nil_append, reads, if_neg nonempty]
      rfl
  | cons first before =>
      rw [split, List.cons_append] at decides
      rcases settled_run beyond size decides reached with behind | ⟨held, decides, room, shape⟩
      · rw [behind] at infront
        cases infront
      · rw [shape, copy_overlay size room, Exec.done.injEq] at copied
        subst copied
        exact skipHeaders_inside (keep_decides decides _) searched

end Runs

/-! ## Reads that do not decide -/

/-- A buffer that holds a blank line at an offset and zeros elsewhere. -/
def staleBuffer (offset : Nat) : List UInt8 :=
  List.replicate offset 0 ++ headerSeparator ++ List.replicate (headerBufferSize - (offset + 4)) 0

theorem staleBuffer_length {offset : Nat} (room : offset + 4 ≤ headerBufferSize) :
    (staleBuffer offset).length = headerBufferSize := by
  have four : headerSeparator.length = 4 := rfl
  simp only [staleBuffer, List.length_append, List.length_replicate, four]
  omega

theorem staleBuffer_drop (offset : Nat) (beyond : List UInt8) :
    (staleBuffer offset ++ beyond).drop offset =
      headerSeparator ++ (List.replicate (headerBufferSize - (offset + 4)) 0 ++ beyond) := by
  have front : (List.replicate offset (0 : UInt8)).length = offset := List.length_replicate
  rw [staleBuffer, List.append_assoc, List.append_assoc]
  nth_rewrite 1 [← front]
  rw [List.drop_left]

/-- The searches of a run stay inside the received bytes, and none of its
results depends on what the buffer held, exactly when the first read has a zero
byte or the blank line. -/
theorem searchesReceived_iff (results : List ReceiveResult) :
    SearchesReceived results ↔ FirstReadDecides results := by
  constructor
  · intro searches bytes first
    by_contra undecided
    cases results with
    | nil => cases first
    | cons result rest =>
        cases result with
        | failed => cases first
        | received available =>
            rw [reads] at first
            split at first
            · cases first
            · rename_i nonempty
              cases first
              have short := List.length_take_le httpBufferSize available
              have four : headerSeparator.length = 4 := rfl
              have room : (available.take httpBufferSize).length + 4 ≤ headerBufferSize :=
                Nat.le_trans (Nat.add_le_add_right short 4) (by decide)
              have size := staleBuffer_length room
              rcases Memory.strstr_of_stale headerSeparator_ne_nil (by decide) undecided
                (staleBuffer_drop _ []) with ⟨separator, found, past⟩
              have searched : skipHeaders _ (available.take httpBufferSize).length = _ :=
                congrArg (· >>= _) found
              have inside := (searches.inside true (staleBuffer (available.take httpBufferSize).length)
                [] [] rest available _ _ _ size rfl rfl rfl nonempty
                (copy_initialState [] size nonempty) searched).1 (separator + 4) rfl
              change separator + 4 ≤ (available.take httpBufferSize).length at inside
              omega
  · intro decides
    constructor
    · intro opens headerBuffer beyond before after available state stored skipped size split
        reached infront nonempty copied searched
      exact inside_of_firstReadDecides beyond decides size split reached infront nonempty copied
        searched
    · intro opens first second beyond firstSize secondSize
      exact same_of_firstReadDecides decides opens firstSize secondSize beyond

/-! ## What a previous download left -/

/-- The status line of a response comes in a read of its own. -/
def statusLine : List UInt8 :=
  ascii "HTTP/1.0 200 OK\r\n"

def afterStatusLine : List UInt8 :=
  ascii "Content-Length: 2\r\n\r\nok"

def shortFirstRead : List ReceiveResult :=
  arrival [statusLine, afterStatusLine] .closed

theorem shortFirstRead_isRead : ∀ bytes ∈ [statusLine, afterStatusLine], IsRead bytes := by
  decide

/-- The response that comes in these reads. -/
def twoBytes : Response where
  bytes := statusLine ++ afterStatusLine
  separator := 34
  found := by decide
  fits := by decide
  clean := by decide

def twoBytesCut : Cut twoBytes.bytes where
  segments := [statusLine, afterStatusLine]
  sizes := shortFirstRead_isRead
  whole := by decide

/-- Over a blank line left behind the status line, the header section ends two
bytes past the received ones, and the header fields go to the file. -/
theorem staleRun :
    readResponseToFile true (staleBuffer 17) [] shortFirstRead =
      .done { returned := true, file := [.opened, .wrote afterStatusLine, .closed] } := by
  have fits : 17 + 4 ≤ headerBufferSize := by decide
  have visible : Memory.text (Memory.overlay statusLine (staleBuffer 17 ++ [])) =
      statusLine ++ headerSeparator ++
        Memory.text (List.replicate (headerBufferSize - (17 + 4)) 0 ++ []) := by
    have next := staleBuffer_drop 17 []
    have size : statusLine.length = 17 := by decide
    rw [Memory.overlay, size, next, Memory.text_append (by decide), Memory.text_append (by decide),
      List.append_assoc]
  have early : Search.find headerSeparator (statusLine ++ headerSeparator) = some 15 := by decide
  have found : Memory.strstr (Memory.overlay statusLine (staleBuffer 17 ++ [])) headerSeparator =
      .done (some 15) := by
    rw [Memory.strstr, visible, Search.find_append headerSeparator_ne_nil early]
  have whole : keep [] statusLine = statusLine := keep_first (by decide)
  rw [readResponseToFile_eq true (staleBuffer_length fits), shortFirstRead,
    reads_arrival shortFirstRead_isRead, ending_arrival shortFirstRead_isRead, transfer, locate,
    whole, found]
  rfl

/-- The two bytes of the body are written over a cleared buffer, and the header
fields are written too over the other one. -/
theorem staleBytes_matter : ¬ SearchesReceived shortFirstRead := by
  intro searches
  have same := searches.same true (staleBuffer 17) zeroBuffer [] (staleBuffer_length (by decide))
    zeroBuffer_length
  rcases readResponseToFile_response twoBytes twoBytesCut [] .closed with ⟨outcome, run, _, gets⟩
  change readResponseToFile true zeroBuffer [] shortFirstRead = _ at run
  rw [staleRun, run, Exec.done.injEq] at same
  subst same
  exact absurd gets (by decide)

end Simulator
end Client
end NetLL
