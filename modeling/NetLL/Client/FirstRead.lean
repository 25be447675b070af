import NetLL.Client.Download
import NetLL.Client.StaleBuffer

namespace NetLL
namespace Client
namespace Simulator

open Server (headerSeparator headerSeparator_ne_nil)

/-!
# A response whose parts are known

Behind a header and in front of whatever the stack held, the file gets the
body exactly when the first read brings the whole header and the header ends
in its first blank line.  A shorter first read is searched together with stale
bytes, and a blank line at any other place moves the start of the body.
-/

/-- Whatever the stack held, reading these results is reported as a success,
and the file gets the body. -/
def StoresBody (results : List ReceiveResult) (body : List UInt8) : Prop :=
  ∀ headerBuffer beyond : List UInt8, headerBuffer.length = headerBufferSize → ∃ outcome,
    readResponseToFile true headerBuffer beyond results = .done outcome ∧
      outcome.returned = true ∧ writtenBytes outcome.file = body

/-- A run that succeeds has found a header end, and the file has what lies
behind it. -/
theorem readResponseToFile_stores_iff {headerBuffer : List UInt8}
    (size : headerBuffer.length = headerBufferSize) (beyond : List UInt8)
    (results : List ReceiveResult) (body : List UInt8) :
    (∃ outcome, readResponseToFile true headerBuffer beyond results = .done outcome ∧
        outcome.returned = true ∧ writtenBytes outcome.file = body) ↔
      ending results ≠ none ∧ ∃ found,
        locate (headerBuffer ++ beyond) [] (reads results) = .done (some found) ∧
          found.held.drop found.headerEnd ++ found.rest.flatten = body := by
  rw [readResponseToFile_eq true size, transfer]
  cases locate (headerBuffer ++ beyond) [] (reads results) with
  | waiting => simp
  | fault => simp
  | done located =>
      rw [Exec.done_bind]
      cases located with
      | none => cases ending results <;> simp [conclude]
      | some found =>
          cases ending results with
          | none => simp [conclude]
          | some last => simp [conclude, writtenBytes_file]

/-- Where the header end was found, and in which of the reads. -/
theorem locate_found {initial : List UInt8} {front segments : List (List UInt8)} {found : Found}
    (located : locate initial (stored front) segments = .done (some found)) :
    ∃ middle separator, segments = middle ++ found.rest ∧ middle ≠ [] ∧
      found.held = stored (front ++ middle) ∧ found.headerEnd = separator + 4 ∧
      searchAfter initial (front ++ middle) = .done (some separator) := by
  induction segments generalizing front with
  | nil => cases located
  | cons bytes rest inductionHypothesis =>
      rw [locate, keep_stored] at located
      rcases Exec.bind_eq_done_iff.mp located with ⟨position, searched, located⟩
      cases position with
      | some separator =>
          cases located
          exact ⟨[bytes], separator, rfl, List.cons_ne_nil _ _, rfl, rfl, searched⟩
      | none =>
          rcases inductionHypothesis located with
            ⟨middle, separator, split, _, held, headerEnd, shown⟩
          rw [List.append_assoc, List.singleton_append] at held shown
          exact ⟨bytes :: middle, separator, by rw [split]; rfl, List.cons_ne_nil _ _, held,
            headerEnd, shown⟩

theorem locate_first {initial bytes : List UInt8} {separator : Nat} (isRead : IsRead bytes)
    (shown : Memory.strstr (Memory.overlay bytes initial) headerSeparator = .done (some separator))
    (rest : List (List UInt8)) :
    locate initial [] (bytes :: rest) =
      .done (some { held := bytes, headerEnd := separator + 4, rest }) := by
  rw [locate, keep_first isRead, shown]
  rfl

section Parts

variable {results : List ReceiveResult} {header body first : List UInt8}
  {rest : List (List UInt8)}

theorem isRead_first (received : reads results = first :: rest) : IsRead first :=
  reads_isRead results first (by rw [received]; exact List.mem_cons_self)

theorem first_split (whole : first ++ rest.flatten = header ++ body)
    (covers : header.length ≤ first.length) : ∃ back, first = header ++ back := by
  have front : header <+: first :=
    List.prefix_of_prefix_length_le ⟨body, whole.symm⟩ (List.prefix_append _ _) covers
  rcases front with ⟨back, same⟩
  exact ⟨back, same.symm⟩

/-- A first read that brings the header, with its only blank line at its end,
is all that the searches need. -/
theorem storesBody_of_first (received : reads results = first :: rest)
    (whole : first ++ rest.flatten = header ++ body) (clean : 0 ∉ header)
    (ends : ending results ≠ none)
    (found : Search.find headerSeparator header = some (header.length - 4))
    (covers : header.length ≤ first.length) : StoresBody results body := by
  rcases first_split whole covers with ⟨back, rfl⟩
  have long := Search.find_fits headerSeparator_ne_nil found
  have four : headerSeparator.length = 4 := rfl
  have shown : Search.find headerSeparator (Memory.text (header ++ back)) =
      some (header.length - 4) := by
    rw [Memory.text_append clean]
    exact Search.find_append headerSeparator_ne_nil found _
  intro headerBuffer beyond size
  rw [readResponseToFile_stores_iff size, received]
  refine ⟨ends, _, locate_first (isRead_first received)
    (Memory.strstr_of_found headerSeparator_ne_nil shown _) rest, ?_⟩
  have last : header.length - 4 + 4 = header.length := by omega
  change (header ++ back).drop (header.length - 4 + 4) ++ rest.flatten = body
  rw [last, List.drop_left]
  rw [List.append_assoc] at whole
  exact List.append_cancel_left whole

/-- Behind a first read that stops inside the header, a stale blank line ends
the header for the search. -/
theorem covers_of_storesBody (received : reads results = first :: rest)
    (whole : first ++ rest.flatten = header ++ body) (clean : 0 ∉ header)
    (stores : StoresBody results body) : header.length ≤ first.length := by
  by_contra short
  have isRead := isRead_first received
  have front : first <+: header :=
    List.prefix_of_prefix_length_le (List.prefix_append _ _) ⟨body, whole.symm⟩ (by omega)
  have terminated : 0 ∉ first := fun member => clean (front.subset member)
  have room : first.length + 4 ≤ headerBufferSize :=
    Nat.le_trans (Nat.add_le_add_right isRead.2 4) (by decide)
  have shown : ∃ separator, Memory.strstr
      (Memory.overlay first (staleBuffer first.length ++ [])) headerSeparator =
        .done (some separator) := by
    by_cases decides : Memory.Decides headerSeparator first
    · rcases decides with zero | found
      · exact absurd zero terminated
      · rcases Option.ne_none_iff_exists'.mp found with ⟨separator, found⟩
        rw [← Memory.text_of_zero_not_mem terminated] at found
        exact ⟨separator, Memory.strstr_of_found headerSeparator_ne_nil found _⟩
    · rcases Memory.strstr_of_stale headerSeparator_ne_nil (by decide) decides
        (staleBuffer_drop _ []) with ⟨separator, shown, _⟩
      exact ⟨separator, shown⟩
  rcases shown with ⟨separator, shown⟩
  rcases (readResponseToFile_stores_iff (staleBuffer_length room) [] results body).mp
    (stores _ [] (staleBuffer_length room)) with ⟨_, found, located, written⟩
  rw [received, locate_first isRead shown, Exec.done.injEq, Option.some.injEq] at located
  subst located
  -- what is written is longer than the body
  have lengths := congrArg List.length written
  have sizes := congrArg List.length whole
  simp only [List.length_append, List.length_drop] at lengths sizes
  omega

/-- Over a cleared buffer, the searches see only what was received. -/
theorem searchAfter_zeroBuffer {segments : List (List UInt8)} {separator : Nat}
    (shown : searchAfter (zeroBuffer ++ []) segments = .done (some separator)) :
    Search.find headerSeparator (Memory.text (stored segments)) = some separator := by
  have same : Memory.text (Memory.overlay (stored segments) (zeroBuffer ++ [])) =
      Memory.text (stored segments) := by
    rw [Memory.overlay, List.append_nil, zeroBuffer, List.drop_replicate]
    cases headerBufferSize - (stored segments).length with
    | zero => rw [List.replicate_zero, List.append_nil]
    | succ count => rw [List.replicate_succ, Memory.text_append_zero]
  rw [searchAfter, Memory.strstr, same] at shown
  cases found : Search.find headerSeparator (Memory.text (stored segments)) with
  | none =>
      rw [found] at shown
      change (if _ then Exec.done none else Exec.fault) = _ at shown
      split at shown <;> cases shown
  | some position =>
      rw [found] at shown
      cases shown
      rfl

/-- A body that is stored whole lies behind the first blank line. -/
theorem find_of_storesBody (received : reads results = first :: rest)
    (whole : first ++ rest.flatten = header ++ body) (clean : 0 ∉ header)
    (covers : header.length ≤ first.length) (stores : StoresBody results body) :
    Search.find headerSeparator header = some (header.length - 4) := by
  have isRead := isRead_first received
  have fits : httpBufferSize ≤ headerBufferSize := by decide
  have four : headerSeparator.length = 4 := rfl
  rcases (readResponseToFile_stores_iff zeroBuffer_length [] results body).mp
    (stores _ [] zeroBuffer_length) with ⟨_, found, located, written⟩
  rw [received] at located
  have nothing : stored [] = [] := rfl
  rw [← nothing] at located
  rcases locate_found located with ⟨middle, separator, split, some_, held, headerEnd, shown⟩
  rw [List.nil_append] at held shown
  have seen := searchAfter_zeroBuffer shown
  have inside := Search.find_fits headerSeparator_ne_nil seen
  have shorter := Memory.text_length_le (stored middle)
  cases middle with
  | nil => exact absurd rfl some_
  | cons other more =>
      rw [List.cons_append, List.cons.injEq] at split
      rcases split with ⟨rfl, split⟩
      rcases first_split whole covers with ⟨back, same⟩
      have sizes := congrArg List.length whole
      have lengths := congrArg List.length written
      have kept : (stored (first :: more)).length ≤ first.length + more.flatten.length := by
        rw [stored, List.length_take, List.flatten_cons, List.length_append]
        exact Nat.min_le_right _ _
      rw [split, List.flatten_append] at sizes
      rw [held, headerEnd] at lengths
      simp only [List.length_append, List.length_drop] at sizes lengths
      have early : separator + 4 ≤ header.length := by omega
      have display : ∃ after, stored (first :: more) = header ++ after := by
        have short : header.length ≤ headerBufferSize := by
          have bound := isRead.2
          omega
        rw [stored, List.flatten_cons, same, List.append_assoc, List.take_append,
          List.take_of_length_le short]
        exact ⟨_, rfl⟩
      rcases display with ⟨after, display⟩
      rw [display, Memory.text_append clean] at seen
      have piece : Search.find headerSeparator
          ((header ++ Memory.text after).take header.length) = some separator :=
        (Search.find_take_eq_some_iff headerSeparator_ne_nil _ _ _).mpr ⟨seen, by omega⟩
      rw [List.take_left] at piece
      have visible : Search.find headerSeparator (Memory.text first) = some separator := by
        rw [same, Memory.text_append clean]
        exact Search.find_append headerSeparator_ne_nil piece _
      rw [nothing, locate_first isRead
        (Memory.strstr_of_found headerSeparator_ne_nil visible _), Exec.done.injEq,
        Option.some.injEq] at located
      subst located
      have lengths := congrArg List.length written
      have sizes := congrArg List.length whole
      simp only [List.length_append, List.length_drop] at lengths sizes
      have last : separator = header.length - 4 := by omega
      rw [piece, last]

/-- Whatever the stack held, the file gets the body exactly when the first read
brings the whole header and the header ends in its first blank line. -/
theorem storesBody_iff (received : reads results = first :: rest)
    (whole : first ++ rest.flatten = header ++ body) (clean : 0 ∉ header)
    (ends : ending results ≠ none) :
    StoresBody results body ↔
      Search.find headerSeparator header = some (header.length - 4) ∧
        header.length ≤ first.length := by
  constructor
  · intro stores
    have covers := covers_of_storesBody received whole clean stores
    exact ⟨find_of_storesBody received whole clean covers stores, covers⟩
  · rintro ⟨found, covers⟩
    exact storesBody_of_first received whole clean ends found covers

end Parts

end Simulator
end Client
end NetLL
