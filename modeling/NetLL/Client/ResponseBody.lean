import NetLL.Library.Segments
import NetLL.Client.ResponseFile

namespace NetLL
namespace Client
namespace Simulator

open Server (headerSeparator headerSeparator_ne_nil)

/-!
# The downloaded body

A header section that fits `headerBuffer` is found there in the read that
completes it.  The read is stored as far as it fits, and what is stored of it
behind the header end goes to the file with all later reads.  A read that
completes the header and reaches past the end of the buffer loses its last
bytes, so the file has the whole body exactly when there is no such read.
-/

/-- A response whose header section has no zero byte and fits `headerBuffer`. -/
structure Response where
  bytes : List UInt8
  separator : Nat
  found : Search.find headerSeparator bytes = some separator
  fits : separator + 4 ≤ headerBufferSize
  clean : 0 ∉ bytes.take (separator + 4)

/-- The offset of the first byte behind the blank line. -/
def Response.headerEnd (response : Response) : Nat :=
  response.separator + 4

def Response.body (response : Response) : List UInt8 :=
  response.bytes.drop response.headerEnd

/-- Reads that bring a stream. -/
structure Cut (stream : List UInt8) where
  segments : List (List UInt8)
  sizes : ∀ bytes ∈ segments, IsRead bytes
  whole : segments.flatten = stream

/-- A buffer whose unwritten bytes are zero. -/
def zeroBuffer : List UInt8 :=
  List.replicate headerBufferSize 0

/-- The file is opened once and is given the body of the response, however the
stream ends. -/
def DownloadsBody (response : Response) (cut : Cut response.bytes) : Prop :=
  ∀ (beyond : List UInt8) (last : Ending), ∃ outcome,
    readResponseToFile true zeroBuffer beyond (arrival cut.segments last) = .done outcome ∧
      List.count FileEvent.opened outcome.file = 1 ∧
      writtenBytes outcome.file = response.body

/-! ## Where the header end is found -/

theorem zeroBuffer_length : zeroBuffer.length = headerBufferSize :=
  List.length_replicate

theorem zero_next {held : List UInt8} (room : held.length < headerBufferSize)
    (beyond : List UInt8) :
    ∃ back, (zeroBuffer ++ beyond).drop held.length = 0 :: back := by
  have left_ : headerBufferSize - held.length = headerBufferSize - held.length - 1 + 1 := by omega
  have inside : held.length ≤ zeroBuffer.length := by
    rw [zeroBuffer_length]
    omega
  rw [List.drop_append_of_le_length inside, zeroBuffer, List.drop_replicate, left_,
    List.replicate_succ]
  exact ⟨_, rfl⟩

theorem find_text_take {stream : List UInt8} {separator size : Nat}
    (found : Search.find headerSeparator stream = some separator)
    (clean : 0 ∉ stream.take (separator + 4)) (past : separator + 4 ≤ size) :
    Search.find headerSeparator (Memory.text (stream.take size)) = some separator := by
  have header : Search.find headerSeparator (stream.take (separator + 4)) = some separator :=
    (Search.find_take_eq_some_iff headerSeparator_ne_nil _ _ _).mpr ⟨found, Nat.le_refl _⟩
  have split : stream.take size =
      stream.take (separator + 4) ++ (stream.drop (separator + 4)).take (size - (separator + 4)) := by
    rw [← List.take_add, Nat.add_sub_cancel' past]
  rw [split, Memory.text_append clean]
  exact Search.find_append headerSeparator_ne_nil header _

theorem find_take_none {stream : List UInt8} {separator size : Nat}
    (found : Search.find headerSeparator stream = some separator) (short : size < separator + 4) :
    Search.find headerSeparator (stream.take size) = none := by
  cases early : Search.find headerSeparator (stream.take size) with
  | none => rfl
  | some position =>
      rcases (Search.find_take_eq_some_iff headerSeparator_ne_nil _ _ _).mp early with
        ⟨same, inside⟩
      rw [found, Option.some.injEq] at same
      have four : headerSeparator.length = 4 := rfl
      omega

/-- From stored bytes in front of the header end, the end is found with the
read that brings it. -/
theorem locate_zeroBuffer {held : List UInt8} {segments : List (List UInt8)} {separator : Nat}
    (found : Search.find headerSeparator (held ++ segments.flatten) = some separator)
    (clean : 0 ∉ (held ++ segments.flatten).take (separator + 4))
    (fits : separator + 4 ≤ headerBufferSize) (before : held.length < separator + 4)
    (beyond : List UInt8) :
    ∃ result, locate (zeroBuffer ++ beyond) held segments = .done (some result) ∧
      result.headerEnd = separator + 4 ∧
      result.held = (held ++ segments.flatten).take (min headerBufferSize
        (held.length + Segments.boundary segments (separator + 4 - held.length))) ∧
      result.rest.flatten = (held ++ segments.flatten).drop
        (held.length + Segments.boundary segments (separator + 4 - held.length)) := by
  induction segments generalizing held with
  | nil =>
      rw [List.flatten_nil, List.append_nil] at found
      have inside := Search.find_fits headerSeparator_ne_nil found
      have four : headerSeparator.length = 4 := rfl
      omega
  | cons bytes rest inductionHypothesis =>
      have sizes : (held ++ bytes).length = held.length + bytes.length := List.length_append
      have kept : keep held bytes = (held ++ bytes).take headerBufferSize := keep_eq (by omega) bytes
      have stream : held ++ (bytes :: rest).flatten = held ++ bytes ++ rest.flatten := by
        rw [List.flatten_cons, List.append_assoc]
      rw [stream] at found clean ⊢
      rw [locate, Segments.boundary]
      by_cases here : separator + 4 ≤ held.length + bytes.length
      · -- the read completes the header
        have piece : keep held bytes = (held ++ bytes ++ rest.flatten).take
            (min headerBufferSize (held.length + bytes.length)) := by
          rw [kept, ← List.take_take, ← sizes, List.take_left]
        have shown := find_text_take found clean
          (Nat.le_min.mpr ⟨fits, here⟩ : separator + 4 ≤ _)
        rw [← piece] at shown
        rw [Memory.strstr_of_found headerSeparator_ne_nil shown, if_pos (by omega), ← piece,
          ← sizes, List.drop_left]
        exact ⟨_, rfl, rfl, rfl, rfl⟩
      · -- the read is stored whole, and the buffer ends in zeros behind it
        have whole : keep held bytes = held ++ bytes := by
          rw [kept, List.take_of_length_le (by omega)]
        have piece : held ++ bytes = (held ++ bytes ++ rest.flatten).take (held ++ bytes).length :=
          List.take_left.symm
        have terminated : 0 ∉ held ++ bytes := by
          intro member
          rw [piece] at member
          exact clean (List.take_subset_take_left _ (by omega) member)
        have missing : Search.find headerSeparator (Memory.text (held ++ bytes)) = none := by
          rw [Memory.text_of_zero_not_mem terminated, piece]
          exact find_take_none found (by omega)
        have shorter : (held ++ bytes).length < headerBufferSize := by omega
        rcases zero_next shorter beyond with ⟨back, next⟩
        have shift : separator + 4 - held.length - bytes.length =
            separator + 4 - (held ++ bytes).length := by omega
        rw [whole, Memory.strstr_of_zero_next next, missing, if_neg (by omega), shift,
          ← Nat.add_assoc, ← sizes]
        exact inductionHypothesis found clean (by omega)

/-- The run of the code on a response, and what the file gets. -/
theorem readResponseToFile_response (response : Response) (cut : Cut response.bytes)
    (beyond : List UInt8) (last : Ending) :
    ∃ outcome, readResponseToFile true zeroBuffer beyond (arrival cut.segments last) =
        .done outcome ∧
      List.count FileEvent.opened outcome.file = 1 ∧
      writtenBytes outcome.file =
        (response.bytes.take (min headerBufferSize
          (Segments.boundary cut.segments response.headerEnd))).drop response.headerEnd ++
        response.bytes.drop (Segments.boundary cut.segments response.headerEnd) := by
  have stream : [] ++ cut.segments.flatten = response.bytes := cut.whole
  have positive : ([] : List UInt8).length < response.separator + 4 := Nat.succ_pos _
  rcases @locate_zeroBuffer [] cut.segments response.separator
    (by rw [stream]; exact response.found) (by rw [stream]; exact response.clean) response.fits
    positive beyond with ⟨result, located, headerEnd, held, rest⟩
  rw [stream, List.length_nil, Nat.zero_add, Nat.sub_zero] at held rest
  refine ⟨{ returned := true, file := result.file ++ [.closed] }, ?_, count_opened result, ?_⟩
  · rw [readResponseToFile_eq true zeroBuffer_length, reads_arrival cut.sizes,
      ending_arrival cut.sizes, transfer, located]
    rfl
  · rw [writtenBytes_file, headerEnd, held, rest]
    rfl

/-- The bytes written are the body exactly when nothing of it was cut off. -/
theorem written_eq_body_iff (response : Response) (cut : Cut response.bytes) :
    (response.bytes.take (min headerBufferSize
        (Segments.boundary cut.segments response.headerEnd))).drop response.headerEnd ++
      response.bytes.drop (Segments.boundary cut.segments response.headerEnd) = response.body ↔
    Segments.boundary cut.segments response.headerEnd ≤ headerBufferSize := by
  have bounds := Search.find_fits headerSeparator_ne_nil response.found
  have four : headerSeparator.length = 4 := rfl
  have headerEnd : response.headerEnd = response.separator + 4 := rfl
  have inside : response.headerEnd ≤ cut.segments.flatten.length := by
    rw [cut.whole]
    omega
  have reached := Segments.le_boundary cut.segments response.headerEnd inside
  have ends := Segments.boundary_le_length cut.segments response.headerEnd
  rw [cut.whole] at ends
  constructor
  · intro same
    have lengths := congrArg List.length same
    have fits := response.fits
    simp only [Response.body, List.length_append, List.length_drop, List.length_take] at lengths
    omega
  · intro room
    have past : response.bytes.drop (Segments.boundary cut.segments response.headerEnd) =
        response.body.drop
          (Segments.boundary cut.segments response.headerEnd - response.headerEnd) := by
      rw [Response.body, List.drop_drop, Nat.add_sub_cancel' reached]
    rw [Nat.min_eq_right room, List.drop_take, past]
    exact List.take_append_drop _ _

/-- The file has the body of the response exactly when the read that completes
the header section ends inside the first `sizeof(headerBuffer)` bytes. -/
theorem downloadsBody_iff (response : Response) (cut : Cut response.bytes) :
    DownloadsBody response cut ↔
      Segments.boundary cut.segments response.headerEnd ≤ headerBufferSize := by
  rw [← written_eq_body_iff response cut]
  constructor
  · intro downloads
    rcases downloads [] .closed with ⟨outcome, run, _, written⟩
    rcases readResponseToFile_response response cut [] .closed with ⟨other, same, _, gets⟩
    rw [run, Exec.done.injEq] at same
    subst same
    rw [← gets, written]
  · intro whole beyond last
    rcases readResponseToFile_response response cut beyond last with ⟨outcome, run, once, gets⟩
    exact ⟨outcome, run, once, gets.trans whole⟩

/-! ## A lost byte -/

theorem find_behind {front : List UInt8} (clean : 13 ∉ front) (back : List UInt8) :
    Search.find headerSeparator (front ++ headerSeparator ++ back) = some front.length := by
  induction front with
  | nil => rfl
  | cons byte rest inductionHypothesis =>
      rw [List.mem_cons, not_or] at clean
      have other : ¬ headerSeparator <+: byte :: (rest ++ headerSeparator ++ back) := by
        intro stands
        rw [headerSeparator, List.cons_prefix_cons] at stands
        exact clean.1 stands.1
      rw [List.cons_append, List.cons_append, Search.find, if_neg other,
        inductionHypothesis clean.2]
      rfl

/-- A part of a header section without line ends. -/
def letters (count : Nat) : List UInt8 :=
  List.replicate count 65

theorem letters_length (count : Nat) : (letters count).length = count :=
  List.length_replicate

theorem not_mem_letters {byte : UInt8} (other : byte ≠ 65) (count : Nat) :
    byte ∉ letters count := by
  intro member
  exact other (List.eq_of_mem_replicate member)

theorem letters_append (first second : Nat) :
    letters first ++ letters second = letters (first + second) :=
  List.replicate_append_replicate

/-- A header section of 8192 bytes and a body of one byte. -/
def fullHeader : Response where
  bytes := letters 8188 ++ headerSeparator ++ [66]
  separator := 8188
  found := by
    have shown := find_behind (not_mem_letters (by decide) 8188) [66]
    rwa [letters_length] at shown
  fits := by decide
  clean := by
    have size : (letters 8188 ++ headerSeparator).length = 8188 + 4 := by
      rw [List.length_append, letters_length]
      rfl
    rw [← size, List.take_left, List.mem_append, not_or]
    exact ⟨not_mem_letters (by decide) _, by decide⟩

theorem letters_isRead {count : Nat} (positive : 0 < count) (fits : count ≤ httpBufferSize) :
    IsRead (letters count) := by
  refine ⟨List.ne_nil_of_length_pos ?_, ?_⟩
  · rwa [letters_length]
  · rwa [letters_length]

/-- The body byte comes in the read that completes the header. -/
def bodyBehindHeader : Cut fullHeader.bytes where
  segments := [letters 4096, letters 4000, letters 92 ++ headerSeparator ++ [66]]
  sizes := by
    have last : IsRead (letters 92 ++ headerSeparator ++ [66]) := by
      refine ⟨List.append_ne_nil_of_right_ne_nil _ (by decide), ?_⟩
      rw [List.length_append, List.length_append, letters_length]
      decide
    simp only [List.forall_mem_cons]
    exact ⟨letters_isRead (by decide) (by decide), letters_isRead (by decide) (by decide), last,
      by simp⟩
  whole := by
    have whole : letters 8188 = letters 4096 ++ (letters 4000 ++ letters 92) := by
      rw [letters_append, letters_append]
    simp only [List.flatten_cons, List.flatten_nil, List.append_nil, fullHeader, whole,
      List.append_assoc]

/-- The body byte does not fit the buffer and is not written. -/
theorem bodyByte_lost : ¬ DownloadsBody fullHeader bodyBehindHeader := by
  intro downloads
  rcases downloads [] .closed with ⟨outcome, run, _, written⟩
  rcases readResponseToFile_response fullHeader bodyBehindHeader [] .closed with
    ⟨other, same, _, gets⟩
  rw [run, Exec.done.injEq] at same
  subst same
  rw [written, Eq.comm, written_eq_body_iff] at gets
  have ends : Segments.boundary bodyBehindHeader.segments fullHeader.headerEnd = 8193 := by
    simp [bodyBehindHeader, fullHeader, Response.headerEnd, Segments.boundary, headerSeparator,
      letters_length]
  rw [ends] at gets
  exact absurd gets (by decide)

end Simulator
end Client
end NetLL
