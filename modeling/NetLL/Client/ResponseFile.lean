import NetLL.Library.Overlay
import NetLL.Server.ContentLength

namespace NetLL
namespace Client
namespace Simulator

open Server (headerSeparator headerSeparator_ne_nil)

/-!
# The response in the file

`ReadResponseToFile` gathers reads into `headerBuffer` until `SkipHeaders`
finds the blank line there, and passes everything that follows to the file.
`headerBuffer` is a local array that is not cleared, and the search is an
unbounded `strstr`, so what the array and the memory behind it hold at the
start are parameters of the model.

A run is described from the reads alone: they are stored, clamped to the size
of the buffer, until a search of the stored bytes over the initial ones finds
the header end, and the reads after that one go to the file whole.
-/

/-- `HTTP_BUFFER_SIZE`: the most bytes one read can bring. -/
def httpBufferSize : Nat := 4096

/-- `sizeof(headerBuffer)`. -/
def headerBufferSize : Nat := httpBufferSize * 2

/-- One result of `ReceiveData`.  No bytes is a result of zero, the end of the
stream; a failure is a negative result. -/
inductive ReceiveResult where
  | received (bytes : List UInt8)
  | failed
deriving DecidableEq, Repr

/-- What is done to a file, in order. -/
inductive FileEvent where
  | opened
  | wrote (bytes : List UInt8)
  | closed
deriving DecidableEq, Repr

/-- The bytes that are passed to `WriteFile`, one after another. -/
def writtenBytes (events : List FileEvent) : List UInt8 :=
  (events.map fun
    | .wrote bytes => bytes
    | _ => []).flatten

/-! ## The code -/

/-- The pointer `SkipHeaders` returns, as an offset, and its output `bodyBytes`. -/
structure Skipped where
  body : Option Nat
  bodyBytes : Int
deriving DecidableEq, Repr

/-- `SkipHeaders` on a block of memory. -/
def skipHeaders (memory : List UInt8) (totalRead : Nat) : Exec Skipped := do
  match ← Memory.strstr memory headerSeparator with
  | none => return { body := none, bodyBytes := 0 }
  | some separator =>
      let headerEnd := separator + 4
      return { body := some headerEnd, bodyBytes := totalRead - headerEnd }

/-- The local variables of `ReadResponseToFile`, and what was done to the file.
The memory is `headerBuffer` and what lies behind it. -/
structure ReadState where
  memory : List UInt8
  headerBufferLen : Nat
  headersSkipped : Bool
  fileOpened : Bool
  file : List FileEvent
deriving DecidableEq, Repr

/-- The result of `ReadResponseToFile` and what it did to the file. -/
structure Outcome where
  returned : Bool
  file : List FileEvent
deriving DecidableEq, Repr

/-- The `memcpy` of a read to the end of `headerBuffer`, as far as it fits. -/
def ReadState.copy (state : ReadState) (bytes : List UInt8) : Exec ReadState := do
  let space := headerBufferSize - state.headerBufferLen
  let toCopy := if bytes.length < space then bytes.length else space
  let memory ← Memory.write state.memory state.headerBufferLen (bytes.take toCopy)
  return { state with memory, headerBufferLen := state.headerBufferLen + toCopy }

/-- The `WriteFile` of the body bytes that came with the header. -/
def ReadState.writeFront (state : ReadState) (skipped : Skipped) (body : Nat) :
    Exec ReadState := do
  if 0 < skipped.bodyBytes then
    let bytes ← Memory.slice state.memory body skipped.bodyBytes.toNat
    return { state with file := state.file ++ [.wrote bytes] }
  return state

/-- What follows the loop. -/
def afterLoop (state : ReadState) : Outcome :=
  if state.fileOpened then { returned := true, file := state.file ++ [.closed] }
  else { returned := false, file := state.file }

/-- One round of the loop, where `OpenFile` returns `opens`. -/
def readRound (opens : Bool) (state : ReadState) (result : ReceiveResult) :
    Exec (Round ReadState Outcome) :=
  match result with
  | .failed => pure (.stop (afterLoop state))
  | .received available => do
      let bytes := available.take httpBufferSize
      if bytes = [] then
        return .stop (afterLoop state)
      if state.headersSkipped then
        return .again { state with file := state.file ++ [.wrote bytes] }
      let state ← state.copy bytes
      let skipped ← skipHeaders state.memory state.headerBufferLen
      match skipped.body with
      | none => return .again state
      | some body =>
          let state := { state with headersSkipped := true }
          if !opens then
            return .stop { returned := false, file := state.file }
          let file := state.file ++ [FileEvent.opened]
          let state := { state with fileOpened := true, file }
          let state ← state.writeFront skipped body
          return .again state

/-- The variables before the loop. -/
def initialState (headerBuffer beyond : List UInt8) : ReadState where
  memory := headerBuffer ++ beyond
  headerBufferLen := 0
  headersSkipped := false
  fileOpened := false
  file := []

/-- `ReadResponseToFile`, with what `headerBuffer` and the memory behind it hold. -/
def readResponseToFile (opens : Bool) (headerBuffer beyond : List UInt8)
    (results : List ReceiveResult) : Exec Outcome :=
  Exec.loop (fun _ => true) (readRound opens) afterLoop results (initialState headerBuffer beyond)

/-! ## Reads -/

/-- How a stream ends: cleanly, or in an error. -/
inductive Ending where
  | closed
  | failed
deriving DecidableEq, Repr

def Ending.result : Ending → ReceiveResult
  | .closed => .received []
  | .failed => .failed

/-- The reads of a run, up to the result that ends its loop. -/
def reads : List ReceiveResult → List (List UInt8)
  | [] => []
  | .failed :: _ => []
  | .received available :: rest =>
      if available = [] then [] else available.take httpBufferSize :: reads rest

/-- The result that ends the loop, if it has come. -/
def ending : List ReceiveResult → Option Ending
  | [] => none
  | .failed :: _ => some .failed
  | .received available :: rest => if available = [] then some .closed else ending rest

/-- A read is what `ReceiveData` can bring. -/
def IsRead (bytes : List UInt8) : Prop :=
  bytes ≠ [] ∧ bytes.length ≤ httpBufferSize

instance : DecidablePred IsRead := fun bytes =>
  inferInstanceAs (Decidable (bytes ≠ [] ∧ bytes.length ≤ httpBufferSize))

/-- The results that bring these reads and then end. -/
def arrival (segments : List (List UInt8)) (last : Ending) : List ReceiveResult :=
  segments.map .received ++ [last.result]

theorem take_ne_nil {available : List UInt8} (nonempty : available ≠ []) :
    available.take httpBufferSize ≠ [] := by
  rw [ne_eq, List.take_eq_nil_iff, not_or]
  exact ⟨by decide, nonempty⟩

theorem reads_isRead (results : List ReceiveResult) : ∀ bytes ∈ reads results, IsRead bytes := by
  induction results with
  | nil =>
      intro bytes member
      cases member
  | cons result rest inductionHypothesis =>
      cases result with
      | failed =>
          intro bytes member
          cases member
      | received available =>
          rw [reads]
          split
          · intro bytes member
            cases member
          · rename_i nonempty
            intro bytes member
            rcases List.mem_cons.mp member with first | later
            · rw [first]
              exact ⟨take_ne_nil nonempty, List.length_take_le _ _⟩
            · exact inductionHypothesis bytes later

theorem reads_arrival {segments : List (List UInt8)} (sizes : ∀ bytes ∈ segments, IsRead bytes)
    (last : Ending) : reads (arrival segments last) = segments := by
  induction segments with
  | nil => cases last <;> rfl
  | cons bytes rest inductionHypothesis =>
      rcases List.forall_mem_cons.mp sizes with ⟨first, later⟩
      rw [arrival, List.map_cons, List.cons_append, reads, if_neg first.1,
        List.take_of_length_le first.2]
      exact congrArg (bytes :: ·) (inductionHypothesis later)

theorem ending_arrival {segments : List (List UInt8)} (sizes : ∀ bytes ∈ segments, IsRead bytes)
    (last : Ending) : ending (arrival segments last) = some last := by
  induction segments with
  | nil => cases last <;> rfl
  | cons bytes rest inductionHypothesis =>
      rcases List.forall_mem_cons.mp sizes with ⟨first, later⟩
      rw [arrival, List.map_cons, List.cons_append, ending, if_neg first.1]
      exact inductionHypothesis later

/-! ## A run from its reads -/

/-- The stored bytes after one more read. -/
def keep (held bytes : List UInt8) : List UInt8 :=
  held ++ bytes.take (headerBufferSize - held.length)

/-- The stored bytes when the header end was found, the end, and the reads
still to come. -/
structure Found where
  held : List UInt8
  headerEnd : Nat
  rest : List (List UInt8)
deriving DecidableEq, Repr

/-- Store reads over the initial memory until the header end is found. -/
def locate (initial : List UInt8) : List UInt8 → List (List UInt8) → Exec (Option Found)
  | _, [] => pure none
  | held, bytes :: rest => do
      match ← Memory.strstr (Memory.overlay (keep held bytes) initial) headerSeparator with
      | none => locate initial (keep held bytes) rest
      | some separator =>
          return some { held := keep held bytes, headerEnd := separator + 4, rest }

/-- What the file is given from the stored bytes. -/
def Found.front (found : Found) : List FileEvent :=
  if found.headerEnd < found.held.length then [.wrote (found.held.drop found.headerEnd)] else []

/-- What is done to the file before the end of the stream. -/
def Found.file (found : Found) : List FileEvent :=
  .opened :: found.front ++ found.rest.map .wrote

/-- A run whose stream may not have ended yet. -/
def conclude (last : Option Ending) (outcome : Outcome) : Exec Outcome :=
  match last with
  | none => .waiting
  | some _ => .done outcome

/-- The run of `ReadResponseToFile`, from its reads. -/
def transfer (opens : Bool) (initial held : List UInt8) (segments : List (List UInt8))
    (last : Option Ending) : Exec Outcome := do
  match ← locate initial held segments with
  | none => conclude last { returned := false, file := [] }
  | some found =>
      if opens then conclude last { returned := true, file := found.file ++ [.closed] }
      else return { returned := false, file := [] }

theorem keep_eq {held : List UInt8} (room : held.length ≤ headerBufferSize) (bytes : List UInt8) :
    keep held bytes = (held ++ bytes).take headerBufferSize := by
  rw [keep, List.take_append, List.take_of_length_le room]

theorem keep_length_le {held : List UInt8} (room : held.length ≤ headerBufferSize)
    (bytes : List UInt8) : (keep held bytes).length ≤ headerBufferSize := by
  rw [keep_eq room]
  exact List.length_take_le _ _

theorem copy_overlay {headerBuffer beyond held : List UInt8}
    (size : headerBuffer.length = headerBufferSize) (room : held.length ≤ headerBufferSize)
    (bytes : List UInt8) (headersSkipped fileOpened : Bool) (file : List FileEvent) :
    ReadState.copy
        ⟨Memory.overlay held (headerBuffer ++ beyond), held.length, headersSkipped, fileOpened,
          file⟩ bytes =
      .done ⟨Memory.overlay (keep held bytes) (headerBuffer ++ beyond), (keep held bytes).length,
        headersSkipped, fileOpened, file⟩ := by
  have clamped : (if bytes.length < headerBufferSize - held.length then bytes.length
      else headerBufferSize - held.length) =
        (bytes.take (headerBufferSize - held.length)).length := by
    rw [List.length_take]
    split <;> omega
  have taken : bytes.take (bytes.take (headerBufferSize - held.length)).length =
      bytes.take (headerBufferSize - held.length) := by
    rw [List.length_take, ← List.take_take, List.take_length]
  have fits := keep_length_le room bytes
  rw [keep, List.length_append] at fits
  have inside : held.length + (bytes.take (headerBufferSize - held.length)).length ≤
      (headerBuffer ++ beyond).length := by
    rw [List.length_append, size]
    omega
  have written := Memory.write_overlay _ inside
  simp only [ReadState.copy, clamped, taken, written, Exec.done_bind, Exec.pure_eq, keep,
    List.length_append]

theorem loop_skipped (opens : Bool) (results : List ReceiveResult) (memory : List UInt8)
    (headerBufferLen : Nat) (file : List FileEvent) :
    Exec.loop (fun _ => true) (readRound opens) afterLoop results
        ⟨memory, headerBufferLen, true, true, file⟩ =
      conclude (ending results)
        { returned := true, file := file ++ (reads results).map .wrote ++ [.closed] } := by
  induction results generalizing file with
  | nil => rfl
  | cons result rest inductionHypothesis =>
      rw [Exec.loop]
      cases result with
      | failed => simp [readRound, afterLoop, ending, reads, conclude]
      | received available =>
          by_cases empty : available = []
          · simp [readRound, afterLoop, ending, reads, conclude, empty]
          · simp only [readRound, if_neg (take_ne_nil empty), ending, reads, if_neg empty, if_true,
              Exec.pure_eq, inductionHypothesis, List.map_cons, List.append_assoc,
              List.cons_append, List.nil_append]

/-- The body bytes among the stored ones are what lies behind the header end. -/
theorem writeFront_overlay (held initial : List UInt8) (headerEnd : Nat) (file : List FileEvent) :
    ReadState.writeFront ⟨Memory.overlay held initial, held.length, true, true, file⟩
        { body := some headerEnd, bodyBytes := held.length - headerEnd } headerEnd =
      .done ⟨Memory.overlay held initial, held.length, true, true,
        file ++ Found.front ⟨held, headerEnd, []⟩⟩ := by
  by_cases later : headerEnd < held.length
  · have positive : 0 < (held.length : Int) - headerEnd := by omega
    have size : ((held.length : Int) - headerEnd).toNat = held.length - headerEnd := by omega
    simp only [ReadState.writeFront, if_pos positive, size,
      Memory.slice_overlay (Nat.le_of_lt later), Exec.done_bind, Exec.pure_eq, Found.front,
      if_pos later]
  · have negative : ¬ 0 < (held.length : Int) - headerEnd := by omega
    simp only [ReadState.writeFront, if_neg negative, Exec.pure_eq, Found.front, if_neg later,
      List.append_nil]

/-- In front of the header, the loop searches what the reads have stored. -/
theorem loop_unskipped (opens : Bool) {headerBuffer beyond : List UInt8}
    (size : headerBuffer.length = headerBufferSize) (results : List ReceiveResult)
    (held : List UInt8) (room : held.length ≤ headerBufferSize) :
    Exec.loop (fun _ => true) (readRound opens) afterLoop results
        ⟨Memory.overlay held (headerBuffer ++ beyond), held.length, false, false, []⟩ =
      transfer opens (headerBuffer ++ beyond) held (reads results) (ending results) := by
  induction results generalizing held with
  | nil => rfl
  | cons result rest inductionHypothesis =>
      rw [Exec.loop, if_pos rfl]
      cases result with
      | failed => rfl
      | received available =>
          by_cases empty : available = []
          · subst empty
            rfl
          · simp only [readRound, if_neg (take_ne_nil empty), ending, reads, if_neg empty,
              Bool.false_eq_true, if_false, copy_overlay size room, Exec.done_bind, skipHeaders,
              transfer, locate]
            have fits := keep_length_le room (available.take httpBufferSize)
            cases Memory.strstr (Memory.overlay (keep held (available.take httpBufferSize))
              (headerBuffer ++ beyond)) headerSeparator with
            | waiting => rfl
            | fault => rfl
            | done position =>
                cases position with
                | none =>
                    simp only [Exec.done_bind, Exec.pure_eq]
                    exact inductionHypothesis _ fits
                | some separator =>
                    cases opens with
                    | false => rfl
                    | true =>
                        simp only [Bool.not_true, Bool.false_eq_true, if_false, List.nil_append,
                          Exec.pure_eq, Exec.done_bind, writeFront_overlay, loop_skipped, if_true,
                          Found.file, Found.front, List.cons_append]

/-- A run of the code is the run described by its reads. -/
theorem readResponseToFile_eq (opens : Bool) {headerBuffer : List UInt8}
    (size : headerBuffer.length = headerBufferSize) (beyond : List UInt8)
    (results : List ReceiveResult) :
    readResponseToFile opens headerBuffer beyond results =
      transfer opens (headerBuffer ++ beyond) [] (reads results) (ending results) :=
  loop_unskipped opens size results [] (Nat.zero_le _)

/-! ## What the file gets -/

theorem writtenBytes_append (front back : List FileEvent) :
    writtenBytes (front ++ back) = writtenBytes front ++ writtenBytes back := by
  simp [writtenBytes]

theorem writtenBytes_wrote (segments : List (List UInt8)) :
    writtenBytes (segments.map .wrote) = segments.flatten := by
  induction segments with
  | nil => rfl
  | cons bytes rest inductionHypothesis =>
      rw [List.flatten_cons, ← inductionHypothesis]
      rfl

theorem writtenBytes_front (found : Found) :
    writtenBytes found.front = found.held.drop found.headerEnd := by
  rw [Found.front]
  split
  · exact List.append_nil _
  · rename_i past
    exact (List.drop_eq_nil_of_le (by omega)).symm

theorem writtenBytes_file (found : Found) :
    writtenBytes (found.file ++ [.closed]) =
      found.held.drop found.headerEnd ++ found.rest.flatten := by
  have opened : writtenBytes (found.file ++ [.closed]) =
      writtenBytes (found.front ++ found.rest.map .wrote ++ [.closed]) := rfl
  have closed : writtenBytes [.closed] = [] := rfl
  rw [opened, writtenBytes_append, writtenBytes_append, writtenBytes_front, writtenBytes_wrote,
    closed, List.append_nil]

theorem count_opened (found : Found) :
    List.count FileEvent.opened (found.file ++ [.closed]) = 1 := by
  have front : List.count FileEvent.opened found.front = 0 := by
    rw [Found.front]
    split <;> rfl
  have rest : List.count FileEvent.opened (found.rest.map .wrote) = 0 := by
    rw [List.count_eq_zero]
    simp
  rw [Found.file, List.count_append, List.cons_append, List.count_cons_self, List.count_append,
    front, rest]
  rfl

end Simulator
end Client
end NetLL
