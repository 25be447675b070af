import NetLL.Server.HeaderSection
import NetLL.Server.PartialBody

namespace NetLL
namespace Server

/-!
# The request line and the first line

`ParseRequestLine` looks for a space in all of the string in the buffer, so a
request whose first line has none is cut in its header fields or in its body.
The parts are those of the first line exactly when that line has a space, and
without one the request is refused untouched exactly when no other place can be
cut.
-/

/-- The bytes in front of the first line end. -/
def firstLine (bytes : List UInt8) : List UInt8 :=
  bytes.take ((Search.find crlf bytes).getD bytes.length)

/-- The strings that routing and the callback read from a cut line: the method
token, the path, and the query if there is one. -/
def RequestLine.Reads (line : RequestLine) (part : List UInt8) : Prop :=
  Memory.cstring line.buffer line.method = .done part ∨
    Memory.cstring line.buffer line.path = .done part ∨
    ∃ offset, line.query = some offset ∧ Memory.cstring line.buffer offset = .done part

/-- The header fields and the body of a request, with the line end in front. -/
def fieldsAndBody (memory : List UInt8) (start headerEnd bodyLength : Nat) : List UInt8 :=
  (memory.take (headerEnd + bodyLength)).drop start

/-- What should hold of a complete request: its parts lie in its first line, it
is refused untouched when that line has no space, and every callback sees the
body as it was received. -/
structure ParsedFromFirstLine (platform : Platform) (server : Registrations)
    (application : Application) (stack : Option CString) (buffer : List UInt8)
    (results : List RecvResult) (script : List SendResult) (bytes : List UInt8)
    (headerEnd bodyLength : Nat) : Prop where
  parts : ∀ stale line part, parseRequestLine (bytes ++ 0 :: stale) = .done (some line) →
    line.Reads part → part <:+: firstLine bytes
  refused : 32 ∉ firstLine bytes → ∃ events,
    serveConnection platform server application stack buffer results script = .done events ∧
      statuses events = [400] ∧ invocations events = [] ∧
      ∀ stale memory parsed,
        parseRequestLineInPlace (bytes ++ 0 :: stale) = .done (memory, parsed) →
          fieldsAndBody memory (firstLine bytes).length headerEnd bodyLength =
            fieldsAndBody bytes (firstLine bytes).length headerEnd bodyLength
  body : ∀ events,
    serveConnection platform server application stack buffer results script = .done events →
      ∀ entry ∈ invocations events, entry.2.body = (bytes.drop headerEnd).take bodyLength ∧
        entry.2.bodyLength = bodyLength

/-- The first line has a space, or else neither the header fields nor the body
has one, and nothing behind them makes a request line. -/
def CutsFirstLine (bytes : List UInt8) (headerEnd bodyLength : Nat) : Prop :=
  32 ∈ firstLine bytes ∨
    (32 ∉ (Memory.text bytes).take (headerEnd + bodyLength) ∧
      ¬ HasRequestLine (Memory.text bytes))

/-! ## Complete requests -/

/-- A complete request in its buffer. -/
structure Complete (bytes : List UInt8) (headerEnd bodyLength : Nat) : Prop where
  separator : Search.find headerSeparator (Memory.text bytes) = some (headerEnd - 4)
  four : 4 ≤ headerEnd
  inside : headerEnd + bodyLength ≤ bytes.length
  room : bytes.length ≤ capacity

/-- What a reader takes for complete is complete. -/
theorem complete_of_gather {platform : Platform} {results : List RecvResult} {bytes : List UInt8}
    {headerEnd bodyLength : Nat}
    (gathered : platform.policy.gather results = .done (.complete bytes headerEnd bodyLength)) :
    Complete bytes headerEnd bodyLength := by
  rw [Policy.gather_eq] at gathered
  rcases exists_answered gathered with ⟨place, size, found, answered⟩
  rw [reading_answered found answered] at gathered
  rcases answeredOn_bounds found answered with ⟨noticed, inside, _⟩
  have bounds := Policy.noticedAt_bounds found
  rcases (headerEndOf_eq_some_iff _ _).mp found with ⟨separator, here, equal⟩
  cases gathered
  refine ⟨?_, by omega, ?_, ?_⟩
  · change Search.find headerSeparator (view _ size) = _
    rw [view_take _ (show size ≤ capacity by omega)]
    refine (Search.find_take_eq_some_iff headerSeparator_ne_nil _ _ _).mpr ⟨?_, ?_⟩
    · rw [here]
      congr 1
      omega
    · have four : headerSeparator.length = 4 := rfl
      omega
  · rw [List.length_take]
    omega
  · rw [List.length_take]
    omega

namespace Complete

variable {bytes : List UInt8} {headerEnd bodyLength : Nat}

theorem text (complete : Complete bytes headerEnd bodyLength) :
    (Memory.text bytes).take headerEnd = bytes.take headerEnd := by
  have fits := Search.find_fits headerSeparator_ne_nil complete.separator
  have four : headerSeparator.length = 4 := rfl
  have enough := complete.four
  rcases (List.takeWhile_prefix _ : Memory.text bytes <+: bytes) with ⟨behind, split⟩
  conv_rhs => rw [← split]
  exact (List.take_append_of_le_length (by omega)).symm

theorem firstLine_end (complete : Complete bytes headerEnd bodyLength) :
    ∃ first, Search.find crlf bytes = some first ∧ first + 4 ≤ headerEnd := by
  have stands := ((Search.find_eq_some_iff headerSeparator_ne_nil _ _).mp complete.separator).1
  have lineEnd := ((standsAt_headerSeparator _ _).mp stands).1
  rcases (List.takeWhile_prefix _ : Memory.text bytes <+: bytes) with ⟨behind, split⟩
  have here : Search.StandsAt crlf bytes (headerEnd - 4) := by
    have longer := lineEnd.append crlf_ne_nil behind
    rwa [show Memory.text bytes ++ behind = bytes from split] at longer
  cases found : Search.find crlf bytes with
  | none => exact absurd here ((Search.find_eq_none_iff crlf_ne_nil _).mp found _)
  | some first =>
      have least := ((Search.find_eq_some_iff crlf_ne_nil _ _).mp found).2
      have early : ¬ headerEnd - 4 < first := fun later => least _ later here
      have enough := complete.four
      exact ⟨first, rfl, by omega⟩

/-- The first line and its line end are at the front of the text. -/
theorem display (complete : Complete bytes headerEnd bodyLength) :
    ∃ tail, bytes = firstLine bytes ++ crlf ++ tail ∧ 0 ∉ firstLine bytes ∧
      (firstLine bytes).length + 4 ≤ headerEnd := by
  rcases complete.firstLine_end with ⟨first, found, early⟩
  have size : (firstLine bytes).length = first := by
    have inside := complete.inside
    rw [firstLine, found, Option.getD_some, List.length_take]
    omega
  refine ⟨bytes.drop (first + 2), ?_, ?_, by omega⟩
  · have split := Search.find_split crlf_ne_nil found
    rw [firstLine, found]
    exact split
  · intro member
    have shown : firstLine bytes = (Memory.text bytes).take first := by
      have front := complete.text
      rw [firstLine, found, Option.getD_some]
      have shorter := congrArg (List.take first) front
      rw [List.take_take, List.take_take, Nat.min_eq_left (by omega)] at shorter
      exact shorter.symm
    rw [shown] at member
    exact Memory.zero_not_mem_text bytes (List.mem_of_mem_take member)

end Complete

/-! ## A first line with a space -/

/-- The request line of a request whose first line has a space lies in that
line, since the line end is a delimiter. -/
theorem Complete.exists_shownLine {bytes : List UInt8} {headerEnd bodyLength : Nat}
    (complete : Complete bytes headerEnd bodyLength) (space : 32 ∈ firstLine bytes) :
    ∃ (line : ShownLine bytes) (behind : List UInt8),
      firstLine bytes = line.method ++ 32 :: (line.target ++ behind) := by
  rcases complete.display with ⟨tail, display, clean, _⟩
  cases found : searchByte (· = 32) (firstLine bytes) with
  | none =>
      have absent := (searchByte_eq_none_iff _ _).mp found 32 space
      simp at absent
  | some index =>
      rcases searchByte_split found with ⟨method, mark, rest, split, _, isSpace, before⟩
      have markSpace : mark = 32 := by simpa using isSpace
      subst markSpace
      have lineEnd : searchByte (IsDelimiter ·) (rest ++ [13]) ≠ none := by
        intro missing
        have absent := (searchByte_eq_none_iff _ _).mp missing 13
          (List.mem_append_right rest (List.mem_singleton.mpr rfl))
        revert absent
        decide
      rcases Option.ne_none_iff_exists'.mp lineEnd with ⟨length, ends⟩
      rcases searchByte_split ends with ⟨target, delimiter, back, cut, _, isDelimiter, free⟩
      rw [split, List.mem_append, List.mem_cons, not_or, not_or] at clean
      have sizes := congrArg List.length cut
      simp only [List.length_append, List.length_cons, List.length_nil] at sizes
      have shorter : target <+: rest := by
        have front : target <+: rest ++ [13] := cut ▸ List.prefix_append _ _
        exact List.prefix_of_prefix_length_le front (List.prefix_append _ _) (by omega)
      rcases shorter with ⟨behind, rest_eq⟩
      refine ⟨{ method := method
                target := target
                delimiter := delimiter
                tail := back ++ 10 :: tail
                display := ?_
                method_space := fun member => by simpa using before 32 member
                method_clean := clean.1
                target_delimiter := fun byte member => by simpa using free byte member
                target_clean := fun member => clean.2.2 (rest_eq ▸ List.mem_append_left _ member)
                delimiter_is := by simpa using isDelimiter }, behind, ?_⟩
      · have middle : rest ++ 13 :: 10 :: tail = target ++ delimiter :: (back ++ 10 :: tail) := by
          have longer := congrArg (· ++ 10 :: tail) cut
          simpa only [List.append_assoc, List.singleton_append, List.cons_append, List.nil_append]
            using longer
        calc bytes = firstLine bytes ++ crlf ++ tail := display
          _ = method ++ 32 :: (rest ++ 13 :: 10 :: tail) := by
            rw [split]
            simp only [crlf, List.append_assoc, List.cons_append, List.nil_append]
          _ = method ++ 32 :: (target ++ delimiter :: (back ++ 10 :: tail)) := by rw [middle]
      · change firstLine bytes = method ++ 32 :: (target ++ behind)
        rw [split, rest_eq]

namespace ShownLine

variable {bytes : List UInt8}

theorem parses (line : ShownLine bytes) (stale : List UInt8) :
    parseRequestLine (bytes ++ 0 :: stale) = .done (some (line.cut (0 :: stale))) := by
  rw [line.append]
  exact parseRequestLine_displayed line.method_space line.method_clean line.target_delimiter
    line.target_clean line.delimiter_is (List.mem_append_right _ List.mem_cons_self)

theorem reads_cut (line : ShownLine bytes) {more part : List UInt8}
    (reads : (line.cut more).Reads part) :
    part = line.method ∨ part = pathOf line.target ∨ queryOf line.target = some part := by
  rcases reads with method | path | ⟨offset, queried, query⟩
  · left
    have read : Memory.cstring (line.cut more).buffer 0 = .done line.method := by
      rw [ShownLine.cut, cutLine, Memory.cstring, List.drop_zero, if_pos (by simp),
        Memory.text_append_zero, Memory.text_of_zero_not_mem line.method_clean]
    exact Exec.done.inj (method.symm.trans read)
  · right
    left
    exact Exec.done.inj (path.symm.trans (cutLine_path line.method line.target_clean _))
  · right
    right
    rcases Option.map_eq_some_iff.mp queried with ⟨string, some_, position⟩
    have read := cutLine_query line.method line.target_clean some_ (line.tail ++ more)
    rw [position] at read
    rw [some_, Exec.done.inj (query.symm.trans read)]

/-- The parts of a line lie in every text that displays it. -/
theorem part_infix (line : ShownLine bytes) {text behind part : List UInt8}
    (display : text = line.method ++ 32 :: (line.target ++ behind))
    (is : part = line.method ∨ part = pathOf line.target ∨ queryOf line.target = some part) :
    part <:+: text := by
  have target : line.target <:+: text :=
    ⟨line.method ++ [32], behind, by
      rw [display]
      simp only [List.append_assoc, List.cons_append, List.nil_append]⟩
  rcases is with method | path | query
  · rw [display, method]
    exact (List.prefix_append _ _).isInfix
  · rw [path]
    exact (List.takeWhile_prefix _).isInfix.trans target
  · rcases target_split line.target with ⟨none_, _, _⟩ | ⟨other, some_, split⟩
    · rw [none_] at query
      cases query
    · rw [some_, Option.some.injEq] at query
      subst query
      refine List.IsInfix.trans ⟨pathOf line.target ++ [63], [], ?_⟩ target
      conv_rhs => rw [split]
      simp only [List.append_assoc, List.cons_append, List.nil_append, List.append_nil]

/-- A line that ends in front of the body leaves the body alone. -/
theorem viewRequest_cut (line : ShownLine bytes) {headerEnd bodyLength : Nat}
    (early : line.method.length + 1 + line.target.length + 1 ≤ headerEnd)
    (inside : headerEnd + bodyLength ≤ bytes.length) (room : bytes.length ≤ capacity)
    (method : HttpMethod) :
    viewRequest (line.cut [0]) method headerEnd bodyLength =
      .done { method, path := pathOf line.target, query := queryOf line.target,
              body := (bytes.drop headerEnd).take bodyLength, bodyLength } := by
  let headers := line.tail.take (headerEnd - (line.method.length + 1 + line.target.length + 1))
  let rest := line.tail.drop (headerEnd - (line.method.length + 1 + line.target.length + 1))
  have sizes := congrArg List.length line.display
  simp only [List.length_append, List.length_cons] at sizes
  have place : line.method.length + 1 + line.target.length + 1 + headers.length = headerEnd := by
    have length : headers.length = min (headerEnd -
      (line.method.length + 1 + line.target.length + 1)) line.tail.length := List.length_take
    omega
  have behind : bytes.drop headerEnd = rest := by
    have front : bytes = (line.method ++ 32 :: (line.target ++ line.delimiter :: headers)) ++ rest := by
      refine line.display.trans ?_
      have whole : line.tail = headers ++ rest := (List.take_append_drop _ _).symm
      conv_lhs => rw [whole]
      simp only [List.append_assoc, List.cons_append]
    conv_lhs => rw [front]
    apply List.drop_left'
    simp only [List.length_append, List.length_cons]
    omega
  have length : (rest.take bodyLength).length = bodyLength := by
    have restSize := congrArg List.length behind
    rw [List.length_drop] at restSize
    rw [List.length_take]
    omega
  have cap : capacity = 2047 := rfl
  have tail : ∃ byte more, line.tail ++ [0] = headers ++ rest.take bodyLength ++ byte :: more := by
    have whole : line.tail ++ [0] =
        headers ++ rest.take bodyLength ++ (rest.drop bodyLength ++ [0]) := by
      have back : rest.take bodyLength ++ rest.drop bodyLength = rest := List.take_append_drop _ _
      have front : headers ++ rest = line.tail := List.take_append_drop _ _
      rw [List.append_assoc headers, ← List.append_assoc (rest.take bodyLength), back,
        ← List.append_assoc, front]
    cases extra : rest.drop bodyLength with
    | nil => exact ⟨0, [], by rw [whole, extra]; rfl⟩
    | cons byte more => exact ⟨byte, more ++ [0], by rw [whole, extra]; rfl⟩
  rcases tail with ⟨byte, more, tail⟩
  have viewed := viewRequest_cutLine line.method line.target_clean headers (rest.take bodyLength)
    byte more method (by omega)
  rw [length, place] at viewed
  rw [ShownLine.cut, tail, viewed, behind]

end ShownLine

/-! ## A first line without a space -/

theorem fieldsAndBody_of_take {memory other : List UInt8} {start headerEnd bodyLength : Nat}
    (same : memory.take (headerEnd + bodyLength) = other.take (headerEnd + bodyLength)) :
    fieldsAndBody memory start headerEnd bodyLength =
      fieldsAndBody other start headerEnd bodyLength := by
  rw [fieldsAndBody, fieldsAndBody, same]

theorem getElem?_front (front back : List UInt8) (byte : UInt8) :
    (front ++ byte :: back)[front.length]? = some byte := by
  rw [List.getElem?_append_right (Nat.le_refl _), Nat.sub_self]
  exact List.getElem?_cons_zero

namespace Complete

variable {bytes : List UInt8} {headerEnd bodyLength : Nat}

theorem firstLine_le (complete : Complete bytes headerEnd bodyLength) (none_ : 32 ∉ firstLine bytes)
    {front back stale : List UInt8} (display : bytes ++ 0 :: stale = front ++ 32 :: back) :
    (firstLine bytes).length ≤ front.length := by
  by_contra early
  rcases complete.display with ⟨tail, split, _⟩
  have here : (bytes ++ 0 :: stale)[front.length]? = some 32 := by
    rw [display, getElem?_front]
  rw [split, List.append_assoc, List.append_assoc, List.getElem?_append_left (by omega)] at here
  exact none_ (List.mem_of_getElem? here)

/-- A request without a request line is refused, and what is written over is
behind it exactly when its text has no space. -/
theorem untouched_iff (complete : Complete bytes headerEnd bodyLength)
    (none_ : 32 ∉ firstLine bytes) (refused : ¬ HasRequestLine (Memory.text bytes))
    (stale : List UInt8) :
    (∀ memory parsed, parseRequestLineInPlace (bytes ++ 0 :: stale) = .done (memory, parsed) →
        fieldsAndBody memory (firstLine bytes).length headerEnd bodyLength =
          fieldsAndBody bytes (firstLine bytes).length headerEnd bodyLength) ↔
      32 ∉ (Memory.text bytes).take (headerEnd + bodyLength) := by
  have inside := complete.inside
  have string : Memory.text (bytes ++ 0 :: stale) = Memory.text bytes :=
    Memory.text_append_zero bytes stale
  rcases @parseRequestLineInPlace_refused (bytes ++ 0 :: stale) (by simp) (by rwa [string]) with
    ⟨after, parses, ⟨absent, same⟩ | ⟨front, back, display, first, clean, cut⟩⟩
  · subst same
    rw [string] at absent
    constructor
    · intro _ member
      exact absent (List.mem_of_mem_take member)
    · intro _ memory parsed parsed_eq
      rw [parses] at parsed_eq
      cases parsed_eq
      exact fieldsAndBody_of_take (List.take_append_of_le_length inside)
  · have behind := complete.firstLine_le none_ display
    have shown : Memory.text bytes = front ++ 32 :: Memory.text back := by
      rw [← string, display, Memory.text_append_cons clean (by decide)]
    constructor
    · intro untouched member
      rw [shown] at member
      have early : front.length < headerEnd + bodyLength := by
        by_contra late
        rw [List.take_append_of_le_length (by omega)] at member
        exact first (List.mem_of_mem_take member)
      -- the byte at the first space tells the two memories apart
      have byte := congrArg (fun region : List UInt8 => region[front.length -
        (firstLine bytes).length]?) (untouched after none parses)
      have before : bytes[front.length]? = some 32 := by
        have here : (bytes ++ 0 :: stale)[front.length]? = some 32 := by
          rw [display, getElem?_front]
        rwa [List.getElem?_append_left (by omega)] at here
      have now : after[front.length]? = some 0 := by
        rw [cut, getElem?_front]
      simp only [fieldsAndBody, List.getElem?_drop, Nat.add_sub_cancel' behind,
        List.getElem?_take_of_lt early, before, now] at byte
      revert byte
      decide
    · intro absent memory parsed parsed_eq
      rw [parses] at parsed_eq
      cases parsed_eq
      have late : headerEnd + bodyLength ≤ front.length := by
        by_contra early
        apply absent
        rw [shown, List.take_append, List.mem_append]
        right
        cases room : headerEnd + bodyLength - front.length with
        | zero => omega
        | succ more =>
            rw [List.take_succ_cons]
            exact List.mem_cons_self
      apply fieldsAndBody_of_take
      calc after.take (headerEnd + bodyLength) = front.take (headerEnd + bodyLength) := by
            rw [cut, List.take_append_of_le_length late]
        _ = (bytes ++ 0 :: stale).take (headerEnd + bodyLength) := by
            rw [display, List.take_append_of_le_length late]
        _ = bytes.take (headerEnd + bodyLength) := List.take_append_of_le_length inside

/-! ## A first line with a space -/

/-- Every part of a request line in the first line lies in that line. -/
theorem part_infix (complete : Complete bytes headerEnd bodyLength) (space : 32 ∈ firstLine bytes)
    {stale part : List UInt8} {line : RequestLine}
    (parses : parseRequestLine (bytes ++ 0 :: stale) = .done (some line))
    (reads : line.Reads part) : part <:+: firstLine bytes := by
  rcases complete.exists_shownLine space with ⟨shown, behind, display⟩
  rw [shown.parses stale] at parses
  cases parses
  exact shown.part_infix display (shown.reads_cut reads)

/-- A call for a request line in the first line has the body as it came. -/
theorem judge_body (complete : Complete bytes headerEnd bodyLength) (space : 32 ∈ firstLine bytes)
    {server : Registrations} {route : Route} {request : HttpRequest}
    (judged : judge server (bytes ++ [0]) headerEnd bodyLength = .done (.call route request)) :
    request.body = (bytes.drop headerEnd).take bodyLength ∧
      request.bodyLength = bodyLength := by
  rcases complete.exists_shownLine space with ⟨line, behind, display⟩
  rcases complete.display with ⟨_, _, _, early⟩
  have lengths := congrArg List.length display
  simp only [List.length_append, List.length_cons] at lengths
  rw [judge_shown server line (List.mem_singleton.mpr rfl),
    line.viewRequest_cut (by omega) complete.inside complete.room] at judged
  cases matched : line.matched server with
  | mk found pathExists =>
      rw [matched] at judged
      cases found with
      | none => cases pathExists <;> cases judged
      | some route =>
          cases judged
          exact ⟨rfl, rfl⟩

end Complete

/-! ## The condition -/

theorem judge_ne_badRequest (server : Registrations) {bytes : List UInt8} {headerEnd bodyLength : Nat}
    (has : HasRequestLine (Memory.text bytes)) :
    judge server (bytes ++ [0]) headerEnd bodyLength ≠ .done (.refusal 400) := by
  rcases has.shown with ⟨line⟩
  intro judged
  rw [judge_shown server line (List.mem_singleton.mpr rfl)] at judged
  cases matched : line.matched server with
  | mk found pathExists =>
      rw [matched] at judged
      cases found with
      | none => cases pathExists <;> cases judged
      | some route =>
          rcases Exec.bind_eq_done_iff.mp judged with ⟨request, _, called⟩
          cases called

theorem parseRequestLine_eq_none {bytes : List UInt8} (refused : ¬ HasRequestLine (Memory.text bytes))
    (stale : List UInt8) : parseRequestLine (bytes ++ 0 :: stale) = .done none :=
  parseRequestLine_refused (by simp) (by rwa [Memory.text_append_zero])

theorem judge_badRequest (server : Registrations) {bytes : List UInt8} {headerEnd bodyLength : Nat}
    (refused : ¬ HasRequestLine (Memory.text bytes)) :
    judge server (bytes ++ [0]) headerEnd bodyLength = .done (.refusal 400) := by
  rw [judge, parseRequestLine_eq_none refused]
  rfl

theorem statuses_reply (write : List SendResult → HttpResponse → Written)
    (application : Application) (stack : Option CString) (script : List SendResult)
    {verdict : Verdict} {statusCode : UInt16}
    (answered : statuses (reply write application stack script verdict) = [statusCode]) :
    verdict = .refusal statusCode := by
  cases verdict with
  | refusal other =>
      change [other] = [statusCode] at answered
      rw [List.singleton_inj.mp answered]
  | call route request => cases answered

theorem eq_call_of_mem_invocations {write : List SendResult → HttpResponse → Written}
    {application : Application} {stack : Option CString} {script : List SendResult}
    {verdict : Verdict} {entry : Route × HttpRequest}
    (member : entry ∈ invocations (reply write application stack script verdict)) :
    verdict = .call entry.1 entry.2 := by
  cases verdict with
  | refusal statusCode => cases member
  | call route request => rw [List.mem_singleton.mp member]

section Decided

variable {platform : Platform} {server : Registrations} {application : Application}
  {stack : Option CString} {buffer : List UInt8} {results : List RecvResult}
  {script : List SendResult} {bytes : List UInt8} {headerEnd bodyLength : Nat} {verdict : Verdict}

/-- A request with a space in its first line is parsed from that line. -/
theorem parsedFromFirstLine_of_space (complete : Complete bytes headerEnd bodyLength)
    (judged : judge server (bytes ++ [0]) headerEnd bodyLength = .done verdict)
    (served : serveConnection platform server application stack buffer results script =
      .done (reply platform.write application stack script verdict))
    (space : 32 ∈ firstLine bytes) :
    ParsedFromFirstLine platform server application stack buffer results script bytes headerEnd
      bodyLength where
  parts := fun _ _ _ parses reads => complete.part_infix space parses reads
  refused := fun absent => absurd space absent
  body := by
    intro events other entry member
    rw [served] at other
    cases other
    rw [eq_call_of_mem_invocations member] at judged
    exact complete.judge_body space judged

/-- A request without a space in its first line that is refused as it is has
nothing to parse. -/
theorem parsedFromFirstLine_of_refused (complete : Complete bytes headerEnd bodyLength)
    (judged : judge server (bytes ++ [0]) headerEnd bodyLength = .done verdict)
    (served : serveConnection platform server application stack buffer results script =
      .done (reply platform.write application stack script verdict))
    (space : 32 ∉ firstLine bytes)
    (absent : 32 ∉ (Memory.text bytes).take (headerEnd + bodyLength))
    (refused : ¬ HasRequestLine (Memory.text bytes)) :
    ParsedFromFirstLine platform server application stack buffer results script bytes headerEnd
      bodyLength := by
  rw [judge_badRequest server refused] at judged
  cases judged
  refine ⟨?_, fun _ => ⟨_, served, rfl, rfl, fun stale =>
    (complete.untouched_iff space refused stale).mpr absent⟩, ?_⟩
  · intro stale line part parses _
    rw [parseRequestLine_eq_none refused] at parses
    cases parses
  · intro events other entry member
    rw [served] at other
    cases other
    cases member

/-- Without a space in its first line, only a request that is refused as it is
is parsed as it should be. -/
theorem ParsedFromFirstLine.refused_of_notMem (complete : Complete bytes headerEnd bodyLength)
    (judged : judge server (bytes ++ [0]) headerEnd bodyLength = .done verdict)
    (served : serveConnection platform server application stack buffer results script =
      .done (reply platform.write application stack script verdict))
    (parsed : ParsedFromFirstLine platform server application stack buffer results script bytes
      headerEnd bodyLength)
    (space : 32 ∉ firstLine bytes) :
    32 ∉ (Memory.text bytes).take (headerEnd + bodyLength) ∧
      ¬ HasRequestLine (Memory.text bytes) := by
  rcases parsed.refused space with ⟨events, other, status, _, untouched⟩
  rw [served] at other
  cases other
  have refused : ¬ HasRequestLine (Memory.text bytes) := by
    intro has
    exact judge_ne_badRequest server has (statuses_reply _ _ _ _ status ▸ judged)
  exact ⟨(complete.untouched_iff space refused []).mp (untouched []), refused⟩

end Decided

/-- On every platform, a complete request is parsed from its first line only,
exactly when it is the first line that can be cut. -/
theorem parsedFromFirstLine_iff (platform : Platform) (server : Registrations)
    (application : Application) (stack : Option CString) {buffer : List UInt8}
    (size : buffer.length = httpServerMaxRequestSize) {results : List RecvResult}
    (script : List SendResult) {bytes : List UInt8} {headerEnd bodyLength : Nat}
    (gathered : platform.policy.gather results = .done (.complete bytes headerEnd bodyLength)) :
    ParsedFromFirstLine platform server application stack buffer results script bytes headerEnd
        bodyLength ↔ CutsFirstLine bytes headerEnd bodyLength := by
  have complete := complete_of_gather gathered
  rcases judge_append server complete.inside with ⟨verdict, judged⟩
  have served : serveConnection platform server application stack buffer results script =
      .done (reply platform.write application stack script verdict) :=
    serveConnection_decided (by rw [decision_complete gathered, judged []]; rfl) application stack
      size script
  by_cases space : 32 ∈ firstLine bytes
  · exact ⟨fun _ => Or.inl space,
      fun _ => parsedFromFirstLine_of_space complete (judged []) served space⟩
  · constructor
    · intro parsed
      exact Or.inr (parsed.refused_of_notMem complete (judged []) served space)
    · rintro (present | ⟨absent, refused⟩)
      · exact absurd present space
      · exact parsedFromFirstLine_of_refused complete (judged []) served space absent refused

/-! ## Two requests -/

/-- A request line, a header line and a body of five bytes. -/
def linedRequest : List UInt8 :=
  ascii "POST / HTTP/1.1\r\nContent-Length: 5\r\n\r\na b\nc"

/-- The same without a space in the header section. -/
def unlinedRequest : List UInt8 :=
  ascii "POST\r\nContent-Length:5\r\n\r\na b\nc"

theorem parsedFromFirstLine_lined :
    ParsedFromFirstLine .rp2040 defaultServer idle none (List.replicate 2048 0)
        [.received linedRequest] [] linedRequest 38 5 ↔ CutsFirstLine linedRequest 38 5 :=
  parsedFromFirstLine_iff .rp2040 defaultServer idle none List.length_replicate []
    (by decide +kernel)

/-- Without a space in its first line the request is cut in its body, and the
default endpoint is called with the cuts in it. -/
theorem body_is_cut :
    ∃ events, serveConnection .simulator defaultServer idle none (List.replicate 2048 0)
        [.received unlinedRequest] [] = .done events ∧
      statuses events = [] ∧
      (invocations events).map (fun entry => (entry.2.path, entry.2.body)) =
        [([98], [97, 0, 98, 0, 99])] ∧
      ¬ ParsedFromFirstLine .simulator defaultServer idle none (List.replicate 2048 0)
        [.received unlinedRequest] [] unlinedRequest 26 5 := by
  have run : (serveConnection .simulator defaultServer idle none (List.replicate 2048 0)
      [.received unlinedRequest] [] >>= fun events => .done (statuses events,
        (invocations events).map fun entry => (entry.2.path, entry.2.body))) =
      .done ([], [([98], [97, 0, 98, 0, 99])]) := by
    decide +kernel
  rcases Exec.bind_eq_done_iff.mp run with ⟨events, served, shown⟩
  rw [Exec.done.injEq, Prod.mk.injEq] at shown
  refine ⟨events, served, shown.1, shown.2, fun parsed => ?_⟩
  rcases parsed.refused (by decide +kernel) with ⟨other, again, status, _⟩
  rw [served] at again
  cases again
  rw [shown.1] at status
  cases status

end Server
end NetLL
