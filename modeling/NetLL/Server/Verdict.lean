import NetLL.Server.RequestLine
import NetLL.Server.Response
import NetLL.Server.Routing

namespace NetLL
namespace Server

/-!
# What a complete request is answered with

A verdict is a status without a callback, or a callback with its request.  The
verdict is a function of the buffer and of the registrations.  The reply adds
the application, the stack and the socket, so that a statement about which
callback runs or which status is answered is a statement about the verdict
alone.
-/

/-- A status without a callback, or a callback with its request. -/
inductive Verdict where
  | refusal (statusCode : UInt16)
  | call (route : Route) (request : HttpRequest)
deriving DecidableEq

/-- The request as the callback sees it, after the body was terminated. -/
def viewRequest (line : RequestLine) (method : HttpMethod) (headerEnd bodyLength : Nat) :
    Exec HttpRequest := do
  let buffer ← Memory.write line.buffer (headerEnd + bodyLength) [0]
  let path ← Memory.cstring buffer line.path
  let query ← match line.query with
    | none => pure none
    | some query => do
        let string ← Memory.cstring buffer query
        pure (some string)
  let shownLength := bodyLength % 2 ^ 16
  let body ← Memory.slice buffer headerEnd shownLength
  return { method, path, query, body, bodyLength := shownLength }

/-- The verdict on a complete request in memory. -/
def judge (server : Registrations) (memory : List UInt8) (headerEnd bodyLength : Nat) :
    Exec Verdict := do
  match ← parseRequestLine memory with
  | none => return .refusal 400
  | some line =>
      let methodToken ← Memory.cstring line.buffer line.method
      let path ← Memory.cstring line.buffer line.path
      let parsed := parseMethod methodToken
      match server.matchRoute path (parsed.getD .get) parsed.isSome with
      | (none, pathExists) => return .refusal (if pathExists then 405 else 404)
      | (some route, _) =>
          let request ← viewRequest line (parsed.getD .get) headerEnd bodyLength
          return .call route request

/-- The way of a complete request to its status or to its route, with what
either of them comes to. -/
def routeWith {α : Type} (refuse : UInt16 → α)
    (dispatch : Route → RequestLine → HttpMethod → Exec α) (server : Registrations)
    (memory : List UInt8) : Exec α := do
  match ← parseRequestLine memory with
  | none => return refuse 400
  | some line =>
      let methodToken ← Memory.cstring line.buffer line.method
      let path ← Memory.cstring line.buffer line.path
      let parsed := parseMethod methodToken
      match server.matchRoute path (parsed.getD .get) parsed.isSome with
      | (none, pathExists) => return refuse (if pathExists then 405 else 404)
      | (some route, _) => dispatch route line (parsed.getD .get)

/-- The verdict shows the route and the callback's view. -/
theorem judge_eq_routeWith (server : Registrations) (memory : List UInt8)
    (headerEnd bodyLength : Nat) :
    judge server memory headerEnd bodyLength =
      routeWith .refusal (fun route line method => do
        let request ← viewRequest line method headerEnd bodyLength
        return .call route request) server memory :=
  rfl

theorem routeWith_bind {α β : Type} {refuse : UInt16 → α} {refuseLater : UInt16 → β}
    {dispatch : Route → RequestLine → HttpMethod → Exec α}
    {dispatchLater : Route → RequestLine → HttpMethod → Exec β} (next : α → β)
    (refuses : ∀ statusCode, refuseLater statusCode = next (refuse statusCode))
    (dispatches : ∀ route line method, dispatchLater route line method =
      dispatch route line method >>= fun result => .done (next result))
    (server : Registrations) (memory : List UInt8) :
    routeWith refuseLater dispatchLater server memory =
      routeWith refuse dispatch server memory >>= fun result => .done (next result) := by
  unfold routeWith
  rw [Exec.bind_assoc]
  congr 1
  funext parsed
  cases parsed with
  | none => exact congrArg Exec.done (refuses 400)
  | some line =>
      simp only [Exec.bind_assoc]
      congr 1
      funext methodToken
      congr 1
      funext path
      cases server.matchRoute path ((parseMethod methodToken).getD .get)
          (parseMethod methodToken).isSome with
      | mk found pathExists =>
          cases found with
          | none => exact congrArg Exec.done (refuses _)
          | some route => exact dispatches route line _

/-- The record that a verdict is answered from. -/
def Verdict.response (application : Application) (stack : Option CString) : Verdict → HttpResponse
  | .refusal statusCode => statusOnlyResponse stack statusCode
  | .call route request =>
      (application route.callback request route.context).apply (initialResponse stack)

/-- What a verdict makes visible. -/
def reply (write : List SendResult → HttpResponse → Written) (application : Application)
    (stack : Option CString) (script : List SendResult) : Verdict → List Event
  | .refusal statusCode => writeStatusOnly write stack script statusCode
  | .call route request =>
      [.invoked route request,
        .sent (write script ((application route.callback request route.context).apply
          (initialResponse stack))).bytes]

/-! ## Judging is local -/

/-- The last byte of the block is zero, so every string in it ends in it. -/
def Terminated (memory : List UInt8) : Prop :=
  ∃ front, memory = front ++ [0]

theorem Terminated.cstring {memory : List UInt8} (terminated : Terminated memory) {offset : Nat}
    (inside : offset < memory.length) : ∃ string, Memory.cstring memory offset = .done string := by
  rcases terminated with ⟨front, split⟩
  rw [split, List.length_append, List.length_singleton] at inside
  have member : 0 ∈ memory.drop offset := by
    rw [split, List.drop_append_of_le_length (by omega)]
    exact List.mem_append_right _ (List.mem_singleton.mpr rfl)
  exact ⟨_, if_pos member⟩

theorem Terminated.write {memory : List UInt8} (terminated : Terminated memory) {offset : Nat}
    (inside : offset < memory.length) :
    ∃ after, Memory.write memory offset [0] = .done after ∧ Terminated after ∧
      after.length = memory.length := by
  rcases terminated with ⟨front, split⟩
  have fits : offset + [(0 : UInt8)].length ≤ memory.length := inside
  have written : Memory.write memory offset [0] =
      .done (memory.take offset ++ [0] ++ memory.drop (offset + [(0 : UInt8)].length)) := if_pos fits
  refine ⟨_, written, ?_, Memory.write_length written⟩
  have size : memory.length = front.length + 1 := by
    rw [split, List.length_append, List.length_singleton]
  rw [List.length_singleton]
  rcases Nat.lt_or_ge offset front.length with before | last
  · have shown : memory.drop (offset + 1) = front.drop (offset + 1) ++ [0] := by
      rw [split, List.drop_append_of_le_length (by omega)]
    exact ⟨memory.take offset ++ [0] ++ front.drop (offset + 1),
      by rw [shown, List.append_assoc _ _ [0]]⟩
  · have nothing : memory.drop (offset + 1) = [] := List.drop_eq_nil_of_le (by omega)
    exact ⟨memory.take offset, by rw [nothing, List.append_nil]⟩

/-- A cut line whose offsets lie in a terminated buffer. -/
structure RequestLine.Inside (line : RequestLine) : Prop where
  terminated : Terminated line.buffer
  path : line.path < line.buffer.length
  query : ∀ offset, line.query = some offset → offset < line.buffer.length

/-- The callback's view is read inside the buffer, and what lies behind the
buffer is not part of it. -/
theorem viewRequest_append {line : RequestLine} (inside : line.Inside) (method : HttpMethod)
    {headerEnd bodyLength : Nat} (fits : headerEnd + bodyLength < line.buffer.length) :
    ∃ request, ∀ stale,
      viewRequest { line with buffer := line.buffer ++ stale } method headerEnd bodyLength =
        .done request := by
  rcases inside.terminated.write fits with ⟨after, written, terminated, size⟩
  rcases terminated.cstring (size ▸ inside.path) with ⟨path, pathRead⟩
  have smaller : bodyLength % 2 ^ 16 ≤ bodyLength := Nat.mod_le _ _
  have bodyRead : Memory.slice after headerEnd (bodyLength % 2 ^ 16) =
      .done ((after.drop headerEnd).take (bodyLength % 2 ^ 16)) := if_pos (by omega)
  cases query : line.query with
  | none =>
      refine ⟨{ method, path, query := none,
                body := (after.drop headerEnd).take (bodyLength % 2 ^ 16),
                bodyLength := bodyLength % 2 ^ 16 }, fun stale => ?_⟩
      simp only [viewRequest, Memory.write_append written, Exec.done_bind,
        Memory.cstring_append pathRead, Exec.pure_eq, Memory.slice_append bodyRead]
  | some offset =>
      rcases terminated.cstring (size ▸ inside.query offset query) with ⟨string, queryRead⟩
      refine ⟨{ method, path, query := some string,
                body := (after.drop headerEnd).take (bodyLength % 2 ^ 16),
                bodyLength := bodyLength % 2 ^ 16 }, fun stale => ?_⟩
      simp only [viewRequest, Memory.write_append written, Exec.done_bind,
        Memory.cstring_append pathRead, Memory.cstring_append queryRead, Exec.pure_eq,
        Memory.slice_append bodyRead]

theorem cutLine_inside {method target tail : List UInt8} (terminated : Terminated tail) :
    (cutLine method target tail).Inside := by
  have size : (cutLine method target tail).buffer.length =
      method.length + 1 + target.length + 1 + tail.length := by
    simp only [cutLine, List.length_append, List.length_cons, length_cutTarget]
    omega
  refine ⟨?_, ?_, ?_⟩
  · rcases terminated with ⟨front, split⟩
    refine ⟨method ++ 0 :: (cutTarget target ++ 0 :: front), ?_⟩
    rw [cutLine, split]
    simp only [List.append_assoc, List.cons_append]
  · rw [size]
    change method.length + 1 < _
    omega
  · intro offset queried
    rcases Option.map_eq_some_iff.mp queried with ⟨query, some_, position⟩
    rcases target_split target with ⟨none_, _, _⟩ | ⟨rest, _, split⟩
    · rw [none_] at some_
      cases some_
    · have sizes := congrArg List.length split
      rw [List.length_append, List.length_cons] at sizes
      rw [size, ← position]
      omega

theorem cutLine_append (method target tail stale : List UInt8) :
    { cutLine method target tail with buffer := (cutLine method target tail).buffer ++ stale } =
      cutLine method target (tail ++ stale) := by
  simp only [cutLine, List.append_assoc, List.cons_append]

/-! ## The verdict on a shown request line -/

/-- A request line at the front of some bytes, before any zero byte. -/
structure ShownLine (bytes : List UInt8) where
  method : List UInt8
  target : List UInt8
  delimiter : UInt8
  tail : List UInt8
  display : bytes = method ++ 32 :: (target ++ delimiter :: tail)
  method_space : 32 ∉ method
  method_clean : 0 ∉ method
  target_delimiter : ∀ byte ∈ target, ¬ IsDelimiter byte
  target_clean : 0 ∉ target
  delimiter_is : IsDelimiter delimiter

theorem HasRequestLine.shown {bytes : List UInt8} (has : HasRequestLine (Memory.text bytes)) :
    Nonempty (ShownLine bytes) := by
  rcases has.displayed with ⟨line⟩
  rcases (List.takeWhile_prefix _ : Memory.text bytes <+: bytes) with ⟨behind, split⟩
  have clean := Memory.zero_not_mem_text bytes
  rw [line.display] at clean
  simp only [List.mem_append, List.mem_cons, not_or] at clean
  have display : bytes =
      line.method ++ 32 :: (line.target ++ line.delimiter :: (line.back ++ behind)) := by
    refine split.symm.trans ((congrArg (· ++ behind) line.display).trans ?_)
    simp only [List.append_assoc, List.cons_append]
  exact ⟨{ method := line.method
           target := line.target
           delimiter := line.delimiter
           tail := line.back ++ behind
           display := display
           method_space := line.method_space
           method_clean := clean.1
           target_delimiter := line.target_delimiter
           target_clean := clean.2.2.1
           delimiter_is := line.delimiter_is }⟩

namespace ShownLine

variable {bytes : List UInt8}

/-- What the routing step makes of the line. -/
def matched (line : ShownLine bytes) (server : Registrations) : Option Route × Bool :=
  server.matchRoute (pathOf line.target) ((parseMethod line.method).getD .get)
    (parseMethod line.method).isSome

/-- The bytes after the cut, with further bytes behind them. -/
def cut (line : ShownLine bytes) (more : List UInt8) : RequestLine :=
  cutLine line.method line.target (line.tail ++ more)

theorem append (line : ShownLine bytes) (more : List UInt8) :
    bytes ++ more = line.method ++ 32 :: (line.target ++ line.delimiter :: (line.tail ++ more)) := by
  refine (congrArg (· ++ more) line.display).trans ?_
  simp only [List.append_assoc, List.cons_append]

theorem cut_buffer (line : ShownLine bytes) (more : List UInt8) :
    (line.cut more).buffer =
      line.method ++ 0 :: (cutTarget line.target ++ 0 :: line.tail) ++ more := by
  simp only [cut, cutLine, List.append_assoc, List.cons_append]

theorem length_front (line : ShownLine bytes) :
    (line.method ++ 0 :: (cutTarget line.target ++ 0 :: line.tail)).length = bytes.length := by
  have size := congrArg List.length line.display
  rw [size]
  simp only [List.length_append, List.length_cons, length_cutTarget]

end ShownLine

theorem cutTarget_append_zero (target tail : List UInt8) :
    ∃ more, cutTarget target ++ 0 :: tail = pathOf target ++ 0 :: more := by
  rcases target_split target with ⟨none_, _, whole⟩ | ⟨query, some_, _⟩
  · exact ⟨tail, by rw [cutTarget, none_, whole]⟩
  · exact ⟨query ++ 0 :: tail, by
      rw [cutTarget, some_]
      simp only [List.append_assoc, List.cons_append]⟩

theorem cutLine_path (method : List UInt8) {target : List UInt8} (target_clean : 0 ∉ target)
    (tail : List UInt8) :
    Memory.cstring (cutLine method target tail).buffer (method.length + 1) =
      .done (pathOf target) := by
  rcases cutTarget_append_zero target tail with ⟨more, split⟩
  have ends : 0 ∈ pathOf target ++ 0 :: more := List.mem_append_right _ List.mem_cons_self
  have clean : 0 ∉ pathOf target := fun member => target_clean (pathOf_subset target member)
  rw [cutLine, split, cstring_behind _ _ ends, Memory.text_append_zero,
    Memory.text_of_zero_not_mem clean]

/-- The routing step sees the method token and the path of the line, and
dispatches the line as it was cut. -/
theorem routeWith_shown {α : Type} (refuse : UInt16 → α)
    (dispatch : Route → RequestLine → HttpMethod → Exec α) (server : Registrations)
    {bytes more : List UInt8} (line : ShownLine bytes) (terminated : 0 ∈ more) :
    routeWith refuse dispatch server (bytes ++ more) =
      match line.matched server with
      | (none, pathExists) => .done (refuse (if pathExists then 405 else 404))
      | (some route, _) => dispatch route (line.cut more) ((parseMethod line.method).getD .get) := by
  have methodRead : Memory.cstring (line.cut more).buffer 0 = .done line.method := by
    rw [ShownLine.cut, cutLine, Memory.cstring, List.drop_zero, if_pos (by simp),
      Memory.text_append_zero, Memory.text_of_zero_not_mem line.method_clean]
  have pathRead : Memory.cstring (line.cut more).buffer (line.method.length + 1) =
      .done (pathOf line.target) := cutLine_path line.method line.target_clean _
  rw [line.append more, routeWith, parseRequestLine_displayed line.method_space line.method_clean
    line.target_delimiter line.target_clean line.delimiter_is
    (List.mem_append_right line.tail terminated)]
  change (Memory.cstring (line.cut more).buffer 0 >>= fun methodToken =>
    Memory.cstring (line.cut more).buffer (line.method.length + 1) >>= fun path => _) = _
  rw [methodRead, pathRead]
  rfl

theorem judge_shown (server : Registrations) {bytes more : List UInt8} (line : ShownLine bytes)
    (terminated : 0 ∈ more) (headerEnd bodyLength : Nat) :
    judge server (bytes ++ more) headerEnd bodyLength =
      match line.matched server with
      | (none, pathExists) => .done (.refusal (if pathExists then 405 else 404))
      | (some route, _) => do
          let request ← viewRequest (line.cut more) ((parseMethod line.method).getD .get)
            headerEnd bodyLength
          return .call route request := by
  rw [judge_eq_routeWith, routeWith_shown _ _ server line terminated]

theorem judge_refused (server : Registrations) {memory : List UInt8} (terminated : 0 ∈ memory)
    (refused : ¬ HasRequestLine (Memory.text memory)) (headerEnd bodyLength : Nat) :
    judge server memory headerEnd bodyLength = .done (.refusal 400) := by
  rw [judge, parseRequestLine_refused terminated refused]
  rfl

/-- The terminator of some bytes, with stale bytes behind it, is where the
line cut in them ends. -/
theorem ShownLine.cut_stale {bytes : List UInt8} (line : ShownLine bytes) (stale : List UInt8) :
    line.cut (0 :: stale) =
      { line.cut [0] with buffer := (line.cut [0]).buffer ++ stale } := by
  rw [ShownLine.cut, ShownLine.cut, cutLine_append, List.append_assoc, List.singleton_append]

theorem ShownLine.length_cut {bytes : List UInt8} (line : ShownLine bytes) :
    (line.cut [0]).buffer.length = bytes.length + 1 := by
  rw [line.cut_buffer, List.length_append, line.length_front, List.length_singleton]

/-- Bytes with a terminator come to the same, whatever is behind it, when a
line cut in them does. -/
theorem routeWith_append {α : Type} (refuse : UInt16 → α)
    {dispatch : Route → RequestLine → HttpMethod → Exec α} (server : Registrations)
    {bytes : List UInt8}
    (local_ : ∀ route (line : ShownLine bytes) method, ∃ result, ∀ stale,
      dispatch route (line.cut (0 :: stale)) method = .done result) :
    ∃ result, ∀ stale, routeWith refuse dispatch server (bytes ++ 0 :: stale) = .done result := by
  by_cases has : HasRequestLine (Memory.text bytes)
  · rcases has.shown with ⟨line⟩
    have routed (stale : List UInt8) := routeWith_shown refuse dispatch server line
      (List.mem_cons_self : 0 ∈ 0 :: stale)
    cases matched : line.matched server with
    | mk found pathExists =>
        rw [matched] at routed
        cases found with
        | none => exact ⟨_, routed⟩
        | some route =>
            rcases local_ route line ((parseMethod line.method).getD .get) with ⟨result, same⟩
            exact ⟨result, fun stale => (routed stale).trans (same stale)⟩
  · refine ⟨refuse 400, fun stale => ?_⟩
    rw [routeWith, parseRequestLine_refused (by simp) (by rwa [Memory.text_append_zero])]
    rfl

/-- The verdict on bytes with a terminator is reached inside them, whatever
the buffer holds behind it. -/
theorem judge_append (server : Registrations) {bytes : List UInt8} {headerEnd bodyLength : Nat}
    (fits : headerEnd + bodyLength ≤ bytes.length) :
    ∃ verdict, ∀ stale,
      judge server (bytes ++ 0 :: stale) headerEnd bodyLength = .done verdict := by
  simp only [judge_eq_routeWith]
  refine routeWith_append _ server fun route line method => ?_
  have inside : headerEnd + bodyLength < (line.cut [0]).buffer.length := by
    rw [line.length_cut]
    omega
  rcases viewRequest_append (cutLine_inside ⟨line.tail, rfl⟩) method inside with ⟨request, viewed⟩
  refine ⟨.call route request, fun stale => ?_⟩
  have here : viewRequest (line.cut (0 :: stale)) method headerEnd bodyLength = .done request := by
    rw [line.cut_stale]
    exact viewed stale
  simp only [here, Exec.done_bind, Exec.pure_eq]

/-- The byte behind the body is written over, so it is not part of the
verdict when the request line ends in front of it. -/
theorem judge_over (server : Registrations) {bytes : List UInt8} {headerEnd bodyLength : Nat}
    (has : HasRequestLine (Memory.text bytes)) (last : bytes.length = headerEnd + bodyLength)
    (byte : UInt8) {rest : List UInt8} (terminated : 0 ∈ rest) :
    judge server (bytes ++ byte :: rest) headerEnd bodyLength =
      judge server (bytes ++ 0 :: rest) headerEnd bodyLength := by
  rcases has.shown with ⟨line⟩
  have viewed (method : HttpMethod) : viewRequest (line.cut (byte :: rest)) method headerEnd
      bodyLength = viewRequest (line.cut (0 :: rest)) method headerEnd bodyLength := by
    have written (byte : UInt8) := Memory.write_byte
      (line.method ++ 0 :: (cutTarget line.target ++ 0 :: line.tail)) byte 0 rest
    rw [line.length_front, last] at written
    simp only [viewRequest, line.cut_buffer, written]
    rfl
  rw [judge_shown server line (List.mem_cons_of_mem byte terminated),
    judge_shown server line List.mem_cons_self]
  simp only [viewed]

/-- The view is labelled with the method it is given, and its length is the
given one in sixteen bits. -/
theorem viewRequest_labels {line : RequestLine} {method : HttpMethod}
    {headerEnd bodyLength : Nat} {request : HttpRequest}
    (viewed : viewRequest line method headerEnd bodyLength = .done request) :
    request.method = method ∧ request.bodyLength = bodyLength % 2 ^ 16 := by
  rcases Exec.bind_eq_done_iff.mp viewed with ⟨_, _, viewed⟩
  rcases Exec.bind_eq_done_iff.mp viewed with ⟨_, _, viewed⟩
  cases query : line.query with
  | none =>
      simp only [query, Exec.pure_eq, Exec.done_bind] at viewed
      rcases Exec.bind_eq_done_iff.mp viewed with ⟨_, _, viewed⟩
      cases viewed
      exact ⟨rfl, rfl⟩
  | some offset =>
      simp only [query, Exec.pure_eq, Exec.done_bind] at viewed
      rcases Exec.bind_eq_done_iff.mp viewed with ⟨_, _, viewed⟩
      rcases Exec.bind_eq_done_iff.mp viewed with ⟨_, _, viewed⟩
      cases viewed
      exact ⟨rfl, rfl⟩

theorem viewRequest_bodyLength {line : RequestLine} {method : HttpMethod}
    {headerEnd bodyLength : Nat} {request : HttpRequest}
    (viewed : viewRequest line method headerEnd bodyLength = .done request) :
    request.bodyLength = bodyLength % 2 ^ 16 :=
  (viewRequest_labels viewed).2

/-- The verdict on a line that was cut, by its token and its path. -/
theorem judge_parsed {memory token path : List UInt8} {line : RequestLine}
    (parses : parseRequestLine memory = .done (some line))
    (tokenRead : Memory.cstring line.buffer line.method = .done token)
    (pathRead : Memory.cstring line.buffer line.path = .done path) (server : Registrations)
    (headerEnd bodyLength : Nat) :
    judge server memory headerEnd bodyLength =
      match server.matchRoute path ((parseMethod token).getD .get) (parseMethod token).isSome with
      | (none, pathExists) => .done (.refusal (if pathExists then 405 else 404))
      | (some route, _) => do
          let request ← viewRequest line ((parseMethod token).getD .get) headerEnd bodyLength
          return .call route request := by
  rw [judge, parses]
  simp only [Exec.done_bind, tokenRead, pathRead]
  rfl

/-- The verdict is 400, 404, 405, or a call with the given length. -/
theorem judge_cases {server : Registrations} {memory : List UInt8}
    {headerEnd bodyLength : Nat} {verdict : Verdict}
    (judged : judge server memory headerEnd bodyLength = .done verdict) :
    verdict = .refusal 400 ∨ verdict = .refusal 404 ∨ verdict = .refusal 405 ∨
      ∃ route request, verdict = .call route request ∧
        request.bodyLength = bodyLength % 2 ^ 16 := by
  rcases Exec.bind_eq_done_iff.mp judged with ⟨parsed, _, judged⟩
  cases parsed with
  | none =>
      cases judged
      exact Or.inl rfl
  | some line =>
      rcases Exec.bind_eq_done_iff.mp judged with ⟨token, _, judged⟩
      rcases Exec.bind_eq_done_iff.mp judged with ⟨path, _, judged⟩
      cases matched : server.matchRoute path ((parseMethod token).getD .get)
          (parseMethod token).isSome with
      | mk found pathExists =>
          simp only [matched] at judged
          cases found with
          | none =>
              cases pathExists with
              | false =>
                  cases judged
                  exact Or.inr (Or.inl rfl)
              | true =>
                  cases judged
                  exact Or.inr (Or.inr (Or.inl rfl))
          | some route =>
              rcases Exec.bind_eq_done_iff.mp judged with ⟨request, viewed, called⟩
              cases called
              exact Or.inr (Or.inr (Or.inr ⟨route, request, rfl, viewRequest_bodyLength viewed⟩))

/-- With a default endpoint, a request line is enough for a call. -/
theorem judge_default {server : Registrations} {route : Route}
    (default_ : server.routes = [] ∧ server.defaultRoute = some route) {bytes : List UInt8}
    {headerEnd bodyLength : Nat} (has : HasRequestLine (Memory.text bytes))
    (fits : headerEnd + bodyLength ≤ bytes.length) :
    ∃ request, judge server (bytes ++ [0]) headerEnd bodyLength = .done (.call route request) ∧
      request.bodyLength = bodyLength % 2 ^ 16 := by
  rcases judge_append server fits with ⟨verdict, judged⟩
  have here := judged []
  rcases has.shown with ⟨line⟩
  have matched : line.matched server = (some route, false) := by
    rw [ShownLine.matched, Registrations.matchRoute, default_.1, default_.2]
    rfl
  rw [judge_shown server line (List.mem_singleton.mpr rfl), matched] at here
  rcases Exec.bind_eq_done_iff.mp here with ⟨request, viewed, called⟩
  refine ⟨request, ?_, viewRequest_bodyLength viewed⟩
  rw [judge_shown server line (List.mem_singleton.mpr rfl), matched]
  simp only [viewed, Exec.done_bind, Exec.pure_eq]

/-! ## Requests with their line in front of the body -/

/-- The query of a cut line, if the target has one. -/
theorem cutLine_query (method : List UInt8) {target query : List UInt8} (target_clean : 0 ∉ target)
    (queried : queryOf target = some query) (tail : List UInt8) :
    Memory.cstring (cutLine method target tail).buffer
      (method.length + 1 + (pathOf target).length + 1) = .done query := by
  have clean : 0 ∉ query := by
    rcases target_split target with ⟨none_, _, _⟩ | ⟨other, some_, split⟩
    · rw [none_] at queried
      cases queried
    · rw [some_, Option.some.injEq] at queried
      intro member
      apply target_clean
      rw [split, queried]
      exact List.mem_append_right _ (List.mem_cons_of_mem _ member)
  have shown : (cutLine method target tail).buffer =
      (method ++ 0 :: pathOf target) ++ 0 :: (query ++ 0 :: tail) := by
    simp only [cutLine, cutTarget, queried, List.append_assoc, List.cons_append]
  have position : method.length + 1 + (pathOf target).length + 1 =
      (method ++ 0 :: pathOf target).length + 1 := by
    rw [List.length_append, List.length_cons]
    omega
  rw [shown, position, cstring_behind _ _ (List.mem_append_right query List.mem_cons_self),
    Memory.text_append_zero, Memory.text_of_zero_not_mem clean]

/-- When the line ends in front of the body, the callback sees the target and
the body as they were sent. -/
theorem viewRequest_cutLine (token : List UInt8) {target : List UInt8} (target_clean : 0 ∉ target)
    (headers body : List UInt8) (byte : UInt8) (rest : List UInt8) (method : HttpMethod)
    (small : body.length < 2 ^ 16) :
    viewRequest (cutLine token target (headers ++ body ++ byte :: rest)) method
        (token.length + 1 + target.length + 1 + headers.length) body.length =
      .done { method, path := pathOf target, query := queryOf target, body,
              bodyLength := body.length } := by
  let front := token ++ 0 :: (cutTarget target ++ 0 :: headers)
  have size : front.length = token.length + 1 + target.length + 1 + headers.length := by
    simp only [front, List.length_append, List.length_cons, length_cutTarget]
    omega
  have shown (byte : UInt8) : (cutLine token target (headers ++ body ++ byte :: rest)).buffer =
      front ++ body ++ byte :: rest := by
    simp only [cutLine, front, List.append_assoc, List.cons_append]
  have written := Memory.write_byte (front ++ body) byte 0 rest
  rw [← shown, ← shown, List.length_append, size] at written
  have pathRead := cutLine_path token target_clean (headers ++ body ++ 0 :: rest)
  have bodyRead := Memory.slice_middle front body (0 :: rest)
  rw [← shown, size] at bodyRead
  have position : (cutLine token target (headers ++ body ++ byte :: rest)).path =
      token.length + 1 := rfl
  unfold viewRequest
  simp only [written, Exec.done_bind, position, pathRead, Nat.mod_eq_of_lt small, bodyRead]
  cases queried : queryOf target with
  | none =>
      have absent : (cutLine token target (headers ++ body ++ byte :: rest)).query = none := by
        rw [cutLine, queried]
        rfl
      simp only [absent, Exec.pure_eq, Exec.done_bind]
  | some query =>
      have present : (cutLine token target (headers ++ body ++ byte :: rest)).query =
          some (token.length + 1 + (pathOf target).length + 1) := by
        rw [cutLine, queried]
        rfl
      simp only [present, cutLine_query token target_clean queried, Exec.pure_eq, Exec.done_bind]

end Server
end NetLL
