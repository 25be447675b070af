import NetLL.Server.Bounds

namespace NetLL
namespace Server

/-!
# Connections do not see each other

The request buffer of the Simulator and of ESP32 is static and holds what
earlier connections left in it.  Two connections that receive the same come to
the same outcome, whatever was there before each of them: the same status, or
the same callback with the same strings and the same body, its terminator
included.
-/

/-- What a connection comes to: a status without a callback, or a callback with
its path, its query, and `Body[0]` to `Body[BodyLength]`. -/
inductive Outcome where
  | answered (statusCode : UInt16)
  | called (route : Route) (method : HttpMethod) (path : List UInt8)
      (query : Option (List UInt8)) (body : List UInt8) (bodyLength : Nat)
deriving DecidableEq

/-- The verdict without the terminator of the body. -/
def Outcome.verdict : Outcome → Verdict
  | answered statusCode => .refusal statusCode
  | called route method path query body bodyLength =>
      .call route { method, path, query, body := body.take bodyLength, bodyLength }

/-- `DispatchRoute` up to the call: what the callback can read through the
pointers in its request. -/
def handed (bodyOffset bodyLength : Nat) (route : Route) (line : RequestLine)
    (method : HttpMethod) : Exec Outcome := do
  let buffer ← Memory.write line.buffer (bodyOffset + bodyLength) [0]
  let path ← Memory.cstring buffer line.path
  let query ← match line.query with
    | none => pure none
    | some query => do
        let string ← Memory.cstring buffer query
        pure (some string)
  let shownLength := bodyLength % 2 ^ 16
  let body ← Memory.slice buffer bodyOffset (shownLength + 1)
  return .called route method path query body shownLength

/-- `ServeConnection` of the Simulator and of ESP32, up to its answer. -/
def Posix.connectionOutcome (modulus : Nat) (server : Registrations) (buffer : List UInt8)
    (results : List RecvResult) : Exec Outcome := do
  match ← readRequest modulus buffer results with
  | .refused => return .answered 413
  | .complete buffer _ bodyOffset bodyLength =>
      routeWith .answered (handed bodyOffset bodyLength) server buffer

/-! ## What is handed over is received -/

theorem handed_append {line : RequestLine} (inside : line.Inside) (route : Route)
    (method : HttpMethod) {bodyOffset bodyLength : Nat}
    (fits : bodyOffset + bodyLength < line.buffer.length) :
    ∃ outcome, ∀ stale,
      handed bodyOffset bodyLength route { line with buffer := line.buffer ++ stale } method =
        .done outcome := by
  rcases inside.terminated.write fits with ⟨after, written, terminated, size⟩
  rcases terminated.cstring (size ▸ inside.path) with ⟨path, pathRead⟩
  have smaller : bodyLength % 2 ^ 16 ≤ bodyLength := Nat.mod_le _ _
  have bodyRead : Memory.slice after bodyOffset (bodyLength % 2 ^ 16 + 1) =
      .done ((after.drop bodyOffset).take (bodyLength % 2 ^ 16 + 1)) := if_pos (by omega)
  cases query : line.query with
  | none =>
      refine ⟨.called route method path none
        ((after.drop bodyOffset).take (bodyLength % 2 ^ 16 + 1)) (bodyLength % 2 ^ 16),
        fun stale => ?_⟩
      simp only [handed, Memory.write_append written, Exec.done_bind,
        Memory.cstring_append pathRead, Exec.pure_eq, Memory.slice_append bodyRead]
  | some offset =>
      rcases terminated.cstring (size ▸ inside.query offset query) with ⟨string, queryRead⟩
      refine ⟨.called route method path (some string)
        ((after.drop bodyOffset).take (bodyLength % 2 ^ 16 + 1)) (bodyLength % 2 ^ 16),
        fun stale => ?_⟩
      simp only [handed, Memory.write_append written, Exec.done_bind,
        Memory.cstring_append pathRead, Memory.cstring_append queryRead, Exec.pure_eq,
        Memory.slice_append bodyRead]

theorem slice_succ {memory bytes : List UInt8} {offset size : Nat}
    (read : Memory.slice memory offset (size + 1) = .done bytes) :
    Memory.slice memory offset size = .done (bytes.take size) := by
  unfold Memory.slice at read
  split at read
  · rename_i inside
    cases read
    rw [Memory.slice, if_pos (by omega), List.take_take, Nat.min_eq_left (Nat.le_succ size)]
  · cases read

theorem viewRequest_of_handed {bodyOffset bodyLength : Nat} {route : Route} {line : RequestLine}
    {method : HttpMethod} {outcome : Outcome}
    (hands : handed bodyOffset bodyLength route line method = .done outcome) :
    (do
      let request ← viewRequest line method bodyOffset bodyLength
      return .call route request) = Exec.done outcome.verdict := by
  rcases Exec.bind_eq_done_iff.mp hands with ⟨after, written, hands⟩
  rcases Exec.bind_eq_done_iff.mp hands with ⟨path, pathRead, hands⟩
  cases query : line.query with
  | none =>
      simp only [query, Exec.pure_eq, Exec.done_bind] at hands
      rcases Exec.bind_eq_done_iff.mp hands with ⟨body, bodyRead, hands⟩
      cases hands
      simp only [viewRequest, written, pathRead, query, slice_succ bodyRead, Exec.done_bind,
        Exec.pure_eq, Outcome.verdict]
  | some offset =>
      simp only [query, Exec.pure_eq, Exec.done_bind] at hands
      rcases Exec.bind_eq_done_iff.mp hands with ⟨string, queryRead, hands⟩
      rcases Exec.bind_eq_done_iff.mp hands with ⟨body, bodyRead, hands⟩
      cases hands
      simp only [viewRequest, written, pathRead, query, queryRead, slice_succ bodyRead,
        Exec.done_bind, Exec.pure_eq, Outcome.verdict]

/-- The outcome of a complete request is decided by its bytes. -/
theorem routed_append (server : Registrations) {bytes : List UInt8} {headerEnd bodyLength : Nat}
    (fits : headerEnd + bodyLength ≤ bytes.length) :
    ∃ outcome, ∀ stale,
      routeWith .answered (handed headerEnd bodyLength) server (bytes ++ 0 :: stale) =
        .done outcome := by
  refine routeWith_append _ server fun route line method => ?_
  have inside : headerEnd + bodyLength < (line.cut [0]).buffer.length := by
    rw [line.length_cut]
    omega
  rcases handed_append (cutLine_inside ⟨line.tail, rfl⟩) route method inside with ⟨outcome, hands⟩
  refine ⟨outcome, fun stale => ?_⟩
  rw [line.cut_stale]
  exact hands stale

theorem judge_of_routed {server : Registrations} {memory : List UInt8}
    {headerEnd bodyLength : Nat} {outcome : Outcome}
    (routed : routeWith .answered (handed headerEnd bodyLength) server memory = .done outcome) :
    judge server memory headerEnd bodyLength = .done outcome.verdict := by
  rw [judge_eq_routeWith]
  unfold routeWith at routed ⊢
  rcases Exec.bind_eq_done_iff.mp routed with ⟨parsed, parses, routed⟩
  rw [parses, Exec.done_bind]
  cases parsed with
  | none =>
      cases routed
      rfl
  | some line =>
      rcases Exec.bind_eq_done_iff.mp routed with ⟨token, tokenRead, routed⟩
      rcases Exec.bind_eq_done_iff.mp routed with ⟨path, pathRead, routed⟩
      simp only [tokenRead, pathRead, Exec.done_bind]
      cases matched : server.matchRoute path ((parseMethod token).getD .get)
          (parseMethod token).isSome with
      | mk found pathExists =>
          simp only [matched] at routed ⊢
          cases found with
          | none =>
              cases routed
              rfl
          | some route => exact viewRequest_of_handed routed

/-! ## Two connections -/

/-- What a reader took for complete, with what is left in the buffer, comes to
one outcome. -/
theorem Posix.connectionOutcome_eq {modulus : Nat}
    (large : 2 * httpServerMaxRequestSize ≤ modulus) (server : Registrations)
    {first second : List UInt8} (firstSize : first.length = httpServerMaxRequestSize)
    (secondSize : second.length = httpServerMaxRequestSize) (results : List RecvResult) :
    connectionOutcome modulus server first results =
      connectionOutcome modulus server second results := by
  have left := readRequest_related large firstSize results
  have right := readRequest_related large secondSize results
  unfold connectionOutcome
  generalize readRequest modulus first results = firstRead at left ⊢
  generalize readRequest modulus second results = secondRead at right ⊢
  generalize (policy modulus).gather results = gathered at left right
  cases left with
  | waiting =>
      cases right
      rfl
  | fault =>
      cases right
      rfl
  | done firstYields =>
      cases right with
      | done secondYields =>
          cases firstYields with
          | refused =>
              cases secondYields
              rfl
          | @complete _ bytes headerEnd bodyLength firstHolds header_pos inside =>
              cases secondYields with
              | complete secondHolds _ _ =>
                  have nonempty : bytes ≠ [] := by
                    rintro rfl
                    simp at inside
                    omega
                  rcases firstHolds.terminated nonempty with ⟨firstStale, firstSplit⟩
                  rcases secondHolds.terminated nonempty with ⟨secondStale, secondSplit⟩
                  rcases routed_append server inside with ⟨outcome, routed⟩
                  simp only [Exec.done_bind, firstSplit, secondSplit, routed]

/-- The connection announces its outcome. -/
theorem Posix.serveConnection_outcome {modulus : Nat}
    (large : 2 * httpServerMaxRequestSize ≤ modulus) (server : Registrations)
    (application : Application) (stack : Option CString) {buffer : List UInt8}
    (size : buffer.length = httpServerMaxRequestSize) (results : List RecvResult)
    (script : List SendResult) :
    serveConnection modulus server application stack buffer results script =
      connectionOutcome modulus server buffer results >>= fun outcome =>
        .done (reply writeResponse application stack script outcome.verdict) := by
  have related := readRequest_related large size results
  unfold serveConnection connectionOutcome
  generalize readRequest modulus buffer results = read at related ⊢
  generalize (policy modulus).gather results = gathered at related
  cases related with
  | waiting => rfl
  | fault => rfl
  | done yields =>
      cases yields with
      | refused => rfl
      | @complete _ bytes headerEnd bodyLength holds header_pos inside =>
          have nonempty : bytes ≠ [] := by
            rintro rfl
            simp at inside
            omega
          rcases holds.terminated nonempty with ⟨stale, split⟩
          rcases routed_append server inside with ⟨outcome, routed⟩
          have judged := judge_of_routed (routed stale)
          simp only [Exec.done_bind, split, routed]
          refine (posix_judges server application stack script _ _ _).trans ?_
          rw [judged]
          rfl

theorem serveConnection_posix {platform : Platform} (posix : platform ≠ .rp2040)
    (server : Registrations) (application : Application) (stack : Option CString)
    (buffer : List UInt8) (results : List RecvResult) (script : List SendResult) :
    serveConnection platform server application stack buffer results script =
      Posix.serveConnection platform.modulus server application stack buffer results script := by
  cases platform with
  | simulator => rfl
  | esp32 => rfl
  | rp2040 => exact absurd rfl posix

/-- On the Simulator and on ESP32, whatever two earlier connections left in
the buffer, the same results of `recv` come to the same outcome, which is what
the connection announces. -/
theorem no_leakage {platform : Platform} (posix : platform ≠ .rp2040) (server : Registrations)
    (application : Application) (stack : Option CString) {first second : List UInt8}
    (firstSize : first.length = httpServerMaxRequestSize)
    (secondSize : second.length = httpServerMaxRequestSize) (results : List RecvResult)
    (script : List SendResult) :
    Posix.connectionOutcome platform.modulus server first results =
        Posix.connectionOutcome platform.modulus server second results ∧
      serveConnection platform server application stack first results script =
        serveConnection platform server application stack second results script ∧
      serveConnection platform server application stack first results script =
        Posix.connectionOutcome platform.modulus server first results >>= fun outcome =>
          .done (reply writeResponse application stack script outcome.verdict) := by
  have large := platform.modulus_large
  have same := Posix.connectionOutcome_eq large server firstSize secondSize results
  have announced {buffer : List UInt8} (size : buffer.length = httpServerMaxRequestSize) :=
    Posix.serveConnection_outcome large server application stack size results script
  rw [serveConnection_posix posix, serveConnection_posix posix, announced firstSize,
    announced secondSize, same]
  exact ⟨rfl, rfl, rfl⟩

/-- A request line that nothing follows, over the request of another connection. -/
theorem no_leakage_secret :
    Posix.connectionOutcome Platform.esp32.modulus defaultServer
          (ascii "GET /secret?key HTTP/1.1" ++ List.replicate 2024 32)
          [.received (ascii "GET /?a"), .received (ascii "\r\n\r\n")] =
        Posix.connectionOutcome Platform.esp32.modulus defaultServer (List.replicate 2048 0)
          [.received (ascii "GET /?a"), .received (ascii "\r\n\r\n")] ∧
      serveConnection .esp32 defaultServer idle none
          (ascii "GET /secret?key HTTP/1.1" ++ List.replicate 2024 32)
          [.received (ascii "GET /?a"), .received (ascii "\r\n\r\n")] [] =
        serveConnection .esp32 defaultServer idle none (List.replicate 2048 0)
          [.received (ascii "GET /?a"), .received (ascii "\r\n\r\n")] [] ∧
      serveConnection .esp32 defaultServer idle none
          (ascii "GET /secret?key HTTP/1.1" ++ List.replicate 2024 32)
          [.received (ascii "GET /?a"), .received (ascii "\r\n\r\n")] [] =
        Posix.connectionOutcome Platform.esp32.modulus defaultServer
            (ascii "GET /secret?key HTTP/1.1" ++ List.replicate 2024 32)
            [.received (ascii "GET /?a"), .received (ascii "\r\n\r\n")] >>= fun outcome =>
          .done (reply writeResponse idle none [] outcome.verdict) :=
  no_leakage (by decide) defaultServer idle none (by decide +kernel) List.length_replicate _ []

end Server
end NetLL
