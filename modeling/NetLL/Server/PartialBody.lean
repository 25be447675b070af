import NetLL.Server.Segmentation

namespace NetLL
namespace Server

open Decimal

/-!
# Callbacks and the bodies they are given

A callback should run on a body that has arrived.  The length it is told is the
smaller of what was received behind the header section and of what the reader
took for the announced length.  It is the announced length exactly when the
reader took the right one and all of it arrived.  The Simulator and ESP32 let a
connection that the peer closed early through, and RP2040 does not.
-/

/-- The number of body bytes received when a request is dispatched. -/
def bodyReceived (platform : Platform) (buffer : List UInt8) (results : List RecvResult) :
    Option Nat :=
  let posix (modulus : Nat) : Option Nat :=
    match Posix.readRequest modulus buffer results with
    | .done (.complete _ totalRead bodyOffset _) => some (totalRead - bodyOffset)
    | _ => none
  match platform with
  | .simulator => posix (2 ^ 64)
  | .esp32 => posix (2 ^ 32)
  | .rp2040 =>
      match Exec.loop
        (fun connection : RP2040.ConnectionContext => decide (connection.requestLength < capacity))
        RP2040.serveRound (fun _ => RP2040.Departure.tooLarge) results .cleared with
      | .done (.dispatch connection) => some (connection.requestLength - connection.headerLength)
      | _ => none

/-- The length announced by the `Content-Length` field of a request, and zero
without one. -/
def fieldLength (stream : List UInt8) : Nat :=
  ((headerEndOf stream).map fun headerEnd => announcedLength (stream.take headerEnd)).getD 0

/-- Callbacks run on whole bodies and are told their length. -/
def NoPartialBody (platform : Platform) (results : List RecvResult) : Prop :=
  ∀ (server : Registrations) (application : Application) (stack : Option CString)
    (buffer : List UInt8) (script : List SendResult) (events : List Event) (route : Route)
    (request : HttpRequest), buffer.length = httpServerMaxRequestSize →
    serveConnection platform server application stack buffer results script = .done events →
    (route, request) ∈ invocations events →
      ∃ received, bodyReceived platform buffer results = some received ∧
        fieldLength (platform.policy.feed results).1.flatten ≤ received ∧
        request.bodyLength = fieldLength (platform.policy.feed results).1.flatten

/-! ## When a request is dispatched -/

/-- The length that is read in the round that completes the headers. -/
def lengthRead (platform : Platform) (segments : List (List UInt8)) (headerEnd : Nat) : Nat :=
  contentLengthOf platform.modulus (view segments.flatten (noticedAt segments headerEnd))

/-- How many bytes a connection is answered on.  A request that does not fit is
refused, and a connection that ends early is answered only where a close of the
peer is taken for the end of the body. -/
def answeredOn (platform : Platform) (segments : List (List UInt8)) (ending : Ending)
    (headerEnd : Nat) : Option Nat :=
  match platform.policy.target ⟨headerEnd, lengthRead platform segments headerEnd⟩ with
  | none => none
  | some target =>
      if target ≤ segments.flatten.length then
        some (min capacity
          (Segments.boundary segments (max (noticedAt segments headerEnd) target)))
      else if platform ≠ .rp2040 ∧ ending = .closed then some segments.flatten.length
      else none

section

variable {platform : Platform} {segments : List (List UInt8)} {ending : Ending}
  {headerEnd size : Nat}

theorem headerAt_lengthRead (platform : Platform) (segments : List (List UInt8))
    (headerEnd : Nat) :
    platform.policy.headerAt segments.flatten headerEnd (noticedAt segments headerEnd) =
      ⟨headerEnd, lengthRead platform segments headerEnd⟩ := by
  rw [Policy.headerAt, platform.policy_modulus]
  rfl

/-- A connection is answered when all that is waited for has arrived, or when
the peer closes it before and this is taken for the end of the body. -/
theorem answeredOn_cases (answered : answeredOn platform segments ending headerEnd = some size) :
    ∃ target, platform.policy.target ⟨headerEnd, lengthRead platform segments headerEnd⟩ =
        some target ∧
      (target ≤ segments.flatten.length ∧ size = min capacity
          (Segments.boundary segments (max (noticedAt segments headerEnd) target)) ∨
        segments.flatten.length < target ∧ platform ≠ .rp2040 ∧ ending = .closed ∧
          size = segments.flatten.length) := by
  unfold answeredOn at answered
  cases wanted : platform.policy.target ⟨headerEnd, lengthRead platform segments headerEnd⟩ with
  | none =>
      rw [wanted] at answered
      cases answered
  | some target =>
      simp only [wanted] at answered
      refine ⟨target, rfl, ?_⟩
      split at answered
      · rename_i arrived
        cases answered
        exact Or.inl ⟨arrived, rfl⟩
      · rename_i short
        split at answered
        · rename_i early
          cases answered
          exact Or.inr ⟨Nat.lt_of_not_le short, early.1, early.2, rfl⟩
        · cases answered

/-- A connection is answered with the header section at hand, and with all that
is waited for unless the stream ends before. -/
theorem answeredOn_bounds (found : headerEndOf segments.flatten = some headerEnd)
    (answered : answeredOn platform segments ending headerEnd = some size) :
    noticedAt segments headerEnd ≤ size ∧ size ≤ min capacity segments.flatten.length ∧
      ∃ target, platform.policy.target ⟨headerEnd, lengthRead platform segments headerEnd⟩ =
        some target ∧ (target ≤ size ∨ segments.flatten.length < target) := by
  have bounds := headerEndOf_le found
  have place := Policy.noticedAt_bounds found
  rcases answeredOn_cases answered with ⟨target, wanted, ⟨arrived, rfl⟩ | ⟨short, _, _, rfl⟩⟩
  · have fits := platform.policy.target_le _ target bounds.2.1 wanted
    have reached := Segments.le_boundary segments (max (noticedAt segments headerEnd) target)
      (by omega)
    have last := Segments.boundary_le_length segments (max (noticedAt segments headerEnd) target)
    exact ⟨by omega, by omega, target, wanted, Or.inl (by omega)⟩
  · have fits := platform.policy.target_le _ target bounds.2.1 wanted
    exact ⟨by omega, by omega, target, wanted, Or.inr short⟩

/-- The reader ends on the bytes the connection is answered on. -/
theorem reading_answered (found : headerEndOf segments.flatten = some headerEnd)
    (answered : answeredOn platform segments ending headerEnd = some size) :
    platform.policy.reading segments ending =
      .done (.complete (segments.flatten.take size) headerEnd
        (min (size - headerEnd) (lengthRead platform segments headerEnd))) := by
  have bounds := answeredOn_bounds found answered
  have header := headerAt_lengthRead platform segments headerEnd
  have length : (segments.flatten.take size).length = size := by
    rw [List.length_take]
    omega
  rcases answeredOn_cases answered with ⟨target, wanted, ⟨arrived, rfl⟩ | ⟨short, more, rfl, rfl⟩⟩
  · rw [Policy.reading_complete found (by rw [header, wanted]) arrived, header, Header.reading,
      length]
  · rw [Policy.reading_short found (by rw [header, wanted]) short, header]
    rw [List.take_length] at length ⊢
    cases platform with
    | simulator => rfl
    | esp32 => rfl
    | rp2040 => exact absurd rfl more

/-- A request is read only on bytes the connection is answered on. -/
theorem exists_answered {bytes : List UInt8} {place bodyLength : Nat}
    (read : platform.policy.reading segments ending = .done (.complete bytes place bodyLength)) :
    ∃ headerEnd size, headerEndOf segments.flatten = some headerEnd ∧
      answeredOn platform segments ending headerEnd = some size := by
  cases found : headerEndOf segments.flatten with
  | none =>
      rw [Policy.reading_unnoticed found] at read
      split at read
      · cases read
      · cases ending <;> cases platform <;> cases read
  | some headerEnd =>
      have header := headerAt_lengthRead platform segments headerEnd
      cases answered : answeredOn platform segments ending headerEnd with
      | some size => exact ⟨headerEnd, size, rfl, answered⟩
      | none =>
          unfold answeredOn at answered
          cases wanted : platform.policy.target
              ⟨headerEnd, lengthRead platform segments headerEnd⟩ with
          | none =>
              rw [Policy.reading_refused found (by rw [header, wanted])] at read
              cases read
          | some target =>
              simp only [wanted] at answered
              split at answered
              · cases answered
              · rename_i short
                split at answered
                · cases answered
                · rename_i early
                  rw [Policy.reading_short found (by rw [header, wanted]) (by omega)] at read
                  cases ending <;> cases platform <;>
                    simp [Policy.conclude, Platform.policy, Posix.policy, RP2040.policy]
                      at early read

end

/-- A dispatched request reaches the default endpoint, which is told how much
of the length that was read has arrived. -/
theorem serveConnection_dispatches {platform : Platform} {results : List RecvResult}
    {headerEnd size : Nat}
    (found : headerEndOf (platform.policy.feed results).1.flatten = some headerEnd)
    (answered : answeredOn platform (platform.policy.feed results).1
      (platform.policy.feed results).2 headerEnd = some size)
    (has : HasRequestLine (view (platform.policy.feed results).1.flatten size))
    {buffer : List UInt8} (room : buffer.length = httpServerMaxRequestSize) :
    ∃ request events,
      serveConnection platform defaultServer idle none buffer results [] = .done events ∧
        (defaultEndpoint, request) ∈ invocations events ∧
        request.bodyLength = min (size - headerEnd)
          (lengthRead platform (platform.policy.feed results).1 headerEnd) := by
  have bounds := headerEndOf_le found
  have place := Policy.noticedAt_bounds found
  have inside := answeredOn_bounds found answered
  have alone : defaultServer.routes = [] ∧ defaultServer.defaultRoute = some defaultEndpoint :=
    ⟨rfl, rfl⟩
  have length : ((platform.policy.feed results).1.flatten.take size).length = size := by
    rw [List.length_take]
    omega
  have fits : headerEnd + min (size - headerEnd)
      (lengthRead platform (platform.policy.feed results).1 headerEnd) ≤
        ((platform.policy.feed results).1.flatten.take size).length := by
    rw [length]
    omega
  rcases judge_default alone has fits with ⟨request, judged, told⟩
  have cap : capacity = 2047 := rfl
  refine ⟨request, reply platform.write idle none [] (.call defaultEndpoint request), ?_, ?_, ?_⟩
  · rw [serveConnection_eq platform defaultServer idle none room, decision, Policy.gather_eq,
      reading_answered found answered]
    simp only [Exec.done_bind, settle, judged, Exec.pure_eq, announce]
  · exact List.mem_singleton.mpr rfl
  · rw [told, Nat.mod_eq_of_lt (by omega)]

/-- Callbacks that run on whole bodies are told the field's length. -/
theorem NoPartialBody.told {platform : Platform} {results : List RecvResult}
    (whole : NoPartialBody platform results) {headerEnd size : Nat}
    (found : headerEndOf (platform.policy.feed results).1.flatten = some headerEnd)
    (answered : answeredOn platform (platform.policy.feed results).1
      (platform.policy.feed results).2 headerEnd = some size)
    (has : HasRequestLine (view (platform.policy.feed results).1.flatten size)) :
    min (size - headerEnd) (lengthRead platform (platform.policy.feed results).1 headerEnd) =
      fieldLength (platform.policy.feed results).1.flatten := by
  have room : (List.replicate httpServerMaxRequestSize (0 : UInt8)).length =
      httpServerMaxRequestSize := List.length_replicate
  rcases serveConnection_dispatches found answered has room with
    ⟨request, events, served, member, told⟩
  rcases whole defaultServer idle none _ [] events defaultEndpoint request room served member with
    ⟨_, _, _, field⟩
  exact told.symm.trans field

end Server
end NetLL
