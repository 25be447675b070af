import NetLL.Server.PartialBody

namespace NetLL
namespace Server

/-!
# The ESP32 and RP2040 servers agree

With the same word, the two readers notice the header section in the same
round and read the same length.  ESP32 compares that length with the space left
behind the header, and RP2040 compares the sum of both with all of the space.
The tests agree as long as the sum is a word.
-/

/-- What a connection shows of its decision: the callback with its request, or
the status. -/
def outcome (events : List Event) : List (Route × HttpRequest) × List UInt16 :=
  (invocations events, statuses events)

/-- The decision of a server that receives these segments and nothing else. -/
def shownDecision (platform : Platform) (server : Registrations) (application : Application)
    (stack : Option CString) (buffer : List UInt8) (segments : List (List UInt8))
    (script : List SendResult) : Exec (List (Route × HttpRequest) × List UInt16) :=
  serveConnection platform server application stack buffer (arrival segments .silent) script >>=
    fun events => .done (outcome events)

/-- The sum of the header section and of the length that is read is a word. -/
def SumIsWord (segments : List (List UInt8)) : Prop :=
  ∀ headerEnd, headerEndOf segments.flatten = some headerEnd →
    headerEnd + lengthRead .esp32 segments headerEnd < 2 ^ 32

/-! ## The two size tests -/

section

variable {segments : List (List UInt8)} {headerEnd : Nat}

/-- Both platforms know the same of a header section. -/
theorem headerAt_word (platform : Platform) (word : platform.modulus = 2 ^ 32) :
    platform.policy.headerAt segments.flatten headerEnd (noticedAt segments headerEnd) =
      ⟨headerEnd, lengthRead .esp32 segments headerEnd⟩ := by
  rw [Policy.headerAt, platform.policy_modulus, word]
  rfl

theorem target_eq_of_lt (inside : headerEnd ≤ capacity) {announced : Nat}
    (small : headerEnd + announced < 2 ^ 32) :
    Platform.esp32.policy.target ⟨headerEnd, announced⟩ =
      Platform.rp2040.policy.target ⟨headerEnd, announced⟩ := by
  have sum : Word.add RP2040.sizeModulus headerEnd announced = headerEnd + announced :=
    Word.add_of_lt small
  change (if capacity - headerEnd < announced then none else some (headerEnd + announced)) =
    if capacity < Word.add RP2040.sizeModulus headerEnd announced then none
    else some (Word.add RP2040.sizeModulus headerEnd announced)
  rw [sum]
  by_cases large : capacity - headerEnd < announced
  · rw [if_pos large, if_pos (by omega)]
  · rw [if_neg large, if_neg (by omega)]

/-- A sum that is not a word is too large for ESP32, and RP2040 waits for less
than the header section. -/
theorem target_of_wrap (inside : headerEnd ≤ capacity) {announced : Nat}
    (word : announced < 2 ^ 32) (wraps : 2 ^ 32 ≤ headerEnd + announced) :
    Platform.esp32.policy.target ⟨headerEnd, announced⟩ = none ∧
      ∃ target, Platform.rp2040.policy.target ⟨headerEnd, announced⟩ = some target ∧
        target ≤ headerEnd := by
  have cap : capacity = 2047 := rfl
  have sum : Word.add RP2040.sizeModulus headerEnd announced = headerEnd + announced - 2 ^ 32 := by
    rw [Word.add, RP2040.sizeModulus, Nat.mod_eq_sub_mod wraps, Nat.mod_eq_of_lt (by omega)]
  constructor
  · exact if_pos (show capacity - headerEnd < announced by omega)
  · refine ⟨headerEnd + announced - 2 ^ 32, ?_, by omega⟩
    change (if capacity < Word.add RP2040.sizeModulus headerEnd announced then none
      else some (Word.add RP2040.sizeModulus headerEnd announced)) = _
    rw [sum, if_neg (by omega)]

theorem lengthRead_lt (platform : Platform) : lengthRead platform segments headerEnd <
    platform.modulus := by
  rw [lengthRead, contentLengthOf_eq]
  exact Nat.mod_lt _ (by have ten := platform.ten_le_modulus; omega)

/-! ## The two readers -/

/-- With sums that are words the readers end alike. -/
theorem reading_eq_of_sumIsWord (small : SumIsWord segments) :
    Platform.esp32.policy.reading segments .silent =
      Platform.rp2040.policy.reading segments .silent := by
  cases found : headerEndOf segments.flatten with
  | none =>
      rw [Policy.reading_unnoticed found, Policy.reading_unnoticed found]
      rfl
  | some headerEnd =>
      rw [Policy.reading_noticed found, Policy.reading_noticed found,
        headerAt_word .esp32 rfl, headerAt_word .rp2040 rfl,
        target_eq_of_lt (headerEndOf_le found).2.1 (small headerEnd found)]
      rfl

/-- With another sum ESP32 refuses, and RP2040 takes the request for complete. -/
theorem reading_of_wrap (found : headerEndOf segments.flatten = some headerEnd)
    (wraps : 2 ^ 32 ≤ headerEnd + lengthRead .esp32 segments headerEnd) :
    Platform.esp32.policy.reading segments .silent = .done .refused ∧
      ∃ bytes bodyLength, Platform.rp2040.policy.reading segments .silent =
        .done (.complete bytes headerEnd bodyLength) := by
  have bounds := headerEndOf_le found
  rcases target_of_wrap bounds.2.1 (lengthRead_lt .esp32) wraps with ⟨refuses, target, waits, less⟩
  constructor
  · exact Policy.reading_refused found (by rw [headerAt_word .esp32 rfl, refuses]) .silent
  · have complete := Policy.reading_complete found
      (by rw [headerAt_word .rp2040 rfl, waits]) (by omega) .silent
    rw [headerAt_word .rp2040 rfl] at complete
    exact ⟨_, _, complete⟩

end

/-! ## The two decisions -/

theorem settle_complete_ne (server : Registrations) (bytes : List UInt8)
    (headerEnd bodyLength : Nat) :
    settle server (.complete bytes headerEnd bodyLength) ≠ .done (some (.refusal 413)) := by
  intro refused
  rcases Exec.bind_eq_done_iff.mp refused with ⟨verdict, judged, same⟩
  cases same
  rcases judge_cases judged with equal | equal | equal | ⟨route, request, equal, _⟩ <;> cases equal

theorem decision_eq_iff (server : Registrations) {segments : List (List UInt8)}
    (nonempty : ∀ segment ∈ segments, segment ≠ []) :
    decision .esp32 server (arrival segments .silent) =
        decision .rp2040 server (arrival segments .silent) ↔ SumIsWord segments := by
  rw [decision_arrival .esp32 server nonempty, decision_arrival .rp2040 server nonempty]
  constructor
  · intro same headerEnd found
    by_contra wraps
    rcases reading_of_wrap found (Nat.le_of_not_lt wraps) with ⟨refused, bytes, length, complete⟩
    rw [refused, complete, Exec.done_bind, Exec.done_bind] at same
    exact settle_complete_ne server bytes headerEnd length same.symm
  · intro small
    rw [reading_eq_of_sumIsWord small]

/-- What is shown of a decision. -/
def Verdict.shown : Option Verdict → List (Route × HttpRequest) × List UInt16
  | none => ([], [])
  | some (.refusal statusCode) => ([], [statusCode])
  | some (.call route request) => ([(route, request)], [])

theorem Verdict.shown_injective {first second : Option Verdict}
    (same : Verdict.shown first = Verdict.shown second) : first = second := by
  cases first with
  | none =>
      cases second with
      | none => rfl
      | some verdict => cases verdict <;> cases same
  | some verdict =>
      cases second with
      | none => cases verdict <;> cases same
      | some other => cases verdict <;> cases other <;> cases same <;> rfl

theorem outcome_announce (write : List SendResult → HttpResponse → Written)
    (application : Application) (stack : Option CString) (script : List SendResult)
    (decided : Option Verdict) :
    outcome (announce write application stack script decided) = Verdict.shown decided := by
  cases decided with
  | none => rfl
  | some verdict => cases verdict <;> rfl

theorem shownDecision_eq (platform : Platform) (server : Registrations)
    (application : Application) (stack : Option CString) {buffer : List UInt8}
    (size : buffer.length = httpServerMaxRequestSize) (segments : List (List UInt8))
    (script : List SendResult) :
    shownDecision platform server application stack buffer segments script =
      decision platform server (arrival segments .silent) >>= fun decided =>
        .done (Verdict.shown decided) := by
  rw [shownDecision, serveConnection_eq platform server application stack size, Exec.bind_assoc]
  simp only [Exec.done_bind, outcome_announce]

/-- The two servers reach the same decision exactly when the sum is a word,
for every route table and every split of the stream. -/
theorem shownDecision_eq_iff (server : Registrations) (application : Application)
    (stack stack' : Option CString) {buffer buffer' : List UInt8}
    (size : buffer.length = httpServerMaxRequestSize)
    (size' : buffer'.length = httpServerMaxRequestSize) {segments : List (List UInt8)}
    (nonempty : ∀ segment ∈ segments, segment ≠ []) (script script' : List SendResult) :
    shownDecision .esp32 server application stack buffer segments script =
        shownDecision .rp2040 server application stack' buffer' segments script' ↔
      SumIsWord segments := by
  rw [← decision_eq_iff server nonempty, shownDecision_eq .esp32 server application stack size,
    shownDecision_eq .rp2040 server application stack' size']
  constructor
  · intro same
    exact Exec.bind_done_injective (fun _ _ => Verdict.shown_injective) same
  · intro same
    rw [same]

/-! ## A length that wraps -/

/-- A header section of 47 bytes that announces 47 bytes less than a word. -/
def wrappedRequest : List (List UInt8) :=
  [ascii "POST / HTTP/1.1\r\nContent-Length: 4294967249\r\n\r\n"]

/-- ESP32 refuses the request, and RP2040 answers that it knows no such path. -/
theorem servers_disagree :
    shownDecision .esp32 .initial idle none (List.replicate 2048 0) wrappedRequest [] =
        .done ([], [413]) ∧
      shownDecision .rp2040 .initial idle none (List.replicate 2048 0) wrappedRequest
        [] = .done ([], [404]) := by
  constructor <;> decide +kernel

/-- A body that is still to come. -/
theorem servers_agree_waiting :
    shownDecision .esp32 .initial idle none (List.replicate 2048 0)
        [ascii "POST / HTTP/1.1\r\nContent-Length: 5\r\n\r\nab"] [] =
      shownDecision .rp2040 .initial idle none (List.replicate 2048 1)
        [ascii "POST / HTTP/1.1\r\nContent-Length: 5\r\n\r\nab"] [] := by
  refine (shownDecision_eq_iff .initial idle none none List.length_replicate
    List.length_replicate (by decide) [] []).mpr ?_
  intro headerEnd found
  have place : headerEndOf [ascii "POST / HTTP/1.1\r\nContent-Length: 5\r\n\r\nab"].flatten =
      some 38 := by decide +kernel
  rw [place, Option.some.injEq] at found
  subst found
  decide +kernel

end Server
end NetLL
