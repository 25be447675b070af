import NetLL.Server.Segmentation

namespace NetLL
namespace Server

open Decimal

/-!
# Announced lengths that do not fit

The test for the size of a body is made on machine words.  The Simulator and
ESP32 compare the reduced numeral with the room left behind the header section,
and RP2040 compares a reduced sum with the whole room.  A numeral of any length
is refused exactly when its reduction still fails the test.
-/

/-- Whatever the cut, the connection is answered 413 and runs no callback. -/
def AlwaysRefused (platform : Platform) (stream : List UInt8) : Prop :=
  ∀ (server : Registrations) (application : Application) (stack : Option CString)
    (buffer : List UInt8) (script : List SendResult) (segments : List (List UInt8))
    (ending : Ending), buffer.length = httpServerMaxRequestSize → Splits segments stream →
      ∃ events, serveConnection platform server application stack buffer
          (arrival segments ending) script = .done events ∧
        statuses events = [413] ∧ invocations events = []

/-- The reduced value of a numeral fails the platform's test for size. -/
def FailsSizeTest (platform : Platform) (headerEnd length : Nat) : Prop :=
  match platform with
  | .simulator => capacity - headerEnd < length % 2 ^ 64
  | .esp32 => capacity - headerEnd < length % 2 ^ 32
  | .rp2040 => capacity < (headerEnd + length) % 2 ^ 32

instance (platform : Platform) (headerEnd length : Nat) :
    Decidable (FailsSizeTest platform headerEnd length) := by
  cases platform <;> exact Nat.decLt _ _

theorem AlwaysRefused.decision_eq {platform : Platform} {stream : List UInt8}
    (refused : AlwaysRefused platform stream) {segments : List (List UInt8)} (ending : Ending)
    (split : Splits segments stream) :
    decision platform defaultServer (arrival segments ending) =
      .done (some (.refusal 413)) := by
  have size : (List.replicate httpServerMaxRequestSize (0 : UInt8)).length =
      httpServerMaxRequestSize := List.length_replicate
  rcases refused defaultServer idle none _ [] segments ending size split with
    ⟨events, served, status, _⟩
  rw [serveConnection_eq platform defaultServer idle none size] at served
  rcases Exec.bind_eq_done_iff.mp served with ⟨decided, decision, announced⟩
  cases announced
  cases decided with
  | none => cases status
  | some verdict =>
      cases verdict with
      | refusal statusCode =>
          change [statusCode] = [413] at status
          cases status
          exact decision
      | call route request => cases status

/-- A number that does not wrap fails the test when it does not fit. -/
theorem failsSizeTest_of_lt {platform : Platform} {headerEnd length : Nat}
    (inside : headerEnd ≤ capacity) (small : headerEnd + length < platform.modulus)
    (oversized : capacity < headerEnd + length) : FailsSizeTest platform headerEnd length := by
  cases platform with
  | simulator =>
      change capacity - headerEnd < length % 2 ^ 64
      change headerEnd + length < 2 ^ 64 at small
      rw [Nat.mod_eq_of_lt (by omega)]
      omega
  | esp32 =>
      change capacity - headerEnd < length % 2 ^ 32
      change headerEnd + length < 2 ^ 32 at small
      rw [Nat.mod_eq_of_lt (by omega)]
      omega
  | rp2040 =>
      change capacity < (headerEnd + length) % 2 ^ 32
      change headerEnd + length < 2 ^ 32 at small
      rwa [Nat.mod_eq_of_lt small]

end Server
end NetLL
