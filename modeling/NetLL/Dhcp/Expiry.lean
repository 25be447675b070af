import NetLL.Dhcp.Server
import NetLL.Library.Ticks

namespace NetLL
namespace Dhcp

/-!
# When a lease looks expired

The expiry of a lease is kept in sixteen bits, in units of 2¹⁶ milliseconds, and
is compared with a clock of 32 bits.  Times are counted from the start of the
device without an end here, and the clock shows them up to multiples of 2³².
-/

/-- The last millisecond of a lease that is given at this time, which is the
last one of a unit of 2¹⁶. -/
def leaseEnd (given : Nat) : Nat :=
  (given + 86400000) / 65536 * 65536 + 65535

theorem toNat_unit (expiry : UInt16) :
    (expiry.toUInt32 <<< 16 ||| 0xffff).toNat = expiry.toNat * 65536 + 65535 := by
  have small := expiry.toNat_lt
  have low : (65535 : Nat) < 2 ^ 16 := by decide
  have shifted : (expiry.toUInt32 <<< 16).toNat = expiry.toNat <<< 16 := by
    rw [UInt32.toNat_shiftLeft, UInt16.toNat_toUInt32]
    change expiry.toNat <<< 16 % 2 ^ 32 = expiry.toNat <<< 16
    rw [Nat.mod_eq_of_lt]
    rw [Nat.shiftLeft_eq]
    omega
  rw [UInt32.toNat_or, shifted]
  change expiry.toNat <<< 16 ||| 65535 = _
  rw [← Nat.shiftLeft_add_eq_or_of_lt low, Nat.shiftLeft_eq]

theorem toNat_expiryFrom (ticks : UInt32) :
    (expiryFrom ticks).toNat = (ticks.toNat + 86400000) % 2 ^ 32 / 65536 := by
  have step : (ticks + defaultLeaseTimeS * 1000).toNat = (ticks.toNat + 86400000) % 2 ^ 32 := by
    rw [UInt32.toNat_add]
    rfl
  rw [expiryFrom, UInt32.toNat_toUInt16, UInt32.toNat_shiftRight, step]
  change (_ >>> 16) % 2 ^ 16 = _
  rw [Nat.shiftRight_eq_div_pow]
  omega

theorem toInt32_lt_zero (value : UInt32) : value.toInt32 < 0 ↔ 2 ^ 31 ≤ value.toNat := by
  rw [Int32.lt_iff_toInt_lt]
  change value.toBitVec.toInt < 0 ↔ 2 ^ 31 ≤ value.toBitVec.toNat
  rw [BitVec.toInt_eq_toNat_cond]
  have small := value.toBitVec.isLt
  split <;> omega

theorem expired_iff {lease : Lease} {given now : Nat}
    (since : lease.expiry = expiryFrom (UInt32.ofNat given)) :
    lease.expired (UInt32.ofNat now) = true ↔ Ticks.Past (2 ^ 31) (leaseEnd given) now := by
  have left : ((UInt32.ofNat now).toNat : Int) ≡ now [ZMOD 2 * (2 ^ 31 : Nat)] := by
    rw [UInt32.toNat_ofNat']
    exact Int.mod_modEq now _
  have right : ((lease.expiry.toUInt32 <<< 16 ||| 0xffff).toNat : Int) ≡ leaseEnd given
      [ZMOD 2 * (2 ^ 31 : Nat)] := by
    rw [toNat_unit, since, toNat_expiryFrom, UInt32.toNat_ofNat', leaseEnd]
    unfold Int.ModEq
    omega
  rw [← Ticks.past_congr right left, Lease.expired, decide_eq_true_eq, toInt32_lt_zero,
    UInt32.toNat_sub, Ticks.Past]
  have wide := (UInt32.ofNat now).toNat_lt
  have wide_ := (lease.expiry.toUInt32 <<< 16 ||| 0xffff).toNat_lt
  omega

theorem le_leaseEnd (given : Nat) : given + 86400000 ≤ leaseEnd given := by
  unfold leaseEnd
  omega

theorem leaseEnd_lt_of_expired {lease : Lease} {given now : Nat}
    (since : lease.expiry = expiryFrom (UInt32.ofNat given)) (later : given ≤ now)
    (over_ : lease.expired (UInt32.ofNat now) = true) : leaseEnd given < now := by
  by_contra running
  refine Ticks.not_past ?_ ?_ ((expired_iff since).mp over_)
  · omega
  · unfold leaseEnd
    omega

/-- A lease that is over looks expired for 2³¹ milliseconds, then it does not
for as long, and so on. -/
theorem expired_iff_window {lease : Lease} {given now : Nat}
    (since : lease.expiry = expiryFrom (UInt32.ofNat given)) (later : given ≤ now) :
    lease.expired (UInt32.ofNat now) = true ↔
      ∃ cycles, leaseEnd given + cycles * 2 ^ 32 < now ∧
        now ≤ leaseEnd given + cycles * 2 ^ 32 + 2 ^ 31 := by
  constructor
  · intro over_
    have ended := leaseEnd_lt_of_expired since later over_
    have past := (expired_iff since).mp over_
    unfold Ticks.Past at past
    refine ⟨(now - leaseEnd given - 1) / 2 ^ 32, ?_, ?_⟩
    · omega
    · omega
  · rintro ⟨cycles, ended, near⟩
    rw [expired_iff since]
    unfold Ticks.Past
    omega

end Dhcp
end NetLL
