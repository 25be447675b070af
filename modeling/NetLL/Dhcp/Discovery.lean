import Mathlib.Data.List.Find
import NetLL.Dhcp.Server
import NetLL.Library.Ticks

namespace NetLL
namespace Dhcp

/-!
# The lease that a discovery is offered

The loop goes over the leases in their order, and comes to the first one that
the client has.  In front of it, or anywhere when there is none, it takes the
holder away from the first lease that is spare.  That lease is offered when the
client has none of its own.
-/

variable {chaddr : Block 6} {ticks : Nat → UInt32} {indices : List (Fin dhcpsMaxIp)}
  {lease : Fin dhcpsMaxIp → Lease}

/-- A lease that nobody holds, or that looks expired. -/
def Lease.Spare (lease : Lease) (ticks : UInt32) : Prop :=
  lease.mac = .zero 6 ∨ lease.expired ticks = true

instance (lease : Lease) (ticks : UInt32) : Decidable (lease.Spare ticks) :=
  inferInstanceAs (Decidable (_ ∨ _))

/-- The leases, where one of them has lost its holder. -/
def release (lease : Fin dhcpsMaxIp → Lease) (i : Fin dhcpsMaxIp) : Fin dhcpsMaxIp → Lease :=
  Function.update lease i (lease i).cleared

/-- The first lease of the client. -/
def ownLease (chaddr : Block 6) (indices : List (Fin dhcpsMaxIp))
    (lease : Fin dhcpsMaxIp → Lease) : Option (Fin dhcpsMaxIp) :=
  indices.find? fun i => (lease i).mac = chaddr

/-- The first lease in front of it that is spare. -/
def spareLease (chaddr : Block 6) (ticks : Nat → UInt32) (indices : List (Fin dhcpsMaxIp))
    (lease : Fin dhcpsMaxIp → Lease) : Option (Fin dhcpsMaxIp) :=
  (indices.takeWhile fun i => (lease i).mac ≠ chaddr).find? fun i => (lease i).Spare (ticks i)

theorem release_of_free {i : Fin dhcpsMaxIp} (free : (lease i).mac = .zero 6) :
    release lease i = lease := by
  have same : (lease i).cleared = lease i := by
    rw [Lease.cleared, ← free]
  rw [release, same, Function.update_eq_self]

theorem mac_release (lease : Fin dhcpsMaxIp → Lease) (i : Fin dhcpsMaxIp) :
    (release lease i i).mac = .zero 6 := by
  rw [release, Function.update_self]
  rfl

theorem release_of_ne {i j : Fin dhcpsMaxIp} (different : j ≠ i) : release lease i j = lease j :=
  Function.update_of_ne different _ lease

theorem mac_of_ownLease {i : Fin dhcpsMaxIp} (own : ownLease chaddr indices lease = some i) :
    (lease i).mac = chaddr := by
  unfold ownLease at own
  simpa using List.find?_some own

theorem spare_of_spareLease {i : Fin dhcpsMaxIp}
    (spare : spareLease chaddr ticks indices lease = some i) : (lease i).Spare (ticks i) := by
  unfold spareLease at spare
  simpa using List.find?_some spare

theorem ownLease_update {i : Fin dhcpsMaxIp} (fresh : i ∉ indices) (other : Lease) :
    ownLease chaddr indices (Function.update lease i other) = ownLease chaddr indices lease := by
  refine List.find?_congr ?_
  intro j member
  have different : j ≠ i := fun same => fresh (same ▸ member)
  rw [Function.update_of_ne different]

/-- Once a lease is chosen, only one of the client's own can take its place. -/
theorem discoverLoop_some (yi : Fin dhcpsMaxIp) :
    discoverLoop chaddr ticks indices lease (some yi) =
      (lease, (ownLease chaddr indices lease).or (some yi)) := by
  induction indices with
  | nil => rfl
  | cons i rest inductionHypothesis =>
      rw [discoverLoop, ownLease, List.find?_cons]
      by_cases own : (lease i).mac = chaddr
      · simp only [own, if_true, decide_true, Option.some_or]
      · simp only [own, if_false, decide_false]
        exact inductionHypothesis

theorem discoverLoop_none (distinct : indices.Nodup) :
    discoverLoop chaddr ticks indices lease none =
      (((spareLease chaddr ticks indices lease).map (release lease)).getD lease,
        (ownLease chaddr indices lease).or (spareLease chaddr ticks indices lease)) := by
  induction indices with
  | nil => rfl
  | cons i rest inductionHypothesis =>
      rcases List.nodup_cons.mp distinct with ⟨fresh, distinct⟩
      by_cases own : (lease i).mac = chaddr
      · have spare : spareLease chaddr ticks (i :: rest) lease = none := by
          rw [spareLease, List.takeWhile_cons_of_neg (by simpa using own)]
          rfl
        have here : ownLease chaddr (i :: rest) lease = some i :=
          List.find?_cons_of_pos (by simpa using own)
        rw [discoverLoop, if_pos own, spare, here]
        rfl
      · have later : ownLease chaddr (i :: rest) lease = ownLease chaddr rest lease :=
          List.find?_cons_of_neg (by simpa using own)
        have more : (i :: rest).takeWhile (fun i => (lease i).mac ≠ chaddr) =
            i :: rest.takeWhile fun i => (lease i).mac ≠ chaddr :=
          List.takeWhile_cons_of_pos (by simpa using own)
        rw [discoverLoop, if_neg own, later, spareLease, more]
        by_cases spare : (lease i).Spare (ticks i)
        · rw [List.find?_cons_of_pos (by simpa using spare)]
          by_cases over_ : (lease i).expired (ticks i) = true
          · simp only [over_, if_true]
            rw [discoverLoop_some, ownLease_update fresh]
            rfl
          · have free : (lease i).mac = .zero 6 := spare.resolve_right over_
            simp only [over_, if_pos free, Bool.false_eq_true, if_false]
            rw [discoverLoop_some, Option.map_some, release_of_free free]
            rfl
        · rw [List.find?_cons_of_neg (by simpa using spare)]
          have held : (lease i).mac ≠ .zero 6 := fun free => spare (Or.inl free)
          have running : (lease i).expired (ticks i) = false :=
            Bool.eq_false_iff.mpr fun over_ => spare (Or.inr over_)
          simp only [running, if_neg held, Bool.false_eq_true, if_false]
          exact inductionHypothesis distinct

/-- There is no choice when every lease is another one's and is not spare. -/
theorem choice_none_iff :
    (ownLease chaddr indices lease).or (spareLease chaddr ticks indices lease) = none ↔
      ∀ i ∈ indices, (lease i).mac ≠ chaddr ∧ ¬ (lease i).Spare (ticks i) := by
  rw [Option.or_eq_none_iff, ownLease, spareLease, List.find?_eq_none, List.find?_eq_none]
  simp only [decide_eq_true_eq]
  constructor
  · rintro ⟨foreign, held⟩ i member
    have whole : indices.takeWhile (fun i => (lease i).mac ≠ chaddr) = indices := by
      rw [List.takeWhile_eq_self_iff]
      intro j inside
      simpa using foreign j inside
    exact ⟨foreign i member, held i (whole.symm ▸ member)⟩
  · intro every
    refine ⟨fun i member => (every i member).1, fun i member => (every i ?_).2⟩
    exact (List.takeWhile_prefix _).subset member

theorem lease_of_discoverLoop_none {after : Fin dhcpsMaxIp → Lease}
    (nothing : discoverLoop chaddr ticks (List.finRange dhcpsMaxIp) lease none = (after, none)) :
    after = lease := by
  rw [discoverLoop_none (List.nodup_finRange dhcpsMaxIp), Prod.mk.injEq,
    Option.or_eq_none_iff] at nothing
  rw [← nothing.1, nothing.2.2]
  rfl

/-- A choice takes at most one holder away, from a lease that is spare. -/
theorem lease_of_discoverLoop {after : Fin dhcpsMaxIp → Lease} {chosen : Option (Fin dhcpsMaxIp)}
    (done : discoverLoop chaddr ticks (List.finRange dhcpsMaxIp) lease none = (after, chosen)) :
    after = lease ∨ ∃ i, (lease i).Spare (ticks i) ∧ after = release lease i := by
  rw [discoverLoop_none (List.nodup_finRange dhcpsMaxIp), Prod.mk.injEq] at done
  rw [← done.1]
  cases spare : spareLease chaddr ticks (List.finRange dhcpsMaxIp) lease with
  | none => exact Or.inl rfl
  | some i => exact Or.inr ⟨i, spare_of_spareLease spare, rfl⟩

/-- Behind the choice, nobody else holds what is chosen. -/
theorem free_of_discoverLoop {after : Fin dhcpsMaxIp → Lease} {yi : Fin dhcpsMaxIp}
    (done : discoverLoop chaddr ticks (List.finRange dhcpsMaxIp) lease none = (after, some yi)) :
    (after yi).mac = chaddr ∨ (after yi).mac = .zero 6 := by
  rw [discoverLoop_none (List.nodup_finRange dhcpsMaxIp), Prod.mk.injEq] at done
  have kept : ∀ spare : Option (Fin dhcpsMaxIp),
      ((spare.map (release lease)).getD lease yi).mac = (lease yi).mac ∨
        ((spare.map (release lease)).getD lease yi).mac = .zero 6 := by
    intro spare
    cases spare with
    | none => exact Or.inl rfl
    | some i =>
        by_cases same : yi = i
        · subst same
          exact Or.inr (mac_release lease yi)
        · exact Or.inl (congrArg Lease.mac (release_of_ne same))
  rw [← done.1]
  rcases Option.or_eq_some_iff.mp done.2 with own | ⟨_, spare⟩
  · rw [← mac_of_ownLease own]
    exact kept _
  · rw [spare]
    exact Or.inr (mac_release lease yi)

end Dhcp
end NetLL
