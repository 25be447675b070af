import Mathlib.Logic.Function.Basic

universe u v

/-!
# Handles and their phases

The environment hands out handles, and a program uses them and gives them
back.  A handle is in a phase, and what may be done with it depends on the
phase.  A trace of such acts is allowed when every handle is held, and in the
phase that is needed, at the moment of its use.

What a part of a program does is described by the handles that it owns before
and after it.  A part that gets by with its own handles gets by beside any
others and leaves them as they are.  So descriptions are put one behind the
other, and one around the other.
-/

namespace Handles

/-- The phases of the handles that are held. -/
abbrev Store (Handle : Type u) (Phase : Type v) := Handle → Option Phase

inductive Act (Handle : Type u) (Phase : Type v) where
  /-- The environment hands out a handle. -/
  | gain (handle : Handle) (phase : Phase)
  /-- The program uses a handle in one phase, and it is in another one then. -/
  | move (handle : Handle) (needs becomes : Phase)
  /-- The program gives a handle back. -/
  | drop (handle : Handle)
deriving DecidableEq

section

variable {Handle : Type u} {Phase : Type v}

namespace Store

/-- No handles. -/
def empty : Store Handle Phase := fun _ => none

/-- One handle. -/
def single [DecidableEq Handle] (handle : Handle) (phase : Phase) : Store Handle Phase :=
  fun other => if other = handle then some phase else none

/-- The handles of two stores. -/
def join (own frame : Store Handle Phase) : Store Handle Phase :=
  fun handle => (own handle).or (frame handle)

/-- No handle is in both stores. -/
def Apart (own frame : Store Handle Phase) : Prop :=
  ∀ handle, own handle = none ∨ frame handle = none

@[simp] theorem empty_join (frame : Store Handle Phase) : empty.join frame = frame := rfl

theorem empty_apart (frame : Store Handle Phase) : Apart empty frame :=
  fun _ => Or.inl rfl

theorem Apart.symm {own frame : Store Handle Phase} (apart : own.Apart frame) :
    frame.Apart own :=
  fun handle => (apart handle).symm

theorem Apart.join_comm {own frame : Store Handle Phase} (apart : own.Apart frame) :
    own.join frame = frame.join own := by
  funext handle
  rcases apart handle with none_ | none_
  · rw [join, join, none_, Option.none_or, Option.or_none]
  · rw [join, join, none_, Option.none_or, Option.or_none]

theorem Apart.join_eq_some_iff {own frame : Store Handle Phase} (apart : own.Apart frame)
    {handle : Handle} {phase : Phase} :
    own.join frame handle = some phase ↔ own handle = some phase ∨ frame handle = some phase := by
  rcases apart handle with none_ | none_
  · rw [join, none_, Option.none_or]
    exact (or_iff_right (by rintro ⟨⟩)).symm
  · rw [join, none_, Option.or_none]
    exact (or_iff_left (by rintro ⟨⟩)).symm

end Store

open Store

variable [DecidableEq Handle]

/-- The handles that are held behind an act. -/
def after (store : Store Handle Phase) : Act Handle Phase → Store Handle Phase
  | .gain handle phase => Function.update store handle (some phase)
  | .move handle _ becomes => Function.update store handle (some becomes)
  | .drop handle => Function.update store handle none

/-- A handle that is handed out is not held. -/
def Act.Given (store : Store Handle Phase) : Act Handle Phase → Prop
  | .gain handle _ => store handle = none
  | _ => True

/-- A handle that is used or given back is held, and in the phase for it. -/
def Act.Allowed (store : Store Handle Phase) : Act Handle Phase → Prop
  | .gain _ _ => True
  | .move handle needs _ => store handle = some needs
  | .drop handle => store handle ≠ none

/-- The handles that are held behind a trace. -/
def final (store : Store Handle Phase) (acts : List (Act Handle Phase)) : Store Handle Phase :=
  acts.foldl after store

/-- The environment hands out no handle twice. -/
def AllGiven (store : Store Handle Phase) : List (Act Handle Phase) → Prop
  | [] => True
  | act :: acts => act.Given store ∧ AllGiven (after store act) acts

instance (store : Store Handle Phase) : (act : Act Handle Phase) → Decidable (act.Given store)
  | .gain handle _ => inferInstanceAs (Decidable (store handle = none))
  | .move _ _ _ => .isTrue trivial
  | .drop _ => .isTrue trivial

instance decidableAllGiven (store : Store Handle Phase) :
    (acts : List (Act Handle Phase)) → Decidable (AllGiven store acts)
  | [] => .isTrue trivial
  | act :: acts =>
      have := decidableAllGiven (after store act) acts
      inferInstanceAs (Decidable (act.Given store ∧ AllGiven (after store act) acts))

/-- The program does nothing that is not allowed. -/
def AllAllowed (store : Store Handle Phase) : List (Act Handle Phase) → Prop
  | [] => True
  | act :: acts => act.Allowed store ∧ AllAllowed (after store act) acts

theorem final_append (store : Store Handle Phase) (first second : List (Act Handle Phase)) :
    final store (first ++ second) = final (final store first) second :=
  List.foldl_append

theorem allGiven_append (store : Store Handle Phase) (first second : List (Act Handle Phase)) :
    AllGiven store (first ++ second) ↔
      AllGiven store first ∧ AllGiven (final store first) second := by
  induction first generalizing store with
  | nil => exact (iff_of_eq (true_and _)).symm
  | cons act acts inductionHypothesis =>
      exact (and_congr_right fun _ => inductionHypothesis _).trans and_assoc.symm

theorem allAllowed_append (store : Store Handle Phase) (first second : List (Act Handle Phase)) :
    AllAllowed store (first ++ second) ↔
      AllAllowed store first ∧ AllAllowed (final store first) second := by
  induction first generalizing store with
  | nil => exact (iff_of_eq (true_and _)).symm
  | cons act acts inductionHypothesis =>
      exact (and_congr_right fun _ => inductionHypothesis _).trans and_assoc.symm

/-- As long as the environment hands out no handle twice, the acts are allowed
and turn these handles into those. -/
def Turns (own : Store Handle Phase) (acts : List (Act Handle Phase))
    (becomes : Store Handle Phase) : Prop :=
  AllGiven own acts → AllAllowed own acts ∧ final own acts = becomes

/-! ## Handles that are not touched -/

theorem after_le {own larger : Store Handle Phase}
    (le : ∀ handle, own handle = none ∨ own handle = larger handle) (act : Act Handle Phase)
    (handle : Handle) :
    after own act handle = none ∨ after own act handle = after larger act handle := by
  cases act with
  | gain place phase =>
      by_cases same : handle = place
      · simp [after, same]
      · simpa [after, Function.update_of_ne same] using le handle
  | move place needs becomes =>
      by_cases same : handle = place
      · simp [after, same]
      · simpa [after, Function.update_of_ne same] using le handle
  | drop place =>
      by_cases same : handle = place
      · simp [after, same]
      · simpa [after, Function.update_of_ne same] using le handle

theorem AllGiven.of_le {own larger : Store Handle Phase} {acts : List (Act Handle Phase)}
    (given : AllGiven larger acts)
    (le : ∀ handle, own handle = none ∨ own handle = larger handle) : AllGiven own acts := by
  induction acts generalizing own larger with
  | nil => trivial
  | cons act acts inductionHypothesis =>
      refine ⟨?_, inductionHypothesis given.2 (after_le le act)⟩
      cases act with
      | gain handle phase =>
          rcases le handle with free | same
          · exact free
          · exact same.trans given.1
      | move handle needs becomes => trivial
      | drop handle => trivial

/-- An act on own handles passes by the others. -/
theorem after_join {own frame : Store Handle Phase} (apart : own.Apart frame)
    {act : Act Handle Phase} (given : act.Given (own.join frame)) (allowed : act.Allowed own) :
    act.Allowed (own.join frame) ∧ after (own.join frame) act = (after own act).join frame ∧
      (after own act).Apart frame := by
  have updated {handle : Handle} (free : frame handle = none) (phase : Option Phase) :
      Function.update (own.join frame) handle phase =
          join (Function.update own handle phase) frame ∧
        Apart (Function.update own handle phase) frame := by
    constructor
    · funext other
      by_cases same : other = handle
      · rw [same, Function.update_self, join, Function.update_self, free, Option.or_none]
      · rw [Function.update_of_ne same, join, join, Function.update_of_ne same]
    · intro other
      by_cases same : other = handle
      · exact Or.inr (same ▸ free)
      · rw [Function.update_of_ne same]
        exact apart other
  have free {handle : Handle} (held : own handle ≠ none) : frame handle = none :=
    (apart handle).resolve_left held
  cases act with
  | gain handle phase =>
      have nothing : (own handle).or (frame handle) = none := given
      exact ⟨trivial, updated (Option.or_eq_none_iff.mp nothing).2 _⟩
  | move handle needs becomes =>
      have held : own handle = some needs := allowed
      refine ⟨?_, updated (free (by rw [held]; exact Option.some_ne_none _)) _⟩
      change (own handle).or (frame handle) = some needs
      rw [held, Option.some_or]
  | drop handle =>
      have held : own handle ≠ none := allowed
      refine ⟨?_, updated (free held) _⟩
      change (own handle).or (frame handle) ≠ none
      intro nothing
      exact held (Option.or_eq_none_iff.mp nothing).1

/-- Acts that are allowed on own handles are allowed beside others. -/
theorem AllAllowed.join {own frame : Store Handle Phase} {acts : List (Act Handle Phase)}
    (allowed : AllAllowed own acts) (apart : own.Apart frame)
    (given : AllGiven (own.join frame) acts) :
    AllAllowed (own.join frame) acts ∧ final (own.join frame) acts = (final own acts).join frame ∧
      (final own acts).Apart frame := by
  induction acts generalizing own with
  | nil => exact ⟨trivial, rfl, apart⟩
  | cons act acts inductionHypothesis =>
      rcases after_join apart given.1 allowed.1 with ⟨first, turned, apart⟩
      have rest := given.2
      rw [turned] at rest
      rcases inductionHypothesis allowed.2 apart rest with ⟨others, last, apart⟩
      rw [← turned] at others last
      exact ⟨⟨first, others⟩, last, apart⟩

namespace Turns

variable {own middle becomes kept frame : Store Handle Phase}
  {acts more before behind : List (Act Handle Phase)}

theorem nil (own : Store Handle Phase) : Turns own [] own :=
  fun _ => ⟨trivial, rfl⟩

theorem gain (handle : Handle) (phase : Phase) :
    Turns empty [.gain handle phase] (single handle phase) := by
  refine fun _ => ⟨⟨trivial, trivial⟩, ?_⟩
  funext other
  by_cases same : other = handle
  · simp [final, after, single, same]
  · simp [final, after, single, empty, same]

theorem move (handle : Handle) (needs becomes : Phase) :
    Turns (single handle needs) [.move handle needs becomes] (single handle becomes) := by
  refine fun _ => ⟨⟨if_pos rfl, trivial⟩, ?_⟩
  funext other
  by_cases same : other = handle
  · simp [final, after, single, same]
  · simp [final, after, single, same]

theorem drop (handle : Handle) (phase : Phase) :
    Turns (single handle phase) [.drop handle] empty := by
  refine fun _ => ⟨⟨by simp [Act.Allowed, single], trivial⟩, ?_⟩
  funext other
  by_cases same : other = handle
  · simp [final, after, empty, same]
  · simp [final, after, single, empty, same]

theorem append (first : Turns own acts middle) (second : Turns middle more becomes) :
    Turns own (acts ++ more) becomes := by
  intro given
  rw [allGiven_append] at given
  rcases first given.1 with ⟨allowed, turned⟩
  rw [turned] at given
  rcases second given.2 with ⟨allowedMore, turnedMore⟩
  rw [allAllowed_append, final_append, turned]
  exact ⟨⟨allowed, allowedMore⟩, turnedMore⟩

/-- A part of a program does the same beside handles that are not its own. -/
theorem framed (turns : Turns own acts becomes) (apart : own.Apart frame)
    (given : AllGiven (own.join frame) acts) :
    AllAllowed (own.join frame) acts ∧ final (own.join frame) acts = becomes.join frame ∧
      becomes.Apart frame := by
  have smaller : ∀ handle, own handle = none ∨ own handle = own.join frame handle := by
    intro handle
    rw [Store.join]
    cases own handle with
    | none => exact Or.inl rfl
    | some phase => exact Or.inr rfl
  rcases turns (given.of_le smaller) with ⟨allowed, rfl⟩
  exact allowed.join apart given

/-- Handles that are held around a part that knows nothing of them. -/
theorem bracket (opens : Turns empty before kept) (inside : Turns own acts becomes)
    (closes : Turns kept behind empty) : Turns own (before ++ acts ++ behind) becomes := by
  intro given
  rw [allGiven_append, allGiven_append] at given
  rcases given with ⟨⟨givenBefore, givenInside⟩, givenBehind⟩
  rcases opens.framed (empty_apart own) givenBefore with ⟨allowed, turned, apart⟩
  rw [empty_join] at allowed turned
  rw [final_append, turned] at givenBehind
  rw [turned, apart.join_comm] at givenInside
  rcases inside.framed apart.symm givenInside with ⟨allowedInside, turnedInside, apartBecomes⟩
  rw [apart.join_comm, turnedInside, apartBecomes.join_comm] at givenBehind
  rcases closes.framed apartBecomes.symm givenBehind with ⟨allowedBehind, turnedBehind, _⟩
  have front : final own (before ++ acts) = kept.join becomes := by
    rw [final_append, turned, apart.join_comm, turnedInside, apartBecomes.join_comm]
  rw [allAllowed_append, allAllowed_append, final_append _ (before ++ acts), front, turned,
    apart.join_comm]
  exact ⟨⟨⟨allowed, allowedInside⟩, allowedBehind⟩, turnedBehind⟩

end Turns

end

end Handles
