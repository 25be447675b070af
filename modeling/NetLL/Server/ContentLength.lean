import NetLL.Library.CString
import NetLL.Library.Decimal
import NetLL.Library.Search

namespace NetLL
namespace Server

open Decimal

/-!
# The announced length

`ContentLengthOf` walks the lines of the string it is given and reads the
numeral of the first line that begins with the label.  Its walk ends at the
string's terminator, not at the blank line.  The walk is therefore split at a
line end: what the lines before it announce hides everything after it, and
when they announce nothing the walk goes on into what follows, be that the
body of the request.
-/

/-- The line end. -/
def crlf : List UInt8 := [13, 10]

/-- The blank line with the line end before it, which ends the headers. -/
def headerSeparator : List UInt8 := [13, 10, 13, 10]

def contentLengthLabel : List UInt8 := ascii "Content-Length:"

/-- A space or a tab. -/
def IsBlank (byte : UInt8) : Prop :=
  byte = 32 ∨ byte = 9

instance : DecidablePred IsBlank := fun byte =>
  inferInstanceAs (Decidable (byte = 32 ∨ byte = 9))

/-- The digits the cursor passes over in a labelled line, after the blanks. -/
def numeral (line : List UInt8) : List UInt8 :=
  ((line.drop contentLengthLabel.length).dropWhile (IsBlank ·)).takeWhile (IsDigit ·)

/-- `ContentLengthOf`, with the digits folded in a word of this modulus. -/
def contentLengthOf (modulus : Nat) (line : List UInt8) : Nat :=
  match line with
  | [] => 0
  | first :: rest =>
      if BeginsWith contentLengthLabel (first :: rest) then
        accumulate modulus (numeral (first :: rest))
      else
        match Search.find crlf (first :: rest) with
        | none => 0
        | some index => contentLengthOf modulus ((first :: rest).drop (index + 2))
termination_by line.length
decreasing_by
  simp only [List.length_drop, List.length_cons]
  omega

/-- The digits of the first labelled line that the walk reaches. -/
def announcement (line : List UInt8) : Option (List UInt8) :=
  match line with
  | [] => none
  | first :: rest =>
      if BeginsWith contentLengthLabel (first :: rest) then some (numeral (first :: rest))
      else
        match Search.find crlf (first :: rest) with
        | none => none
        | some index => announcement ((first :: rest).drop (index + 2))
termination_by line.length
decreasing_by
  simp only [List.length_drop, List.length_cons]
  omega

/-- The mathematical value of what the lines of a text announce. -/
def announcedLength (line : List UInt8) : Nat :=
  ((announcement line).map value).getD 0

theorem crlf_ne_nil : crlf ≠ [] := by
  decide

theorem headerSeparator_ne_nil : headerSeparator ≠ [] := by
  decide

theorem length_contentLengthLabel : contentLengthLabel.length = 15 := by
  decide

/-! ## The walk -/

theorem not_beginsWith_nil : ¬ BeginsWith contentLengthLabel [] := by
  decide

theorem announcement_eq (line : List UInt8) :
    announcement line =
      if BeginsWith contentLengthLabel line then some (numeral line)
      else (Search.find crlf line).bind (fun index => announcement (line.drop (index + 2))) := by
  cases line with
  | nil =>
      rw [announcement, if_neg not_beginsWith_nil]
      rfl
  | cons first rest =>
      rw [announcement]
      split
      · rfl
      · cases Search.find crlf (first :: rest) <;> rfl

theorem announcement_of_beginsWith {line : List UInt8}
    (begins : BeginsWith contentLengthLabel line) : announcement line = some (numeral line) := by
  rw [announcement_eq, if_pos begins]

theorem announcement_of_not_beginsWith {line : List UInt8}
    (other : ¬ BeginsWith contentLengthLabel line) :
    announcement line =
      (Search.find crlf line).bind (fun index => announcement (line.drop (index + 2))) := by
  rw [announcement_eq, if_neg other]

/-- The word computed by the code is the announced value, reduced. -/
theorem contentLengthOf_eq (modulus : Nat) (line : List UInt8) :
    contentLengthOf modulus line = announcedLength line % modulus := by
  induction line using contentLengthOf.induct with
  | case1 =>
      rw [contentLengthOf, announcedLength, announcement]
      exact (Nat.zero_mod modulus).symm
  | case2 first rest begins =>
      rw [contentLengthOf, if_pos begins, announcedLength, announcement_of_beginsWith begins,
        accumulate_eq]
      rfl
  | case3 first rest other missing =>
      rw [contentLengthOf, if_neg other, announcedLength, announcement_of_not_beginsWith other,
        missing]
      exact (Nat.zero_mod modulus).symm
  | case4 first rest other index found inductionHypothesis =>
      rw [contentLengthOf, if_neg other, announcedLength, announcement_of_not_beginsWith other]
      simp only [found, inductionHypothesis, Option.bind_some]
      rfl

theorem announcedLength_of_eq_none {line : List UInt8} (silent : announcement line = none) :
    announcedLength line = 0 := by
  rw [announcedLength, silent]
  rfl

theorem announcedLength_of_eq_some {line digits : List UInt8}
    (announced : announcement line = some digits) : announcedLength line = value digits := by
  rw [announcedLength, announced]
  rfl

/-! ## What decides a labelled line

No byte of the label is a carriage return, and a carriage return is neither a
blank nor a digit.  A line end therefore bounds everything that is read. -/

theorem label_before_return {front back : List UInt8}
    (begins : BeginsWith contentLengthLabel (front ++ 13 :: back)) :
    contentLengthLabel.length ≤ front.length := by
  by_contra short
  have member : 13 ∈ (front ++ 13 :: back).take contentLengthLabel.length := by
    rw [List.take_append, List.mem_append]
    right
    obtain ⟨room, equal⟩ : ∃ room, contentLengthLabel.length - front.length = room + 1 :=
      ⟨contentLengthLabel.length - front.length - 1, by omega⟩
    rw [equal, List.take_succ_cons]
    exact List.mem_cons_self
  exact absurd (begins.lowerCase_mem member) (by decide)

theorem beginsWith_return_iff (front back : List UInt8) :
    BeginsWith contentLengthLabel (front ++ 13 :: back) ↔ BeginsWith contentLengthLabel front := by
  constructor
  · intro begins
    exact (BeginsWith.append_iff _ _ (label_before_return begins)).mp begins
  · intro begins
    exact begins.append _

theorem numeral_return (front back : List UInt8)
    (enough : contentLengthLabel.length ≤ front.length) :
    numeral (front ++ 13 :: back) = numeral front := by
  have stop : (13 :: back).takeWhile (IsDigit ·) = [] := rfl
  have rest : (13 :: back).dropWhile (IsBlank ·) = 13 :: back := rfl
  unfold numeral
  rw [List.drop_append_of_le_length enough, List.dropWhile_append]
  split
  · rename_i blank
    rw [List.isEmpty_iff] at blank
    rw [blank, rest, stop, List.takeWhile_nil]
  · rw [List.takeWhile_append]
    split
    · rename_i whole
      rw [stop, List.append_nil]
      exact ((List.takeWhile_prefix _).eq_of_length whole).symm
    · rfl

theorem numeral_digits (line : List UInt8) : ∀ byte ∈ numeral line, IsDigit byte := by
  intro byte member
  have kept := List.mem_takeWhile_imp member
  simpa using kept

/-- A shorter view of a labelled line shows an initial piece of its numeral. -/
theorem numeral_prefix (front back : List UInt8)
    (enough : contentLengthLabel.length ≤ front.length) :
    numeral front <+: numeral (front ++ back) := by
  unfold numeral
  rw [List.drop_append_of_le_length enough, List.dropWhile_append]
  split
  · rename_i blank
    rw [List.isEmpty_iff] at blank
    rw [blank, List.takeWhile_nil]
    exact List.nil_prefix
  · rw [List.takeWhile_append]
    split
    · rename_i whole
      rw [(List.takeWhile_prefix _).eq_of_length whole]
      exact List.prefix_append _ _
    · exact List.prefix_rfl

/-! ## Splitting the walk at a line end -/

/-- Line ends do not overlap: one that starts before a displayed line end is
over when the displayed one begins. -/
theorem standsAt_crlf_before {front back : List UInt8} {index : Nat}
    (stands : Search.StandsAt crlf (front ++ crlf ++ back) index) (before : index < front.length) :
    index + 2 ≤ front.length := by
  by_contra late
  have last : index = front.length - 1 := by omega
  have split : front = front.take index ++ [front[index]] := by
    rw [List.take_append_getElem, last, Nat.sub_add_cancel (by omega), List.take_length]
  unfold Search.StandsAt at stands
  rw [split, List.append_assoc, List.append_assoc, List.drop_left' (by rw [List.length_take]; omega)]
    at stands
  simp [crlf] at stands

theorem exists_find_crlf (front back : List UInt8) :
    ∃ index, Search.find crlf (front ++ crlf ++ back) = some index ∧
      (index = front.length ∨ index + 2 ≤ front.length) := by
  have stands : Search.StandsAt crlf (front ++ crlf ++ back) front.length := by
    unfold Search.StandsAt
    rw [List.append_assoc, List.drop_left]
    exact List.prefix_append _ _
  cases found : Search.find crlf (front ++ crlf ++ back) with
  | none => exact absurd stands ((Search.find_eq_none_iff crlf_ne_nil _).mp found _)
  | some index =>
      rcases (Search.find_eq_some_iff crlf_ne_nil _ _).mp found with ⟨here, least⟩
      have notLater : ¬ front.length < index := fun later => least _ later stands
      refine ⟨index, rfl, ?_⟩
      rcases Nat.lt_or_ge index front.length with before | after
      · exact Or.inr (standsAt_crlf_before here before)
      · exact Or.inl (by omega)

/-- What the text before a line end announces hides the rest.  When it
announces nothing, the walk continues behind the line end. -/
theorem announcement_append (front back : List UInt8) :
    announcement (front ++ crlf ++ back) =
      (announcement (front ++ crlf)).or (announcement back) := by
  induction size : front.length using Nat.strong_induction_on generalizing front with
  | _ size inductionHypothesis =>
      have whole : front ++ crlf ++ back = front ++ 13 :: (10 :: back) := by
        simp [crlf]
      have line : front ++ crlf = front ++ 13 :: [10] := rfl
      by_cases begins : BeginsWith contentLengthLabel front
      · rw [announcement_of_beginsWith (whole ▸ begins.append _),
          announcement_of_beginsWith (begins.append _), whole, line,
          numeral_return _ _ begins.length_le, numeral_return _ _ begins.length_le]
        rfl
      · have otherWhole : ¬ BeginsWith contentLengthLabel (front ++ crlf ++ back) := by
          rwa [whole, beginsWith_return_iff]
        have otherLine : ¬ BeginsWith contentLengthLabel (front ++ crlf) := by
          rwa [line, beginsWith_return_iff]
        rcases exists_find_crlf front [] with ⟨index, found, place⟩
        rw [List.append_nil] at found
        rw [announcement_of_not_beginsWith otherWhole, announcement_of_not_beginsWith otherLine,
          Search.find_append crlf_ne_nil found back, found, Option.bind_some, Option.bind_some]
        rcases place with last | earlier
        · have nothing : (front ++ crlf).drop (index + 2) = [] := by
            rw [last]
            exact List.drop_eq_nil_of_le (by simp [crlf])
          have next : (front ++ crlf ++ back).drop (index + 2) = back := by
            rw [last]
            exact List.drop_left' (by simp [crlf])
          rw [nothing, next, announcement, Option.none_or]
        · rw [List.append_assoc, List.drop_append_of_le_length earlier, ← List.append_assoc,
            List.drop_append_of_le_length earlier]
          exact inductionHypothesis (front.drop (index + 2)).length
            (by rw [List.length_drop]; omega) _ rfl

/-! ## Partial views

A reader that looks early sees an initial piece of the text.  It may see an
initial piece of a numeral, and every such piece is seen by some reader. -/

theorem beginsWith_of_take {line : List UInt8} {size : Nat}
    (begins : BeginsWith contentLengthLabel (line.take size)) :
    BeginsWith contentLengthLabel line := by
  have extended := begins.append (line.drop size)
  rwa [List.take_append_drop] at extended

theorem not_beginsWith_of_find_take {line : List UInt8} {size index : Nat}
    (other : ¬ BeginsWith contentLengthLabel (line.take size))
    (found : Search.find crlf (line.take size) = some index) :
    ¬ BeginsWith contentLengthLabel line := by
  intro begins
  apply other
  have split := Search.find_split crlf_ne_nil found
  have shown : line.take size = (line.take size).take index ++ 13 ::
      (10 :: (line.take size).drop (index + 2)) := by
    simpa only [crlf, List.append_assoc, List.cons_append, List.nil_append, List.length_cons,
      List.length_nil] using split
  have whole : line = (line.take size).take index ++ 13 ::
      (10 :: (line.take size).drop (index + 2) ++ line.drop size) := by
    conv_lhs => rw [← List.take_append_drop size line, shown]
    simp only [List.append_assoc, List.cons_append]
  rw [whole, beginsWith_return_iff] at begins
  rw [shown, beginsWith_return_iff]
  exact begins

/-- What an early reader takes for the announcement is an initial piece of it. -/
theorem announcement_take {line digits : List UInt8} {size : Nat}
    (announced : announcement (line.take size) = some digits) :
    ∃ more, announcement line = some (digits ++ more) := by
  induction length : line.length using Nat.strong_induction_on generalizing line size with
  | _ length inductionHypothesis =>
      by_cases begins : BeginsWith contentLengthLabel (line.take size)
      · rw [announcement_of_beginsWith begins, Option.some.injEq] at announced
        rcases numeral_prefix _ (line.drop size) begins.length_le with ⟨more, split⟩
        rw [List.take_append_drop, announced] at split
        exact ⟨more, by rw [announcement_of_beginsWith (beginsWith_of_take begins), split]⟩
      · rw [announcement_of_not_beginsWith begins] at announced
        rcases Option.bind_eq_some_iff.mp announced with ⟨index, found, later⟩
        have other := not_beginsWith_of_find_take begins found
        rcases (Search.find_take_eq_some_iff crlf_ne_nil _ _ _).mp found with ⟨whole, inside⟩
        have fits := Search.find_fits crlf_ne_nil whole
        have two : crlf.length = 2 := rfl
        rw [List.drop_take] at later
        rcases inductionHypothesis (line.drop (index + 2)).length
          (by rw [List.length_drop]; omega) later rfl with ⟨more, announcedLater⟩
        exact ⟨more, by rw [announcement_of_not_beginsWith other, whole, Option.bind_some,
          announcedLater]⟩

theorem not_isBlank_of_isDigit {byte : UInt8} (digit : IsDigit byte) : ¬ IsBlank byte := by
  rintro (space | tab)
  · exact absurd (space ▸ digit) (by decide)
  · exact absurd (tab ▸ digit) (by decide)

theorem dropWhile_blank_digits {digits : List UInt8} (allDigits : ∀ byte ∈ digits, IsDigit byte) :
    digits.dropWhile (IsBlank ·) = digits := by
  cases digits with
  | nil => rfl
  | cons byte rest =>
      have notBlank := not_isBlank_of_isDigit (allDigits byte List.mem_cons_self)
      rw [List.dropWhile_cons_of_neg (by simpa using notBlank)]

theorem exists_take_numeral {line digits more : List UInt8}
    (begins : BeginsWith contentLengthLabel line) (read : numeral line = digits ++ more) :
    ∃ size, size ≤ line.length ∧ BeginsWith contentLengthLabel (line.take size) ∧
      numeral (line.take size) = digits := by
  have enough := begins.length_le
  let body := line.drop contentLengthLabel.length
  let blanks := body.takeWhile (IsBlank ·)
  have bodySplit : body = blanks ++ body.dropWhile (IsBlank ·) :=
    List.takeWhile_append_dropWhile.symm
  have digitSplit : body.dropWhile (IsBlank ·) =
      digits ++ (more ++ (body.dropWhile (IsBlank ·)).dropWhile (IsDigit ·)) := by
    rw [← List.append_assoc, ← read]
    exact List.takeWhile_append_dropWhile.symm
  have allDigits : ∀ byte ∈ digits, IsDigit byte := fun byte member =>
    numeral_digits line byte (read ▸ List.mem_append_left more member)
  have sizes := congrArg List.length bodySplit
  rw [digitSplit] at sizes
  simp only [List.length_append, body, List.length_drop] at sizes
  refine ⟨contentLengthLabel.length + (blanks.length + digits.length), by omega, ?_, ?_⟩
  · unfold BeginsWith
    rw [List.take_take, Nat.min_eq_left (by omega)]
    exact begins
  · have view : (line.take (contentLengthLabel.length + (blanks.length + digits.length))).drop
        contentLengthLabel.length = blanks ++ digits := by
      rw [List.drop_take, Nat.add_sub_cancel_left]
      change body.take _ = _
      rw [bodySplit, digitSplit, ← List.append_assoc]
      exact List.take_left' (by rw [List.length_append])
    have blank : ∀ byte ∈ blanks, decide (IsBlank byte) = true := by
      intro byte member
      exact List.mem_takeWhile_imp (p := (IsBlank ·)) member
    rw [numeral, view, List.dropWhile_append_of_pos blank, dropWhile_blank_digits allDigits,
      List.takeWhile_eq_self_iff.mpr (fun byte member => by simpa using allDigits byte member)]

/-- Every initial piece of the announced digits is what some early reader
takes for the announcement. -/
theorem exists_take_announcement {line digits more : List UInt8}
    (announced : announcement line = some (digits ++ more)) :
    ∃ size, size ≤ line.length ∧ announcement (line.take size) = some digits := by
  induction length : line.length using Nat.strong_induction_on generalizing line with
  | _ length inductionHypothesis =>
      by_cases begins : BeginsWith contentLengthLabel line
      · rw [announcement_of_beginsWith begins, Option.some.injEq] at announced
        rcases exists_take_numeral begins announced with ⟨size, inside, shown, read⟩
        exact ⟨size, by omega, by rw [announcement_of_beginsWith shown, read]⟩
      · rw [announcement_of_not_beginsWith begins] at announced
        rcases Option.bind_eq_some_iff.mp announced with ⟨index, found, later⟩
        have fits := Search.find_fits crlf_ne_nil found
        have two : crlf.length = 2 := rfl
        rcases inductionHypothesis (line.drop (index + 2)).length
            (by rw [List.length_drop]; omega) later rfl with ⟨size, inside, announcedLater⟩
        rw [List.length_drop] at inside
        refine ⟨index + 2 + size, by omega, ?_⟩
        have other : ¬ BeginsWith contentLengthLabel (line.take (index + 2 + size)) :=
          fun shown => begins (beginsWith_of_take shown)
        have foundEarly : Search.find crlf (line.take (index + 2 + size)) = some index :=
          (Search.find_take_eq_some_iff crlf_ne_nil _ _ _).mpr ⟨found, by omega⟩
        rw [announcement_of_not_beginsWith other, foundEarly, Option.bind_some, List.drop_take,
          Nat.add_sub_cancel_left, announcedLater]

theorem announcement_digits {line digits : List UInt8}
    (announced : announcement line = some digits) : ∀ byte ∈ digits, IsDigit byte := by
  induction line using announcement.induct with
  | case1 =>
      rw [announcement] at announced
      cases announced
  | case2 first rest begins =>
      rw [announcement_of_beginsWith begins, Option.some.injEq] at announced
      subst announced
      exact numeral_digits _
  | case3 first rest other missing =>
      rw [announcement_of_not_beginsWith other, missing] at announced
      cases announced
  | case4 first rest other index found inductionHypothesis =>
      rw [announcement_of_not_beginsWith other, found, Option.bind_some] at announced
      exact inductionHypothesis announced

/-- No view of a text announces anything but zero exactly when the digits it
announces, if any, are all zero.  A nonzero digit is seen as the last digit
of some view, whose value no word of ten or more can lose. -/
theorem silent_views_iff {modulus : Nat} (large : 10 ≤ modulus) (line : List UInt8) :
    (∀ size, announcedLength (line.take size) % modulus = 0) ↔
      ∀ digits, announcement line = some digits → ∀ byte ∈ digits, digit byte = 0 := by
  constructor
  · intro silent digits announced
    let zeros := digits.takeWhile (digit · = 0)
    have zeroDigits : ∀ byte ∈ zeros, digit byte = 0 := by
      intro byte member
      simpa using List.mem_takeWhile_imp (p := (digit · = 0)) member
    have split : digits = zeros ++ digits.dropWhile (digit · = 0) :=
      List.takeWhile_append_dropWhile.symm
    cases rest : digits.dropWhile (digit · = 0) with
    | nil =>
        rw [rest, List.append_nil] at split
        rw [split]
        exact zeroDigits
    | cons byte more =>
        have nonzero : digit byte ≠ 0 := by
          have refused := List.head?_dropWhile_not (digit · = 0) digits
          rw [rest] at refused
          simpa using refused
        rw [rest] at split
        have shown : announcement line = some ((zeros ++ [byte]) ++ more) := by
          rw [announced, split, List.append_assoc, List.singleton_append]
        rcases exists_take_announcement shown with ⟨size, _, seen⟩
        have isDigit := announcement_digits seen byte (by simp)
        have small : digit byte ≤ 9 := by
          have bound : byte.toNat ≤ 57 := isDigit.2
          unfold digit
          omega
        have worth : value (zeros ++ [byte]) = digit byte := by
          have front : zeros.foldl (fun total byte => total * 10 + digit byte) 0 = 0 :=
            (value_eq_zero_iff zeros).mpr zeroDigits
          rw [value, List.foldl_append, front]
          simp
        have contradiction := silent size
        rw [announcedLength_of_eq_some seen, worth, Nat.mod_eq_of_lt (by omega)] at contradiction
        exact absurd contradiction nonzero
  · intro zeros size
    cases announced : announcement (line.take size) with
    | none => rw [announcedLength_of_eq_none announced, Nat.zero_mod]
    | some digits =>
        rcases announcement_take announced with ⟨more, whole⟩
        have nothing : value digits = 0 := (value_eq_zero_iff digits).mpr fun byte member =>
          zeros _ whole byte (List.mem_append_left more member)
        rw [announcedLength_of_eq_some announced, nothing, Nat.zero_mod]

end Server
end NetLL
