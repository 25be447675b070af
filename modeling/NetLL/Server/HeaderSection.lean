import NetLL.Server.ContentLength

namespace NetLL
namespace Server

/-!
# Header sections as lines

A header section is a first line, any number of non-empty lines, and the blank
line.  A line may hold any bytes but a line end.  Where the section ends and
what it announces are read off this presentation, whatever bytes follow it.
-/

/-- The text holds no line end. -/
def OneLine (line : List UInt8) : Prop :=
  Search.find crlf line = none

instance : DecidablePred OneLine := fun line =>
  inferInstanceAs (Decidable (Search.find crlf line = none))

theorem oneLine_of_no_return {line : List UInt8} (clean : 13 ∉ line) : OneLine line := by
  rw [OneLine, Search.find_eq_none_iff crlf_ne_nil]
  intro position stands
  have member : 13 ∈ line.drop position := stands.subset (by decide)
  exact clean (List.mem_of_mem_drop member)

/-- The lines of a section, each with its line end. -/
def renderLines (lines : List (List UInt8)) : List UInt8 :=
  lines.flatMap (· ++ crlf)

/-- A header section up to and including the blank line. -/
def headerSection (first : List UInt8) (lines : List (List UInt8)) : List UInt8 :=
  first ++ crlf ++ renderLines lines ++ crlf

theorem find_crlf_line {line : List UInt8} (oneLine : OneLine line) (back : List UInt8) :
    Search.find crlf (line ++ crlf ++ back) = some line.length := by
  rcases exists_find_crlf line back with ⟨index, found, place⟩
  rcases place with last | earlier
  · rw [found, last]
  · have two : crlf.length = 2 := rfl
    have inLine : Search.find crlf ((line ++ (crlf ++ back)).take line.length) = some index :=
      (Search.find_take_eq_some_iff crlf_ne_nil _ _ _).mpr
        ⟨by rw [← List.append_assoc]; exact found, by omega⟩
    rw [List.take_left, oneLine] at inLine
    cases inLine

/-! ## The end of the section -/

theorem standsAt_headerSeparator (text : List UInt8) (position : Nat) :
    Search.StandsAt headerSeparator text position ↔
      Search.StandsAt crlf text position ∧ Search.StandsAt crlf text (position + 2) := by
  have parts : headerSeparator = crlf ++ crlf := rfl
  have skip (back : List UInt8) : (crlf ++ back).drop 2 = back := rfl
  unfold Search.StandsAt
  rw [parts, ← List.drop_drop]
  constructor
  · rintro ⟨back, split⟩
    rw [← split, List.append_assoc]
    exact ⟨List.prefix_append _ _, by rw [skip]; exact List.prefix_append _ _⟩
  · rintro ⟨⟨back, split⟩, second⟩
    rw [← split, skip] at second
    rcases second with ⟨rest, splitRest⟩
    exact ⟨rest, by rw [← split, ← splitRest, List.append_assoc]⟩

/-- A line with its line end holds no blank line. -/
theorem OneLine.unbroken {line : List UInt8} (oneLine : OneLine line) :
    Search.find headerSeparator (line ++ crlf) = none := by
  rw [Search.find_eq_none_iff headerSeparator_ne_nil]
  intro position stands
  have lineEnd := find_crlf_line oneLine []
  rw [List.append_nil] at lineEnd
  have least := ((Search.find_eq_some_iff crlf_ne_nil _ _).mp lineEnd).2
  have inside := stands.fits headerSeparator_ne_nil
  have four : headerSeparator.length = 4 := rfl
  have two : crlf.length = 2 := rfl
  rw [List.length_append] at inside
  exact least position (by omega) ((standsAt_headerSeparator _ _).mp stands).1

theorem standsAt_after_part {part next : List UInt8}
    (unbroken : Search.find headerSeparator (part ++ crlf) = none) (more : ¬ crlf <+: next)
    {position : Nat} (stands : Search.StandsAt headerSeparator (part ++ crlf ++ next) position) :
    part.length + 2 ≤ position := by
  have size : (part ++ crlf).length = part.length + 2 := List.length_append
  have behind : ¬ Search.StandsAt crlf (part ++ crlf ++ next) (part.length + 2) := by
    unfold Search.StandsAt
    rwa [List.drop_left' size]
  have within : ¬ Search.StandsAt crlf (part ++ crlf ++ next) (part.length + 1) := by
    unfold Search.StandsAt
    rw [List.append_assoc, ← List.drop_drop, List.drop_left]
    simp [crlf]
  rcases (standsAt_headerSeparator _ _).mp stands with ⟨here, after⟩
  by_contra early
  rcases Nat.lt_trichotomy (position + 1) part.length with before | last | past
  · -- the whole blank line would lie in the part and its line end
    have piece : Search.StandsAt headerSeparator
        ((part ++ crlf ++ next).take (part ++ crlf).length) position :=
      (Search.standsAt_take headerSeparator_ne_nil _ _).mpr
        ⟨stands, by rw [size]; change position + 4 ≤ _; omega⟩
    rw [List.take_left] at piece
    exact (Search.find_eq_none_iff headerSeparator_ne_nil _).mp unbroken position piece
  · have second : position + 2 = part.length + 1 := by omega
    exact within (second ▸ after)
  · rcases Nat.lt_or_ge part.length position with inside | first
    · have second : position = part.length + 1 := by omega
      exact within (second ▸ here)
    · have equal : position = part.length := by omega
      exact behind (equal ▸ after)

/-- The blank line behind such lines is the blank line of what follows them. -/
theorem find_headerSeparator_part {part next : List UInt8}
    (unbroken : Search.find headerSeparator (part ++ crlf) = none) (more : ¬ crlf <+: next) :
    Search.find headerSeparator (part ++ crlf ++ next) =
      (Search.find headerSeparator next).map (part.length + 2 + ·) := by
  have shift (offset : Nat) :
      Search.StandsAt headerSeparator (part ++ crlf ++ next) (part.length + 2 + offset) ↔
        Search.StandsAt headerSeparator next offset := by
    unfold Search.StandsAt
    rw [← List.drop_drop, List.drop_left' (by simp [crlf])]
  cases found : Search.find headerSeparator next with
  | none =>
      have nowhere := (Search.find_eq_none_iff headerSeparator_ne_nil _).mp found
      rw [Option.map_none, Search.find_eq_none_iff headerSeparator_ne_nil]
      intro position stands
      have past := standsAt_after_part unbroken more stands
      have equal : position = part.length + 2 + (position - (part.length + 2)) := by omega
      rw [equal, shift] at stands
      exact nowhere _ stands
  | some position =>
      rcases (Search.find_eq_some_iff headerSeparator_ne_nil _ _).mp found with ⟨stands, least⟩
      refine (Search.find_eq_some_iff headerSeparator_ne_nil _ _).mpr
        ⟨(shift position).mpr stands, ?_⟩
      intro earlier before standsEarlier
      change earlier < part.length + 2 + position at before
      have past := standsAt_after_part unbroken more standsEarlier
      have equal : earlier = part.length + 2 + (earlier - (part.length + 2)) := by omega
      rw [equal, shift] at standsEarlier
      exact least _ (by omega) standsEarlier

theorem find_headerSeparator_last {line : List UInt8} (oneLine : OneLine line)
    (back : List UInt8) :
    Search.find headerSeparator (line ++ headerSeparator ++ back) = some line.length := by
  have text : line ++ headerSeparator ++ back = line ++ crlf ++ (crlf ++ back) := by
    simp [headerSeparator, crlf]
  have least := ((Search.find_eq_some_iff crlf_ne_nil _ _).mp
    (find_crlf_line oneLine (crlf ++ back))).2
  refine (Search.find_eq_some_iff headerSeparator_ne_nil _ _).mpr ⟨?_, ?_⟩
  · unfold Search.StandsAt
    rw [List.append_assoc, List.drop_left]
    exact List.prefix_append _ _
  · intro earlier before stands
    rw [text] at stands
    exact least earlier before ((standsAt_headerSeparator _ _).mp stands).1

/-- The section ends at its blank line: no earlier blank line exists, and
none arises from the bytes that follow. -/
theorem find_headerSeparator_section (first : List UInt8) (lines : List (List UInt8))
    (back : List UInt8) (oneFirst : OneLine first)
    (oneLines : ∀ line ∈ lines, line ≠ [] ∧ OneLine line) :
    Search.find headerSeparator (headerSection first lines ++ back) =
      some ((headerSection first lines).length - 4) := by
  induction lines generalizing first with
  | nil =>
      have text : headerSection first [] ++ back = first ++ headerSeparator ++ back := by
        simp [headerSection, renderLines, headerSeparator, crlf]
      rw [text, find_headerSeparator_last oneFirst]
      simp [headerSection, renderLines, crlf]
  | cons line rest inductionHypothesis =>
      rcases oneLines line List.mem_cons_self with ⟨nonempty, oneLine⟩
      have text : headerSection first (line :: rest) ++ back =
          first ++ crlf ++ (headerSection line rest ++ back) := by
        simp [headerSection, renderLines, List.append_assoc]
      have next := inductionHypothesis line oneLine
        (fun other member => oneLines other (List.mem_cons_of_mem _ member))
      have more : ¬ crlf <+: headerSection line rest ++ back := by
        intro begins
        have lineEnd := find_crlf_line oneLine (renderLines rest ++ crlf ++ back)
        have shown : line ++ crlf ++ (renderLines rest ++ crlf ++ back) =
            headerSection line rest ++ back := by
          simp [headerSection, List.append_assoc]
        rw [shown] at lineEnd
        have least := ((Search.find_eq_some_iff crlf_ne_nil _ _).mp lineEnd).2
        exact least 0 (List.length_pos_of_ne_nil nonempty) begins
      rw [text, find_headerSeparator_part oneFirst.unbroken more, next, Option.map_some]
      simp only [headerSection, renderLines, List.flatMap_cons, List.length_append]
      have two : crlf.length = 2 := rfl
      congr 1
      omega

/-! ## What the section announces -/

/-- One line of a text: a labelled line decides, another one is passed over. -/
theorem announcement_line {line : List UInt8} (oneLine : OneLine line) (back : List UInt8) :
    announcement (line ++ crlf ++ back) =
      if BeginsWith contentLengthLabel line then some (numeral line) else announcement back := by
  have whole : line ++ crlf ++ back = line ++ 13 :: (10 :: back) := by
    simp [crlf]
  split
  · rename_i begins
    rw [announcement_of_beginsWith (whole ▸ begins.append _), whole,
      numeral_return _ _ begins.length_le]
  · rename_i other
    have otherWhole : ¬ BeginsWith contentLengthLabel (line ++ crlf ++ back) := by
      rwa [whole, beginsWith_return_iff]
    rw [announcement_of_not_beginsWith otherWhole, find_crlf_line oneLine, Option.bind_some,
      List.drop_left' (by simp [crlf])]

theorem announcement_renderLines {lines : List (List UInt8)}
    (oneLines : ∀ line ∈ lines, OneLine line)
    (others : ∀ line ∈ lines, ¬ BeginsWith contentLengthLabel line) (back : List UInt8) :
    announcement (renderLines lines ++ back) = announcement back := by
  induction lines with
  | nil => rfl
  | cons line rest inductionHypothesis =>
      have text : renderLines (line :: rest) ++ back = line ++ crlf ++ (renderLines rest ++ back) := by
        simp [renderLines, List.append_assoc]
      rw [text, announcement_line (oneLines line List.mem_cons_self),
        if_neg (others line List.mem_cons_self)]
      exact inductionHypothesis
        (fun other member => oneLines other (List.mem_cons_of_mem _ member))
        (fun other member => others other (List.mem_cons_of_mem _ member))

theorem announcement_crlf (back : List UInt8) : announcement (crlf ++ back) = announcement back := by
  have empty : OneLine [] := by decide
  exact announcement_line empty back

end Server
end NetLL
