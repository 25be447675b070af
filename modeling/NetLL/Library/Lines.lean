import NetLL.Library.Search

universe u

/-!
# Texts as lines

A text is cut at every place where a line end of two symbols stands.  The
pieces are the lines.  Lines that hold no line end are given back by the cut,
and the line end between two of them is found although a line may end in the
first of its symbols.

A reader with a buffer gets a text line by line as well, with the line ends,
and a line that is too long for the buffer in several pieces.
-/

namespace Lines

variable {α : Type u} [DecidableEq α] {first second : α}

/-- The pieces of a text between its line ends. -/
def split (first second : α) : List α → List (List α)
  | [] => [[]]
  | [last] => [[last]]
  | one :: two :: rest =>
      if one = first ∧ two = second then [] :: split first second rest
      else (split first second (two :: rest)).modifyHead (one :: ·)

theorem split_line {line : List α} (whole : Search.find [first, second] line = none) :
    split first second line = [line] := by
  induction line with
  | nil => rfl
  | cons one rest inductionHypothesis =>
      cases rest with
      | nil => rfl
      | cons two rest =>
          rw [Search.find] at whole
          split at whole
          · cases whole
          · rename_i elsewhere
            have different : ¬ (one = first ∧ two = second) := by
              rintro ⟨rfl, rfl⟩
              exact elsewhere (List.prefix_append [one, two] rest)
            rw [split, if_neg different, inductionHypothesis (Option.map_eq_none_iff.mp whole)]
            rfl

/-- The first line of a text is cut off at its line end. -/
theorem split_append (distinct : first ≠ second) {line : List α}
    (whole : Search.find [first, second] line = none) (back : List α) :
    split first second (line ++ first :: second :: back) = line :: split first second back := by
  induction line with
  | nil => exact if_pos ⟨rfl, rfl⟩
  | cons one rest inductionHypothesis =>
      rw [Search.find] at whole
      split at whole
      · cases whole
      · rename_i elsewhere
        have next := inductionHypothesis (Option.map_eq_none_iff.mp whole)
        cases rest with
        | nil =>
            have different : ¬ (one = first ∧ first = second) := fun both => distinct both.2
            rw [List.singleton_append, split, if_neg different]
            exact congrArg (List.modifyHead (one :: ·)) next
        | cons two rest =>
            have different : ¬ (one = first ∧ two = second) := by
              rintro ⟨rfl, rfl⟩
              exact elsewhere (List.prefix_append [one, two] rest)
            rw [List.cons_append, List.cons_append, split, if_neg different]
            exact congrArg (List.modifyHead (one :: ·)) next

/-- Lines that are joined by line ends are given back. -/
theorem split_intercalate (distinct : first ≠ second) {line : List α} {lines : List (List α)}
    (whole : ∀ other ∈ line :: lines, Search.find [first, second] other = none) :
    split first second ([first, second].intercalate (line :: lines)) = line :: lines := by
  induction lines generalizing line with
  | nil =>
      rw [List.intercalate_singleton]
      exact split_line (whole line List.mem_cons_self)
  | cons next rest inductionHypothesis =>
      have later := @inductionHypothesis next
        (fun other member => whole other (List.mem_cons_of_mem _ member))
      rw [List.intercalate_cons_cons, List.append_assoc]
      exact (split_append distinct (whole line List.mem_cons_self) _).trans
        (congrArg (line :: ·) later)

/-! ## Reading into a buffer -/

/-- The pieces that a reader with room for this many symbols gets, which stops
behind a line end, when it holds these symbols and this text is left. -/
def reads (ending : α) (room : Nat) : List α → List α → List (List α)
  | held, [] => if held = [] then [] else [held]
  | held, symbol :: rest =>
      if symbol = ending ∨ room ≤ held.length + 1 then
        (held ++ [symbol]) :: reads ending room [] rest
      else reads ending room (held ++ [symbol]) rest

/-- A line that fits is one piece, with its line end. -/
theorem reads_line {ending : α} {room : Nat} {held line : List α} (clean : ending ∉ line)
    (fits : held.length + line.length < room) (rest : List α) :
    reads ending room held (line ++ ending :: rest) =
      (held ++ line ++ [ending]) :: reads ending room [] rest := by
  induction line generalizing held with
  | nil =>
      rw [List.nil_append, List.append_nil]
      exact if_pos (Or.inl rfl)
  | cons symbol line inductionHypothesis =>
      rw [List.mem_cons, not_or] at clean
      rw [List.length_cons] at fits
      have inside : ¬ (symbol = ending ∨ room ≤ held.length + 1) := by
        rintro (same | full)
        · exact clean.1 same.symm
        · omega
      have later : (held ++ [symbol]).length + line.length < room := by
        rw [List.length_append, List.length_singleton]
        omega
      rw [List.cons_append, reads, if_neg inside, inductionHypothesis clean.2 later]
      simp only [List.append_assoc, List.cons_append, List.nil_append]

/-- Lines that fit are read one by one. -/
theorem reads_lines {ending : α} {room : Nat} {lines : List (List α)}
    (fit : ∀ line ∈ lines, ending ∉ line ∧ line.length < room) :
    reads ending room [] (lines.flatMap (· ++ [ending])) = lines.map (· ++ [ending]) := by
  induction lines with
  | nil => rfl
  | cons line rest inductionHypothesis =>
      rcases fit line List.mem_cons_self with ⟨clean, short⟩
      have split : (line :: rest).flatMap (· ++ [ending]) =
          line ++ ending :: rest.flatMap (· ++ [ending]) := by
        rw [List.flatMap_cons, List.append_assoc, List.singleton_append]
      rw [split, reads_line clean (by rwa [List.length_nil, Nat.zero_add]),
        inductionHypothesis fun other member => fit other (List.mem_cons_of_mem _ member)]
      rfl

end Lines
