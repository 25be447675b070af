import Mathlib.Data.List.TakeWhile

/-!
# Options with a code and a length

An option is a code, the length of its data in one byte, and the data.  Two
codes stand alone: padding, which is passed over, and the end, behind which
nothing is read.  Options that are written one behind the other, with an end
behind the last, are read back as they are.
-/

namespace Options

/-- The code of a byte that is passed over. -/
def pad : UInt8 := 0

/-- The code behind the last option. -/
def end_ : UInt8 := 255

/-- An option, whose length fits a byte. -/
structure Entry where
  code : UInt8
  data : List UInt8
  notPad : code ≠ pad
  notEnd : code ≠ end_
  short : data.length < 256
deriving DecidableEq

def Entry.bytes (entry : Entry) : List UInt8 :=
  entry.code :: UInt8.ofNat entry.data.length :: entry.data

/-- Options one behind the other. -/
def render (entries : List Entry) : List UInt8 :=
  entries.flatMap Entry.bytes

/-- The codes and the data that a reader finds.  An option that is cut off is
left out. -/
def parse : List UInt8 → List (UInt8 × List UInt8)
  | [] => []
  | code :: rest =>
      if code = end_ then []
      else if code = pad then parse rest
      else
        match rest with
        | [] => []
        | size :: rest =>
            if size.toNat ≤ rest.length then
              (code, rest.take size.toNat) :: parse (rest.drop size.toNat)
            else []
termination_by bytes => bytes.length
decreasing_by
  · simp only [List.length_cons]
    omega
  · simp only [List.length_cons, List.length_drop]
    omega

/-- The data of the first option with a code. -/
def lookup (code : UInt8) (options : List (UInt8 × List UInt8)) : Option (List UInt8) :=
  (options.find? fun option => option.1 = code).map Prod.snd

theorem toNat_size (entry : Entry) : (UInt8.ofNat entry.data.length).toNat = entry.data.length := by
  rw [UInt8.toNat_ofNat']
  exact Nat.mod_eq_of_lt entry.short

theorem length_bytes (entry : Entry) : entry.bytes.length = entry.data.length + 2 := rfl

theorem render_cons (entry : Entry) (entries : List Entry) :
    render (entry :: entries) = entry.bytes ++ render entries := rfl

theorem render_append (first second : List Entry) :
    render (first ++ second) = render first ++ render second := by
  rw [render, List.flatMap_append]
  rfl

/-- What is written is read back. -/
theorem parse_render (entries : List Entry) (rest : List UInt8) :
    parse (render entries ++ end_ :: rest) =
      entries.map fun entry => (entry.code, entry.data) := by
  induction entries with
  | nil =>
      change parse (end_ :: rest) = []
      rw [parse.eq_def]
      exact if_pos rfl
  | cons entry entries inductionHypothesis =>
      have size := toNat_size entry
      have displayed : render (entry :: entries) ++ end_ :: rest =
          entry.code :: UInt8.ofNat entry.data.length ::
            (entry.data ++ (render entries ++ end_ :: rest)) := by
        rw [render_cons, Entry.bytes, List.cons_append, List.cons_append, List.cons_append,
          List.cons_append, List.append_assoc]
      rw [displayed, parse.eq_def]
      simp only [if_neg entry.notEnd, if_neg entry.notPad, size]
      rw [if_pos (by rw [List.length_append]; omega), List.take_left, List.drop_left,
        inductionHypothesis, List.map_cons]

/-! ## The first option with a code -/

/-- The options in front of the first one with a code. -/
def before (code : UInt8) (entries : List Entry) : List Entry :=
  entries.takeWhile fun entry => entry.code ≠ code

/-- The first option with a code. -/
def first (code : UInt8) (entries : List Entry) : Option Entry :=
  entries.find? fun entry => entry.code = code

section

variable {code : UInt8} {entry : Entry} {entries : List Entry}

theorem before_cons_of_eq (same : entry.code = code) : before code (entry :: entries) = [] :=
  List.takeWhile_cons_of_neg (by simpa using same)

theorem before_cons_of_ne (different : entry.code ≠ code) :
    before code (entry :: entries) = entry :: before code entries :=
  List.takeWhile_cons_of_pos (by simpa using different)

theorem first_cons_of_eq (same : entry.code = code) :
    first code (entry :: entries) = some entry :=
  List.find?_cons_of_pos (by simpa using same)

theorem first_cons_of_ne (different : entry.code ≠ code) :
    first code (entry :: entries) = first code entries :=
  List.find?_cons_of_neg (by simpa using different)

end

/-- The first option with a code stands behind the others. -/
theorem split_of_first {code : UInt8} {entries : List Entry} {entry : Entry}
    (found : first code entries = some entry) :
    entry.code = code ∧ ∃ after, entries = before code entries ++ entry :: after := by
  induction entries with
  | nil => cases found
  | cons head entries inductionHypothesis =>
      by_cases same : head.code = code
      · rw [first_cons_of_eq same] at found
        cases found
        exact ⟨same, entries, by rw [before_cons_of_eq same]; rfl⟩
      · rw [first_cons_of_ne same] at found
        rcases inductionHypothesis found with ⟨coded, after, split⟩
        refine ⟨coded, after, ?_⟩
        rw [before_cons_of_ne same, List.cons_append, ← split]

/-! ## A search in a window -/

/-- What a search for a code comes to in a window that may cut options off. -/
inductive Search where
  /-- The end stands in front of the code, or the options lead behind the window. -/
  | absent
  /-- Another code is the last byte of the window. -/
  | cut
  /-- The code is there, with these bytes behind it. -/
  | here (rest : List UInt8)
deriving DecidableEq

/-- The search for a code, from option to option.  It does not pass over padding
byte by byte, and does not look whether an option has all of its data. -/
def search (code : UInt8) : List UInt8 → Search
  | [] => .absent
  | head :: rest =>
      if head = end_ then .absent
      else if head = code then .here rest
      else
        match rest with
        | [] => .cut
        | size :: rest => search code (rest.drop size.toNat)
termination_by bytes => bytes.length
decreasing_by
  simp only [List.length_cons, List.length_drop]
  omega

/-- What the search finds is not as long as a reader needs it, or the search
itself comes to a code without a length. -/
def Search.Short (need : List UInt8 → Nat) : Search → Prop
  | absent => False
  | cut => True
  | here rest => rest.length < need rest

instance (need : List UInt8 → Nat) : (found : Search) → Decidable (found.Short need)
  | .absent => .isFalse id
  | .cut => .isTrue trivial
  | .here rest => inferInstanceAs (Decidable (rest.length < need rest))

theorem search_nil (code : UInt8) : search code [] = .absent := by
  rw [search.eq_def]

theorem search_cons (code head : UInt8) (rest : List UInt8) :
    search code (head :: rest) =
      if head = end_ then .absent
      else if head = code then .here rest
      else
        match rest with
        | [] => .cut
        | size :: rest => search code (rest.drop size.toNat) := by
  rw [search.eq_def]

/-- What is found is the back of the window. -/
theorem suffix_of_search {code : UInt8} {window rest : List UInt8}
    (found : search code window = .here rest) : code :: rest <:+ window := by
  induction window using search.induct code with
  | case1 =>
      rw [search_nil] at found
      cases found
  | case2 bytes =>
      rw [search_cons, if_pos rfl] at found
      cases found
  | case3 bytes notEnd =>
      rw [search_cons, if_neg notEnd, if_pos rfl] at found
      cases found
      exact List.suffix_refl _
  | case4 head notEnd other =>
      rw [search_cons, if_neg notEnd, if_neg other] at found
      cases found
  | case5 head notEnd other size bytes inductionHypothesis =>
      rw [search_cons, if_neg notEnd, if_neg other] at found
      have inner := (inductionHypothesis found).trans (List.drop_suffix _ _)
      exact inner.trans ((List.suffix_cons _ _).trans (List.suffix_cons _ _))

end Options
