import Mathlib.Tactic.Conv
import NetLL.Server.Interface

namespace NetLL
namespace Server

/-!
# Cutting the request line

`ParseRequestLine` works in place.  It stores terminators over the space after
the method, over the byte that ends the target, and over the question mark,
and returns offsets into the buffer.  It searches the whole string in the
buffer, so its result is described by the first space of that string and the
first delimiter after it, wherever they lie.
-/

/-- The offsets returned by `ParseRequestLine` and the buffer it leaves. -/
structure RequestLine where
  buffer : List UInt8
  method : Nat
  path : Nat
  query : Option Nat
deriving DecidableEq, Repr

/-- The bytes that end the target: space, carriage return, line feed. -/
def IsDelimiter (byte : UInt8) : Prop :=
  byte = 32 ∨ byte = 13 ∨ byte = 10

instance : DecidablePred IsDelimiter := fun byte =>
  inferInstanceAs (Decidable (byte = 32 ∨ byte = 13 ∨ byte = 10))

/-- Index of the first byte with a property, as `strchr` and `strpbrk` search
a string for one byte or for a set. -/
def searchByte (wanted : UInt8 → Bool) (string : List UInt8) : Option Nat :=
  string.findIdx? wanted

/-- `ParseRequestLine` with the buffer it leaves; `none` is the result false. -/
def parseRequestLineInPlace (buffer : List UInt8) : Exec (List UInt8 × Option RequestLine) := do
  let string ← Memory.cstring buffer 0
  match searchByte (· = 32) string with
  | none => pure (buffer, none)
  | some methodEnd =>
      let buffer ← Memory.write buffer methodEnd [0]
      let pathStart := methodEnd + 1
      let rest ← Memory.cstring buffer pathStart
      match searchByte (IsDelimiter ·) rest with
      | none => pure (buffer, none)
      | some targetLength =>
          let pathEnd := pathStart + targetLength
          let buffer ← Memory.write buffer pathEnd [0]
          let target ← Memory.cstring buffer pathStart
          match searchByte (· = 63) target with
          | none => pure (buffer, some { buffer, method := 0, path := pathStart, query := none })
          | some pathLength =>
              let queryStart := pathStart + pathLength
              let buffer ← Memory.write buffer queryStart [0]
              pure (buffer,
                some { buffer, method := 0, path := pathStart, query := some (queryStart + 1) })

/-- `ParseRequestLine` for callers that give the buffer up when it is false. -/
def parseRequestLine (buffer : List UInt8) : Exec (Option RequestLine) := do
  let (_, line) ← parseRequestLineInPlace buffer
  pure line

/-- `ParseMethod`; `none` is the result false. -/
def parseMethod (token : List UInt8) : Option HttpMethod :=
  if token = ascii "GET" then some .get
  else if token = ascii "POST" then some .post
  else none

/-- The token of a method on the wire. -/
def HttpMethod.token : HttpMethod → List UInt8
  | .get => ascii "GET"
  | .post => ascii "POST"

theorem parseMethod_eq_some_iff (token : List UInt8) (method : HttpMethod) :
    parseMethod token = some method ↔ token = method.token := by
  unfold parseMethod
  cases method with
  | get =>
      constructor
      · intro parsed
        by_cases get : token = ascii "GET"
        · exact get
        · rw [if_neg get] at parsed
          split at parsed <;> cases parsed
      · intro equal
        rw [equal, HttpMethod.token, if_pos rfl]
  | post =>
      constructor
      · intro parsed
        by_cases get : token = ascii "GET"
        · rw [if_pos get] at parsed
          cases parsed
        · rw [if_neg get] at parsed
          split at parsed
          · assumption
          · cases parsed
      · intro equal
        rw [equal, HttpMethod.token, if_neg (by decide), if_pos rfl]

/-! ## Searching a displayed string -/

theorem searchByte_append {wanted : UInt8 → Bool} {front : List UInt8}
    (clean : ∀ byte ∈ front, wanted byte = false) {byte : UInt8} (found : wanted byte = true)
    (back : List UInt8) : searchByte wanted (front ++ byte :: back) = some front.length := by
  unfold searchByte
  induction front with
  | nil => rw [List.nil_append, List.findIdx?_cons, if_pos found]; rfl
  | cons first rest inductionHypothesis =>
      have here := clean first List.mem_cons_self
      rw [List.cons_append, List.findIdx?_cons, here, if_neg Bool.false_ne_true,
        inductionHypothesis (fun other member => clean other (List.mem_cons_of_mem _ member))]
      rfl

theorem searchByte_eq_none_iff (wanted : UInt8 → Bool) (string : List UInt8) :
    searchByte wanted string = none ↔ ∀ byte ∈ string, wanted byte = false := by
  exact List.findIdx?_eq_none_iff

theorem searchByte_first {front : List UInt8} {byte : UInt8} (absent : byte ∉ front)
    (back : List UInt8) : searchByte (· = byte) (front ++ byte :: back) = some front.length := by
  refine searchByte_append ?_ (decide_eq_true rfl) back
  intro other member
  have different : other ≠ byte := fun equal => absent (equal ▸ member)
  exact decide_eq_false different

theorem searchByte_absent {string : List UInt8} {byte : UInt8} (absent : byte ∉ string) :
    searchByte (· = byte) string = none := by
  rw [searchByte_eq_none_iff]
  intro other member
  have different : other ≠ byte := fun equal => absent (equal ▸ member)
  exact decide_eq_false different

/-- A successful search displays the string around the byte it found. -/
theorem searchByte_split {wanted : UInt8 → Bool} {string : List UInt8} {index : Nat}
    (found : searchByte wanted string = some index) :
    ∃ front byte back, string = front ++ byte :: back ∧ front.length = index ∧
      wanted byte = true ∧ ∀ other ∈ front, wanted other = false := by
  rcases List.findIdx?_eq_some_iff_getElem.mp found with ⟨inside, here, before⟩
  refine ⟨string.take index, string[index], string.drop (index + 1), ?_, ?_, here, ?_⟩
  · rw [List.getElem_cons_drop, List.take_append_drop]
  · rw [List.length_take]
    omega
  · intro other member
    rcases List.mem_take_iff_getElem.mp member with ⟨place, bound, equal⟩
    have refused := before place (by omega)
    rw [equal] at refused
    simpa using refused

/-! ## The displayed request line -/

/-- The target up to its first question mark. -/
def pathOf (target : List UInt8) : List UInt8 :=
  target.takeWhile (· ≠ 63)

/-- The rest of the target after its first question mark, if it has one. -/
def queryOf (target : List UInt8) : Option (List UInt8) :=
  match target.dropWhile (· ≠ 63) with
  | [] => none
  | _ :: query => some query

/-- The target with a terminator over its first question mark. -/
def cutTarget (target : List UInt8) : List UInt8 :=
  match queryOf target with
  | none => target
  | some query => pathOf target ++ 0 :: query

theorem question_not_mem_pathOf (target : List UInt8) : 63 ∉ pathOf target := by
  intro member
  unfold pathOf at member
  have kept := List.mem_takeWhile_imp member
  simp at kept

theorem target_split (target : List UInt8) :
    (queryOf target = none ∧ 63 ∉ target ∧ pathOf target = target) ∨
      ∃ query, queryOf target = some query ∧ target = pathOf target ++ 63 :: query := by
  have split : target = pathOf target ++ target.dropWhile (· ≠ 63) :=
    List.takeWhile_append_dropWhile.symm
  cases rest : target.dropWhile (· ≠ 63) with
  | nil =>
      left
      rw [rest, List.append_nil] at split
      refine ⟨by rw [queryOf, rest], ?_, split.symm⟩
      rw [split]
      exact question_not_mem_pathOf target
  | cons mark query =>
      right
      have isMark : mark = 63 := by
        have refused := List.head?_dropWhile_not (· ≠ 63) target
        rw [rest] at refused
        simpa using refused
      rw [rest, isMark] at split
      exact ⟨query, by rw [queryOf, rest], split⟩

theorem length_cutTarget (target : List UInt8) : (cutTarget target).length = target.length := by
  rcases target_split target with ⟨none_, _, _⟩ | ⟨query, some_, split⟩
  · rw [cutTarget, none_]
  · have sizes := congrArg List.length split
    rw [cutTarget, some_]
    simpa using sizes.symm

theorem pathOf_subset (target : List UInt8) : pathOf target ⊆ target :=
  (List.takeWhile_prefix _).subset

/-- A request line in front of further bytes: a method without a space, the
space, a target without a delimiter, and the delimiter that ends it. -/
structure DisplayedLine (string : List UInt8) where
  method : List UInt8
  target : List UInt8
  delimiter : UInt8
  back : List UInt8
  display : string = method ++ 32 :: (target ++ delimiter :: back)
  method_space : 32 ∉ method
  target_delimiter : ∀ byte ∈ target, ¬ IsDelimiter byte
  delimiter_is : IsDelimiter delimiter

/-- A space with a delimiter somewhere behind it. -/
def HasRequestLine (string : List UInt8) : Prop :=
  ∃ front back, string = front ++ 32 :: back ∧ ∃ byte ∈ back, IsDelimiter byte

theorem HasRequestLine.append {string : List UInt8} (has : HasRequestLine string)
    (more : List UInt8) : HasRequestLine (string ++ more) := by
  rcases has with ⟨front, back, split, byte, member, delimiter⟩
  refine ⟨front, back ++ more, ?_, byte, List.mem_append_left more member, delimiter⟩
  rw [split, List.append_assoc, List.cons_append]

theorem HasRequestLine.displayed {string : List UInt8} (has : HasRequestLine string) :
    Nonempty (DisplayedLine string) := by
  rcases has with ⟨front, back, split, byte, member, delimiter⟩
  cases space : searchByte (· = 32) string with
  | none =>
      have refused := (searchByte_eq_none_iff _ _).mp space 32 (by rw [split]; simp)
      simp at refused
  | some index =>
      rcases searchByte_split space with ⟨method, mark, rest, display, _, isSpace, clean⟩
      have markSpace : mark = 32 := by simpa using isSpace
      subst markSpace
      have inRest : byte ∈ rest := by
        rw [display] at split
        rcases List.append_eq_append_iff.mp split with ⟨shift, _, same⟩ | ⟨shift, longer, same⟩
        · cases shift with
          | nil => rw [(List.cons.inj same).2]; exact member
          | cons first shift =>
              rw [(List.cons.inj same).2]
              exact List.mem_append_right shift (List.mem_cons_of_mem 32 member)
        · cases shift with
          | nil => rw [← (List.cons.inj same).2]; exact member
          | cons first shift =>
              have refused := clean first (by rw [longer]; simp)
              rw [← (List.cons.inj same).1] at refused
              simp at refused
      cases target : searchByte (IsDelimiter ·) rest with
      | none =>
          have refused := (searchByte_eq_none_iff _ _).mp target byte inRest
          exact absurd delimiter (by simpa using refused)
      | some length =>
          rcases searchByte_split target with
            ⟨front', mark, back', display', _, isDelimiter, clean'⟩
          exact ⟨{ method := method
                   target := front'
                   delimiter := mark
                   back := back'
                   display := by rw [display, display']
                   method_space := fun member' => by simpa using clean 32 member'
                   target_delimiter := fun other member' => by simpa using clean' other member'
                   delimiter_is := by simpa using isDelimiter }⟩

/-! ## The cut -/

theorem cstring_behind (front : List UInt8) (byte : UInt8) {back : List UInt8}
    (terminated : 0 ∈ back) :
    Memory.cstring (front ++ byte :: back) (front.length + 1) = .done (Memory.text back) := by
  have read := Memory.cstring_append_left (front ++ [byte]) terminated
  rwa [List.append_assoc, List.singleton_append, List.length_append, List.length_singleton] at read

theorem write_behind (front middle : List UInt8) (mark old byte : UInt8) (back : List UInt8) :
    Memory.write (front ++ mark :: (middle ++ old :: back)) (front.length + 1 + middle.length)
        [byte] =
      .done (front ++ mark :: (middle ++ byte :: back)) := by
  have written := Memory.write_byte (front ++ mark :: middle) old byte back
  rw [List.append_assoc, List.append_assoc, List.cons_append, List.cons_append] at written
  have position : (front ++ mark :: middle).length = front.length + 1 + middle.length := by
    rw [List.length_append, List.length_cons]
    omega
  rwa [position] at written

/-- The buffer left by a request line that could be cut, with the offsets of
its parts.  Nothing behind the delimiter is touched. -/
def cutLine (method target tail : List UInt8) : RequestLine where
  buffer := method ++ 0 :: (cutTarget target ++ 0 :: tail)
  method := 0
  path := method.length + 1
  query := (queryOf target).map (fun _ => method.length + 1 + (pathOf target).length + 1)

theorem parseRequestLine_displayed {method target tail : List UInt8} {delimiter : UInt8}
    (method_space : 32 ∉ method) (method_clean : 0 ∉ method)
    (target_delimiter : ∀ byte ∈ target, ¬ IsDelimiter byte) (target_clean : 0 ∉ target)
    (delimiter_is : IsDelimiter delimiter) (terminated : 0 ∈ tail) :
    parseRequestLine (method ++ 32 :: (target ++ delimiter :: tail)) =
      .done (some (cutLine method target tail)) := by
  have delimiter_clean : delimiter ≠ 0 := by
    rcases delimiter_is with equal | equal | equal <;> rw [equal] <;> decide
  have endsBehind : 0 ∈ target ++ delimiter :: tail :=
    List.mem_append_right target (List.mem_cons_of_mem delimiter terminated)
  have behind := Memory.text_append_cons target_clean delimiter_clean tail
  have whole : Memory.cstring (method ++ 32 :: (target ++ delimiter :: tail)) 0 =
      .done (method ++ 32 :: (target ++ delimiter :: Memory.text tail)) := by
    have ends : 0 ∈ method ++ 32 :: (target ++ delimiter :: tail) :=
      List.mem_append_right method (List.mem_cons_of_mem 32 endsBehind)
    have read := Memory.cstring_append_left [] ends
    rw [Memory.text_append_cons method_clean (by decide), behind] at read
    exact read
  have targetEnd : searchByte (IsDelimiter ·) (target ++ delimiter :: Memory.text tail) =
      some target.length :=
    searchByte_append (fun byte member => by simpa using target_delimiter byte member)
      (by simpa using delimiter_is) _
  have targetRead : Memory.cstring (method ++ 0 :: (target ++ 0 :: tail)) (method.length + 1) =
      .done target := by
    rw [cstring_behind _ _ (List.mem_append_right target List.mem_cons_self),
      Memory.text_append_zero, Memory.text_of_zero_not_mem target_clean]
  rw [parseRequestLine, parseRequestLineInPlace, whole]
  simp only [Exec.done_bind, searchByte_first method_space, Memory.write_byte]
  rw [cstring_behind _ _ endsBehind, behind]
  simp only [Exec.done_bind, targetEnd, write_behind, targetRead]
  rcases target_split target with ⟨noQuery, noMark, _⟩ | ⟨query, someQuery, split⟩
  · rw [searchByte_absent noMark]
    simp only [cutLine, cutTarget, noQuery, Option.map_none, Exec.done_bind, Exec.pure_eq]
  · have mark : searchByte (· = 63) target = some (pathOf target).length := by
      conv_lhs => rw [split]
      exact searchByte_first (question_not_mem_pathOf target) _
    have cutMark : Memory.write (method ++ 0 :: (target ++ 0 :: tail))
        (method.length + 1 + (pathOf target).length) [0] =
        .done (method ++ 0 :: (cutTarget target ++ 0 :: tail)) := by
      have written := write_behind method (pathOf target) 0 63 0 (query ++ 0 :: tail)
      have before : pathOf target ++ 63 :: (query ++ 0 :: tail) = target ++ 0 :: tail := by
        conv_rhs => rw [split]
        rw [List.append_assoc, List.cons_append]
      have after : pathOf target ++ 0 :: (query ++ 0 :: tail) = cutTarget target ++ 0 :: tail := by
        rw [cutTarget, someQuery]
        simp only [List.append_assoc, List.cons_append]
      rwa [before, after] at written
    rw [mark]
    simp only [cutMark, Exec.done_bind, cutLine, someQuery, Option.map_some, Exec.pure_eq]

/-- A string without a request line is refused, whatever is behind it.  The
first space of the string is written over before the target is looked for. -/
theorem parseRequestLineInPlace_refused {memory : List UInt8} (terminated : 0 ∈ memory)
    (refused : ¬ HasRequestLine (Memory.text memory)) :
    ∃ after, parseRequestLineInPlace memory = .done (after, none) ∧
      ((32 ∉ Memory.text memory ∧ after = memory) ∨
        ∃ front back, memory = front ++ 32 :: back ∧ 32 ∉ front ∧ 0 ∉ front ∧
          after = front ++ 0 :: back) := by
  have whole : Memory.cstring memory 0 = .done (Memory.text memory) := by
    rw [Memory.cstring, List.drop_zero, if_pos terminated]
  rw [parseRequestLineInPlace, whole]
  simp only [Exec.done_bind]
  cases space : searchByte (· = 32) (Memory.text memory) with
  | none =>
      refine ⟨memory, rfl, Or.inl ⟨fun member => ?_, rfl⟩⟩
      have absent := (searchByte_eq_none_iff _ _).mp space 32 member
      simp at absent
  | some index =>
      rcases searchByte_split space with ⟨front, mark, rest, display, position, isSpace, before⟩
      have markSpace : mark = 32 := by simpa using isSpace
      subst markSpace
      rcases Memory.split_at_zero terminated with ⟨back, split⟩
      have shown : memory = front ++ 32 :: (rest ++ 0 :: back) := by
        rw [split, display, List.append_assoc, List.cons_append]
      have clean : 0 ∉ front ++ 32 :: rest := by
        rw [← display]
        exact Memory.zero_not_mem_text memory
      rw [List.mem_append, List.mem_cons, not_or, not_or] at clean
      have missing : searchByte (IsDelimiter ·) rest = none := by
        rw [searchByte_eq_none_iff]
        intro byte member
        by_contra delimiter
        exact refused ⟨front, rest, display, byte, member, by simpa using delimiter⟩
      refine ⟨front ++ 0 :: (rest ++ 0 :: back), ?_, Or.inr ⟨front, rest ++ 0 :: back, shown, ?_,
        clean.1, rfl⟩⟩
      · rw [shown, ← position]
        simp only [Memory.write_byte, Exec.done_bind]
        rw [cstring_behind _ _ (List.mem_append_right rest List.mem_cons_self),
          Memory.text_append_zero, Memory.text_of_zero_not_mem clean.2.2]
        simp only [Exec.done_bind, missing, Exec.pure_eq]
      · intro member
        have absent := before 32 member
        simp at absent

theorem parseRequestLine_refused {memory : List UInt8} (terminated : 0 ∈ memory)
    (refused : ¬ HasRequestLine (Memory.text memory)) :
    parseRequestLine memory = .done none := by
  rcases parseRequestLineInPlace_refused terminated refused with ⟨after, parsed, _⟩
  rw [parseRequestLine, parsed]
  rfl

end Server
end NetLL
