import NetLL.Server.Service

namespace NetLL
namespace Server

/-!
# How much of a response is sent

Which bytes a writer sends is decided by how many it sends.  A run of a writer
is a count that grows with every `send` that takes something, up to the number
of bytes there are.  The bytes on the socket are the front of the data of that
length, so none is skipped and none is sent twice, wherever a piece ends.
-/

/-- The count of a run, with its ending and the results it leaves. -/
structure Pour where
  count : Nat
  ending : WriteEnding
  rest : List SendResult
deriving DecidableEq, Repr

/-- The run that has taken some bytes before. -/
def Pour.after (pour : Pour) (count : Nat) : Pour :=
  { pour with count := count + pour.count }

/-- What a run puts on the socket. -/
def Pour.written (pour : Pour) (bytes : List UInt8) : Written :=
  ⟨bytes.take pour.count, pour.ending, pour.rest⟩

@[simp] theorem Pour.ending_written (pour : Pour) (bytes : List UInt8) :
    (pour.written bytes).ending = pour.ending := rfl

@[simp] theorem Pour.rest_written (pour : Pour) (bytes : List UInt8) :
    (pour.written bytes).rest = pour.rest := rfl

/-- A run over a number of bytes that are left, of which a call offers some. -/
def pour (offer : Nat → Nat) (retries : Bool) : List SendResult → Nat → Pour
  | script, 0 => ⟨0, .complete, script⟩
  | [], _ + 1 => ⟨0, .blocked, []⟩
  | .accepted count :: script, left + 1 =>
      if min count (offer (left + 1)) = 0 then ⟨0, .failed, script⟩
      else (pour offer retries script (left + 1 - min count (offer (left + 1)))).after
        (min count (offer (left + 1)))
  | .interrupted :: script, left + 1 =>
      if retries then pour offer retries script (left + 1) else ⟨0, .failed, script⟩
  | .failed :: script, _ + 1 => ⟨0, .failed, script⟩

namespace Platform

/-- How many bytes one call of `send` is offered. -/
def offer : Platform → Nat → Nat
  | simulator, left => left
  | esp32, left => left
  | rp2040, left => min left httpSendChunkSize

/-- Whether an interrupted `send` is repeated. -/
def retriesSend : Platform → Bool
  | simulator => true
  | esp32 => true
  | rp2040 => false

/-- The `send` succeeds, or is repeated. -/
def SendContinues (platform : Platform) : SendResult → Prop
  | .accepted count => 0 < count
  | .interrupted => platform.retriesSend = true
  | .failed => False

instance (platform : Platform) : DecidablePred platform.SendContinues
  | .accepted count => inferInstanceAs (Decidable (0 < count))
  | .interrupted => inferInstanceAs (Decidable (platform.retriesSend = true))
  | .failed => inferInstanceAs (Decidable False)

theorem offer_le (platform : Platform) (left : Nat) : platform.offer left ≤ left := by
  cases platform with
  | simulator => exact Nat.le_refl left
  | esp32 => exact Nat.le_refl left
  | rp2040 => exact Nat.min_le_left left _

theorem offer_pos (platform : Platform) {left : Nat} (some_ : 0 < left) :
    0 < platform.offer left := by
  cases platform with
  | simulator => exact some_
  | esp32 => exact some_
  | rp2040 => exact Nat.lt_min.mpr ⟨some_, by decide⟩

end Platform

/-! ## The count of a run -/

theorem pour_none (offer : Nat → Nat) (retries : Bool) (script : List SendResult) :
    pour offer retries script 0 = ⟨0, .complete, script⟩ := by
  cases script <;> rw [pour]

section

variable {platform : Platform} {script : List SendResult} {left : Nat}

/-- No more is counted than there is, and all of it exactly when the run is
complete. -/
theorem pour_complete_iff (platform : Platform) (script : List SendResult) (left : Nat) :
    (pour platform.offer platform.retriesSend script left).count ≤ left ∧
      ((pour platform.offer platform.retriesSend script left).ending = .complete ↔
        (pour platform.offer platform.retriesSend script left).count = left) := by
  induction script generalizing left with
  | nil =>
      cases left with
      | zero => exact ⟨Nat.le_refl 0, fun _ => rfl, fun _ => rfl⟩
      | succ left =>
          exact ⟨Nat.zero_le _, fun complete => (by cases complete), fun all => (by cases all)⟩
  | cons result script inductionHypothesis =>
      cases left with
      | zero =>
          rw [pour_none]
          exact ⟨Nat.le_refl 0, fun _ => rfl, fun _ => rfl⟩
      | succ left =>
          have refused : (0 ≤ left + 1) ∧ (WriteEnding.failed = .complete ↔ 0 = left + 1) :=
            ⟨Nat.zero_le _, fun complete => (by cases complete), fun all => (by cases all)⟩
          cases result with
          | failed => exact refused
          | interrupted =>
              rw [pour]
              split
              · exact inductionHypothesis (left + 1)
              · exact refused
          | accepted count =>
              rw [pour]
              split
              · exact refused
              · have least : min count (platform.offer (left + 1)) ≤ left + 1 :=
                  Nat.le_trans (Nat.min_le_right _ _) (platform.offer_le _)
                rcases inductionHypothesis (left + 1 - min count (platform.offer (left + 1))) with
                  ⟨bound, complete⟩
                simp only [Pour.after]
                exact ⟨by omega, complete.trans (by omega)⟩

theorem pour_rest (platform : Platform) (script : List SendResult) (left : Nat) :
    (pour platform.offer platform.retriesSend script left).rest <:+ script := by
  induction script generalizing left with
  | nil =>
      cases left with
      | zero => exact List.suffix_refl []
      | succ left => exact List.suffix_refl []
  | cons result script inductionHypothesis =>
      have later : script <:+ result :: script := List.suffix_cons result script
      cases left with
      | zero => exact List.suffix_refl _
      | succ left =>
          cases result with
          | failed => exact later
          | interrupted =>
              rw [pour]
              split
              · exact (inductionHypothesis (left + 1)).trans later
              · exact later
          | accepted count =>
              rw [pour]
              split
              · exact later
              · exact (inductionHypothesis _).trans later

/-- When no `send` fails, a run that ends is complete. -/
theorem pour_continues (continues : ∀ result ∈ script, platform.SendContinues result) :
    (pour platform.offer platform.retriesSend script left).ending ≠ .failed := by
  induction script generalizing left with
  | nil => cases left <;> exact nofun
  | cons result script inductionHypothesis =>
      have here := continues result List.mem_cons_self
      have later := fun other member => continues other (List.mem_cons_of_mem result member)
      cases left with
      | zero =>
          rw [pour_none]
          exact nofun
      | succ left =>
          cases result with
          | failed => exact absurd here id
          | interrupted =>
              have retries : platform.retriesSend = true := here
              rw [pour, if_pos retries]
              exact inductionHypothesis later
          | accepted count =>
              have positive : 0 < count := here
              have offered := platform.offer_pos (Nat.succ_pos left)
              have taken : min count (platform.offer (left + 1)) ≠ 0 := by
                exact Nat.ne_of_gt (Nat.lt_min.mpr ⟨positive, offered⟩)
              rw [pour, if_neg taken]
              exact inductionHypothesis later

end

/-! ## The writers pour -/

theorem Pour.after_written (pour : Pour) (count : Nat) (bytes : List UInt8) :
    (pour.after count).written bytes =
      (pour.written (bytes.drop count)).after (bytes.take count) := by
  rw [Pour.written, Pour.written, Written.after, Pour.after, List.take_add]

/-- A writer that goes by these rounds sends as many bytes as they count. -/
theorem Writer.Rounds.eq_pour {writer : Writer} {offer : Nat → Nat} {retries : Bool}
    (rounds : writer.Rounds offer retries) (script : List SendResult) (bytes : List UInt8) :
    writer script bytes = (pour offer retries script bytes.length).written bytes := by
  induction script generalizing bytes with
  | nil =>
      cases bytes with
      | nil => exact rounds.nothing []
      | cons first rest => exact rounds.blocked _ (List.cons_ne_nil first rest)
  | cons result script inductionHypothesis =>
      cases bytes with
      | nil => exact rounds.nothing (result :: script)
      | cons first rest =>
          have nonempty := List.cons_ne_nil first rest
          cases result with
          | failed => exact rounds.failed script _ nonempty
          | interrupted =>
              rw [rounds.interrupted script _ nonempty, List.length_cons, pour]
              split
              · exact inductionHypothesis (first :: rest)
              · rfl
          | accepted count =>
              rw [rounds.accepted count script _ nonempty, List.length_cons, pour]
              split
              · rfl
              · rw [inductionHypothesis, List.length_drop, List.length_cons, Pour.after_written]

/-- On every platform the writer sends the front of the data that its run
counts. -/
theorem Platform.writer_eq_pour (platform : Platform) (script : List SendResult)
    (bytes : List UInt8) : platform.writer script bytes =
      (pour platform.offer platform.retriesSend script bytes.length).written bytes := by
  cases platform with
  | simulator => exact writeAll_rounds.eq_pour script bytes
  | esp32 => exact writeAll_rounds.eq_pour script bytes
  | rp2040 => exact sendBytes_rounds.eq_pour script bytes

/-! ## Responses -/

/-- What a response writer promises: it sends the front of the header and the
body, it returns true exactly when it sent all of it, and a header that does
not fit its buffer is not sent. -/
structure ReportsTruth (platform : Platform) (script : List SendResult)
    (response : HttpResponse) : Prop where
  front : (platform.write script response).bytes <+:
    responseHeader response ++ bodyBytes response
  truth : (platform.write script response).ending = .complete ↔
    (platform.write script response).bytes = responseHeader response ++ bodyBytes response
  long : responseHeaderSize ≤ (responseHeader response).length →
    (platform.write script response).bytes = []

section

variable {platform : Platform} {script : List SendResult} {response : HttpResponse}

/-- A writer sends the front of its data, and succeeds when this is all. -/
theorem Platform.writer_front (platform : Platform) (script : List SendResult)
    (bytes : List UInt8) :
    (platform.writer script bytes).bytes <+: bytes ∧
      ((platform.writer script bytes).ending = .complete ↔
        (platform.writer script bytes).bytes = bytes) := by
  rcases pour_complete_iff platform script bytes.length with ⟨bound, complete⟩
  rw [platform.writer_eq_pour]
  refine ⟨List.take_prefix _ _, complete.trans ?_⟩
  constructor
  · intro all
    exact List.take_of_length_le (Nat.le_of_eq all.symm)
  · intro whole
    have size := congrArg List.length whole
    rw [Pour.written, List.length_take] at size
    omega

theorem write_header_short (short : (responseHeader response).length < responseHeaderSize)
    (incomplete : (platform.writer script (responseHeader response)).ending ≠ .complete) :
    platform.write script response = platform.writer script (responseHeader response) := by
  rw [platform.write_eq, writeResponseWith, if_neg (Nat.not_le.mpr short)]
  exact if_pos incomplete

theorem write_body (short : (responseHeader response).length < responseHeaderSize)
    (complete : (platform.writer script (responseHeader response)).ending = .complete) :
    platform.write script response =
      (platform.writer (platform.writer script (responseHeader response)).rest
        (bodyBytes response)).after (responseHeader response) := by
  rw [platform.write_eq]
  exact writeResponseWith_short platform.writer_sends short complete

theorem write_unfitting (long : responseHeaderSize ≤ (responseHeader response).length)
    (platform : Platform) (script : List SendResult) :
    platform.write script response = ⟨[], .failed, script⟩ := by
  rw [platform.write_eq, writeResponseWith_long long]

theorem reportsTruth (platform : Platform) (script : List SendResult) (response : HttpResponse) :
    ReportsTruth platform script response := by
  have nonempty := responseHeader_ne_nil response
  rcases Nat.lt_or_ge (responseHeader response).length responseHeaderSize with short | long
  · rcases platform.writer_front script (responseHeader response) with ⟨headerFront, headerTruth⟩
    by_cases complete : (platform.writer script (responseHeader response)).ending = .complete
    · rcases platform.writer_front (platform.writer script (responseHeader response)).rest
        (bodyBytes response) with ⟨bodyFront, bodyTruth⟩
      rw [← List.prefix_append_right_inj (responseHeader response)] at bodyFront
      refine ⟨?_, ?_, fun long => absurd long (Nat.not_le.mpr short)⟩
      · rw [write_body short complete, Written.bytes_after]
        exact bodyFront
      · rw [write_body short complete, Written.ending_after, Written.bytes_after,
          List.append_right_inj]
        exact bodyTruth
    · refine ⟨?_, ?_, fun long => absurd long (Nat.not_le.mpr short)⟩
      · rw [write_header_short short complete]
        exact headerFront.trans (List.prefix_append _ _)
      · rw [write_header_short short complete]
        refine ⟨fun done => absurd done complete, fun whole => ?_⟩
        have bound := headerFront.length_le
        have size := congrArg List.length whole
        rw [List.length_append] at size
        exact absurd (headerTruth.mpr (headerFront.eq_of_length (by omega))) complete
  · have none_ := write_unfitting long platform script
    refine ⟨?_, ?_, fun _ => by rw [none_]⟩
    · rw [none_]
      exact List.nil_prefix
    · rw [none_]
      refine ⟨fun complete => (by cases complete), fun whole => ?_⟩
      exact absurd (List.append_eq_nil_iff.mp whole.symm).1 nonempty

/-- When no `send` fails and the socket goes on giving results, a response
that fits is sent as a whole. -/
theorem write_continues (short : (responseHeader response).length < responseHeaderSize)
    (continues : ∀ result ∈ script, platform.SendContinues result)
    (returns : (platform.write script response).ending ≠ .blocked) :
    (platform.write script response).bytes = responseHeader response ++ bodyBytes response := by
  have header : (platform.writer script (responseHeader response)).ending ≠ .failed := by
    rw [platform.writer_eq_pour, Pour.ending_written]
    exact pour_continues continues
  have complete : (platform.writer script (responseHeader response)).ending = .complete := by
    cases ending : (platform.writer script (responseHeader response)).ending with
    | complete => rfl
    | failed => exact absurd ending header
    | blocked =>
        have incomplete : (platform.writer script (responseHeader response)).ending ≠ .complete := by
          rw [ending]
          exact nofun
        rw [write_header_short short incomplete] at returns
        exact absurd ending returns
  have later : ∀ result ∈ (platform.writer script (responseHeader response)).rest,
      platform.SendContinues result := by
    intro result member
    rw [platform.writer_eq_pour, Pour.rest_written] at member
    exact continues result ((pour_rest platform script _).subset member)
  rw [← (reportsTruth platform script response).truth]
  rw [write_body short complete, Written.ending_after] at returns ⊢
  cases ending : (platform.writer (platform.writer script (responseHeader response)).rest
      (bodyBytes response)).ending with
  | complete => rfl
  | blocked => exact absurd ending returns
  | failed =>
      rw [platform.writer_eq_pour, Pour.ending_written] at ending
      exact absurd ending (pour_continues later)

end

/-- For every response and every sequence of send results, the writer of
every platform keeps its promise.  When no `send` fails and both return, the
pieces of RP2040 add up to what the other platforms send. -/
theorem response_reports_truth (response : HttpResponse) :
    (∀ platform script, ReportsTruth platform script response) ∧
      ∀ (first second : Platform) (script other : List SendResult),
        (∀ result ∈ script, first.SendContinues result) →
        (∀ result ∈ other, second.SendContinues result) →
        (first.write script response).ending ≠ .blocked →
        (second.write other response).ending ≠ .blocked →
          (first.write script response).bytes = (second.write other response).bytes := by
  refine ⟨fun platform script => reportsTruth platform script response, ?_⟩
  intro first second script other continues otherContinues returns otherReturns
  rcases Nat.lt_or_ge (responseHeader response).length responseHeaderSize with short | long
  · rw [write_continues short continues returns, write_continues short otherContinues otherReturns]
  · rw [write_unfitting long, write_unfitting long]

/-- A page that is longer than one piece. -/
def longPage : HttpResponse where
  statusCode := 200
  contentType := none
  customHeader := none
  body := some (List.replicate 1470 65)
  bodyLength := 1470

/-- Sends of different sizes, with and without an interruption. -/
theorem longPage_sent_alike :
    (Platform.rp2040.write [.accepted 7, .accepted 249, .accepted 9, .accepted 2000, .accepted 1]
        longPage).bytes =
      (Platform.simulator.write [.accepted 2000, .interrupted, .accepted 1000, .accepted 470]
        longPage).bytes :=
  (response_reports_truth longPage).2 .rp2040 .simulator _ _ (by decide) (by decide)
    (by decide +kernel) (by decide +kernel)

end Server
end NetLL
