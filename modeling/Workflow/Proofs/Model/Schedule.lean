import Workflow.Model.Client
import Workflow.Proofs.Text.Piece

/-!
# The schedule of a retrying client

Whatever the clients answer, the opening of a stream keeps to one schedule.
The model is asked until it answers, rejects the request or has been asked once
more than there are retries, with a rest after every attempt but the last.  Only
then, and only after a transient failure, the fallbacks follow in their order,
once each, until one answers.

`Reaches` runs the stages of an opening and keeps a log of what happens in
them.  `Schedule` says what a whole log looks like, without any stages.
-/

namespace Workflow

/-! ## What calls for another attempt -/

/-- An attempt that took too long may be repeated: what its failure says is no
refusal by a provider, and it speaks of a time-out. -/
theorem Opening.retryable_outOfPatience (policy : RetryPolicy) :
    (outOfPatience policy).retryable = true := by
  let rest := " after " ++ toString policy.patience ++ "s waiting for response"
  have hmessage : outOfPatience policy = .modelRequest ("timeout" ++ rest) := by
    have hhead : "timeout after " = "timeout" ++ " after " := by decide
    simp only [outOfPatience, rest, toString, hhead, String.append_assoc]
  have hstatus : Error.httpStatus? ("timeout" ++ rest) = none := by
    simp [Error.httpStatus?, Text.dropHead?]
  have htimeout :
      Text.contains "timeout" (Text.lowerAscii ("timeout" ++ rest)) = true := by
    rw [Text.contains_iff]
    apply List.IsPrefix.isInfix
    refine ⟨rest.toList.map Char.toLower, ?_⟩
    simp [Text.lowerAscii]
  simp only [hmessage, Error.retryable, hstatus, htimeout, Bool.true_or]

namespace RetryingClient

variable {σ α : Type}

/-- What a client answers; `none` stands for no answer in time. -/
abbrev Answer (α : Type) : Type :=
  Option (Except Error α)

/-- What happens while a stream is opened. -/
inductive Happening (α : Type) where
  /-- The client at a position is asked. -/
  | asked (position : Nat) (request : ModelRequest) (answer : Answer α)
  /-- A rest of so many milliseconds, before they are spread. -/
  | rested (millis : Nat)

/-- A transient failure; to be late is one. -/
def Transient : Answer α → Prop
  | none => True
  | some (.ok _) => False
  | some (.error error) => error.retryable = true

/-- A failure of any kind. -/
def Failed : Answer α → Prop
  | none => True
  | some (.ok _) => False
  | some (.error _) => True

/-- Attempts at the model with these answers, and a rest after each. -/
def tries (policy : RetryPolicy) (request : ModelRequest)
    (answers : List (Answer α)) : List (Happening α) :=
  answers.zipIdx.flatMap fun (answer, attempt) =>
    [.asked 0 request answer, .rested (policy.backoff attempt)]

/-- Attempts at the first fallbacks with these answers: each is asked for its
own model, and nothing else about the request changes. -/
def detours (client : RetryingClient σ α) (request : ModelRequest)
    (answers : List (Answer α)) : List (Happening α) :=
  answers.zipIdx.filterMap fun (answer, position) =>
    client.fallbacks[position]?.map fun (model, _) =>
      .asked (position + 1) { request with model } answer

/-- All attempts at the model have failed for transient reasons, the last one with
`error`. -/
structure Unavailable (policy : RetryPolicy) (failed : List (Answer α))
    (last : Answer α) (error : Error) : Prop where
  length_eq : failed.length = policy.maxRetries
  transient : ∀ answer ∈ failed, Transient answer
  transient_last : Transient last
  outcome_last : Opening.outcome policy last = .error error

/-- The logs that may come of a request, and the results that go with them. -/
inductive Schedule (client : RetryingClient σ α) (request : ModelRequest) :
    List (Happening α) → Except Error α → Prop
  /-- The model answers at last. -/
  | answered {failed : List (Answer α)} {stream : α}
      (hretries : failed.length ≤ client.policy.maxRetries)
      (hfailed : ∀ answer ∈ failed, Transient answer) :
      Schedule client request
        (tries client.policy request failed ++
          [.asked 0 request (some (.ok stream))])
        (.ok stream)
  /-- The model rejects the request at last. -/
  | rejected {failed : List (Answer α)} {error : Error}
      (hretries : failed.length ≤ client.policy.maxRetries)
      (hfailed : ∀ answer ∈ failed, Transient answer)
      (herror : error.retryable = false) :
      Schedule client request
        (tries client.policy request failed ++
          [.asked 0 request (some (.error error))])
        (.error error)
  /-- The model stays unavailable, and a fallback answers. -/
  | fellBack {failed declined : List (Answer α)} {last : Answer α}
      {error : Error} {stream : α}
      (hunavailable : Unavailable client.policy failed last error)
      (hdeclined : ∀ answer ∈ declined, Failed answer)
      (hleft : declined.length < client.fallbacks.length) :
      Schedule client request
        (tries client.policy request failed ++ [.asked 0 request last] ++
          client.detours request (declined ++ [some (.ok stream)]))
        (.ok stream)
  /-- Neither the model nor any fallback answers. -/
  | exhausted {failed declined : List (Answer α)} {last : Answer α}
      {error : Error}
      (hunavailable : Unavailable client.policy failed last error)
      (hdeclined : ∀ answer ∈ declined, Failed answer)
      (hall : declined.length = client.fallbacks.length) :
      Schedule client request
        (tries client.policy request failed ++ [.asked 0 request last] ++
          client.detours request declined)
        (.error error)

/-! ## Attempts in a log -/

section Logs

variable {client : RetryingClient σ α} {policy : RetryPolicy}
variable {request : ModelRequest} {answers : List (Answer α)}
variable {answer : Answer α}

theorem tries_concat :
    tries policy request (answers ++ [answer]) =
      tries policy request answers ++
        [.asked 0 request answer, .rested (policy.backoff answers.length)] := by
  simp [tries, List.zipIdx_append]

theorem detours_concat {model : ModelConfig} {fallback : ModelClient σ α}
    (hfallback :
      client.fallbacks[answers.length]? = some (model, fallback)) :
    client.detours request (answers ++ [answer]) =
      client.detours request answers ++
        [.asked (answers.length + 1) { request with model } answer] := by
  simp [detours, List.zipIdx_append, hfallback]

theorem length_tries :
    (tries policy request answers).length = 2 * answers.length := by
  simp [tries, List.length_flatMap, Nat.mul_comm]

theorem length_detours_le (client : RetryingClient σ α)
    (request : ModelRequest) (answers : List (Answer α)) :
    (client.detours request answers).length ≤ answers.length := by
  unfold detours
  calc
    _ ≤ answers.zipIdx.length := List.length_filterMap_le _ _
    _ = answers.length := List.length_zipIdx

end Logs

/-! ## Runs -/

/-- What can happen at a stage, and the stage after it. -/
inductive Occurs (client : RetryingClient σ α) (request : ModelRequest) :
    Opening α → σ → Happening α → Opening α → σ → Prop
  | primary {attempt : Nat} {state after : σ} {asked : ModelClient σ α}
      {sent : ModelRequest} {answer : Answer α}
      (hasked : client.addressee? request 0 = some (asked, sent))
      (hanswer : asked sent client.policy.patience state = (answer, after)) :
      Occurs client request (.primary attempt) state (.asked 0 sent answer)
        (Opening.step client.policy client.fallbacks.length
          (.primary attempt) answer) after
  | resting {attempt : Nat} {state : σ} :
      Occurs client request (.resting attempt) state
        (.rested (client.policy.backoff attempt))
        (Opening.step client.policy client.fallbacks.length
          (.resting attempt) ()) state
  | fallback {position : Nat} {last : Error} {state after : σ}
      {asked : ModelClient σ α} {sent : ModelRequest}
      {answer : Answer α}
      (hasked : client.addressee? request (position + 1) = some (asked, sent))
      (hanswer : asked sent client.policy.patience state = (answer, after)) :
      Occurs client request (.fallback position last) state
        (.asked (position + 1) sent answer)
        (Opening.step client.policy client.fallbacks.length
          (.fallback position last) answer) after

/-- The stages that the opening of a stream reaches, with what has happened by
then. -/
inductive Reaches (client : RetryingClient σ α) (request : ModelRequest)
    (first : σ) : List (Happening α) → Opening α → σ → Prop
  | start : Reaches client request first [] .start first
  | step {log : List (Happening α)} {stage next : Opening α} {state after : σ}
      {happening : Happening α}
      (hreaches : Reaches client request first log stage state)
      (hoccurs : Occurs client request stage state happening next after) :
      Reaches client request first (log ++ [happening]) next after

section Runs

variable {client : RetryingClient σ α} {request : ModelRequest}
variable {first state after : σ} {log : List (Happening α)}
variable {stage next : Opening α} {happening : Happening α}

theorem attempt_eq {position : Nat} {asked : ModelClient σ α}
    {sent : ModelRequest}
    (hasked : client.addressee? request position = some (asked, sent)) :
    client.attempt request position state =
      asked sent client.policy.patience state := by
  simp only [attempt, hasked]

theorem Occurs.followFor_eq
    (hoccurs : Occurs client request stage state happening next after)
    (fuel : Nat) :
    Opening.followFor client.policy client.fallbacks.length
        (client.attempt request) (fuel + 1) stage state =
      Opening.followFor client.policy client.fallbacks.length
        (client.attempt request) fuel next after := by
  cases hoccurs with
  | primary hasked hanswer =>
      simp only [Opening.followFor, attempt_eq hasked, hanswer]
  | resting => rfl
  | fallback hasked hanswer =>
      simp only [Opening.followFor, attempt_eq hasked, hanswer]

/-- Following an opening goes through the stages that it reaches. -/
theorem Reaches.followFor_eq
    (hreaches : Reaches client request first log stage state) (left : Nat) :
    Opening.followFor client.policy client.fallbacks.length
        (client.attempt request) (log.length + left) .start first =
      Opening.followFor client.policy client.fallbacks.length
        (client.attempt request) left stage state := by
  induction hreaches generalizing left with
  | start => rw [List.length_nil, Nat.zero_add]
  | step hreaches hoccurs ih =>
      rw [List.length_append, List.length_singleton, Nat.add_assoc,
        Nat.add_comm 1, ih, hoccurs.followFor_eq]

/-- One thing can happen at a stage. -/
theorem Occurs.unique {other : Happening α} {next' : Opening α} {after' : σ}
    (hoccurs : Occurs client request stage state happening next after)
    (hother : Occurs client request stage state other next' after') :
    happening = other ∧ next = next' ∧ after = after' := by
  cases hoccurs with
  | resting =>
      cases hother
      exact ⟨rfl, rfl, rfl⟩
  | primary hasked hanswer | fallback hasked hanswer =>
      cases hother
      next hasked' hanswer' =>
        rw [hasked] at hasked'
        obtain ⟨rfl, rfl⟩ := Prod.mk.inj (Option.some.inj hasked')
        rw [hanswer] at hanswer'
        obtain ⟨rfl, rfl⟩ := Prod.mk.inj hanswer'
        exact ⟨rfl, rfl, rfl⟩

/-- As many happenings lead to one stage, and are the same. -/
theorem Reaches.unique {other : List (Happening α)} {stage' : Opening α}
    {state' : σ} (hreaches : Reaches client request first log stage state)
    (hother : Reaches client request first other stage' state')
    (hlength : log.length = other.length) :
    log = other ∧ stage = stage' ∧ state = state' := by
  induction hreaches generalizing other stage' state' with
  | start =>
      cases hother with
      | start => exact ⟨rfl, rfl, rfl⟩
      | step => simp at hlength
  | step _ hoccurs ih =>
      cases hother with
      | start => simp at hlength
      | step hother hoccurs' =>
          simp only [List.length_append, List.length_singleton,
            Nat.add_right_cancel_iff] at hlength
          obtain ⟨rfl, rfl, rfl⟩ := ih hother hlength
          obtain ⟨rfl, rfl, rfl⟩ := hoccurs.unique hoccurs'
          exact ⟨rfl, rfl, rfl⟩

/-- A run that has come further went on from every stage before. -/
theorem Reaches.exists_occurs
    (hreaches : Reaches client request first log stage state) {n : Nat}
    (hlt : n < log.length) :
    ∃ stage state happening next after,
      Reaches client request first (log.take n) stage state ∧
      Occurs client request stage state happening next after := by
  induction hreaches with
  | start => simp at hlt
  | @step log stage next state after happening hreaches hoccurs ih =>
      rw [List.length_append, List.length_singleton] at hlt
      rw [List.take_append_of_le_length (Nat.le_of_lt_succ hlt)]
      rcases Nat.lt_or_eq_of_le (Nat.le_of_lt_succ hlt) with hless | rfl
      · exact ih hless
      · rw [List.take_length]
        exact ⟨stage, state, happening, next, after, hreaches, hoccurs⟩

/-- No log goes on after the end. -/
theorem Reaches.length_le_of_ended {other : List (Happening α)}
    {result : Except Error α}
    (hended : Reaches client request first log (.ended result) state)
    (hother : Reaches client request first other next after) :
    other.length ≤ log.length := by
  by_contra hlonger
  have hlt : log.length < other.length := Nat.lt_of_not_le hlonger
  obtain ⟨stage, _, _, _, _, hprefix, hoccurs⟩ := hother.exists_occurs hlt
  have hlength : log.length = (other.take log.length).length := by
    rw [List.length_take, Nat.min_eq_left (Nat.le_of_lt hlt)]
  obtain ⟨-, rfl, -⟩ := hended.unique hprefix hlength
  cases hoccurs

/-- An opening whose log fits the bound on stages is followed to its end. -/
theorem Reaches.chatStream_eq {result : Except Error α}
    (hreaches : Reaches client request first log (.ended result) state)
    (hlength : log.length ≤
      2 * client.policy.maxRetries + 1 + client.fallbacks.length) :
    client.chatStream request first = (result, state) := by
  obtain ⟨left, hleft⟩ := Nat.exists_eq_add_of_le hlength
  have hfuel : 2 * client.policy.maxRetries + client.fallbacks.length + 3 =
      log.length + (left + 2) := by omega
  rw [chatStream, Opening.follow, hfuel, hreaches.followFor_eq]
  rfl

theorem Schedule.length_le {result : Except Error α}
    (hschedule : Schedule client request log result) :
    log.length ≤
      2 * client.policy.maxRetries + 1 + client.fallbacks.length := by
  cases hschedule with
  | answered hretries =>
      rw [List.length_append, length_tries, List.length_singleton]
      omega
  | rejected hretries =>
      rw [List.length_append, length_tries, List.length_singleton]
      omega
  | @fellBack _ declined _ _ stream hunavailable _ hleft =>
      have hdetours :=
        length_detours_le client request (declined ++ [some (.ok stream)])
      rw [List.length_append, List.length_singleton] at hdetours
      rw [List.length_append, List.length_append, length_tries,
        List.length_singleton, hunavailable.length_eq]
      omega
  | @exhausted _ declined _ _ hunavailable _ hall =>
      have hdetours := length_detours_le client request declined
      rw [List.length_append, List.length_append, length_tries,
        List.length_singleton, hunavailable.length_eq]
      omega

/-! ## The schedule of a run -/

/-- The opening of a stream comes to an end, and its log keeps to the schedule. -/
def Settles (client : RetryingClient σ α) (request : ModelRequest)
    (first : σ) : Prop :=
  ∃ log result final, Reaches client request first log (.ended result) final ∧
    Schedule client request log result

theorem Failed.exists_outcome {answer : Answer α}
    (hfailed : Failed answer) (policy : RetryPolicy) :
    ∃ error, Opening.outcome policy answer = .error error := by
  match answer, hfailed with
  | none, _ => exact ⟨_, rfl⟩
  | some (.error error), _ => exact ⟨error, rfl⟩

/-- A model that answers gives a stream. -/
theorem exists_stream {answer : Answer α}
    (hfailed : ¬ Failed answer) :
    ∃ stream, answer = some (.ok stream) := by
  match answer, hfailed with
  | none, hfailed => exact absurd trivial hfailed
  | some (.error _), hfailed => exact absurd trivial hfailed
  | some (.ok stream), _ => exact ⟨stream, rfl⟩

/-- A failure is a rejection, or transient. -/
theorem Failed.rejected_or_transient {answer : Answer α}
    (hfailed : Failed answer) (policy : RetryPolicy) :
    (∃ error, answer = some (.error error) ∧ error.retryable = false) ∨
      Transient answer ∧ ∃ error, Opening.outcome policy answer = .error error ∧
        error.retryable = true := by
  match answer, hfailed with
  | none, _ =>
      exact .inr ⟨trivial, _, rfl, Opening.retryable_outOfPatience policy⟩
  | some (.error error), _ =>
      cases hretryable : error.retryable with
      | false => exact .inl ⟨error, rfl, hretryable⟩
      | true => exact .inr ⟨hretryable, error, rfl, hretryable⟩

/-- Once the model is unavailable, the fallbacks that are left are asked. -/
theorem Reaches.settles_fallen {failed declined : List (Answer α)}
    {last : Answer α} {error : Error}
    (hreaches : Reaches client request first
      (tries client.policy request failed ++ [.asked 0 request last] ++
        client.detours request declined)
      (Opening.fallBack client.fallbacks.length declined.length error) state)
    (hunavailable : Unavailable client.policy failed last error)
    (hdeclined : ∀ answer ∈ declined, Failed answer)
    (hbound : declined.length ≤ client.fallbacks.length) :
    Settles client request first := by
  induction hleft : client.fallbacks.length - declined.length
    generalizing declined state with
  | zero =>
      have hall : declined.length = client.fallbacks.length := by omega
      rw [Opening.fallBack, if_neg (by omega)] at hreaches
      exact ⟨_, _, _, hreaches, .exhausted hunavailable hdeclined hall⟩
  | succ left ih =>
      have hmore : declined.length < client.fallbacks.length := by omega
      rw [Opening.fallBack, if_pos hmore] at hreaches
      obtain ⟨⟨model, fallback⟩, hfallback⟩ :
          ∃ entry, client.fallbacks[declined.length]? = some entry :=
        ⟨_, List.getElem?_eq_getElem hmore⟩
      have hasked : client.addressee? request (declined.length + 1) =
          some (fallback, { request with model }) := by
        simp only [addressee?, hfallback, Option.map_some]
      obtain ⟨⟨answer, after⟩, hanswer⟩ : ∃ pair,
          fallback { request with model } client.policy.patience state = pair :=
        ⟨_, rfl⟩
      have hnext := hreaches.step (.fallback hasked hanswer)
      rw [List.append_assoc, ← detours_concat hfallback] at hnext
      by_cases hfailed : Failed answer
      · obtain ⟨other, hother⟩ := hfailed.exists_outcome client.policy
        simp only [Opening.step, hother] at hnext
        rw [← List.length_singleton (a := answer), ← List.length_append] at hnext
        apply ih hnext
        · simpa [or_imp, forall_and] using ⟨hdeclined, hfailed⟩
        · rw [List.length_append, List.length_singleton]
          omega
        · rw [List.length_append, List.length_singleton]
          omega
      · obtain ⟨stream, rfl⟩ := exists_stream hfailed
        exact ⟨_, _, _, hnext, .fellBack hunavailable hdeclined hmore⟩

/-- An attempt at the model ends the opening, or fails for a transient reason. -/
theorem Reaches.settles_or_fails {failed : List (Answer α)}
    (hreaches : Reaches client request first
      (tries client.policy request failed) (.primary failed.length) state)
    (hretries : failed.length ≤ client.policy.maxRetries)
    (htransient : ∀ answer ∈ failed, Transient answer) :
    Settles client request first ∨ ∃ answer error after, Transient answer ∧
      Opening.outcome client.policy answer = .error error ∧
      Reaches client request first
        (tries client.policy request failed ++ [.asked 0 request answer])
        (if failed.length < client.policy.maxRetries then .resting failed.length
          else Opening.fallBack client.fallbacks.length 0 error) after := by
  obtain ⟨⟨answer, after⟩, hanswer⟩ :
      ∃ pair, client.primary request client.policy.patience state = pair :=
    ⟨_, rfl⟩
  have hnext := hreaches.step (.primary rfl hanswer)
  by_cases hfailed : Failed answer
  · obtain ⟨error, rfl, hrejected⟩ | ⟨hlate, error, herror, hretryable⟩ :=
      hfailed.rejected_or_transient client.policy
    · simp only [Opening.step, Opening.outcome, hrejected, Bool.not_false,
        if_true] at hnext
      exact .inl ⟨_, _, _, hnext, .rejected hretries htransient hrejected⟩
    · simp only [Opening.step, herror, hretryable, Bool.not_true,
        Bool.false_eq_true, if_false] at hnext
      exact .inr ⟨answer, error, after, hlate, herror, hnext⟩
  · obtain ⟨stream, rfl⟩ := exists_stream hfailed
    exact .inl ⟨_, _, _, hnext, .answered hretries htransient⟩

/-- Once an attempt at the model is due, the opening comes to an end, by way of
the attempts and fallbacks that are left. -/
theorem Reaches.settles {failed : List (Answer α)}
    (hreaches : Reaches client request first
      (tries client.policy request failed) (.primary failed.length) state)
    (hretries : failed.length ≤ client.policy.maxRetries)
    (htransient : ∀ answer ∈ failed, Transient answer) :
    Settles client request first := by
  induction hleft : client.policy.maxRetries - failed.length
    generalizing failed state with
  | zero =>
      obtain hsettles | ⟨last, error, after, hlast, herror, hnext⟩ :=
        hreaches.settles_or_fails hretries htransient
      · exact hsettles
      · rw [if_neg (by omega), ← List.append_nil (_ ++ _)] at hnext
        have hunavailable : Unavailable client.policy failed last error :=
          ⟨by omega, htransient, hlast, herror⟩
        have hfirst : Reaches client request first
            (tries client.policy request failed ++ [.asked 0 request last] ++
              client.detours request [])
            (Opening.fallBack client.fallbacks.length 0 error) after := hnext
        exact hfirst.settles_fallen hunavailable (List.forall_mem_nil _)
          (Nat.zero_le _)
  | succ left ih =>
      obtain hsettles | ⟨answer, error, after, hlate, herror, hnext⟩ :=
        hreaches.settles_or_fails hretries htransient
      · exact hsettles
      · have hmore : failed.length < client.policy.maxRetries := by omega
        rw [if_pos hmore] at hnext
        have hlength : (failed ++ [answer]).length = failed.length + 1 := by
          rw [List.length_append, List.length_singleton]
        have hagain := hnext.step .resting
        rw [List.append_assoc, List.singleton_append, ← tries_concat] at hagain
        have hagain : Reaches client request first
            (tries client.policy request (failed ++ [answer]))
            (.primary (failed ++ [answer]).length) after := by
          rwa [hlength]
        apply ih hagain
        · omega
        · simpa [or_imp, forall_and] using ⟨htransient, hlate⟩
        · omega

end Runs

/-- Every opening comes to an end, in one way only, and keeps to the schedule,
whatever the clients answer. -/
theorem chatStream_schedule (client : RetryingClient σ α)
    (request : ModelRequest) (first : σ) :
    ∃ log result final,
      client.chatStream request first = (result, final) ∧
      Schedule client request log result ∧
      Reaches client request first log (.ended result) final ∧
      ∀ other result' final',
        Reaches client request first other (.ended result') final' →
          other = log := by
  have hstart : Reaches client request first
      (tries client.policy request []) (.primary 0) first := .start
  obtain ⟨log, result, final, hreaches, hschedule⟩ :=
    hstart.settles (Nat.zero_le _) (List.forall_mem_nil _)
  refine ⟨log, result, final, hreaches.chatStream_eq hschedule.length_le,
    hschedule, hreaches, ?_⟩
  intro other result' final' hother
  have hlength : other.length = log.length := Nat.le_antisymm
    (hreaches.length_le_of_ended hother) (hother.length_le_of_ended hreaches)
  exact (hother.unique hreaches hlength).1

end RetryingClient

end Workflow
