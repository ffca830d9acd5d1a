import Workflow.Proofs.Text.Digits
import Workflow.Proofs.Text.Piece
import Workflow.ToolServer.Calling

/-!
# Calls that are made twice

A call is made a second time when the wording of its failure tells of a closed
connection.  The wording also has the names of the server and of the tool in it,
and what the server said, so it may tell of a closed connection when there is an
open one.  `suspect_iff` says when exactly a call is taken for cut off.  Where
neither the names nor the answer of the server have one of the words, that is
just when it was cut off, and every other failure ends the call and leaves the
connections alone: `Leads.careful`.
-/

namespace Workflow.ToolServer

variable {server tool : String} {failure : Failure}

/-! ## Words in the wording of failures -/

section

variable {word : List Char} (hword : word.all (64 < ·.toNat) = true)

include hword

/-- Letters come after digits and most punctuation marks. -/
theorem lt_toNat_of_mem {c : Char} (hmem : c ∈ word) : 64 < c.toNat := by
  simpa using List.all_eq_true.mp hword c hmem

/-- A word of letters does not reach across a space or a punctuation mark. -/
theorem word_infix_iff {c : Char} {front rest : List Char} (hc : c.toNat ≤ 64) :
    word <:+: front ++ c :: rest ↔ word <:+: front ∨ word <:+: rest :=
  Text.infix_append_cons_iff fun hmem =>
    absurd (lt_toNat_of_mem hword hmem) (Nat.not_lt.mpr hc)

theorem word_infix_notConnected :
    word <:+: (notConnected server).message.toList ↔
      word <:+: "MCP error: Server ".toList ∨ word <:+: server.toList ∨
        word <:+: " not connected".toList := by
  have hmessage : (notConnected server).message =
      "MCP error: " ++ ("Server '" ++ server ++ "' not connected") := rfl
  have hlist : (notConnected server).message.toList =
      "MCP error: Server ".toList ++ '\'' ::
        (server.toList ++ '\'' :: " not connected".toList) := by
    rw [hmessage]
    simp only [String.toList_append, String.reduceToList, List.cons_append,
      List.nil_append]
  rw [hlist, word_infix_iff hword (by decide), word_infix_iff hword (by decide)]

theorem word_infix_notCalled :
    word <:+: (notCalled server tool failure).message.toList ↔
      word <:+: "MCP error: Tool call ".toList ∨ word <:+: server.toList ∨
        word <:+: tool.toList ∨ word <:+: " failed:".toList ∨
          word <:+: failure.message.toList := by
  have hmessage : (notCalled server tool failure).message =
      "MCP error: " ++ ("Tool call '" ++ server ++ "." ++ tool ++ "' failed: " ++
        failure.message) := rfl
  have hlist : (notCalled server tool failure).message.toList =
      "MCP error: Tool call ".toList ++ '\'' ::
        (server.toList ++ '.' :: (tool.toList ++ '\'' ::
          (" failed:".toList ++ ' ' :: failure.message.toList))) := by
    rw [hmessage]
    simp only [String.toList_append, List.append_assoc, String.reduceToList,
      List.cons_append, List.nil_append]
  rw [hlist, word_infix_iff hword (by decide), word_infix_iff hword (by decide),
    word_infix_iff hword (by decide), word_infix_iff hword (by decide)]

/-- A number is written without letters. -/
theorem not_word_infix_int (hne : word ≠ []) (n : Int) :
    ¬ word <:+: (toString n).toList := by
  intro hinfix
  obtain ⟨c, rest, rfl⟩ := List.exists_cons_of_ne_nil hne
  have hletter : 64 < c.toNat := lt_toNat_of_mem hword (List.mem_cons_self ..)
  have hmem : c ∈ (toString n).toList := hinfix.subset (List.mem_cons_self ..)
  have hdigits : ∀ m : Nat, c ∉ (Nat.repr m).toList := by
    intro m hmem
    rw [Nat.toList_repr] at hmem
    have hdigit := Nat.isDigit_of_mem_toDigits (by decide) (by decide) hmem
    have hle := (Text.isDigit_iff.mp hdigit).2
    omega
  cases n with
  | ofNat n => exact hdigits n hmem
  | negSucc n =>
      have hmem : c ∈ ("-" ++ Nat.repr (n + 1)).toList := hmem
      rw [String.toList_append, List.mem_append] at hmem
      obtain hsign | hmem := hmem
      · obtain rfl := List.mem_singleton.mp hsign
        contradiction
      · exact hdigits (n + 1) hmem

theorem word_infix_refused (hne : word ≠ []) (code : Int) (message : String) :
    word <:+: (Failure.refused code message).message.toList ↔
      word <:+: "Mcp error:".toList ∨ word <:+: message.toList := by
  have hmessage : (Failure.refused code message).message =
      "Mcp error: " ++ toString code ++ ": " ++ message := rfl
  have hlist : (Failure.refused code message).message.toList =
      "Mcp error:".toList ++ ' ' :: ((toString code).toList ++ ':' ::
        ([] ++ ' ' :: message.toList)) := by
    rw [hmessage]
    simp only [String.toList_append, List.append_assoc, String.reduceToList,
      List.cons_append, List.nil_append]
  rw [hlist, word_infix_iff hword (by decide), word_infix_iff hword (by decide),
    word_infix_iff hword (by decide), List.infix_nil, or_iff_right hne,
    or_iff_right (not_word_infix_int hword hne code)]

end

/-- A text has one of the words that a closed connection is told by. -/
def Mentions (text : String) : Prop :=
  Text.contains "closed" text = true ∨ Text.contains "Transport" text = true

instance (text : String) : Decidable (Mentions text) :=
  inferInstanceAs (Decidable (_ ∨ _))

theorem mentions_iff {text : String} :
    Mentions text ↔
      "closed".toList <:+: text.toList ∨ "Transport".toList <:+: text.toList := by
  simp only [Mentions, Text.contains_iff]

theorem mentions_notConnected :
    Mentions (notConnected server).message ↔ Mentions server := by
  have hparts : Mentions (notConnected server).message ↔
      Mentions "MCP error: Server " ∨ Mentions server ∨
        Mentions " not connected" := by
    simp only [mentions_iff]
    rw [word_infix_notConnected (by decide), word_infix_notConnected (by decide)]
    simp only [or_assoc, or_left_comm, or_comm]
  rw [hparts, or_iff_right (by decide), or_iff_left (by decide)]

theorem mentions_notCalled :
    Mentions (notCalled server tool failure).message ↔
      Mentions server ∨ Mentions tool ∨ Mentions failure.message := by
  have hparts : Mentions (notCalled server tool failure).message ↔
      Mentions "MCP error: Tool call " ∨ Mentions server ∨ Mentions tool ∨
        Mentions " failed:" ∨ Mentions failure.message := by
    simp only [mentions_iff]
    rw [word_infix_notCalled (by decide), word_infix_notCalled (by decide)]
    simp only [or_assoc, or_left_comm, or_comm]
  have htool : ¬ Mentions "MCP error: Tool call " := by decide
  have hfailed : ¬ Mentions " failed:" := by decide
  rw [hparts, or_iff_right htool, or_iff_right hfailed]

theorem mentions_failure :
    Mentions failure.message ↔ failure = .closed ∨
      ∃ code message, failure = .refused code message ∧ Mentions message := by
  cases failure with
  | refused code message =>
      have hparts : Mentions (Failure.refused code message).message ↔
          Mentions "Mcp error:" ∨ Mentions message := by
        simp only [mentions_iff]
        rw [word_infix_refused (by decide) (by decide),
          word_infix_refused (by decide) (by decide)]
        simp only [or_assoc, or_left_comm, or_comm]
      rw [hparts, or_iff_right (by decide)]
      simp
  | closed => exact iff_of_true (by decide) (.inl rfl)
  | unexpected => exact iff_of_false (by decide) (by simp)

/-! ## What is taken for a closed connection -/

/-- What a request comes to; nothing if there is no connection. -/
abbrev Attempt := Option (Except Failure ToolOutput)

namespace Calling

variable {address : Address} {attempt first : Attempt}

/-- An attempt whose failure is worded like a closed connection. -/
def Suspect (address : Address) (attempt : Attempt) : Prop :=
  ∃ error, outcome address attempt = .error error ∧ tellsOfClosing error = true

theorem tellsOfClosing_iff {error : Error} :
    tellsOfClosing error = true ↔ Mentions error.message := by
  simp [tellsOfClosing, Mentions]

/-- A failure is taken for a closed connection if it is one, or if one of the
words is in the name of the server or the tool, or in what the server says. -/
theorem suspect_iff :
    Suspect address attempt ↔
      attempt = none ∧ Mentions address.server ∨
      ∃ failure, attempt = some (.error failure) ∧
        (Mentions address.server ∨ Mentions address.tool ∨ failure = .closed ∨
          ∃ code message, failure = .refused code message ∧ Mentions message) := by
  match attempt with
  | none => simp [Suspect, outcome, tellsOfClosing_iff, mentions_notConnected]
  | some (.error failure) =>
      simp [Suspect, outcome, tellsOfClosing_iff, mentions_notCalled, mentions_failure]
  | some (.ok output) => simp [Suspect, outcome]

/-! ## The runs of a call -/

variable {κ : Type} {before after : Connections κ} {attempts : List Attempt}
variable {stage : Calling}

/-- How far a call can come with what connections, and the attempts on the way.
Answers and the attempts to reach the server again are arbitrary. -/
inductive Leads {κ : Type} (address : Address) (before : Connections κ) :
    List Attempt → Connections κ → Calling → Prop
  | start : Leads address before [] before .asking
  | ask {attempts : List Attempt} {after : Connections κ}
      (hrun : Leads address before attempts after .asking) (attempt : Attempt)
      (hlink : attempt = none ↔ Assoc.get? after.links address.server = none) :
      Leads address before (attempts ++ [attempt]) after
        (step address .asking attempt)
  | redial {attempts : List Attempt} {after : Connections κ} {error : Error}
      (hrun : Leads address before attempts after (.redialling error))
      (dial : ServerConfig → Except DialFailure κ) :
      Leads address before attempts (after.reconnect address.server dial).2
        (step address (.redialling error)
          (after.reconnect address.server dial).1.isOk)
  | askAgain {attempts : List Attempt} {after : Connections κ}
      (hrun : Leads address before attempts after .askingAgain) (attempt : Attempt)
      (hlink : attempt = none ↔ Assoc.get? after.links address.server = none) :
      Leads address before (attempts ++ [attempt]) after
        (step address .askingAgain attempt)

/-- What a stage tells about the attempts and the connections. -/
def Fits (address : Address) (before : Connections κ) (attempts : List Attempt)
    (after : Connections κ) : Calling → Prop
  | asking => attempts = [] ∧ after = before
  | redialling _ =>
    ∃ first, attempts = [first] ∧ after = before ∧ Suspect address first
  | askingAgain => ∃ first, attempts = [first] ∧ Suspect address first
  | ended result =>
    ∃ first, attempts = [first] ∧ after = before ∧ result = outcome address first ∨
      attempts.head? = some first ∧ attempts.length ≤ 2 ∧ Suspect address first

theorem fits_asked (first : Attempt) :
    Fits address before [first] before (step address .asking first) := by
  cases houtcome : outcome address first with
  | ok output =>
      have hstep : step address .asking first = .ended (.ok output) := by
        simp [step, houtcome]
      rw [hstep]
      exact ⟨first, .inl ⟨rfl, rfl, houtcome.symm⟩⟩
  | error error =>
      by_cases htells : tellsOfClosing error = true
      · have hstep : step address .asking first = .redialling error := by
          simp [step, houtcome, htells]
        rw [hstep]
        exact ⟨first, rfl, rfl, error, houtcome, htells⟩
      · have hstep : step address .asking first = .ended (.error error) := by
          simp [step, houtcome, htells]
        rw [hstep]
        exact ⟨first, .inl ⟨rfl, rfl, houtcome.symm⟩⟩

theorem Leads.fits (hrun : Leads address before attempts after stage) :
    Fits address before attempts after stage := by
  induction hrun with
  | start => exact ⟨rfl, rfl⟩
  | ask hrun attempt hlink ih =>
      obtain ⟨rfl, rfl⟩ := ih
      exact fits_asked attempt
  | redial hrun dial ih =>
      obtain ⟨first, rfl, rfl, hsuspect⟩ := ih
      unfold step
      split
      next => contradiction
      next => exact ⟨first, rfl, hsuspect⟩
      next => exact ⟨first, .inr ⟨rfl, by simp, hsuspect⟩⟩
      next => contradiction
  | askAgain hrun attempt hlink ih =>
      obtain ⟨first, rfl, hsuspect⟩ := ih
      exact ⟨first, .inr ⟨rfl, le_rfl, hsuspect⟩⟩

/-- Before the first attempt, after one that ended the call, or after one that
was taken for a closed connection. -/
theorem Fits.cases (hfits : Fits address before attempts after stage) :
    attempts.length ≤ 2 ∧ (attempts = [] ∨
      (∃ first, attempts = [first] ∧ after = before ∧
        stage = .ended (outcome address first)) ∨
      ∃ first, attempts.head? = some first ∧ Suspect address first) := by
  cases stage with
  | asking =>
      obtain ⟨rfl, -⟩ := hfits
      exact ⟨by simp, .inl rfl⟩
  | redialling error =>
      obtain ⟨first, rfl, -, hsuspect⟩ := hfits
      exact ⟨by simp, .inr (.inr ⟨first, rfl, hsuspect⟩)⟩
  | askingAgain =>
      obtain ⟨first, rfl, hsuspect⟩ := hfits
      exact ⟨by simp, .inr (.inr ⟨first, rfl, hsuspect⟩)⟩
  | ended result =>
      obtain ⟨first, ⟨rfl, hafter, rfl⟩ | ⟨hfirst, hlength, hsuspect⟩⟩ := hfits
      · exact ⟨by simp, .inr (.inl ⟨first, rfl, hafter, rfl⟩)⟩
      · exact ⟨hlength, .inr (.inr ⟨first, hfirst, hsuspect⟩)⟩

/-- A call that is made twice only if it was cut off the first time. -/
structure Careful (address : Address) (before after : Connections κ)
    (attempts : List Attempt) (stage : Calling) : Prop where
  at_most_twice : attempts.length ≤ 2
  again_if_closed : 2 ≤ attempts.length →
    attempts.head? = some (some (.error .closed))
  /-- What is no closed connection is the end, and changes no connection. -/
  otherwise : ∀ first, attempts.head? = some first → first ≠ some (.error .closed) →
    attempts = [first] ∧ after = before ∧ stage = .ended (outcome address first)

/-- A call is made twice only if it was cut off, as long as the words for that
are neither in the names of the server and the tool nor in what the server says
when it refuses the call. -/
theorem Leads.careful (hserver : ¬ Mentions address.server)
    (htool : ¬ Mentions address.tool)
    (hrefused : ∀ code message,
      attempts.head? = some (some (.error (.refused code message))) →
        ¬ Mentions message)
    (hrun : Leads address before attempts after stage) :
    Careful address before after attempts stage := by
  have hclosed : ∀ first, attempts.head? = some first → Suspect address first →
      first = some (.error .closed) := by
    intro first hfirst hsuspect
    obtain ⟨-, hmentions⟩ | ⟨failure, rfl, hfailure⟩ := suspect_iff.mp hsuspect
    · exact absurd hmentions hserver
    · obtain hmentions | hmentions | rfl | ⟨code, message, rfl, hmentions⟩ := hfailure
      · exact absurd hmentions hserver
      · exact absurd hmentions htool
      · rfl
      · exact absurd hmentions (hrefused code message hfirst)
  obtain ⟨hlength, rfl | ⟨first, rfl, hafter, hstage⟩ | ⟨first, hfirst, hsuspect⟩⟩ :=
    hrun.fits.cases
  · exact ⟨hlength, by simp, by simp⟩
  · refine ⟨hlength, by simp, ?_⟩
    intro first' hfirst _
    obtain rfl : first = first' := by simpa using hfirst
    exact ⟨rfl, hafter, hstage⟩
  · have hcut := hclosed first hfirst hsuspect
    refine ⟨hlength, fun _ => hcut ▸ hfirst, ?_⟩
    intro first' hfirst' hother
    rw [hfirst] at hfirst'
    exact absurd (Option.some.inj hfirst' ▸ hcut) hother

end Calling

/-! ## A server of tickets -/

namespace Tickets

open Calling

def config : ServerConfig :=
  ⟨.http "http://localhost/tickets", true, 120⟩

/-- Connections, told apart by numbers. -/
def before : Connections Nat :=
  ⟨[("tickets", 0)], [("tickets", config)]⟩

def redialled : Connections Nat :=
  ⟨[("tickets", 1)], [("tickets", config)]⟩

theorem reconnect_before :
    before.reconnect "tickets" (fun _ => .ok 1) = (.ok (), redialled) :=
  rfl

/-- A first attempt that is taken for a closed connection, and a second one over
another connection. -/
theorem leads_again {tool : String} {arguments : Option (Assoc Json)}
    {first again : Attempt} (hfirst : first ≠ none) (hagain : again ≠ none)
    (hsuspect : Suspect ⟨"tickets", tool, arguments⟩ first) :
    Leads ⟨"tickets", tool, arguments⟩ before [first, again] redialled
      (.ended (outcome ⟨"tickets", tool, arguments⟩ again)) := by
  obtain ⟨error, houtcome, htells⟩ := hsuspect
  have hasked : Leads ⟨"tickets", tool, arguments⟩ before [first] before
      (.redialling error) := by
    have hstart : Leads ⟨"tickets", tool, arguments⟩ before [] before .asking :=
      .start
    have hlink : Assoc.get? before.links "tickets" ≠ none := by decide
    simpa [step, houtcome, htells] using hstart.ask first (iff_of_false hfirst hlink)
  have hredialled : Leads ⟨"tickets", tool, arguments⟩ before [first] redialled
      .askingAgain := by
    have hredial := hasked.redial fun _ => .ok 1
    rwa [reconnect_before] at hredial
  have hlink : Assoc.get? redialled.links "tickets" ≠ none := by decide
  exact hredialled.askAgain again (iff_of_false hagain hlink)

def query : Address :=
  ⟨"tickets", "query", none⟩

def cutOff : Attempt :=
  some (.error .closed)

def answered : Attempt :=
  some (.ok (.success "3 tickets"))

/-- A call that was cut off is made again. -/
theorem careful_query :
    Leads query before [cutOff, answered] redialled (.ended (outcome query answered)) ∧
      Careful query before redialled [cutOff, answered]
        (.ended (outcome query answered)) := by
  have hrun : Leads query before [cutOff, answered] redialled
      (.ended (outcome query answered)) :=
    leads_again (by simp [cutOff]) (by simp [answered]) ⟨_, rfl, by decide⟩
  exact ⟨hrun, hrun.careful (by decide) (by decide) (by simp [cutOff])⟩

def reopen : Address :=
  ⟨"tickets", "reopen", none⟩

def refused : Attempt :=
  some (.error (.refused (-32000) "ticket 7 is closed"))

def listClosed : Address :=
  ⟨"tickets", "list_closed", none⟩

def misunderstood : Attempt :=
  some (.error .unexpected)

/-- A server that says that a ticket is closed is asked twice, and so is one
that answers with something else if the name of the tool has the word. -/
theorem asked_twice :
    Leads reopen before [refused, refused] redialled
        (.ended (outcome reopen refused)) ∧
      ¬ Careful reopen before redialled [refused, refused]
        (.ended (outcome reopen refused)) ∧
      Leads listClosed before [misunderstood, misunderstood] redialled
        (.ended (outcome listClosed misunderstood)) ∧
      ¬ Careful listClosed before redialled [misunderstood, misunderstood]
        (.ended (outcome listClosed misunderstood)) := by
  refine ⟨?_, ?_, ?_, ?_⟩
  · exact leads_again (by simp [refused]) (by simp [refused]) ⟨_, rfl, by decide⟩
  · intro hcareful
    have hclosed := hcareful.again_if_closed le_rfl
    simp [refused] at hclosed
  · exact leads_again (by simp [misunderstood]) (by simp [misunderstood])
      ⟨_, rfl, by decide⟩
  · intro hcareful
    have hclosed := hcareful.again_if_closed le_rfl
    simp [misunderstood] at hclosed

end Tickets

end Workflow.ToolServer
