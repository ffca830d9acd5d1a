import Workflow.Proofs.Agent.Log
import Workflow.Rehearsal.World

/-!
# Conversations that are carried out

A rehearsal takes a conversation from stage to stage, lets time pass in
between and notes what the model is asked and which tools are called.  It does
so by the moves of the conversation alone: what it notes is what can be read
off a log, and the conversation ends as that log says.
-/

namespace Workflow.Rehearsal

open Agent Agent.Conversation

variable {settings : Settings} {request : AgentConfig} {stage : Conversation}
variable {log : Log} {talk next : Talk} {first world later : World}

/-- Stages at which a conversation waits for somebody else. -/
def Waits : Conversation → Prop
  | .asking _ _ => True
  | .resting _ _ => True
  | .calling _ _ _ _ => True
  | _ => False

/-- A world that has noted some requests and calls since another. -/
structure World.Notes (world : World) (settings : Settings) (first : World)
    (asked : List ModelRequest) (called : List (String × Json)) : Prop where
  settings_eq : world.settings = settings
  asked_eq : world.asked = asked.reverse ++ first.asked
  called_eq : world.called = called.reverse ++ first.called

/-- A conversation that is being carried out, and the log that has brought it
to its stage.  Where it waits, what it waits for has been noted, and the move
that it will make has been decided on. -/
inductive Talk.Carries (settings : Settings) (first : World)
    (request : AgentConfig) (log : Log) : Talk → World → Prop
  | going {stage : Conversation} {deadline : Nat} {world : World}
      (hfollows : Follows settings request log stage)
      (hnotes : world.Notes settings first
        ((log.map Happening.stage).filterMap (asks? settings request))
        ((log.map Happening.stage).filterMap calls?)) :
      Carries settings first request log ⟨request, stage, none, deadline⟩ world
  | waiting {stage : Conversation} {deadline time : Nat} {world : World}
      (hfollows : Follows settings request log stage) (hwaits : Waits stage)
      (move : stage.Move)
      (hnotes : world.Notes settings first (asked settings request log stage)
        (called log stage)) :
      Carries settings first request log
        ⟨request, stage, some (time, step settings request stage move), deadline⟩
        world

namespace World.Notes

variable {asked : List ModelRequest} {called : List (String × Json)}

theorem define (hnotes : world.Notes settings first asked called)
    (specs : List ToolSpec) :
    (world.define specs).2.Notes settings first asked called where
  settings_eq := hnotes.settings_eq
  asked_eq := hnotes.asked_eq
  called_eq := hnotes.called_eq

theorem ask (hnotes : world.Notes settings first asked called)
    (sent : ModelRequest) :
    (world.ask sent).2.Notes settings first (asked ++ [sent]) called where
  settings_eq := hnotes.settings_eq
  asked_eq := by simp [World.ask, hnotes.asked_eq]
  called_eq := hnotes.called_eq

theorem useTool (hnotes : world.Notes settings first asked called)
    (name : String) (arguments : Json) :
    (world.useTool name arguments).2.Notes settings first asked
      (called ++ [(name, arguments)]) where
  settings_eq := hnotes.settings_eq
  asked_eq := hnotes.asked_eq
  called_eq := by simp [World.useTool, hnotes.called_eq]

theorem pass (hnotes : world.Notes settings first asked called) (now : Nat) :
    World.Notes { world with now } settings first asked called where
  settings_eq := hnotes.settings_eq
  asked_eq := hnotes.asked_eq
  called_eq := hnotes.called_eq

end World.Notes

theorem Waits.exists_halt (hwaits : Waits stage) (settings : Settings)
    (request : AgentConfig) (halt : Halt) :
    ∃ move, step settings request stage move =
      .ended (.error (halt.error settings)) := by
  cases stage with
  | asking state attempt => exact ⟨.error halt, rfl⟩
  | resting state attempt => exact ⟨.error halt, rfl⟩
  | calling state results call rest => exact ⟨.error halt, rfl⟩
  | _ => exact hwaits.elim

/-- A conversation that makes a move after what it waited for was noted. -/
theorem Talk.carries_move {deadline : Nat}
    (hfollows : Follows settings request log stage) (move : stage.Move)
    (hnotes : world.Notes settings first (asked settings request log stage)
      (called log stage)) :
    Talk.Carries settings first request (log ++ [⟨stage, move⟩])
      ⟨request, step settings request stage move, none, deadline⟩ world := by
  refine .going (hfollows.snoc move) ?_
  simpa [asked, called, stages] using hnotes

theorem Talk.carries_later {deadline : Nat} {delay : Nat}
    (hfollows : Follows settings request log stage) (hwaits : Waits stage)
    (move : stage.Move)
    (hnotes : world.Notes settings first (asked settings request log stage)
      (called log stage)) :
    ∃ more, log <+: more ∧ Talk.Carries settings first request more
      (Talk.later ⟨request, stage, none, deadline⟩ world delay
        (step settings request stage move)) world := by
  unfold Talk.later
  split
  · exact ⟨_, List.prefix_append _ _, Talk.carries_move hfollows move hnotes⟩
  · exact ⟨log, List.prefix_rfl, .waiting hfollows hwaits move hnotes⟩

/-- One stage further, a conversation is still carried out by its moves. -/
theorem Talk.Carries.step? {cancelled : Bool}
    (hcarries : talk.Carries settings first request log world)
    (hstep : talk.step? cancelled world = some (next, later)) :
    ∃ more, log <+: more ∧
      next.Carries settings first request more later := by
  cases hcarries with
  | @waiting stage deadline time _ hfollows hwaits move hnotes =>
      have hmoves (move : stage.Move) :
          ∃ more, log <+: more ∧ Talk.Carries settings first request more
            ⟨request, step settings request stage move, none, deadline⟩ world :=
        ⟨_, List.prefix_append _ _, Talk.carries_move hfollows move hnotes⟩
      have hhalts (halt : Halt) :
          ∃ more, log <+: more ∧ Talk.Carries settings first request more
            ⟨request, .ended (.error (halt.error world.settings)), none, deadline⟩
            world := by
        obtain ⟨move, hhalt⟩ := hwaits.exists_halt settings request halt
        rw [hnotes.settings_eq, ← hhalt]
        exact hmoves move
      simp only [Talk.step?] at hstep
      split at hstep
      · obtain ⟨rfl, rfl⟩ := Prod.mk.inj (Option.some.inj hstep)
        exact hhalts .cancelled
      · split at hstep
        · obtain ⟨rfl, rfl⟩ := Prod.mk.inj (Option.some.inj hstep)
          exact hmoves move
        · split at hstep
          · obtain ⟨rfl, rfl⟩ := Prod.mk.inj (Option.some.inj hstep)
            exact hhalts .outOfTime
          · simp at hstep
  | @going stage deadline _ hfollows hnotes =>
      obtain rfl := hnotes.settings_eq
      cases stage with
      | discovering =>
          have hnext : some (Talk.mk request (step world.settings request
              .discovering (some (world.define request.tools).1)) none deadline,
              (world.define request.tools).2) = some (next, later) := hstep
          obtain ⟨rfl, rfl⟩ := Prod.mk.inj (Option.some.inj hnext)
          refine ⟨_, List.prefix_append _ _, Talk.carries_move hfollows _ ?_⟩
          rw [asked_eq, called_eq]
          simpa [asks?, calls?] using hnotes.define request.tools
      | ready state =>
          obtain ⟨rfl, rfl⟩ := Prod.mk.inj (Option.some.inj hstep)
          refine ⟨_, List.prefix_append _ _, Talk.carries_move hfollows _ ?_⟩
          rw [asked_eq, called_eq]
          simpa [asks?, calls?] using hnotes
      | asking state attempt =>
          obtain ⟨rfl, rfl⟩ := Prod.mk.inj (Option.some.inj hstep)
          have hquiet : called log (.asking state attempt) =
              (log.map Happening.stage).filterMap calls? := by
            simp [called_eq, calls?]
          refine Talk.carries_later hfollows trivial _ ?_
          rw [asked_eq, hquiet]
          exact hnotes.ask _
      | resting state attempt =>
          obtain ⟨rfl, rfl⟩ := Prod.mk.inj (Option.some.inj hstep)
          refine Talk.carries_later hfollows trivial _ ?_
          rw [asked_eq, called_eq]
          simpa [asks?, calls?] using hnotes
      | calling state results call rest =>
          obtain ⟨rfl, rfl⟩ := Prod.mk.inj (Option.some.inj hstep)
          have hquiet : asked world.settings request log
              (.calling state results call rest) =
                (log.map Happening.stage).filterMap
                  (asks? world.settings request) := by
            simp [asked_eq, asks?]
          refine Talk.carries_later hfollows trivial _ ?_
          rw [called_eq, hquiet]
          exact hnotes.useTool _ _
      | ended result => simp [Talk.step?] at hstep

theorem Talk.carries_start (world : World) (request : AgentConfig) :
    (Talk.start world request).Carries world.settings world request [] world :=
  .going .nil ⟨rfl, rfl, rfl⟩

/-- Letting time pass changes nothing of what has been noted. -/
theorem Talk.Carries.pass
    (hcarries : talk.Carries settings first request log world) (now : Nat) :
    talk.Carries settings first request log { world with now } := by
  cases hcarries with
  | going hfollows hnotes => exact .going hfollows (hnotes.pass now)
  | waiting hfollows hwaits move hnotes =>
      exact .waiting hfollows hwaits move (hnotes.pass now)

theorem Talk.Carries.advanceFor (cancelled : Bool) (fuel : Nat)
    (hcarries : talk.Carries settings first request log world) :
    ∃ more, log <+: more ∧
      (Talk.advanceFor cancelled fuel talk world).1.Carries settings first
        request more (Talk.advanceFor cancelled fuel talk world).2 := by
  induction fuel generalizing talk world log with
  | zero => exact ⟨log, List.prefix_rfl, hcarries⟩
  | succ fuel ih =>
      rw [Talk.advanceFor]
      cases hstep : talk.step? cancelled world with
      | none => exact ⟨log, List.prefix_rfl, hcarries⟩
      | some moved =>
          obtain ⟨more, hmore, hnext⟩ := hcarries.step? hstep
          obtain ⟨most, hmost, hlast⟩ := ih hnext
          exact ⟨most, hmore.trans hmost, hlast⟩

theorem Talk.Carries.finishFor {cancelled : Bool} {cancelAt : Option Nat}
    (fuel : Nat) (hcarries : talk.Carries settings first request log world) :
    ∃ more last,
      Talk.Carries settings first request more last
        (Talk.finishFor fuel cancelled cancelAt talk world).2 ∧
      (last.stage = .ended (Talk.finishFor fuel cancelled cancelAt talk world).1 ∨
        (Talk.finishFor fuel cancelled cancelAt talk world).1 =
          .error .cancelled) := by
  induction fuel generalizing talk world log cancelled cancelAt with
  | zero => exact ⟨log, talk, hcarries, .inr rfl⟩
  | succ fuel ih =>
      obtain ⟨more, -, hmore⟩ := hcarries.advanceFor cancelled plenty
      rw [Talk.finishFor, Talk.advance]
      generalize Talk.advanceFor cancelled plenty talk world = advanced at hmore
      obtain ⟨talk, world⟩ := advanced
      dsimp only
      split
      next result hended => exact ⟨more, talk, hmore, .inl hended⟩
      next =>
        split
        · split
          · exact ih (hmore.pass _)
          · exact ih (hmore.pass _)
        · exact ih (hmore.pass _)

/-- A conversation that is carried to its end follows a log, and all requests
and calls that have been noted are those of this log. -/
theorem Talk.carries_finish (cancelled : Bool) (cancelAt : Option Nat)
    (world : World) (request : AgentConfig) :
    ∃ log last,
      Talk.Carries world.settings world request log last
        ((Talk.start world request).finish cancelled cancelAt world).2 ∧
      (last.stage =
          .ended ((Talk.start world request).finish cancelled cancelAt world).1 ∨
        ((Talk.start world request).finish cancelled cancelAt world).1 =
          .error .cancelled) :=
  (Talk.carries_start world request).finishFor plenty

end Workflow.Rehearsal
