import Workflow.Proofs.Assoc
import Workflow.Proofs.Event.Bus
import Workflow.ToolServer.Listing

/-!
# How fresh the cache is

Many gather definitions at once, servers list their tools page by page and
announce changes in between, and announcements are heard some time after they
were made.  A `Desk` is all that together, and the log of what was listed and
kept.

A listing that was asked for before a change can be kept after the change was
heard.  Then it is `Overtaken`, and stays in the cache although everything has
been heard.  `Reachable.fresh` says that this is the only way: where no listing
is overtaken, all that is offered from the cache has been listed since its
server last announced a change.
-/

namespace Workflow.ToolServer

/-- A page that a server has listed, and how many announcements there had been. -/
structure Answer where
  server : String
  page : Page
  time : Nat

/-- A listing that was put into the cache.  It was asked for when there had been
so many announcements, and kept when so many had been heard. -/
structure Keeping where
  server : String
  tools : List Listed
  asked : Nat
  heard : Nat

/-- A change of the server was heard before the listing was kept, and announced
after it was asked for. -/
def Keeping.Overtaken (keeping : Keeping) (announced : List Announcement) : Prop :=
  .toolsChanged keeping.server ∈ (announced.take keeping.heard).drop keeping.asked

/-- Somebody who gathers definitions.  For a listing that is under way, it is
known how many announcements there had been when it was asked for. -/
structure Gatherer where
  stage : Gathering
  asked : Option Nat

/-- The cache, everybody who uses it, and everything that has happened. -/
structure Desk where
  cache : ToolCache
  gatherers : List Gatherer
  /-- What servers have announced, the oldest first. -/
  announced : List Announcement
  bus : Bus Announcement
  /-- How far the announcements have been heard. -/
  reader : BusReader
  answers : List Answer
  /-- The listings that were kept, the latest first. -/
  kept : List Keeping

namespace Desk

/-- A desk that hears what is announced from now on. -/
def opened (announced : List Announcement) : Desk :=
  let bus := announced.foldl Bus.publish announcements
  ⟨[], [], announced, bus, bus.subscribe, [], []⟩

/-- The page that an answer to a request is. -/
def pages (server : String) (time : Nat) :
    Option (Except Failure Page) → List Answer
  | some (.ok page) => [⟨server, page, time⟩]
  | _ => []

/-- What can happen next.  Listings of several gatherers may overlap, although a
client that locks its connections makes them wait for each other. -/
inductive Step (desk : Desk) : Desk → Prop
  | come (specs : List ToolSpec) :
      Step desk { desk with
        gatherers := desk.gatherers ++ [⟨.start specs, none⟩] }
  | leave {front rest : List Gatherer} {gatherer : Gatherer}
      (hat : desk.gatherers = front ++ gatherer :: rest) :
      Step desk { desk with gatherers := front ++ rest }
  | look {front rest : List Gatherer} {sofar : List ToolDefinition}
      {specs : List ToolSpec}
      (hat : desk.gatherers = front ++ ⟨.looking sofar specs, none⟩ :: rest) :
      Step desk { desk with
        gatherers := front ++
          ⟨(Gathering.step desk.cache (.looking sofar specs) ()).2, none⟩ :: rest }
  | ask {front rest : List Gatherer} {sofar : List ToolDefinition}
      {spec : ToolSpec} {specs : List ToolSpec} {tools : List Listed}
      (hat : desk.gatherers =
        front ++ ⟨.listing sofar spec specs tools, none⟩ :: rest) :
      Step desk { desk with
        gatherers := front ++
          ⟨.listing sofar spec specs tools, some desk.announced.length⟩ :: rest }
  | answer {front rest : List Gatherer} {sofar : List ToolDefinition}
      {spec : ToolSpec} {specs : List ToolSpec} {tools : List Listed} {asked : Nat}
      (hat : desk.gatherers =
        front ++ ⟨.listing sofar spec specs tools, some asked⟩ :: rest)
      (answer : Option (Except Failure Page)) :
      Step desk { desk with
        gatherers := front ++
          ⟨(Gathering.step desk.cache (.listing sofar spec specs tools) answer).2,
            some asked⟩ :: rest
        answers := desk.answers ++ pages spec.server desk.announced.length answer }
  | keep {front rest : List Gatherer} {sofar : List ToolDefinition}
      {spec : ToolSpec} {specs : List ToolSpec} {tools : List Listed} {asked : Nat}
      (hat : desk.gatherers =
        front ++ ⟨.keeping sofar spec specs tools, some asked⟩ :: rest) :
      Step desk { desk with
        cache := (Gathering.step desk.cache (.keeping sofar spec specs tools) ()).1
        gatherers := front ++
          ⟨(Gathering.step desk.cache (.keeping sofar spec specs tools) ()).2,
            none⟩ :: rest
        kept := ⟨spec.server, tools, asked, desk.reader.position⟩ :: desk.kept }
  | announce (announcement : Announcement) :
      Step desk { desk with
        announced := desk.announced ++ [announcement]
        bus := desk.bus.publish announcement }
  | hear {received : Received Announcement} {reader : BusReader}
      (hnext : desk.bus.next? desk.reader = some (received, reader)) :
      Step desk { desk with cache := desk.cache.heed received, reader }

/-- What a desk can come to. -/
inductive Reachable : Desk → Prop
  | opened (announced : List Announcement) : Reachable (opened announced)
  | step {desk later : Desk} (hreach : Reachable desk) (hstep : desk.Step later) :
      Reachable later

variable {desk later : Desk} {server : String} {tools : List Listed}
variable {announced : List Announcement} {answers : List Answer} {asked : Nat}

/-! ## Where listings come from -/

/-- A server has listed all these tools, and none before some time. -/
def Backed (answers : List Answer) (server : String) (asked : Nat)
    (tools : List Listed) : Prop :=
  ∀ tool ∈ tools, ∃ answer ∈ answers,
    answer.server = server ∧ tool ∈ answer.page.tools ∧ asked ≤ answer.time

theorem backed_nil : Backed answers server asked [] := by
  simp [Backed]

theorem Backed.mono {more : List Answer} (hbacked : Backed answers server asked tools)
    (hmore : answers ⊆ more) : Backed more server asked tools := by
  intro tool htool
  obtain ⟨answer, hanswer, hrest⟩ := hbacked tool htool
  exact ⟨answer, hmore hanswer, hrest⟩

/-- Another page was listed. -/
theorem Backed.page (hbacked : Backed answers server asked tools) {time : Nat}
    (hle : asked ≤ time) (page : Page) :
    Backed (answers ++ [⟨server, page, time⟩]) server asked (tools ++ page.tools) := by
  intro tool htool
  obtain htool | htool := List.mem_append.mp htool
  · exact hbacked.mono (List.subset_append_left _ _) tool htool
  · exact ⟨⟨server, page, time⟩, by simp, rfl, htool, hle⟩

/-- What is known of somebody who gathers definitions. -/
def Accounted (announced : List Announcement) (answers : List Answer) :
    Gatherer → Prop
  | ⟨.listing _ _ _ tools, none⟩ => tools = []
  | ⟨.listing _ spec _ tools, some asked⟩ =>
    asked ≤ announced.length ∧ Backed answers spec.server asked tools
  | ⟨.keeping _ spec _ tools, some asked⟩ => Backed answers spec.server asked tools
  | _ => True

theorem Accounted.mono {gatherer : Gatherer} {later : List Announcement}
    {more : List Answer} (haccounted : Accounted announced answers gatherer)
    (hlater : announced.length ≤ later.length) (hmore : answers ⊆ more) :
    Accounted later more gatherer := by
  obtain ⟨stage, asked⟩ := gatherer
  cases stage with
  | looking => trivial
  | ended => trivial
  | listing =>
      cases asked with
      | none => exact haccounted
      | some asked =>
          obtain ⟨hle, hbacked⟩ := haccounted
          exact ⟨hle.trans hlater, hbacked.mono hmore⟩
  | keeping =>
      cases asked with
      | none => trivial
      | some asked => exact Backed.mono haccounted hmore

/-- A desk on which everything that is kept can be traced back. -/
structure Sound (desk : Desk) : Prop where
  holds : desk.bus.Holds desk.announced
  heard : desk.reader.position ≤ desk.announced.length
  gatherers : ∀ gatherer ∈ desk.gatherers,
    Accounted desk.announced desk.answers gatherer
  kept : ∀ keeping ∈ desk.kept, keeping.heard ≤ desk.reader.position ∧
    Backed desk.answers keeping.server keeping.asked keeping.tools
  /-- No change of the server was heard since. -/
  cache : ∀ server tools, Assoc.get? desk.cache server = some tools →
    ∃ keeping, desk.kept.find? (·.server = server) = some keeping ∧
      keeping.tools = tools ∧
      .toolsChanged server ∉
        (desk.announced.take desk.reader.position).drop keeping.heard

theorem holds_foldl {bus : Bus Announcement} (hholds : bus.Holds announced)
    (more : List Announcement) :
    (more.foldl Bus.publish bus).Holds (announced ++ more) := by
  induction more generalizing announced bus with
  | nil => simpa using hholds
  | cons announcement more ih =>
      simpa using ih (hholds.publish announcement)

theorem sound_opened (announced : List Announcement) : (opened announced).Sound := by
  have hholds : (opened announced).bus.Holds announced := by
    simpa [opened, announcements] using holds_foldl (Bus.holds_create 64) announced
  refine ⟨hholds, hholds.published.le, ?_, ?_, ?_⟩ <;> simp [opened]

/-- Somebody goes on to another stage. -/
theorem forall_mem_replace {p : Gatherer → Prop} {front rest : List Gatherer}
    {before after : Gatherer} (hall : ∀ gatherer ∈ front ++ before :: rest, p gatherer)
    (hafter : p after) : ∀ gatherer ∈ front ++ after :: rest, p gatherer := by
  rw [List.forall_mem_append, List.forall_mem_cons] at hall ⊢
  exact ⟨hall.1, hafter, hall.2.2⟩

/-- Nobody has a listing under way after looking into the cache. -/
theorem accounted_look (cache : ToolCache) (sofar : List ToolDefinition)
    (specs : List ToolSpec) :
    Accounted announced answers
      ⟨(Gathering.step cache (.looking sofar specs) ()).2, none⟩ := by
  cases specs with
  | nil => trivial
  | cons spec specs =>
      rw [Gathering.step]
      split
      next => trivial
      next => exact rfl

theorem accounted_answer {sofar : List ToolDefinition} {spec : ToolSpec}
    {specs : List ToolSpec}
    (haccounted : Accounted announced answers
      ⟨.listing sofar spec specs tools, some asked⟩)
    (cache : ToolCache) (answer : Option (Except Failure Page)) :
    Accounted announced (answers ++ pages spec.server announced.length answer)
      ⟨(Gathering.step cache (.listing sofar spec specs tools) answer).2,
        some asked⟩ := by
  obtain ⟨hle, hbacked⟩ := haccounted
  match answer with
  | none => trivial
  | some (.error failure) => trivial
  | some (.ok page) =>
      simp only [Gathering.step, pages]
      split
      next => exact ⟨hle, hbacked.page hle page⟩
      next => exact hbacked.page hle page

/-- What is kept is kept as of what has been heard. -/
theorem cache_keep (hsound : desk.Sound) {other : String} {found : List Listed}
    (hfound : Assoc.get? (Assoc.insert desk.cache other tools) server = some found) :
    ∃ keeping,
      (⟨other, tools, asked, desk.reader.position⟩ :: desk.kept).find?
          (·.server = server) = some keeping ∧
        keeping.tools = found ∧
        .toolsChanged server ∉
          (desk.announced.take desk.reader.position).drop keeping.heard := by
  by_cases hserver : server = other
  · subst hserver
    rw [Assoc.get?_insert_self] at hfound
    refine ⟨_, List.find?_cons_of_pos (by simp), Option.some.inj hfound, ?_⟩
    have hdrop : (desk.announced.take desk.reader.position).drop
        desk.reader.position = [] :=
      List.drop_eq_nil_of_le (List.length_take_le _ _)
    simp [hdrop]
  · rw [Assoc.get?_insert_of_ne _ _ hserver] at hfound
    rw [List.find?_cons_of_neg (by simpa using Ne.symm hserver)]
    exact hsound.cache server found hfound

/-- A listing that stays in the cache is of a server whose changes are not what
was heard. -/
theorem get?_heed {cache : ToolCache} {announcement : Announcement}
    (hfound : Assoc.get? (cache.heed (.item announcement)) server = some tools) :
    Assoc.get? cache server = some tools ∧ announcement ≠ .toolsChanged server := by
  cases announcement with
  | log => exact ⟨hfound, by simp⟩
  | toolsChanged other =>
      simp only [ToolCache.heed, ToolCache.invalidate] at hfound
      by_cases hother : server = other
      · subst hother
        rw [Assoc.get?_erase_self] at hfound
        contradiction
      · rw [Assoc.get?_erase_of_ne _ hother] at hfound
        exact ⟨hfound, by simpa using Ne.symm hother⟩

/-- What is heard is accounted for in the cache. -/
theorem cache_hear (hsound : desk.Sound) {received : Received Announcement}
    {reader : BusReader}
    (hnext : desk.bus.next? desk.reader = some (received, reader))
    (hfound : Assoc.get? (desk.cache.heed received) server = some tools) :
    ∃ keeping, desk.kept.find? (·.server = server) = some keeping ∧
      keeping.tools = tools ∧
      .toolsChanged server ∉
        (desk.announced.take reader.position).drop keeping.heard := by
  cases received with
  | lagged count => contradiction
  | item announcement =>
      obtain ⟨hitem, hposition⟩ := hsound.holds.next?_item hnext
      obtain ⟨hfound, hother⟩ := get?_heed hfound
      obtain ⟨keeping, hfind, htools, hunchanged⟩ := hsound.cache server tools hfound
      refine ⟨keeping, hfind, htools, ?_⟩
      have hheard := (hsound.kept keeping (List.mem_of_find?_eq_some hfind)).1
      have htake : desk.announced.take reader.position =
          desk.announced.take desk.reader.position ++ [announcement] := by
        rw [hposition, List.take_add_one, hitem]
        rfl
      have hlength : (desk.announced.take desk.reader.position).length =
          desk.reader.position :=
        List.length_take_of_le hsound.heard
      rw [htake, List.drop_append_of_le_length (by omega), List.mem_append,
        List.mem_singleton]
      rintro (hmem | heq)
      · exact hunchanged hmem
      · exact hother heq.symm

theorem Step.sound (hstep : desk.Step later) (hsound : desk.Sound) : later.Sound := by
  obtain ⟨hholds, hheard, hgatherers, hkept, hcache⟩ := id hsound
  cases hstep with
  | come specs =>
      refine ⟨hholds, hheard, ?_, hkept, hcache⟩
      rw [List.forall_mem_append]
      refine ⟨hgatherers, ?_⟩
      simp [Gathering.start, Accounted]
  | leave hat =>
      refine ⟨hholds, hheard, ?_, hkept, hcache⟩
      rw [hat, List.forall_mem_append, List.forall_mem_cons] at hgatherers
      rw [List.forall_mem_append]
      exact ⟨hgatherers.1, hgatherers.2.2⟩
  | look hat =>
      rw [hat] at hgatherers
      exact ⟨hholds, hheard, forall_mem_replace hgatherers (accounted_look _ _ _),
        hkept, hcache⟩
  | ask hat =>
      rw [hat] at hgatherers
      have hnil := hgatherers _ List.mem_append_cons_self
      refine ⟨hholds, hheard, forall_mem_replace hgatherers ?_, hkept, hcache⟩
      obtain rfl := (hnil : _ = [])
      exact ⟨le_rfl, backed_nil⟩
  | answer hat answer =>
      rw [hat] at hgatherers
      have haccounted := accounted_answer (hgatherers _ List.mem_append_cons_self)
        desk.cache answer
      refine ⟨hholds, hheard, forall_mem_replace (fun gatherer hmem =>
        (hgatherers gatherer hmem).mono le_rfl (List.subset_append_left _ _))
          haccounted, ?_, hcache⟩
      intro keeping hmem
      exact (hkept keeping hmem).imp_right (·.mono (List.subset_append_left _ _))
  | keep hat =>
      rw [hat] at hgatherers
      have hbacked := hgatherers _ List.mem_append_cons_self
      refine ⟨hholds, hheard, forall_mem_replace hgatherers trivial, ?_, ?_⟩
      · rw [List.forall_mem_cons]
        exact ⟨⟨le_rfl, hbacked⟩, hkept⟩
      · intro server found hfound
        exact cache_keep hsound hfound
  | announce announcement =>
      refine ⟨hholds.publish announcement, ?_, ?_, hkept, ?_⟩
      · simp only [List.length_append]
        omega
      · intro gatherer hmem
        exact (hgatherers gatherer hmem).mono (by simp) (List.Subset.refl _)
      · simpa only [List.take_append_of_le_length hheard] using hcache
  | hear hnext =>
      rename_i received reader
      have hforward : desk.reader.position ≤ reader.position ∧
          reader.position ≤ desk.announced.length := by
        cases received with
        | lagged count => exact hholds.next?_lagged hnext
        | item announcement =>
            obtain ⟨hitem, hposition⟩ := hholds.next?_item hnext
            have hlt := (List.getElem?_eq_some_iff.mp hitem).choose
            omega
      refine ⟨hholds, hforward.2, hgatherers, ?_, ?_⟩
      · intro keeping hmem
        exact (hkept keeping hmem).imp_left (·.trans hforward.1)
      · intro server found hfound
        exact cache_hear hsound hnext hfound

theorem Reachable.sound (hreach : Reachable desk) : desk.Sound := by
  induction hreach with
  | opened announced => exact sound_opened announced
  | step _ hstep ih => exact hstep.sound ih

/-! ## Freshness -/

/-- How the listing came about that was kept last for a server. -/
def origin? (desk : Desk) (server : String) : Option Keeping :=
  desk.kept.find? (·.server = server)

/-- A desk whose cache is not behind what was announced. -/
structure Fresh (desk : Desk) : Prop where
  /-- What is kept was asked for after the last change. -/
  asked : ∀ server tools, Assoc.get? desk.cache server = some tools →
    ∃ keeping, desk.origin? server = some keeping ∧ keeping.tools = tools ∧
      .toolsChanged server ∉ desk.announced.drop keeping.asked
  /-- What is offered from the cache was listed after the last change. -/
  offered : ∀ sofar spec specs later,
    (Gathering.step desk.cache (.looking sofar (spec :: specs)) ()).2 =
      .looking later specs →
    ∃ tools : List Listed, later = sofar ++ definitionsOf spec tools ∧
      ∀ tool ∈ tools, ∃ answer ∈ desk.answers,
        answer.server = spec.server ∧ tool ∈ answer.page.tools ∧
          .toolsChanged spec.server ∉ desk.announced.drop answer.time

/-- Once everything has been heard, a listing is behind just if it was
overtaken. -/
theorem Sound.changed_iff (hsound : desk.Sound)
    (hall : desk.reader.position = desk.announced.length)
    (hfound : Assoc.get? desk.cache server = some tools) :
    ∃ keeping, desk.origin? server = some keeping ∧ keeping.tools = tools ∧
      Backed desk.answers server keeping.asked tools ∧
      (.toolsChanged server ∈ desk.announced.drop keeping.asked ↔
        keeping.Overtaken desk.announced) := by
  obtain ⟨keeping, hfind, rfl, hunchanged⟩ := hsound.cache server tools hfound
  obtain rfl : keeping.server = server := by
    simpa using List.find?_some hfind
  have hbacked := (hsound.kept keeping (List.mem_of_find?_eq_some hfind)).2
  refine ⟨keeping, hfind, rfl, hbacked, ?_⟩
  rw [hall, List.take_length] at hunchanged
  unfold Keeping.Overtaken
  constructor
  · intro hchanged
    -- What was announced since is what was heard by then, and the rest.
    conv at hchanged => rw [← List.take_append_drop keeping.heard desk.announced]
    rw [List.drop_append, List.mem_append] at hchanged
    refine hchanged.resolve_right fun hrest => ?_
    exact hunchanged (List.mem_of_mem_drop hrest)
  · intro hovertaken
    rw [List.drop_take] at hovertaken
    exact List.mem_of_mem_take hovertaken

/-- Once everything has been heard, the cache is not behind, as long as what was
kept last for a server was not overtaken by a change. -/
theorem Reachable.fresh (hreach : Reachable desk)
    (hall : desk.reader.position = desk.announced.length)
    (htimely : ∀ server keeping, desk.origin? server = some keeping →
      ¬ keeping.Overtaken desk.announced) :
    desk.Fresh := by
  have horigin : ∀ server tools, Assoc.get? desk.cache server = some tools →
      ∃ keeping, desk.origin? server = some keeping ∧ keeping.tools = tools ∧
        Backed desk.answers server keeping.asked tools ∧
        .toolsChanged server ∉ desk.announced.drop keeping.asked := by
    intro server tools hfound
    obtain ⟨keeping, hfind, htools, hbacked, hchanged⟩ :=
      hreach.sound.changed_iff hall hfound
    exact ⟨keeping, hfind, htools, hbacked, fun hmem =>
      htimely server keeping hfind (hchanged.mp hmem)⟩
  constructor
  · intro server tools hfound
    obtain ⟨keeping, hfind, htools, -, hunchanged⟩ := horigin server tools hfound
    exact ⟨keeping, hfind, htools, hunchanged⟩
  · intro sofar spec specs later hstep
    simp only [Gathering.step] at hstep
    split at hstep
    next tools hfound =>
      obtain ⟨keeping, -, -, hbacked, hunchanged⟩ := horigin spec.server tools hfound
      refine ⟨tools, (Gathering.looking.inj hstep).1.symm, ?_⟩
      intro tool htool
      obtain ⟨answer, hanswer, hserver, hpage, htime⟩ := hbacked tool htool
      refine ⟨answer, hanswer, hserver, hpage, fun hmem => hunchanged ?_⟩
      rw [← Nat.add_sub_of_le htime, ← List.drop_drop] at hmem
      exact List.mem_of_mem_drop hmem
    next => contradiction

/-! ## A server that changes its tools once -/

namespace Renovation

def query : Listed :=
  ⟨"query", some "", .null⟩

def page : Page :=
  ⟨[query], false⟩

def spec : ToolSpec :=
  ⟨"search", []⟩

def change : Announcement :=
  .toolsChanged "search"

/-- Somebody has gathered the tools of the server, and its announcement of a
change has been heard.  The tools were asked for when there had been so many
announcements. -/
def after (asked : Nat) : Desk :=
  ⟨[("search", [query])], [⟨.ended (.ok [query.definition "search"]), none⟩],
    [change], announcements.publish change, ⟨1⟩, [⟨"search", page, asked⟩],
    [⟨"search", [query], asked, 1⟩]⟩

/-- The tools are asked for and listed. -/
theorem reachable_listed {bus : Bus Announcement} {reader : BusReader}
    (hreach : Reachable ⟨[], [], announced, bus, reader, [], []⟩) :
    Reachable ⟨[], [⟨.keeping [] spec [] [query], some announced.length⟩], announced,
      bus, reader, [⟨"search", page, announced.length⟩], []⟩ := by
  have hlook := hreach.step (.come [spec])
  have hat : [⟨.looking [] [spec], none⟩] =
      [] ++ (⟨.looking [] [spec], none⟩ : Gatherer) :: [] := rfl
  have hask := hlook.step (.look hat)
  have hat : [⟨.listing [] spec [] [], none⟩] =
      [] ++ (⟨.listing [] spec [] [], none⟩ : Gatherer) :: [] := rfl
  have hanswer := hask.step (.ask hat)
  have hat : [⟨.listing [] spec [] [], some announced.length⟩] =
      [] ++ (⟨.listing [] spec [] [], some announced.length⟩ : Gatherer) :: [] := rfl
  have hlisted := hanswer.step (.answer hat (some (.ok page)))
  exact hlisted

/-- The change is announced and heard. -/
theorem reachable_heard {gatherers : List Gatherer} {answers : List Answer}
    (hreach : Reachable ⟨[], gatherers, [], announcements, ⟨0⟩, answers, []⟩) :
    Reachable ⟨[], gatherers, [change], announcements.publish change, ⟨1⟩, answers,
      []⟩ := by
  have hannounce := hreach.step (.announce change)
  have hnext : (announcements.publish change).next? ⟨0⟩ =
      some (.item change, ⟨1⟩) := rfl
  have hheard := hannounce.step (.hear hnext)
  exact hheard

/-- The listing is kept. -/
theorem reachable_kept {asked : Nat}
    (hreach : Reachable ⟨[], [⟨.keeping [] spec [] [query], some asked⟩], [change],
      announcements.publish change, ⟨1⟩, [⟨"search", page, asked⟩], []⟩) :
    Reachable (after asked) := by
  have hat : [⟨.keeping [] spec [] [query], some asked⟩] =
      [] ++ (⟨.keeping [] spec [] [query], some asked⟩ : Gatherer) :: [] := rfl
  have hlook := hreach.step (.keep hat)
  have hat : [⟨.looking [query.definition "search"] [], none⟩] =
      [] ++ (⟨.looking [query.definition "search"] [], none⟩ : Gatherer) :: [] := rfl
  have hended := hlook.step (.look hat)
  exact hended

/-- Tools that were asked for after the change was heard. -/
theorem fresh_after :
    (∀ server keeping, (after 1).origin? server = some keeping →
        ¬ keeping.Overtaken (after 1).announced) ∧
      (after 1).Fresh := by
  have htimely : ∀ server keeping, (after 1).origin? server = some keeping →
      ¬ keeping.Overtaken (after 1).announced := by
    intro server keeping horigin
    obtain rfl := List.mem_singleton.mp (List.mem_of_find?_eq_some horigin)
    simp [after, Keeping.Overtaken]
  have hheard : Reachable ⟨[], [], [change], announcements.publish change, ⟨1⟩, [],
      []⟩ :=
    reachable_heard (.opened [])
  have hreach : Reachable (after 1) :=
    reachable_kept (reachable_listed hheard)
  exact ⟨htimely, hreach.fresh rfl htimely⟩

/-- Tools that were asked for and listed before the change, and are kept after
it was heard: the next who asks is told of them. -/
theorem stale_after :
    Reachable (after 0) ∧
      (after 0).reader.position = (after 0).announced.length ∧
      (∀ gatherer ∈ (after 0).gatherers, gatherer.asked = none) ∧
      ¬ (after 0).Fresh ∧
      (Gathering.step (after 0).cache (.looking [] [spec]) ()).2 =
        .looking [query.definition "search"] [] := by
  have hreach : Reachable (after 0) :=
    reachable_kept (reachable_heard (reachable_listed (.opened [])))
  refine ⟨hreach, rfl, by simp [after], ?_, rfl⟩
  intro hfresh
  obtain ⟨keeping, hkept, -, hunchanged⟩ := hfresh.asked "search" [query] rfl
  obtain rfl := Option.some.inj hkept
  exact hunchanged (List.mem_singleton_self _)

end Renovation

end Desk

end Workflow.ToolServer
