import Workflow.Proofs.Manager.Deed

/-!
# What a scene is to one run

The `Aspect` of a run is all that a scene has of the run: what is kept for it,
its legs and whether they have been cancelled, what sweeps have listed of it,
and what clients have been answered about it.  The numbers of tokens are left
out, since they tell of other runs.

A deed that is about another run leaves the aspect as it is, and what any other
deed makes of it can be told from the aspect alone (`Scene.Does.aspect_eq`).
So the aspect of a run is what the deeds about it have made of it, whatever
happened in between (`Scene.Plays.aspect_eq`).
-/

namespace Workflow

/-! ## Parts of lists -/

section lists

variable {α : Type} {items : List α} {item new : α} {n : Nat} {p : α → Bool}

theorem filter_set_of_pos (hn : items[n]? = some item) (hitem : p item = true)
    (hnew : p new = true) :
    (items.set n new).filter p =
      (items.filter p).set ((items.take n).countP p) new := by
  induction items generalizing n with
  | nil => simp at hn
  | cons first rest ih =>
      cases n with
      | zero =>
          obtain rfl : first = item := by simpa using hn
          simp [hitem, hnew]
      | succ n =>
          have hrest := ih (n := n) (by simpa using hn)
          cases hfirst : p first <;> simp [hfirst, hrest]

theorem filter_set_of_neg (hn : items[n]? = some item) (hitem : p item = false)
    (hnew : p new = false) : (items.set n new).filter p = items.filter p := by
  induction items generalizing n with
  | nil => simp at hn
  | cons first rest ih =>
      cases n with
      | zero =>
          obtain rfl : first = item := by simpa using hn
          simp [hitem, hnew]
      | succ n =>
          have hrest := ih (n := n) (by simpa using hn)
          cases hfirst : p first <;> simp [hfirst, hrest]

theorem getElem?_filter_countP (hn : items[n]? = some item)
    (hitem : p item = true) :
    (items.filter p)[(items.take n).countP p]? = some item := by
  induction items generalizing n with
  | nil => simp at hn
  | cons first rest ih =>
      cases n with
      | zero =>
          obtain rfl : first = item := by simpa using hn
          simp [hitem]
      | succ n =>
          have hrest := ih (n := n) (by simpa using hn)
          cases hfirst : p first <;> simp [hfirst, hrest]

theorem exists_of_getElem?_filter {place : Nat}
    (hplace : (items.filter p)[place]? = some item) :
    ∃ n, items[n]? = some item ∧ p item = true ∧
      (items.take n).countP p = place := by
  induction items generalizing place with
  | nil => simp at hplace
  | cons first rest ih =>
      cases hfirst : p first with
      | false =>
          obtain ⟨n, hn, hitem, hcount⟩ := ih (by simpa [hfirst] using hplace)
          exact ⟨n + 1, by simpa using hn, hitem, by simp [hfirst, hcount]⟩
      | true =>
          cases place with
          | zero =>
              obtain rfl : first = item := by simpa [hfirst] using hplace
              exact ⟨0, rfl, hfirst, rfl⟩
          | succ place =>
              obtain ⟨n, hn, hitem, hcount⟩ := ih (by simpa [hfirst] using hplace)
              exact ⟨n + 1, by simpa using hn, hitem, by simp [hfirst, hcount]⟩

theorem set_of_getElem? (hn : items[n]? = some item) :
    items.set n item = items := by
  obtain ⟨hlt, rfl⟩ := List.getElem?_eq_some_iff.mp hn
  exact List.set_getElem_self hlt

/-- Where a list is cut by a property it is cut in one way only. -/
theorem append_inj_of_cut {front back front' back' : List α}
    (heq : front ++ back = front' ++ back') (hfront : ∀ a ∈ front, p a = true)
    (hback : ∀ a ∈ back, p a = false) (hfront' : ∀ a ∈ front', p a = true)
    (hback' : ∀ a ∈ back', p a = false) : front = front' ∧ back = back' := by
  have hcut {front back : List α} (hfront : ∀ a ∈ front, p a = true)
      (hback : ∀ a ∈ back, p a = false) : (front ++ back).filter p = front := by
    rw [List.filter_append, List.filter_eq_self.mpr hfront,
      List.filter_eq_nil_iff.mpr (by simpa using hback), List.append_nil]
  have hsame : front = front' := by
    rw [← hcut hfront hback, heq, hcut hfront' hback']
  subst hsame
  exact ⟨rfl, List.append_cancel_left heq⟩

/-- What is left out does not change the order of the rest. -/
theorem filter_mergeSort {le : α → α → Bool}
    (htrans : ∀ a b c, le a b = true → le b c = true → le a c = true)
    (htotal : ∀ a b, (le a b || le b a) = true) (p : α → Bool) (items : List α) :
    (items.mergeSort le).filter p = (items.filter p).mergeSort le := by
  induction items with
  | nil => simp
  | cons item rest ih =>
      obtain ⟨front, back, hcons, hrest, hfront⟩ :=
        List.mergeSort_cons htrans htotal item rest
      cases hitem : p item with
      | false =>
          rw [hcons, List.filter_append, List.filter_cons_of_neg (by simp [hitem]),
            List.filter_cons_of_neg (by simp [hitem]), ← List.filter_append,
            ← hrest, ih]
      | true =>
          obtain ⟨front', back', hcons', hrest', hfront'⟩ :=
            List.mergeSort_cons htrans htotal item (rest.filter p)
          -- On both sides the item stands behind all that come before it.
          have hback {items front back : List α}
              (hsort : items.mergeSort le = front ++ item :: back) :
              ∀ a ∈ back, (!le item a) = false := by
            intro a ha
            have hsorted := List.pairwise_mergeSort htrans htotal items
            rw [hsort] at hsorted
            have hle := (List.pairwise_cons.mp
              (List.pairwise_append.mp hsorted).2.1).1 a ha
            simpa using hle
          have hsame : front.filter p ++ back.filter p = front' ++ back' := by
            rw [← List.filter_append, ← hrest, ih, hrest']
          obtain ⟨rfl, rfl⟩ := append_inj_of_cut hsame
            (fun a ha => hfront a (List.mem_of_mem_filter ha))
            (fun a ha => hback hcons a (List.mem_of_mem_filter ha))
            hfront' (hback hcons')
          rw [List.filter_cons_of_pos hitem, hcons', hcons, List.filter_append,
            List.filter_cons_of_pos hitem]

end lists

/-! ## Aspects -/

/-- All that a scene has of a run. -/
@[ext]
structure Aspect where
  used : Bool
  kept : List SuspendedRun
  claims : List (SuspendedRun × ResumeSignal)
  /-- The legs, each with whether it has been cancelled. -/
  legs : List (Worker × Bool)
  /-- What the sweeps have still to resume. -/
  listed : List (List SuspendedRun)
  heard : List Answer

/-- A leg without the number of its token, and whether it has been cancelled. -/
def Worker.sight (cancelled : List Token) (worker : Worker) : Worker × Bool :=
  (worker.renumber 0, cancelled.contains worker.task.token)

/-- The legs of a run. -/
def sightsOf (cancelled : List Token) (workers : List Worker) (run : RunId) :
    List (Worker × Bool) :=
  (workers.filter (·.task.run = run)).map (·.sight cancelled)

def Scene.aspect (scene : Scene) (run : RunId) : Aspect where
  used := scene.office.used.contains run
  kept := scene.office.manager.store.runs.filter (·.run = run)
  claims := scene.office.claims.filter (·.1.run = run)
  legs := sightsOf scene.office.manager.cancelled scene.office.workers run
  listed := scene.sweeps.map (·.left.filter (·.run = run))
  heard := scene.heard.filter (·.run = run)

namespace Aspect

/-- A leg is registered. -/
def begin (aspect : Aspect) (worker : Worker) : Aspect :=
  { aspect with legs := aspect.legs ++ [(worker, false)] }

/-- The store is asked for the run. -/
def ask (aspect : Aspect) (signal : ResumeSignal) : Aspect :=
  { aspect with
    kept := []
    claims := (aspect.kept.head?.map (·, signal)).toList ++ aspect.claims
    heard := .resumed signal.run
        (aspect.kept.head?.elim (.error (.runNotFound signal.run)) .ok) ::
      aspect.heard }

/-- The run is cancelled: its leg is told, or it is kept no longer. -/
def cancel (aspect : Aspect) (run : RunId) : Aspect :=
  if aspect.legs.any (·.1.isListed) then
    { aspect with
      legs := aspect.legs.map fun leg => (leg.1, leg.1.isListed || leg.2)
      heard := .cancelled run (.ok .signalled) :: aspect.heard }
  else
    { aspect with
      kept := []
      heard := .cancelled run (.ok (aspect.kept.head?.elim .notFound
          fun suspended =>
            .discarded ⟨suspended.cursor, .error, Error.cancelled.payload⟩)) ::
        aspect.heard }

/-- What a deed makes of the run that it is about. -/
def after (limits : EngineConfig) (aspect : Aspect) : Deed → Aspect
  | .submit run graph inputs =>
    { aspect.begin (.begin ⟨run, 0, .submitted graph inputs⟩ graph .start) with
      used := true }
  | .claim signal => aspect.ask signal
  | .adopt _ =>
    match aspect.claims with
    | (suspended, signal) :: rest =>
      { aspect.begin (.begin ⟨suspended.run, 0, .claimed suspended signal⟩
          suspended.graph (.resume suspended signal)) with
        claims := rest }
    | [] => aspect
  | .cancel run => aspect.cancel run
  | .turn _ place cue =>
    match aspect.legs[place]? with
    | some (worker, cancelled) =>
      let next := worker.next limits cancelled cue
      { aspect with
        legs := aspect.legs.set place (next, cancelled)
        kept := next.puts?.elim aspect.kept ([·]) }
    | none => aspect
  | .list now =>
    { aspect with listed := aspect.listed ++
        [(MemoryStore.list ⟨aspect.kept⟩).filter (·.isExpired now)] }
  | .sweep place _ =>
    match aspect.listed[place]? with
    | some (listed :: left) =>
      { aspect.ask (Manager.timeoutSignal listed) with
        listed := aspect.listed.set place left }
    | _ => aspect

end Aspect

/-- A deed is about a run, or about all of them. -/
def Deed.concerns (deed : Deed) (run : RunId) : Bool :=
  deed.run?.all (· = run)

section concerns

variable {deed : Deed} {other run : RunId}

theorem Deed.concerns_of_run (hdeed : deed.run? = some other) :
    deed.concerns run = decide (other = run) := by
  simp [concerns, hdeed]

theorem Deed.eq_of_concerns (hdeed : deed.run? = some other)
    (hconcerns : deed.concerns run = true) : other = run := by
  rw [concerns_of_run hdeed] at hconcerns
  exact of_decide_eq_true hconcerns

theorem Deed.ne_of_concerns (hdeed : deed.run? = some other)
    (hapart : deed.concerns run = false) : other ≠ run := by
  rw [concerns_of_run hdeed] at hapart
  exact of_decide_eq_false hapart

end concerns

/-! ## Parts of an aspect -/

namespace MemoryStore

variable {store : MemoryStore} {run other : RunId}

theorem head?_filter_runs (store : MemoryStore) (run : RunId) :
    (store.runs.filter (·.run = run)).head? = store.find? run := by
  rw [List.head?_filter]
  rfl

theorem filter_erase_self :
    (store.erase run).runs.filter (·.run = run) = [] := by
  simp [erase]

theorem filter_erase_of_ne (hne : run ≠ other) :
    (store.erase other).runs.filter (·.run = run) =
      store.runs.filter (·.run = run) := by
  rw [erase, List.filter_filter]
  refine List.filter_congr fun kept _ => ?_
  by_cases hkept : kept.run = run <;> simp [hkept, hne]

theorem filter_save_self (suspended : SuspendedRun) :
    (store.save suspended).runs.filter (·.run = suspended.run) =
      [suspended] := by
  rw [save, List.filter_append, filter_erase_self]
  simp

theorem filter_save_of_ne {suspended : SuspendedRun}
    (hne : run ≠ suspended.run) :
    (store.save suspended).runs.filter (·.run = run) =
      store.runs.filter (·.run = run) := by
  rw [save, List.filter_append, filter_erase_of_ne hne]
  simp [Ne.symm hne]

/-- The runs that are left are listed in the order they were listed in. -/
theorem filter_list (store : MemoryStore) (p : SuspendedRun → Bool) :
    store.list.filter p = list ⟨store.runs.filter p⟩ := by
  refine filter_mergeSort ?_ ?_ p store.runs
  · intro a b c
    simp only [Instant.le, Bool.or_eq_true, Bool.and_eq_true,
      decide_eq_true_eq]
    omega
  · intro a b
    simp only [Instant.le, Bool.or_eq_true, Bool.and_eq_true,
      decide_eq_true_eq]
    omega

end MemoryStore

section sights

variable {cancelled : List Token} {workers : List Worker} {run : RunId}
variable {token : Token} {worker next : Worker}

theorem sightsOf_concat_self {new : Worker}
    (hnew : cancelled.contains new.task.token = false) :
    sightsOf cancelled (workers ++ [new]) new.task.run =
      sightsOf cancelled workers new.task.run ++ [(new.renumber 0, false)] := by
  have hnew : new.task.token ∉ cancelled := by simpa using hnew
  simp [sightsOf, Worker.sight, hnew]

theorem sightsOf_concat_of_ne {new : Worker} (hne : new.task.run ≠ run) :
    sightsOf cancelled (workers ++ [new]) run =
      sightsOf cancelled workers run := by
  simp [sightsOf, List.filter_append, hne]

theorem getElem?_sightsOf (hworker : workers[token]? = some worker) :
    (sightsOf cancelled workers worker.task.run)[
        (workers.take token).countP (·.task.run = worker.task.run)]? =
      some (worker.sight cancelled) := by
  have hfound := getElem?_filter_countP (p := (·.task.run = worker.task.run))
    hworker (by simp)
  simp [sightsOf, hfound]

theorem sightsOf_set_self (hworker : workers[token]? = some worker)
    (hrun : next.task.run = worker.task.run) :
    sightsOf cancelled (workers.set token next) worker.task.run =
      (sightsOf cancelled workers worker.task.run).set
        ((workers.take token).countP (·.task.run = worker.task.run))
        (next.sight cancelled) := by
  rw [sightsOf, filter_set_of_pos hworker (by simp) (by simp [hrun])]
  simp [sightsOf]

theorem sightsOf_set_of_ne (hworker : workers[token]? = some worker)
    (hrun : next.task.run = worker.task.run) (hne : worker.task.run ≠ run) :
    sightsOf cancelled (workers.set token next) run =
      sightsOf cancelled workers run := by
  rw [sightsOf, filter_set_of_neg hworker (by simp [hne]) (by simp [hrun, hne])]
  rfl

/-- A token is cancelled: it is the token of the legs that have it. -/
theorem sightsOf_cancel {found : Token} (flag : Worker → Bool)
    (hflag : ∀ worker ∈ workers, worker.task.run = run →
      (worker.task.token == found) = flag (worker.renumber 0)) :
    sightsOf (found :: cancelled) workers run =
      (sightsOf cancelled workers run).map fun leg =>
        (leg.1, flag leg.1 || leg.2) := by
  simp only [sightsOf, List.map_map]
  refine List.map_congr_left fun worker hmem => ?_
  obtain ⟨hworker, hrun⟩ := List.mem_filter.mp hmem
  have hfound := hflag worker hworker (by simpa using hrun)
  simp only [Function.comp, Worker.sight, List.contains_cons, hfound]

end sights

/-! ## What a deed makes of a run -/

/-- The books of an office are right, and only tokens of legs are cancelled. -/
structure Office.Counted (office : Office MemoryStore) : Prop where
  orderly : office.Orderly
  cancelled_lt : ∀ token, office.manager.cancelled.contains token = true →
    token < office.workers.length

theorem Office.Counted.not_cancelled {office : Office MemoryStore}
    (hcounted : office.Counted) :
    office.manager.cancelled.contains office.manager.issued = false := by
  rw [Bool.eq_false_iff]
  intro hcancelled
  have hlt := hcounted.cancelled_lt _ hcancelled
  rw [hcounted.orderly.issued_eq] at hlt
  exact Nat.lt_irrefl _ hlt

/-- A run is live if it has a leg that has not been put aside or settled. -/
theorem Office.Orderly.any_isListed {office : Office MemoryStore}
    (horderly : office.Orderly) (run : RunId) :
    (sightsOf office.manager.cancelled office.workers run).any
        (·.1.isListed) = office.manager.isLive run := by
  rw [Bool.eq_iff_iff, List.any_eq_true, Manager.isLive, Assoc.has,
    Option.isSome_iff_exists]
  constructor
  · rintro ⟨leg, hleg, hlisted⟩
    obtain ⟨worker, hworker, rfl⟩ := List.mem_map.mp hleg
    obtain ⟨hworker, hrun⟩ := List.mem_filter.mp hworker
    obtain ⟨token, htoken⟩ := List.mem_iff_getElem?.mp hworker
    exact ⟨token, horderly.listed_iff.mpr
      ⟨worker, htoken, by simpa using hrun, hlisted⟩⟩
  · rintro ⟨token, hlive⟩
    obtain ⟨worker, hworker, hrun, hlisted⟩ := horderly.listed_iff.mp hlive
    refine ⟨worker.sight _, List.mem_map_of_mem (List.mem_filter.mpr
      ⟨List.mem_of_getElem? hworker, by simpa using hrun⟩), hlisted⟩

/-- Of a run there is one claim at most. -/
theorem Office.Orderly.claims_of_mem {office : Office MemoryStore}
    (horderly : office.Orderly) {claim : SuspendedRun × ResumeSignal}
    (hclaim : claim ∈ office.claims) :
    office.claims.filter (·.1.run = claim.1.run) = [claim] := by
  have honce := horderly.once claim.1.run
  have hlength : (office.claims.filter (·.1.run = claim.1.run)).length ≤ 1 := by
    rw [← List.countP_eq_length_filter]
    simp only [places, pending] at honce
    omega
  have hmem : claim ∈ office.claims.filter (·.1.run = claim.1.run) :=
    List.mem_filter.mpr ⟨hclaim, by simp⟩
  have hone : (office.claims.filter (·.1.run = claim.1.run)).length = 1 :=
    Nat.le_antisymm hlength (List.length_pos_of_mem hmem)
  obtain ⟨found, hfound⟩ := List.length_eq_one_iff.mp hone
  rw [hfound] at hmem ⊢
  rw [List.mem_singleton.mp hmem]

/-- Where no leg has the run, it is asked for in the store. -/
theorem Manager.cancel_of_unlisted {manager : Manager MemoryStore} {run : RunId}
    (hlive : Assoc.get? manager.live run = none) :
    manager.cancel run =
      (.ok ((manager.store.find? run).elim .notFound fun suspended =>
          .discarded ⟨suspended.cursor, .error, Error.cancelled.payload⟩),
        { manager with store := manager.store.erase run }) := by
  have hclaim := manager.claim_memory run
  unfold Manager.cancel
  rw [hlive, hclaim]
  cases manager.store.find? run <;> rfl

namespace Office

variable (office : Office MemoryStore) (signal : ResumeSignal)

theorem ask_claims : (office.ask signal).claims =
    ((office.manager.store.find? signal.run).map (·, signal)).toList ++
      office.claims := by
  unfold ask
  cases office.manager.store.find? signal.run <;> rfl

@[simp] theorem ask_manager : (office.ask signal).manager =
    { office.manager with
      store := office.manager.store.erase signal.run } := by
  unfold ask
  rw [office.manager.claim_memory]
  cases office.manager.store.find? signal.run <;> rfl

@[simp] theorem ask_workers :
    (office.ask signal).workers = office.workers := by
  unfold ask
  cases office.manager.store.find? signal.run <;> rfl

@[simp] theorem ask_used : (office.ask signal).used = office.used := by
  unfold ask
  cases office.manager.store.find? signal.run <;> rfl

end Office

namespace Answer

variable {heard : List Answer} {run : RunId}

theorem filter_cons_self (answer : Answer) (heard : List Answer) :
    (answer :: heard).filter (·.run = answer.run) =
      answer :: heard.filter (·.run = answer.run) :=
  List.filter_cons_of_pos (by simp)

theorem filter_cons_of_ne {answer : Answer} (hne : answer.run ≠ run) :
    (answer :: heard).filter (·.run = run) = heard.filter (·.run = run) :=
  List.filter_cons_of_neg (by simpa using hne)

end Answer

/-- A leg puts nothing but its own run into the store. -/
theorem Turn.run_of_puts? {free : Prop} {manager later : Manager MemoryStore}
    {worker next : Worker} {entries : List Entry} {suspended : SuspendedRun}
    (hturn : Turn free manager worker later next entries)
    (hsound : worker.Sound) (hputs : next.puts? = some suspended) :
    suspended.run = worker.task.run := by
  unfold Worker.puts? at hputs
  split at hputs
  · next hstage =>
      obtain rfl := Option.some.inj hputs
      have hruns := (hturn.sound hsound).runs hstage
      exact (hruns.awaits.run_eq.trans hruns.run_eq).trans hturn.same.1
  · contradiction

namespace Scene

variable {scene later : Scene} {deed : Deed} {run : RunId}
variable {signal : ResumeSignal}

theorem aspect_ask_self :
    (scene.ask signal).aspect signal.run =
      (scene.aspect signal.run).ask signal := by
  refine Aspect.ext ?_ ?_ ?_ ?_ rfl ?_
  · simp [aspect, Scene.ask, Aspect.ask]
  · simp [aspect, Scene.ask, Aspect.ask, MemoryStore.filter_erase_self]
  · have hkept : ∀ claim ∈ ((scene.office.manager.store.find? signal.run).map
        (·, signal)).toList, claim.1.run = signal.run := by
      intro claim hclaim
      simp only [Option.mem_toList, Option.map_eq_some_iff] at hclaim
      obtain ⟨suspended, hfound, rfl⟩ := hclaim
      simpa using List.find?_some hfound
    simp only [aspect, Scene.ask, Aspect.ask, Office.ask_claims,
      MemoryStore.head?_filter_runs]
    rw [List.filter_append, List.filter_eq_self.mpr (by simpa using hkept)]
  · simp [aspect, Scene.ask, Aspect.ask]
  · simp only [aspect, Scene.ask, Aspect.ask, Manager.claim_memory,
      MemoryStore.head?_filter_runs]
    exact Answer.filter_cons_self (.resumed signal.run _) _

theorem aspect_ask_of_ne (hne : signal.run ≠ run) :
    (scene.ask signal).aspect run = scene.aspect run := by
  refine Aspect.ext ?_ ?_ ?_ ?_ rfl (Answer.filter_cons_of_ne hne)
  · simp [aspect, Scene.ask]
  · simp [aspect, Scene.ask, MemoryStore.filter_erase_of_ne hne.symm]
  · have hnone : ∀ claim ∈ ((scene.office.manager.store.find? signal.run).map
        (·, signal)).toList, claim.1.run ≠ run := by
      intro claim hclaim
      simp only [Option.mem_toList, Option.map_eq_some_iff] at hclaim
      obtain ⟨suspended, hfound, rfl⟩ := hclaim
      have hrun : suspended.run = signal.run := by
        simpa using List.find?_some hfound
      rwa [hrun]
    simp only [aspect, Scene.ask, Office.ask_claims]
    rw [List.filter_append, List.filter_eq_nil_iff.mpr (by simpa using hnone),
      List.nil_append]
  · simp [aspect, Scene.ask]

theorem aspect_goOn (scene : Scene) (sweeps : List (Sweep MemoryStore))
    (run : RunId) :
    aspect { scene with sweeps } run = { scene.aspect run with
      listed := sweeps.map (·.left.filter (·.run = run)) } :=
  rfl

/-- A token that is cancelled is the token of the legs that are in the table. -/
theorem sightsOf_signal (hcounted : scene.office.Counted) {other : RunId}
    {found : Token}
    (hlive : Assoc.get? scene.office.manager.live other = some found)
    (run : RunId) :
    sightsOf (found :: scene.office.manager.cancelled) scene.office.workers run =
      (sightsOf scene.office.manager.cancelled scene.office.workers run).map
        fun leg => (leg.1, (run = other && leg.1.isListed) || leg.2) := by
  have horderly := hcounted.orderly
  refine sightsOf_cancel (fun worker => run = other && worker.isListed) ?_
  intro worker hworker hrun
  obtain ⟨token, htoken⟩ := List.mem_iff_getElem?.mp hworker
  rw [horderly.token_eq htoken, Bool.eq_iff_iff]
  simp only [beq_iff_eq, Bool.and_eq_true, decide_eq_true_eq]
  constructor
  · rintro rfl
    obtain ⟨hother, hlisted⟩ := horderly.listed_of_live htoken hlive
    exact ⟨hrun.symm.trans hother, hlisted⟩
  · rintro ⟨rfl, hlisted⟩
    have hfound := horderly.listed_iff.mpr ⟨worker, htoken, hrun, hlisted⟩
    exact Option.some.inj (hfound.symm.trans hlive)

theorem Does.aspect_of_ne (hcounted : scene.office.Counted)
    (hdoes : scene.Does deed later) (hapart : deed.concerns run = false) :
    later.aspect run = scene.aspect run := by
  cases hdoes with
  | @submit other graph inputs task manager hfree hfresh hsubmit =>
      have hne : other ≠ run := Deed.ne_of_concerns rfl hapart
      obtain ⟨-, rfl, rfl⟩ := Manager.submit_eq_ok hsubmit
      refine Aspect.ext ?_ rfl rfl (sightsOf_concat_of_ne hne) rfl rfl
      simp [aspect, Ne.symm hne]
  | claim signal =>
      exact aspect_ask_of_ne (Deed.ne_of_concerns rfl hapart)
  | @adopt suspended signal hfree hclaim =>
      have hne : suspended.run ≠ run := Deed.ne_of_concerns rfl hapart
      refine Aspect.ext rfl rfl ?_ (sightsOf_concat_of_ne hne) rfl rfl
      change (scene.office.claims.erase (suspended, signal)).filter _ = _
      rw [← List.erase_filter, List.erase_of_not_mem (by simp [hne])]
      rfl
  | cancel other hfree =>
      have hne : other ≠ run := Deed.ne_of_concerns rfl hapart
      cases hlive : Assoc.get? scene.office.manager.live other with
      | some found =>
          have hcancel := scene.office.manager.cancel_of_live hlive
          simp only [Office.cancel, hcancel]
          refine Aspect.ext rfl rfl rfl ?_ rfl (Answer.filter_cons_of_ne hne)
          have hsights := sightsOf_signal hcounted hlive run
          simp only [Ne.symm hne, decide_false, Bool.false_and, Bool.false_or,
            Prod.eta, List.map_id'] at hsights
          exact hsights
      | none =>
          have hcancel := Manager.cancel_of_unlisted hlive
          simp only [Office.cancel, hcancel]
          exact Aspect.ext rfl (MemoryStore.filter_erase_of_ne hne.symm) rfl rfl
            rfl (Answer.filter_cons_of_ne hne)
  | @turn token worker manager entries cue hworker hturn =>
      have hne : worker.task.run ≠ run := Deed.ne_of_concerns rfl hapart
      have hsound := hcounted.orderly.sound worker (List.mem_of_getElem? hworker)
      have hrun := hturn.same.1
      refine Aspect.ext rfl ?_ rfl ?_ rfl rfl
      · change manager.store.runs.filter _ = _
        rw [hturn.store_eq]
        cases hputs : Worker.puts? _ with
        | none => rfl
        | some suspended =>
            refine MemoryStore.filter_save_of_ne ?_
            rw [hturn.run_of_puts? hsound hputs]
            exact hne.symm
      · change sightsOf manager.cancelled _ run = _
        rw [hturn.cancelled_eq]
        exact sightsOf_set_of_ne hworker hrun hne
  | list now => simp [Deed.concerns, Deed.run?] at hapart
  | @sweep place sweep listed left hturns =>
      have hne : listed.run ≠ run := Deed.ne_of_concerns rfl hapart
      have hask : (scene.ask (Manager.timeoutSignal listed)).aspect run =
          scene.aspect run := aspect_ask_of_ne hne
      refine (aspect_goOn _ _ run).trans ?_
      rw [hask]
      refine Aspect.ext rfl rfl rfl rfl ?_ rfl
      change (scene.sweeps.set place _).map _ = scene.sweeps.map _
      rw [List.map_set]
      refine set_of_getElem? ?_
      have hsweep : scene.sweeps[place]? = some sweep := hturns.sweep_eq
      simp [hsweep, hturns.left_eq, hne]

/-- A leg that is registered stands behind the others of its run. -/
theorem sightsOf_begin (hcounted : scene.office.Counted) (run : RunId)
    (stage : Stage) (graph : Graph) (beginning : Beginning) :
    sightsOf scene.office.manager.cancelled (scene.office.workers ++
        [.begin ⟨run, scene.office.manager.issued, stage⟩ graph beginning]) run =
      (scene.aspect run).legs ++
        [(.begin ⟨run, 0, stage⟩ graph beginning, false)] := by
  let new : Worker :=
    .begin ⟨run, scene.office.manager.issued, stage⟩ graph beginning
  have hfresh : scene.office.manager.cancelled.contains new.task.token = false :=
    hcounted.not_cancelled
  exact sightsOf_concat_self hfresh

theorem aspect_cancel_self (hcounted : scene.office.Counted) (run : RunId) :
    aspect { scene with
        office := scene.office.cancel run
        heard := .cancelled run (scene.office.manager.cancel run).1 ::
          scene.heard } run =
      (scene.aspect run).cancel run := by
  have hany : (scene.aspect run).legs.any (·.1.isListed) =
      scene.office.manager.isLive run := hcounted.orderly.any_isListed run
  rw [Aspect.cancel, hany, Manager.isLive, Assoc.has]
  cases hlive : Assoc.get? scene.office.manager.live run with
  | some found =>
      have hcancel := scene.office.manager.cancel_of_live hlive
      simp only [Office.cancel, hcancel, Option.isSome_some, if_true]
      refine Aspect.ext rfl rfl rfl ?_ rfl (Answer.filter_cons_self _ _)
      have hsights := sightsOf_signal hcounted hlive run
      simp only [decide_true, Bool.true_and] at hsights
      exact hsights
  | none =>
      have hcancel := Manager.cancel_of_unlisted hlive
      rw [if_neg (by simp)]
      simp only [Office.cancel, hcancel, ← MemoryStore.head?_filter_runs]
      exact Aspect.ext rfl MemoryStore.filter_erase_self rfl rfl rfl
        (Answer.filter_cons_self _ _)

/-- What a step makes of the run of a leg is told by the leg in its place. -/
theorem aspect_turn_self (hcounted : scene.office.Counted) {token : Token}
    {worker : Worker} {manager : Manager MemoryStore} {entries : List Entry}
    {cue : Leg.Cue} (hworker : scene.office.workers[token]? = some worker)
    (hturn : Turn scene.office.Free scene.office.manager worker manager
      (worker.next scene.office.manager.limits
        (scene.office.manager.isCancelled token) cue) entries) :
    aspect { scene with office := { scene.office with
          manager
          workers := scene.office.workers.set token
            (worker.next scene.office.manager.limits
              (scene.office.manager.isCancelled token) cue)
          ledger := entries ++ scene.office.ledger } } worker.task.run =
      (scene.aspect worker.task.run).after scene.office.manager.limits
        (.turn worker.task.run (scene.office.placeOf token worker.task.run)
          cue) := by
  have hsound := hcounted.orderly.sound worker (List.mem_of_getElem? hworker)
  have htoken := hcounted.orderly.token_eq hworker
  have hplace : (scene.aspect worker.task.run).legs[
      scene.office.placeOf token worker.task.run]? =
        some (worker.sight scene.office.manager.cancelled) :=
    getElem?_sightsOf hworker
  have hnext : (worker.sight scene.office.manager.cancelled).1.next
      scene.office.manager.limits
      (worker.sight scene.office.manager.cancelled).2 cue =
        (worker.next scene.office.manager.limits
          (scene.office.manager.isCancelled token) cue).renumber 0 := by
    rw [Worker.renumber_next, ← htoken]
    rfl
  simp only [Aspect.after, hplace, hnext]
  refine Aspect.ext rfl ?_ rfl ?_ rfl rfl
  · change manager.store.runs.filter _ = Option.elim (Worker.puts? _) _ _
    rw [hturn.store_eq, Worker.puts?_renumber]
    cases hputs : Worker.puts? _ with
    | none => rfl
    | some suspended =>
        rw [← hturn.run_of_puts? hsound hputs]
        exact MemoryStore.filter_save_self suspended
  · change sightsOf manager.cancelled _ _ = _
    rw [hturn.cancelled_eq, sightsOf_set_self hworker hturn.same.1,
      Worker.sight, hturn.same.2.1]
    rfl

theorem Does.aspect_of_concerns (hcounted : scene.office.Counted)
    (hdoes : scene.Does deed later) (hconcerns : deed.concerns run = true) :
    later.aspect run =
      (scene.aspect run).after scene.office.manager.limits deed := by
  cases hdoes with
  | @submit other graph inputs task manager hfree hfresh hsubmit =>
      obtain rfl : other = run := Deed.eq_of_concerns rfl hconcerns
      obtain ⟨-, rfl, rfl⟩ := Manager.submit_eq_ok hsubmit
      have hlegs := sightsOf_begin hcounted other (.submitted graph inputs)
        graph .start
      refine Aspect.ext ?_ rfl rfl hlegs rfl rfl
      simp [aspect, Aspect.after]
  | claim signal =>
      obtain rfl : signal.run = run := Deed.eq_of_concerns rfl hconcerns
      exact aspect_ask_self
  | @adopt suspended signal hfree hclaim =>
      obtain rfl : suspended.run = run := Deed.eq_of_concerns rfl hconcerns
      have hclaims : scene.office.claims.filter (·.1.run = suspended.run) =
          [(suspended, signal)] := hcounted.orderly.claims_of_mem hclaim
      have hafter : (scene.aspect suspended.run).claims =
          [(suspended, signal)] := hclaims
      have hlegs := sightsOf_begin hcounted suspended.run
        (.claimed suspended signal) suspended.graph (.resume suspended signal)
      simp only [Aspect.after, hafter]
      refine Aspect.ext rfl rfl ?_ hlegs rfl rfl
      change (scene.office.claims.erase (suspended, signal)).filter _ = []
      rw [← List.erase_filter, hclaims, List.erase_cons_head]
  | cancel other hfree =>
      obtain rfl : other = run := Deed.eq_of_concerns rfl hconcerns
      exact aspect_cancel_self hcounted other
  | @turn token worker manager entries cue hworker hturn =>
      obtain rfl : worker.task.run = run := Deed.eq_of_concerns rfl hconcerns
      exact aspect_turn_self hcounted hworker hturn
  | list now =>
      refine Aspect.ext rfl rfl rfl rfl ?_ rfl
      change (scene.sweeps ++ [_]).map _ = _
      rw [List.map_append, List.map_singleton, List.filter_comm,
        MemoryStore.filter_list]
      rfl
  | @sweep place sweep listed left hturns =>
      obtain rfl : listed.run = run := Deed.eq_of_concerns rfl hconcerns
      have hask : (scene.ask (Manager.timeoutSignal listed)).aspect listed.run =
        (scene.aspect listed.run).ask (Manager.timeoutSignal listed) :=
          aspect_ask_self
      have hsweep : scene.sweeps[place]? = some sweep := hturns.sweep_eq
      have hplace : (scene.aspect listed.run).listed[place]? =
          some (listed :: left.filter (·.run = listed.run)) := by
        simp [aspect, hsweep, hturns.left_eq]
      simp only [Aspect.after, hplace]
      refine (aspect_goOn _ _ listed.run).trans ?_
      rw [hask]
      refine Aspect.ext rfl rfl rfl rfl ?_ rfl
      exact List.map_set

/-! ## Many deeds -/

theorem Does.limits_eq (hdoes : scene.Does deed later) :
    later.office.manager.limits = scene.office.manager.limits := by
  cases hdoes with
  | submit _ _ hsubmit =>
      obtain ⟨-, -, rfl⟩ := Manager.submit_eq_ok hsubmit
      rfl
  | claim signal => simp [Scene.ask]
  | adopt _ _ => rfl
  | cancel other _ =>
      rcases scene.office.cancel_cases other with
        ⟨token, heq⟩ | ⟨_, -, heq⟩ | heq
      · rw [heq]
      · rw [heq]
        rfl
      · rw [heq]
        rfl
  | turn cue hworker hturn => exact hturn.limits_eq
  | list now => rfl
  | sweep hturns => simp [Scene.ask]

theorem Does.counted (hcounted : scene.office.Counted)
    (hdoes : scene.Does deed later) : later.office.Counted where
  orderly := hcounted.orderly.steps hdoes.step.office
  cancelled_lt token hcancelled := by
    have hbefore := hcounted.cancelled_lt token
    cases hdoes with
    | submit _ _ hsubmit =>
        obtain ⟨-, -, rfl⟩ := Manager.submit_eq_ok hsubmit
        have hlt := hbefore hcancelled
        simp only [List.length_append, List.length_singleton]
        exact Nat.lt_succ_of_lt hlt
    | claim signal =>
        simp only [Scene.ask, Office.ask_manager, Office.ask_workers] at hcancelled ⊢
        exact hbefore hcancelled
    | adopt _ _ =>
        have hlt := hbefore hcancelled
        simp only [List.length_append, List.length_singleton]
        exact Nat.lt_succ_of_lt hlt
    | cancel other _ =>
        cases hlive : Assoc.get? scene.office.manager.live other with
        | some found =>
            have hcancel := scene.office.manager.cancel_of_live hlive
            simp only [Office.cancel, hcancel] at hcancelled ⊢
            rw [List.contains_cons, Bool.or_eq_true, beq_iff_eq] at hcancelled
            rcases hcancelled with rfl | hcancelled
            · obtain ⟨worker, hworker, -⟩ :=
                hcounted.orderly.listed_iff.mp hlive
              exact (List.getElem?_eq_some_iff.mp hworker).1
            · exact hbefore hcancelled
        | none =>
            have hcancel := Manager.cancel_of_unlisted hlive
            simp only [Office.cancel, hcancel] at hcancelled ⊢
            exact hbefore hcancelled
    | turn cue hworker hturn =>
        simp only [hturn.cancelled_eq] at hcancelled
        simpa using hbefore hcancelled
    | list now => exact hbefore hcancelled
    | sweep hturns =>
        simp only [Scene.ask, Office.ask_manager, Office.ask_workers] at hcancelled ⊢
        exact hbefore hcancelled

/-- A deed makes of a run what can be told from the run, or leaves it alone. -/
theorem Does.aspect_eq (hcounted : scene.office.Counted)
    (hdoes : scene.Does deed later) (run : RunId) :
    later.aspect run =
      if deed.concerns run then
        (scene.aspect run).after scene.office.manager.limits deed
      else scene.aspect run := by
  split
  · next hconcerns => exact hdoes.aspect_of_concerns hcounted hconcerns
  · next hapart => exact hdoes.aspect_of_ne hcounted (by simpa using hapart)

theorem Plays.counted {deeds : List Deed} (hcounted : scene.office.Counted)
    (hplays : scene.Plays deeds later) : later.office.Counted := by
  induction hplays with
  | nil => exact hcounted
  | snoc _ hdoes ih => exact hdoes.counted ih

theorem Plays.limits_eq {deeds : List Deed} (hplays : scene.Plays deeds later) :
    later.office.manager.limits = scene.office.manager.limits := by
  induction hplays with
  | nil => rfl
  | snoc _ hdoes ih => exact hdoes.limits_eq.trans ih

/-- What can be told of a run is what the deeds about it have made of it. -/
theorem Plays.aspect_eq {deeds : List Deed} (hcounted : scene.office.Counted)
    (hplays : scene.Plays deeds later) :
    later.aspect run = (deeds.filter (·.concerns run)).foldl
      (Aspect.after scene.office.manager.limits) (scene.aspect run) := by
  induction hplays with
  | nil => rfl
  | @snoc deeds deed later last hplays hdoes ih =>
      rw [hdoes.aspect_eq (hplays.counted hcounted), hplays.limits_eq, ih,
        List.filter_append]
      cases hconcerns : deed.concerns run <;> simp [hconcerns]

/-! ## What is shown of a run -/

/-- What can be observed of a run. -/
@[ext]
structure Shown where
  /-- What each of its legs has reported, in order. -/
  told : List (List Event)
  /-- The last word on each leg that has ended. -/
  summaries : List (Option RunSummary)
  /-- The answers about it, the latest first. -/
  answers : List Answer
  /-- Its entry in the store. -/
  kept : Option SuspendedRun
  live : Bool

def shown (scene : Scene) (run : RunId) : Shown where
  told := (scene.office.workers.filter (·.task.run = run)).map (·.told)
  summaries :=
    (scene.office.workers.filter (·.task.run = run)).map (·.task.summary?)
  answers := scene.heard.filter (·.run = run)
  kept := scene.office.manager.store.find? run
  live := scene.office.manager.isLive run

/-- All that is shown of a run is part of its aspect. -/
theorem shown_of_aspect {other : Scene} (horderly : scene.office.Orderly)
    (hother : other.office.Orderly)
    (haspect : other.aspect run = scene.aspect run) :
    other.shown run = scene.shown run := by
  have hlegs : sightsOf other.office.manager.cancelled other.office.workers run =
      sightsOf scene.office.manager.cancelled scene.office.workers run :=
    congrArg Aspect.legs haspect
  have hworkers : ∀ {α : Type} (f : Worker → α),
      (∀ worker : Worker, f (worker.renumber 0) = f worker) →
        (other.office.workers.filter (·.task.run = run)).map f =
          (scene.office.workers.filter (·.task.run = run)).map f := by
    intro α f hf
    have hmap := congrArg (List.map fun leg => f leg.1) hlegs
    simpa [sightsOf, Worker.sight, Function.comp_def, hf] using hmap
  refine Shown.ext (hworkers _ fun _ => rfl) (hworkers _ fun _ => rfl)
    (congrArg Aspect.heard haspect) ?_ ?_
  · have hkept := congrArg (·.kept.head?) haspect
    simp only [aspect, MemoryStore.head?_filter_runs] at hkept
    exact hkept
  · have hany := congrArg (·.any (·.1.isListed)) hlegs
    rwa [hother.any_isListed, horderly.any_isListed] at hany

end Scene

end Workflow
