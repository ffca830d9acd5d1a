import Mathlib.Data.List.Basic
import Mathlib.Data.List.TakeWhile
import Workflow.Config.Environment

/-!
# What expansion changes

A text is cut from left to right into references, each up to the first closing
brace after its opening, and characters that stand for themselves.  `Cut` says
so without a word about the environment, so the values that are put in are not
cut again.

Expansion replaces the references to variables that are set and keeps all the
rest, if every opening is closed.  An opening that is left open is taken to be
closed at the end of the text, so the unrestricted statement is false.  Below
`expansion` says when it holds, and what comes out otherwise.
-/

namespace Workflow.Environment

variable {environment : Environment} {text before name rest after : List Char}

/-! ## References -/

/-- A complete reference to a variable. -/
def written (name : List Char) : List Char :=
  '$' :: '{' :: name ++ ['}']

/-- A text begins with a complete reference. -/
def Begins (text name rest : List Char) : Prop :=
  '}' ∉ name ∧ text = written name ++ rest

theorem written_append (name after : List Char) :
    written name ++ after = '$' :: '{' :: (name ++ '}' :: after) := by
  simp [written]

theorem length_written (name : List Char) :
    (written name).length = name.length + 3 := by
  simp [written]

theorem ne_close_of_mem (hname : '}' ∉ name) :
    ∀ c ∈ name, decide (c ≠ '}') = true := by
  intro c hc
  exact decide_eq_true fun heq => hname (heq ▸ hc)

theorem takeWhile_name (hname : '}' ∉ name) (after : List Char) :
    (name ++ '}' :: after).takeWhile (· ≠ '}') = name := by
  rw [List.takeWhile_append_of_pos (ne_close_of_mem hname),
    List.takeWhile_cons_of_neg (by simp), List.append_nil]

theorem dropWhile_name (hname : '}' ∉ name) (after : List Char) :
    (name ++ '}' :: after).dropWhile (· ≠ '}') = '}' :: after := by
  rw [List.dropWhile_append_of_pos (ne_close_of_mem hname),
    List.dropWhile_cons_of_neg (by simp)]

theorem Begins.unique {other : List Char} (hbegins : Begins text name rest)
    (hother : Begins text other after) : name = other ∧ rest = after := by
  obtain ⟨hname, rfl⟩ := hbegins
  obtain ⟨hother, heq⟩ := hother
  simp only [written_append, List.cons.injEq, true_and] at heq
  have htake := congrArg (List.takeWhile (· ≠ '}')) heq
  have hdrop := congrArg (List.dropWhile (· ≠ '}')) heq
  rw [takeWhile_name hname, takeWhile_name hother] at htake
  rw [dropWhile_name hname, dropWhile_name hother] at hdrop
  exact ⟨htake, (List.cons.inj hdrop).2⟩

theorem not_begins_nil : ¬ Begins [] name rest := by
  rintro ⟨-, heq⟩
  simp [written] at heq

/-! ## Openings -/

/-- A text holds an opening with no closing brace after it. -/
def LeftOpen (text : List Char) : Prop :=
  ∃ before name, text = before ++ '$' :: '{' :: name ∧ '}' ∉ name

theorem LeftOpen.append (hopen : LeftOpen text) (before : List Char) :
    LeftOpen (before ++ text) := by
  obtain ⟨first, name, rfl, hname⟩ := hopen
  exact ⟨before ++ first, name, (List.append_assoc _ _ _).symm, hname⟩

/-- An opening that is not left open begins a complete reference. -/
theorem exists_begins (hclosed : ¬ LeftOpen ('$' :: '{' :: rest)) :
    ∃ name after, Begins ('$' :: '{' :: rest) name after := by
  have hmem : '}' ∈ rest := by
    by_contra hnone
    exact hclosed ⟨[], rest, rfl, hnone⟩
  obtain ⟨name, after, rfl, hname⟩ := List.eq_append_cons_of_mem hmem
  exact ⟨name, after, hname, (written_append name after).symm⟩

/-- The first of the openings that are left open. -/
theorem exists_first_open (hopen : LeftOpen text) :
    ∃ before name, text = before ++ '$' :: '{' :: name ∧ '}' ∉ name ∧
      ¬ LeftOpen before := by
  obtain ⟨before, name, htext, hname⟩ := hopen
  induction hlength : before.length using Nat.strong_induction_on
    generalizing before name with
  | _ length ih =>
      by_cases hbefore : LeftOpen before
      · obtain ⟨first, inner, rfl, hinner⟩ := hbefore
        refine ih first.length ?_ first (inner ++ '$' :: '{' :: name) ?_ ?_ rfl
        · rw [← hlength, List.length_append, List.length_cons]
          omega
        · rw [htext]
          simp
        · simp [hinner, hname]
      · exact ⟨before, name, htext, hname, hbefore⟩

/-! ## Cutting -/

/-- A part of a text. -/
inductive Part where
  | character (c : Char)
  | reference (name : List Char)

/-- A text, cut from left to right into complete references and characters. -/
inductive Cut : List Char → List Part → Prop
  | nil : Cut [] []
  | reference {text name rest : List Char} {parts : List Part}
      (hbegins : Begins text name rest) (hrest : Cut rest parts) :
      Cut text (.reference name :: parts)
  | character {c : Char} {rest : List Char} {parts : List Part}
      (hnone : ∀ name after, ¬ Begins (c :: rest) name after)
      (hrest : Cut rest parts) : Cut (c :: rest) (.character c :: parts)

variable {parts others : List Part}

/-- There is one way to cut a text. -/
theorem Cut.unique (hcut : Cut text parts) (hother : Cut text others) :
    parts = others := by
  induction hcut generalizing others with
  | nil =>
      cases hother with
      | nil => rfl
      | reference hbegins => exact absurd hbegins not_begins_nil
  | reference hbegins _ ih =>
      cases hother with
      | nil => exact absurd hbegins not_begins_nil
      | reference hbegins' hrest' =>
          obtain ⟨rfl, rfl⟩ := hbegins.unique hbegins'
          rw [ih hrest']
      | character hnone => exact absurd hbegins (hnone _ _)
  | character hnone _ ih =>
      cases hother with
      | reference hbegins => exact absurd hbegins (hnone _ _)
      | character _ hrest' => rw [ih hrest']

theorem exists_cut (text : List Char) : ∃ parts, Cut text parts := by
  induction hlength : text.length using Nat.strong_induction_on
    generalizing text with
  | _ length ih =>
      cases text with
      | nil => exact ⟨[], .nil⟩
      | cons c rest =>
          by_cases hbegins : ∃ name after, Begins (c :: rest) name after
          · obtain ⟨name, after, hname, heq⟩ := hbegins
            have hshorter : after.length < length := by
              rw [← hlength, heq, List.length_append, length_written]
              omega
            obtain ⟨parts, hafter⟩ := ih after.length hshorter after rfl
            exact ⟨_, .reference ⟨hname, heq⟩ hafter⟩
          · have hshorter : rest.length < length := by
              rw [← hlength]
              exact Nat.lt_succ_self rest.length
            obtain ⟨parts, hrest⟩ := ih rest.length hshorter rest rfl
            refine ⟨_, .character ?_ hrest⟩
            intro name after hsome
            exact hbegins ⟨name, after, hsome⟩

/-- How a part is written. -/
def Part.write : Part → List Char
  | character c => [c]
  | reference name => written name

/-- What stands for a part: the value of a variable that is set, and whatever is
written there otherwise. -/
def Part.expand (environment : Environment) : Part → List Char
  | character c => [c]
  | reference name =>
    match environment.value? (String.ofList name) with
    | some value => value.toList
    | none => written name

theorem Cut.flatMap_write (hcut : Cut text parts) :
    parts.flatMap Part.write = text := by
  induction hcut with
  | nil => rfl
  | reference hbegins _ ih => rw [List.flatMap_cons, ih, hbegins.2, Part.write]
  | character _ _ ih => rw [List.flatMap_cons, ih, Part.write, List.singleton_append]

theorem cut_of_not_mem (hclose : '}' ∉ text) :
    Cut text (text.map .character) := by
  induction text with
  | nil => exact .nil
  | cons c rest ih =>
      refine .character ?_ (ih fun hmem => hclose (List.mem_cons_of_mem c hmem))
      rintro name after ⟨-, heq⟩
      rw [heq] at hclose
      simp [written] at hclose

/-- A text whose openings are closed is cut in the same way when something
follows, unless its last character becomes part of an opening. -/
theorem Cut.append (hcut : Cut before parts) (hclosed : ¬ LeftOpen before)
    (htext : ∀ rest, text ≠ '{' :: rest) (hrest : Cut text others) :
    Cut (before ++ text) (parts ++ others) := by
  induction hcut with
  | nil => exact hrest
  | reference hbegins _ ih =>
      obtain ⟨hname, rfl⟩ := hbegins
      refine .reference ⟨hname, List.append_assoc _ _ _⟩ (ih ?_)
      exact fun hopen => hclosed (hopen.append _)
  | @character c rest parts hnone _ ih =>
      refine .character ?_ (ih fun hopen => hclosed (hopen.append [c]))
      rintro name after ⟨-, heq⟩
      rw [written_append, ← List.cons_append, List.cons_append] at heq
      obtain ⟨rfl, hopening⟩ := List.cons.inj heq
      cases rest with
      | nil => exact htext _ hopening
      | cons d rest =>
          obtain ⟨rfl, -⟩ := List.cons.inj hopening
          obtain ⟨name, after, hbegins⟩ := exists_begins hclosed
          exact hnone name after hbegins

/-! ## Expanding -/

theorem substitute_eq (environment : Environment) (name : List Char) :
    environment.substitute name = (Part.reference name).expand environment := by
  rfl

theorem expandFrom_nil (environment : Environment) (fuel : Nat) :
    environment.expandFrom fuel [] = [] := by
  cases fuel <;> rfl

theorem expandFrom_written (hname : '}' ∉ name) (fuel : Nat) :
    environment.expandFrom (fuel + 1) (written name ++ after) =
      (Part.reference name).expand environment ++
        environment.expandFrom fuel after := by
  rw [written_append, expandFrom, takeWhile_name hname, dropWhile_name hname,
    substitute_eq, List.drop_one, List.tail_cons]

theorem expandFrom_open (hname : '}' ∉ name) (fuel : Nat) :
    environment.expandFrom (fuel + 1) ('$' :: '{' :: name) =
      (Part.reference name).expand environment := by
  have hall := ne_close_of_mem hname
  rw [expandFrom, List.takeWhile_eq_self_iff.mpr hall,
    List.dropWhile_eq_nil_iff.mpr hall, List.drop_nil, expandFrom_nil,
    List.append_nil, substitute_eq]

theorem expandFrom_character {c : Char}
    (hnone : ∀ rest', c :: rest ≠ '$' :: '{' :: rest') (fuel : Nat) :
    environment.expandFrom (fuel + 1) (c :: rest) =
      c :: environment.expandFrom fuel rest := by
  rw [expandFrom]
  exact fun rest' hc hrest => hnone rest' (by rw [hc, hrest])

/-- A text whose openings are closed is expanded part by part, whatever
follows. -/
theorem Cut.expandFrom_append (hcut : Cut before parts)
    (hclosed : ¬ LeftOpen before) (environment : Environment)
    (htext : ∀ rest, text ≠ '{' :: rest) {fuel : Nat}
    (hfuel : (before ++ text).length ≤ fuel) :
    ∃ more, text.length ≤ more ∧
      environment.expandFrom fuel (before ++ text) =
        parts.flatMap (Part.expand environment) ++
          environment.expandFrom more text := by
  induction hcut generalizing fuel with
  | nil => exact ⟨fuel, hfuel, rfl⟩
  | @reference whole name rest parts hbegins _ ih =>
      obtain ⟨hname, rfl⟩ := hbegins
      simp only [List.length_append, length_written] at hfuel
      cases fuel with
      | zero => omega
      | succ fuel =>
          have hless : (rest ++ text).length ≤ fuel := by
            rw [List.length_append]
            omega
          obtain ⟨more, hmore, heq⟩ :=
            ih (fun hopen => hclosed (hopen.append _)) hless
          refine ⟨more, hmore, ?_⟩
          rw [List.append_assoc, expandFrom_written hname, heq,
            List.flatMap_cons, List.append_assoc]
  | @character c rest parts hnone _ ih =>
      cases fuel with
      | zero => simp at hfuel
      | succ fuel =>
          obtain ⟨more, hmore, heq⟩ := ih
            (fun hopen => hclosed (hopen.append [c]))
            (Nat.le_of_succ_le_succ hfuel)
          refine ⟨more, hmore, ?_⟩
          have hopening : ∀ rest', c :: (rest ++ text) ≠ '$' :: '{' :: rest' := by
            intro rest' heq
            obtain ⟨rfl, hrest⟩ := List.cons.inj heq
            cases rest with
            | nil => exact htext _ hrest
            | cons d rest =>
                obtain ⟨rfl, -⟩ := List.cons.inj hrest
                obtain ⟨name, after, hbegins⟩ := exists_begins hclosed
                exact hnone name after hbegins
          rw [List.cons_append, expandFrom_character hopening, heq,
            List.flatMap_cons, Part.expand, List.cons_append, List.cons_append,
            List.nil_append]

theorem toList_expand (environment : Environment) (text : String) :
    (environment.expand text).toList =
      environment.expandFrom text.toList.length text.toList := by
  rw [expand, String.toList_ofList, String.length_toList]

theorem Cut.expand_closed {text : String} (hcut : Cut text.toList parts)
    (hclosed : ¬ LeftOpen text.toList) :
    (environment.expand text).toList =
      parts.flatMap (Part.expand environment) := by
  obtain ⟨more, -, heq⟩ := hcut.expandFrom_append hclosed environment
    (by simp : ∀ rest, [] ≠ '{' :: rest) (by rw [List.append_nil])
  rw [List.append_nil, expandFrom_nil, List.append_nil] at heq
  rw [toList_expand, heq]

/-- An opening that is left open is expanded as if the text ended with a closing
brace. -/
theorem Cut.expand_open {text : String} (hcut : Cut before parts)
    (hclosed : ¬ LeftOpen before) (hname : '}' ∉ name)
    (htext : text.toList = before ++ '$' :: '{' :: name) :
    (environment.expand text).toList =
      parts.flatMap (Part.expand environment) ++
        (Part.reference name).expand environment := by
  obtain ⟨more, hmore, heq⟩ := hcut.expandFrom_append hclosed environment
    (by simp : ∀ rest, '$' :: '{' :: name ≠ '{' :: rest) le_rfl
  rw [toList_expand, htext, heq]
  cases more with
  | zero => simp at hmore
  | succ more => rw [expandFrom_open hname]

/-! ## The whole statement -/

theorem flatMap_expand_character (environment : Environment)
    (text : List Char) :
    (text.map Part.character).flatMap (Part.expand environment) = text := by
  simp [List.flatMap_map, Part.expand]

/-- An opening that is left open is kept as it is only where the variable has
that very text for its value. -/
theorem expand_eq_open_iff :
    (Part.reference name).expand environment = '$' :: '{' :: name ↔
      environment.value? (String.ofList name) =
        some (String.ofList ('$' :: '{' :: name)) := by
  cases hvalue : environment.value? (String.ofList name) with
  | none =>
      have hlonger : written name ≠ '$' :: '{' :: name := by
        intro heq
        have hlength := congrArg List.length heq
        rw [length_written] at hlength
        simp at hlength
      simp [Part.expand, hvalue, hlonger]
  | some value =>
      simp only [Part.expand, hvalue, Option.some.injEq]
      rw [← String.toList_inj, String.toList_ofList]

theorem Cut.expand_unset (hcut : Cut text parts)
    (hunset : ∀ name, Part.reference name ∈ parts →
      environment.value? (String.ofList name) = none) :
    parts.flatMap (Part.expand environment) = text := by
  rw [← hcut.flatMap_write]
  apply List.flatMap_congr
  rintro (c | name) hmem
  · rfl
  · simp [Part.expand, Part.write, hunset name hmem]

/-- What expansion makes of a text with these parts. -/
structure Expansion (text : String) (parts : List Part) : Prop where
  /-- There is one way to cut the text. -/
  cut_iff (others : List Part) : Cut text.toList others ↔ others = parts
  /-- Where no opening is left open, variables that are set are put in, and all
  the rest is kept. -/
  closed (environment : Environment) (hclosed : ¬ LeftOpen text.toList) :
    (environment.expand text).toList =
      parts.flatMap (Part.expand environment)
  /-- Where no opening is left open and no variable is set, nothing changes. -/
  unchanged (environment : Environment) (hclosed : ¬ LeftOpen text.toList)
    (hunset : ∀ name, Part.reference name ∈ parts →
      environment.value? (String.ofList name) = none) :
    environment.expand text = text
  /-- The first opening that is left open is expanded together with the rest of
  the text, and with a closing brace that is not there. -/
  leftOpen (environment : Environment) (before name : List Char)
    (htext : text.toList = before ++ '$' :: '{' :: name) (hname : '}' ∉ name)
    (hbefore : ¬ LeftOpen before) :
    ∃ first, parts = first ++ ('$' :: '{' :: name).map .character ∧
      (environment.expand text).toList =
        first.flatMap (Part.expand environment) ++
          (Part.reference name).expand environment
  /-- So the expansion is not as the parts say, but for a variable with its own
  opening for a value. -/
  exact_iff (environment : Environment) :
    (environment.expand text).toList =
        parts.flatMap (Part.expand environment) ↔
      ∀ before name, text.toList = before ++ '$' :: '{' :: name →
        '}' ∉ name → ¬ LeftOpen before →
        environment.value? (String.ofList name) =
          some (String.ofList ('$' :: '{' :: name))

/-- The parts of a text up to the first opening that is left open, and the
characters from there on. -/
theorem Cut.exists_first {text : String} (hcut : Cut text.toList parts)
    (htext : text.toList = before ++ '$' :: '{' :: name) (hname : '}' ∉ name)
    (hbefore : ¬ LeftOpen before) :
    ∃ first, parts = first ++ ('$' :: '{' :: name).map .character ∧
      ∀ environment : Environment, (environment.expand text).toList =
        first.flatMap (Part.expand environment) ++
          (Part.reference name).expand environment := by
  obtain ⟨first, hfirst⟩ := exists_cut before
  have hopen : Cut ('$' :: '{' :: name) (('$' :: '{' :: name).map .character) :=
    cut_of_not_mem (by simp [hname])
  have happend := hfirst.append hbefore (by simp) hopen
  rw [← htext] at happend
  exact ⟨first, hcut.unique happend, fun environment =>
    hfirst.expand_open hbefore hname htext⟩

theorem Cut.exact_iff {text : String} (hcut : Cut text.toList parts) :
    (environment.expand text).toList =
        parts.flatMap (Part.expand environment) ↔
      ∀ before name, text.toList = before ++ '$' :: '{' :: name →
        '}' ∉ name → ¬ LeftOpen before →
        environment.value? (String.ofList name) =
          some (String.ofList ('$' :: '{' :: name)) := by
  constructor
  · intro hexact before name htext hname hbefore
    obtain ⟨first, rfl, hexpand⟩ := hcut.exists_first htext hname hbefore
    rw [hexpand, List.flatMap_append, flatMap_expand_character] at hexact
    exact expand_eq_open_iff.mp (List.append_cancel_left hexact)
  · intro hvalue
    by_cases hopen : LeftOpen text.toList
    · obtain ⟨before, name, htext, hname, hbefore⟩ := exists_first_open hopen
      obtain ⟨first, rfl, hexpand⟩ := hcut.exists_first htext hname hbefore
      have hkept := expand_eq_open_iff.mpr (hvalue before name htext hname hbefore)
      rw [hexpand, hkept, List.flatMap_append, flatMap_expand_character]
    · exact hcut.expand_closed hopen

/-- Every text has parts that settle what expansion makes of it. -/
theorem expansion (text : String) : ∃ parts, Expansion text parts := by
  obtain ⟨parts, hcut⟩ := exists_cut text.toList
  refine ⟨parts, ?_, ?_, ?_, ?_, fun environment => hcut.exact_iff⟩
  · intro others
    constructor
    · intro hother
      exact hother.unique hcut
    · rintro rfl
      exact hcut
  · intro environment hclosed
    exact hcut.expand_closed hclosed
  · intro environment hclosed hunset
    rw [← String.toList_inj, hcut.expand_closed hclosed]
    exact hcut.expand_unset hunset
  · intro environment before name htext hname hbefore
    obtain ⟨first, hparts, hexpand⟩ := hcut.exists_first htext hname hbefore
    exact ⟨first, hparts, hexpand environment⟩

/-- With no variable set at all, a closing brace is added to an opening that is
left open. -/
theorem expand_left_open :
    Cut "$\x7bA".toList [.character '$', .character '{', .character 'A'] ∧
      (Environment.expand [] "$\x7bA").toList ≠
        [Part.character '$', .character '{', .character 'A'].flatMap
          (Part.expand []) := by
  constructor
  · exact cut_of_not_mem (by decide)
  · decide

/-- An opening inside of a reference belongs to its name, and values are not
expanded again. -/
example : Environment.expand [("A", "${B}"), ("B", "b")] "$\x7bA${B} ${A}$" =
    "$\x7bA${B} ${B}$" := by decide

end Workflow.Environment
