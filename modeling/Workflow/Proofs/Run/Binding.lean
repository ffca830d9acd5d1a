import Mathlib.Data.List.Nodup
import Workflow.Inputs
import Workflow.Proofs.Assoc

/-!
# What inputs are bound to

Declarations are taken one after the other, and a supplied value is used up by
the first declaration of its name.  A later declaration of the same name does
not see it any more: it is left with its default, which then replaces the
supplied value, or finds that the input is missing
(`bind_replaces_supplied`).

Declarations are `Compatible` with what is supplied if this does no harm, as is
the case whenever no name is declared twice (`compatible_of_nodup`).  Then the
inputs are bound as `Respects` says: `bind_respects`.
-/

namespace Workflow

/-- A value, if it is not `null`. -/
def Json.definite? : Option Json → Option Json
  | some .null => none
  | value => value

/-- The default of a declaration; `null` counts as none. -/
def InputVariable.fallback? (input : InputVariable) : Option Json :=
  Json.definite? input.default?

namespace Inputs

/-- The wording of the failure for want of an input. -/
def missing : String :=
  "required input is missing"

/-- What is supplied for a name; `null` counts as nothing. -/
def given? (supplied : Assoc Json) (name : String) : Option Json :=
  Json.definite? (Assoc.get? supplied name)

/-- What has been bound to the names. -/
structure Binds (declared : List InputVariable) (supplied bound : Assoc Json) :
    Prop where
  /-- Declared names are bound if they are supplied or have a default, and
  nothing else is. -/
  has_iff : ∀ name, Assoc.has bound name = true ↔
    ∃ input ∈ declared, input.name = name ∧
      ((given? supplied name).isSome = true ∨ input.fallback?.isSome = true)
  /-- A supplied value is brought to the type that is declared first. -/
  of_given : ∀ name value first, given? supplied name = some value →
    declared.find? (·.name = name) = some first →
      ∃ coerced, coerce first.type value = .ok coerced ∧
        Assoc.get? bound name = some coerced
  /-- Of several defaults the last one stands. -/
  of_default : ∀ front input rest value,
    declared = front ++ input :: rest →
    given? supplied input.name = none → input.fallback? = some value →
    (∀ later ∈ rest, later.name = input.name → later.fallback? = none) →
      ∃ coerced, coerce input.type value = .ok coerced ∧
        Assoc.get? bound input.name = some coerced

/-- Why inputs cannot be bound. -/
inductive Refuses (declared : List InputVariable) (supplied : Assoc Json) :
    Error → Prop
  | missing {input : InputVariable} (hmem : input ∈ declared)
      (hrequired : input.required = true)
      (hgiven : given? supplied input.name = none)
      (hdefault : ∀ other ∈ declared, other.name = input.name →
        other.fallback? = none) :
      Refuses declared supplied (.invalidInput input.name missing)
  | mismatch {input : InputVariable} {value : Json} {mismatch : Mismatch}
      (hmem : input ∈ declared)
      (hchosen : given? supplied input.name = some value ∨
        given? supplied input.name = none ∧ input.fallback? = some value)
      (hcoerce : coerce input.type value = .error mismatch)
      (hreason : mismatch.message ≠ Inputs.missing) :
      Refuses declared supplied (.invalidInput input.name mismatch.message)

/-- What binding comes to, if it goes by what is supplied and declared. -/
def Respects (declared : List InputVariable) (supplied : Assoc Json) :
    Except Error (Assoc Json) → Prop
  | .ok bound => Binds declared supplied bound
  | .error error => Refuses declared supplied error

/-- Several declarations of one name that do not get into each other's way. -/
structure Compatible (declared : List InputVariable) (supplied : Assoc Json) :
    Prop where
  /-- A name that is supplied is declared again only as optional and without a
  default. -/
  repeated : declared.Pairwise fun first later => first.name = later.name →
    (given? supplied later.name).isSome = true →
      later.required = false ∧ later.fallback? = none
  /-- If one declaration requires what is not there, no other has a default for
  it. -/
  required : ∀ input ∈ declared, input.required = true →
    given? supplied input.name = none → input.fallback? = none →
      ∀ other ∈ declared, other.name = input.name → other.fallback? = none

/-- Declarations of different names are always compatible. -/
theorem compatible_of_nodup {declared : List InputVariable}
    (hnames : (declared.map InputVariable.name).Nodup) (supplied : Assoc Json) :
    Compatible declared supplied := by
  have hdistinct := List.pairwise_map.mp hnames
  constructor
  · apply hdistinct.imp
    intro first later hne heq
    exact absurd heq hne
  · intro input hmem _ _ hnone other hother heq
    rwa [List.inj_on_of_nodup_map hnames hother hmem heq]

/-! ## What one declaration takes -/

section

variable {input : InputVariable} {rest declared : List InputVariable}
variable {supplied sofar bound : Assoc Json} {name : String} {error : Error}

theorem choose_eq : choose input supplied =
    (given? supplied input.name).or input.fallback? := by
  have hdefault : ∀ default : Option Json,
      (match default with
        | some .null => none
        | value => value) = Json.definite? default := by
    intro default
    cases default with
    | none => rfl
    | some value => cases value <;> rfl
  unfold choose given? InputVariable.fallback?
  cases Assoc.get? supplied input.name with
  | none => exact hdefault input.default?
  | some value =>
      cases value with
      | null => exact hdefault input.default?
      | bool _ => rfl
      | number _ => rfl
      | text _ => rfl
      | list _ => rfl
      | record _ => rfl

theorem given?_erase_self : given? (Assoc.erase supplied name) name = none := by
  rw [given?, Assoc.get?_erase_self]
  rfl

theorem given?_erase_of_ne {other : String} (hne : other ≠ name) :
    given? (Assoc.erase supplied name) other = given? supplied other := by
  rw [given?, given?, Assoc.get?_erase_of_ne _ hne]

/-- A later declaration of the same name takes nothing and asks for nothing,
unless nothing has been supplied. -/
theorem Compatible.of_repeated {later : InputVariable}
    (hcompatible : Compatible (input :: rest) supplied) (hmem : later ∈ rest)
    (hname : later.name = input.name) :
    given? supplied later.name = none ∨
      later.required = false ∧ later.fallback? = none := by
  obtain ⟨hhead, -⟩ := List.pairwise_cons.mp hcompatible.repeated
  cases hgiven : given? supplied later.name with
  | none => exact .inl rfl
  | some value => exact .inr (hhead later hmem hname.symm (by simp [hgiven]))

/-- A declaration that is met leaves the others compatible. -/
theorem Compatible.tail (hcompatible : Compatible (input :: rest) supplied) :
    Compatible rest (Assoc.erase supplied input.name) := by
  obtain ⟨-, hrest⟩ := List.pairwise_cons.mp hcompatible.repeated
  constructor
  · apply hrest.imp
    intro first later hlater heq hgiven
    by_cases hname : later.name = input.name
    · rw [hname, given?_erase_self] at hgiven
      contradiction
    · rw [given?_erase_of_ne hname] at hgiven
      exact hlater heq hgiven
  · intro later hmem hrequired hgiven hnone other hother heq
    have hmem' := List.mem_cons_of_mem input hmem
    have hother' := List.mem_cons_of_mem input hother
    by_cases hname : later.name = input.name
    · -- The value is gone, but where there was one, nothing is required later.
      obtain hgiven | ⟨hoptional, -⟩ := hcompatible.of_repeated hmem hname
      · exact hcompatible.required later hmem' hrequired hgiven hnone other
          hother' heq
      · rw [hoptional] at hrequired
        contradiction
    · rw [given?_erase_of_ne hname] at hgiven
      exact hcompatible.required later hmem' hrequired hgiven hnone other
        hother' heq

/-- What it means that a declaration and all after it are bound. -/
theorem bindAll_cons_ok
    (hbind : bindAll (input :: rest) supplied sofar = .ok bound) :
    (choose input supplied = none ∧ input.required = false ∧
      bindAll rest (Assoc.erase supplied input.name) sofar = .ok bound) ∨
    ∃ value coerced, choose input supplied = some value ∧
      coerce input.type value = .ok coerced ∧
      bindAll rest (Assoc.erase supplied input.name)
        (Assoc.insert sofar input.name coerced) = .ok bound := by
  unfold bindAll at hbind
  split at hbind
  next hnone =>
    split at hbind
    next => contradiction
    next hoptional => exact .inl ⟨hnone, by simpa using hoptional, hbind⟩
  next value hsome =>
    split at hbind
    next => contradiction
    next coerced hcoerce => exact .inr ⟨value, coerced, hsome, hcoerce, hbind⟩

/-- What it means that they are not. -/
theorem bindAll_cons_error
    (hbind : bindAll (input :: rest) supplied sofar = .error error) :
    (choose input supplied = none ∧ input.required = true ∧
      error = .invalidInput input.name missing) ∨
    (∃ value mismatch, choose input supplied = some value ∧
      coerce input.type value = .error mismatch ∧
      error = .invalidInput input.name mismatch.message) ∨
    ∃ next, bindAll rest (Assoc.erase supplied input.name) next =
      .error error := by
  unfold bindAll at hbind
  split at hbind
  next hnone =>
    split at hbind
    next hrequired =>
      exact .inl ⟨hnone, hrequired, (Except.error.inj hbind).symm⟩
    next => exact .inr (.inr ⟨_, hbind⟩)
  next value hsome =>
    split at hbind
    next mismatch hcoerce =>
      exact .inr (.inl ⟨value, mismatch, hsome, hcoerce,
        (Except.error.inj hbind).symm⟩)
    next => exact .inr (.inr ⟨_, hbind⟩)

/-! ## What all of them take -/

/-- A name for which no declaration takes anything keeps its value. -/
theorem get?_of_bindAll (hbind : bindAll declared supplied sofar = .ok bound)
    (hnothing : ∀ input ∈ declared, input.name = name →
      choose input supplied = none) :
    Assoc.get? bound name = Assoc.get? sofar name := by
  induction declared generalizing supplied sofar with
  | nil =>
      obtain rfl := Except.ok.inj hbind
      rfl
  | cons input rest ih =>
      obtain ⟨hhead, hrest⟩ := List.forall_mem_cons.mp hnothing
      have hlater : ∀ later ∈ rest, later.name = name →
          choose later (Assoc.erase supplied input.name) = none := by
        intro later hmem hname
        have hnone := hrest later hmem hname
        rw [choose_eq, Option.or_eq_none_iff] at hnone ⊢
        by_cases hsame : later.name = input.name
        · rw [hsame, given?_erase_self]
          exact ⟨rfl, hnone.2⟩
        · rwa [given?_erase_of_ne hsame]
      obtain ⟨-, -, hbind⟩ | ⟨value, coerced, hsome, -, hbind⟩ :=
        bindAll_cons_ok hbind
      · exact ih hbind hlater
      · have hne : name ≠ input.name := by
          rintro rfl
          rw [hhead rfl] at hsome
          contradiction
        rw [ih hbind hlater, Assoc.get?_insert_of_ne _ _ hne]

theorem isSome_get?_of_bindAll
    (hbind : bindAll declared supplied sofar = .ok bound) :
    (Assoc.get? bound name).isSome = true ↔
      (Assoc.get? sofar name).isSome = true ∨
      ∃ input ∈ declared, input.name = name ∧
        ((given? supplied name).isSome = true ∨
          input.fallback?.isSome = true) := by
  induction declared generalizing supplied sofar with
  | nil =>
      obtain rfl := Except.ok.inj hbind
      simp
  | cons input rest ih =>
      obtain ⟨hnone, -, hbind⟩ | ⟨value, coerced, hsome, -, hbind⟩ :=
        bindAll_cons_ok hbind
      · rw [ih hbind]
        rw [choose_eq, Option.or_eq_none_iff] at hnone
        by_cases hname : input.name = name
        · obtain rfl := hname
          simp [given?_erase_self, hnone]
        · simp [given?_erase_of_ne (Ne.symm hname), hname]
      · rw [ih hbind]
        rw [choose_eq, Option.or_eq_some_iff] at hsome
        by_cases hname : input.name = name
        · obtain rfl := hname
          rw [Assoc.get?_insert_self]
          obtain hgiven | ⟨hgiven, hdefault⟩ := hsome
          · simp [hgiven]
          · simp [hgiven, hdefault]
        · rw [Assoc.get?_insert_of_ne _ _ (Ne.symm hname)]
          simp [given?_erase_of_ne (Ne.symm hname), hname]

/-- The first declaration of a name takes what is supplied for it. -/
theorem get?_of_given (hcompatible : Compatible declared supplied)
    (hbind : bindAll declared supplied sofar = .ok bound) {value : Json}
    (hgiven : given? supplied name = some value) {first : InputVariable}
    (hfirst : declared.find? (·.name = name) = some first) :
    ∃ coerced, coerce first.type value = .ok coerced ∧
      Assoc.get? bound name = some coerced := by
  induction declared generalizing supplied sofar with
  | nil => simp at hfirst
  | cons input rest ih =>
      have htail := hcompatible.tail
      by_cases hname : input.name = name
      · obtain rfl : input = first := by simpa [hname] using hfirst
        obtain rfl := hname
        have hchosen : choose input supplied = some value := by
          rw [choose_eq, hgiven]
          rfl
        obtain ⟨hnone, -, -⟩ | ⟨chosen, coerced, hsome, hcoerce, hbind⟩ :=
          bindAll_cons_ok hbind
        · rw [hchosen] at hnone
          contradiction
        · obtain rfl := Option.some.inj (hchosen.symm.trans hsome)
          refine ⟨coerced, hcoerce, ?_⟩
          rw [get?_of_bindAll hbind, Assoc.get?_insert_self]
          -- A later declaration of the name has no default to put in its place.
          intro later hmem hsame
          obtain hnone | ⟨-, hdefault⟩ := hcompatible.of_repeated hmem hsame
          · rw [hsame, hgiven] at hnone
            contradiction
          · rw [choose_eq, hsame, given?_erase_self, hdefault]
            rfl
      · have hfirst : rest.find? (·.name = name) = some first := by
          simpa [hname] using hfirst
        have hgiven : given? (Assoc.erase supplied input.name) name =
            some value := by
          rwa [given?_erase_of_ne (Ne.symm hname)]
        obtain ⟨-, -, hbind⟩ | ⟨_, _, -, -, hbind⟩ := bindAll_cons_ok hbind
        · exact ih htail hbind hgiven hfirst
        · exact ih htail hbind hgiven hfirst

/-- The last default that is declared for a name stands if nothing is supplied
for it. -/
theorem get?_of_default {front : List InputVariable} {value : Json}
    (hbind : bindAll (front ++ input :: rest) supplied sofar = .ok bound)
    (hgiven : given? supplied input.name = none)
    (hdefault : input.fallback? = some value)
    (hlast : ∀ later ∈ rest, later.name = input.name →
      later.fallback? = none) :
    ∃ coerced, coerce input.type value = .ok coerced ∧
      Assoc.get? bound input.name = some coerced := by
  induction front generalizing supplied sofar with
  | nil =>
      have hchosen : choose input supplied = some value := by
        rw [choose_eq, hgiven, hdefault]
        rfl
      obtain ⟨hnone, -, -⟩ | ⟨chosen, coerced, hsome, hcoerce, hbind⟩ :=
        bindAll_cons_ok hbind
      · rw [hchosen] at hnone
        contradiction
      · obtain rfl := Option.some.inj (hchosen.symm.trans hsome)
        refine ⟨coerced, hcoerce, ?_⟩
        rw [get?_of_bindAll hbind, Assoc.get?_insert_self]
        intro later hmem hsame
        rw [choose_eq, hsame, given?_erase_self, hlast later hmem hsame]
        rfl
  | cons other front ih =>
      have hgiven : given? (Assoc.erase supplied other.name) input.name =
          none := by
        by_cases hname : input.name = other.name
        · rw [hname, given?_erase_self]
        · rwa [given?_erase_of_ne hname]
      obtain ⟨-, -, hbind⟩ | ⟨_, _, -, -, hbind⟩ := bindAll_cons_ok hbind
      · exact ih hbind hgiven
      · exact ih hbind hgiven

/-! ## Failures -/

/-- No mismatch is worded like a missing input. -/
theorem Mismatch.message_ne_missing (mismatch : Mismatch) :
    mismatch.message ≠ missing := by
  intro hmessage
  have hhead := congrArg (fun message => message.toList.head?) hmessage
  cases mismatch with
  | notNumber text => simp [message, missing, toString] at hhead
  | notBoolean text => simp [message, missing, toString] at hhead
  | otherType expected found => simp [message, missing, toString] at hhead

theorem refuses_of_bindAll (hcompatible : Compatible declared supplied)
    (hbind : bindAll declared supplied sofar = .error error) :
    Refuses declared supplied error := by
  induction declared generalizing supplied sofar with
  | nil => simp [bindAll] at hbind
  | cons input rest ih =>
      obtain ⟨hnone, hrequired, rfl⟩ | ⟨value, mismatch, hsome, hcoerce, rfl⟩ |
        ⟨next, hbind⟩ := bindAll_cons_error hbind
      · rw [choose_eq, Option.or_eq_none_iff] at hnone
        refine .missing List.mem_cons_self hrequired hnone.1 ?_
        exact hcompatible.required input List.mem_cons_self hrequired hnone.1
          hnone.2
      · rw [choose_eq, Option.or_eq_some_iff] at hsome
        exact .mismatch List.mem_cons_self hsome hcoerce
          mismatch.message_ne_missing
      · -- What is missing for the rest has not been used up, nor has a supplied
        -- value been replaced by a default: both are kept out.
        cases ih hcompatible.tail hbind with
        | @missing later hmem hrequired hgiven hdefault =>
            have hmem' := List.mem_cons_of_mem input hmem
            have hnone := hdefault later hmem rfl
            have hgiven : given? supplied later.name = none := by
              by_cases hname : later.name = input.name
              · obtain hgiven | ⟨hoptional, -⟩ :=
                  hcompatible.of_repeated hmem hname
                · exact hgiven
                · rw [hoptional] at hrequired
                  contradiction
              · rwa [given?_erase_of_ne hname] at hgiven
            exact .missing hmem' hrequired hgiven
              (hcompatible.required later hmem' hrequired hgiven hnone)
        | @mismatch later value _ hmem hchosen hcoerce hreason =>
            have hmem' := List.mem_cons_of_mem input hmem
            refine .mismatch hmem' ?_ hcoerce hreason
            by_cases hname : later.name = input.name
            · rw [hname, given?_erase_self] at hchosen
              obtain hchosen | ⟨-, hdefault⟩ := hchosen
              · contradiction
              · obtain hgiven | ⟨-, hnone⟩ := hcompatible.of_repeated hmem hname
                · exact .inr ⟨hgiven, hdefault⟩
                · rw [hnone] at hdefault
                  contradiction
            · rwa [given?_erase_of_ne hname] at hchosen

end

/-- Inputs are bound by what is supplied and declared, as long as declarations
of one name do not get into each other's way. -/
theorem bind_respects {declared : List InputVariable} {supplied : Assoc Json}
    (hne : declared ≠ []) (hcompatible : Compatible declared supplied) :
    Respects declared supplied (bind declared supplied) := by
  have hbind : bind declared supplied = bindAll declared supplied [] := by
    simp [bind, hne]
  rw [hbind]
  cases hresult : bindAll declared supplied [] with
  | error error => exact refuses_of_bindAll hcompatible hresult
  | ok bound =>
      constructor
      · intro name
        rw [Assoc.has, isSome_get?_of_bindAll hresult]
        simp
      · intro name value first hgiven hfirst
        exact get?_of_given hcompatible hresult hgiven hfirst
      · intro front input rest value hsplit hgiven hdefault hlast
        subst hsplit
        exact get?_of_default hresult hgiven hdefault hlast

/-- A name that is declared twice, and one with a default. -/
def order : List InputVariable :=
  [⟨"count", .number, true, none⟩, ⟨"gift", .boolean, false, some (.text "TRUE")⟩,
    ⟨"count", .string, false, some .null⟩]

/-- The default stands for `null`, and what is not declared is left out. -/
theorem bind_respects_order :
    order ≠ [] ∧
    Compatible order [("count", .int 7), ("gift", .null), ("note", .int 1)] ∧
    bind order [("count", .int 7), ("gift", .null), ("note", .int 1)] =
      .ok [("count", .int 7), ("gift", .bool true)] ∧
    Respects order [("count", .int 7), ("gift", .null), ("note", .int 1)]
      (bind order [("count", .int 7), ("gift", .null), ("note", .int 1)]) := by
  have hcompatible :
      Compatible order [("count", .int 7), ("gift", .null), ("note", .int 1)] :=
    ⟨by decide, by decide⟩
  exact ⟨by decide, hcompatible, by decide +kernel,
    bind_respects (by decide) hcompatible⟩

/-- A name that is declared once more, with a default. -/
def overdone : List InputVariable :=
  [⟨"count", .number, true, none⟩, ⟨"count", .number, false, some (.int 3)⟩]

/-- The default is bound in place of what was supplied. -/
theorem bind_replaces_supplied :
    bind overdone [("count", .int 7)] = .ok [("count", .int 3)] ∧
    ¬ Respects overdone [("count", .int 7)]
      (bind overdone [("count", .int 7)]) := by
  have hbind : bind overdone [("count", .int 7)] = .ok [("count", .int 3)] := by
    decide
  refine ⟨hbind, ?_⟩
  rw [hbind]
  intro hbinds
  obtain ⟨coerced, hcoerce, hget⟩ :=
    hbinds.of_given "count" (.int 7) _ (by decide) rfl
  obtain rfl := Except.ok.inj hcoerce
  exact absurd hget (by decide)

end Inputs

end Workflow
