import Workflow.CommandLine.Session
import Workflow.Proofs.Json.Readback
import Workflow.Proofs.Run.Binding
import Workflow.Proofs.Text.Trim

/-!
# Inputs that are entered as text

On the command line all inputs are texts, and a text is brought to the type
that is declared for it.  `Enters` says which texts stand for a scalar of a
type.  Such a text is bound as the scalar itself is (`bind_entered`), unless it
is an integer from `2 ^ 63` on: those are integers in a JSON document, but a
text of theirs is read as a double (`coerce_entered_iff`).
-/

namespace Workflow

open Text (Blank Tight)

/-! ## Reading integers -/

namespace Decimal

theorem natOfDigits_eq (ds : List Char) :
    natOfDigits ds = Nat.ofDigitChars 10 ds 0 := by
  simp only [natOfDigits, Nat.ofDigitChars, Nat.mul_comm]

theorem splitSign_of_isDigit {c : Char} {ds : List Char}
    (hdigit : c.isDigit = true) : splitSign (c :: ds) = (false, c :: ds) := by
  unfold splitSign
  split
  · next heq =>
      obtain rfl := (List.cons.inj heq).1
      exact absurd hdigit (by decide)
  · next heq =>
      obtain rfl := (List.cons.inj heq).1
      exact absurd hdigit (by decide)
  · rfl

theorem readInt?_of_splitSign {cs : List Char} {negative : Bool} {n : Nat}
    (hsplit : splitSign cs = (negative, Nat.toDigits 10 n)) :
    readInt? cs = some (if negative then -(n : Int) else n) := by
  obtain ⟨-, hdigits, hvalue⟩ := Text.spells_toDigits n
  have hall : (Nat.toDigits 10 n).all Char.isDigit = true :=
    List.all_eq_true.mpr hdigits
  simp [readInt?, hsplit, hall, natOfDigits_eq, hvalue, Nat.toDigits_ne_nil]

/-- Every integer is read from its text. -/
theorem readInt?_render (value : Int) :
    readInt? (Number.int value).render.toList = some value := by
  cases value with
  | ofNat n =>
      rw [Number.toList_render_ofNat]
      refine @readInt?_of_splitSign _ false n ?_
      obtain ⟨c, ds, hds⟩ :=
        List.exists_cons_of_ne_nil (Nat.toDigits_ne_nil (n := n) (b := 10))
      have hdigits := (Text.spells_toDigits n).isDigit
      rw [hds] at hdigits ⊢
      exact splitSign_of_isDigit (hdigits c List.mem_cons_self)
  | negSucc n =>
      rw [Number.toList_render_negSucc]
      exact @readInt?_of_splitSign _ true (n + 1) rfl

theorem readInt64?_render (value : Int) :
    readInt64? (Number.int value).render.toList =
      if Width.fitsSigned 64 value then some value else none := by
  rw [readInt64?, readInt?_render]
  rfl

end Decimal

/-- The text of an integer has no white space at its ends. -/
theorem Number.tight_render_int (value : Int) :
    Tight (Number.int value).render.toList := by
  cases value with
  | ofNat n =>
      rw [toList_render_ofNat]
      exact Text.tight_of_forall Nat.toDigits_ne_nil fun c hc =>
        Text.isBlank_eq_false_of_isDigit ((Text.spells_toDigits n).isDigit c hc)
  | negSucc n =>
      rw [toList_render_negSucc]
      refine Text.tight_of_forall (List.cons_ne_nil _ _) ?_
      refine List.forall_mem_cons.mpr ⟨by decide, fun c hc => ?_⟩
      exact Text.isBlank_eq_false_of_isDigit
        ((Text.spells_toDigits (n + 1)).isDigit c hc)

/-! ## Words in any case -/

namespace Text

/-- White space has no case. -/
theorem toLower_of_isBlank {c : Char} (hblank : isBlank c = true) :
    c.toLower = c := by
  have hrange : ¬ (65 ≤ c.toNat ∧ c.toNat ≤ 90) := by
    simp [isBlank, blankRanges] at hblank
    omega
  exact dif_neg hrange

/-- A word keeps the white space at its ends in any case. -/
theorem tight_of_tight_lowerAscii {word : List Char}
    (htight : Tight (word.map Char.toLower)) : Tight word where
  first := by
    obtain ⟨d, others, heq, hblank⟩ := htight.first
    obtain ⟨c, rest, rfl, rfl, -⟩ := List.map_eq_cons_iff.mp heq
    refine ⟨c, rest, rfl, Bool.eq_false_iff.mpr fun hc => ?_⟩
    rw [toLower_of_isBlank hc, hc] at hblank
    contradiction
  last := by
    obtain ⟨others, d, heq, hblank⟩ := htight.last
    obtain ⟨rest, last, rfl, rfl, hlast⟩ := List.map_eq_append_iff.mp heq
    obtain ⟨c, rfl, rfl⟩ := List.map_eq_singleton_iff.mp hlast
    refine ⟨rest, c, rfl, Bool.eq_false_iff.mpr fun hc => ?_⟩
    rw [toLower_of_isBlank hc, hc] at hblank
    contradiction

end Text

namespace Inputs

/-! ## Texts that stand for scalars -/

/-- A text that can be entered for a scalar of a declared type: its text form,
for numbers and truth values with any white space around it, and for truth
values in upper or lower case. -/
inductive Enters : VariableType → Json → String → Prop
  | string (text : String) : Enters .string (.text text) text
  | number {value : Int} {left right : List Char}
      (hlow : -(Width.span 63 : Int) ≤ value) (hhigh : value < Width.span 64)
      (hleft : Blank left) (hright : Blank right) :
      Enters .number (.int value)
        (.ofList (left ++ ((Json.int value).render.toList ++ right)))
  | boolean {value : Bool} {word left right : List Char}
      (hword : Text.lowerAscii (.ofList word) = (Json.bool value).render)
      (hleft : Blank left) (hright : Blank right) :
      Enters .boolean (.bool value) (.ofList (left ++ (word ++ right)))

/-- A scalar that is not an integer too great for 64 bits with a sign. -/
def Signed (value : Json) : Prop :=
  ∀ n : Int, value = .int n → n < Width.span 63

variable {type : VariableType} {value : Json} {text : String}

theorem signed_int_iff {n : Int} : Signed (.int n) ↔ n < Width.span 63 := by
  simp [Signed, Json.int]

theorem signed_bool (value : Bool) : Signed (.bool value) :=
  nofun

theorem signed_text (value : String) : Signed (.text value) :=
  nofun

theorem numberOfText?_eq_iff {value : Int}
    (hlow : -(Width.span 63 : Int) ≤ value)
    (htrim : Text.trim text.toList = (Number.int value).render.toList) :
    numberOfText? text = some (.int value) ↔ value < Width.span 63 := by
  have hfits : Width.fitsSigned 64 value = true ↔ value < Width.span 63 := by
    simp [Width.fitsSigned, hlow]
  unfold numberOfText?
  simp only [htrim, Decimal.readInt64?_render, ← hfits]
  cases hvalue : Width.fitsSigned 64 value with
  | true => simp
  | false =>
      -- What is not read as an integer is read as a double, if at all.
      cases Decimal.readDouble? (Number.int value).render.toList with
      | none => simp
      | some x => cases hfinite : x.isFinite <;> simp [hfinite]

theorem boolOfText?_eq {value : Bool} {word : List Char}
    (hword : Text.lowerAscii (.ofList word) = (Json.bool value).render)
    (htrim : Text.trim text.toList = word) :
    boolOfText? text = some value := by
  have htrimmed : Text.trimmed text = .ofList word := by
    rw [Text.trimmed, htrim]
  simp only [boolOfText?, htrimmed, hword]
  cases value <;> decide

theorem tight_of_lowerAscii {value : Bool} {word : List Char}
    (hword : Text.lowerAscii (.ofList word) = (Json.bool value).render) :
    Tight word := by
  apply Text.tight_of_tight_lowerAscii
  have hlower : word.map Char.toLower = (Json.bool value).render.toList := by
    rw [← hword, Text.lowerAscii, String.toList_map, String.toList_ofList]
  have hne : (Json.bool value).render.toList ≠ [] := by
    cases value <;> decide
  have hplain : (Json.bool value).render.toList.any Text.isBlank = false := by
    cases value <;> decide
  rw [hlower]
  exact Text.tight_of_forall hne (by simpa using hplain)

theorem coerce_number_text_iff {number : Number} :
    coerce .number (.text text) = .ok (.number number) ↔
      numberOfText? text = some number := by
  simp only [coerce]
  cases numberOfText? text <;> simp

theorem coerce_boolean_text_iff {value : Bool} :
    coerce .boolean (.text text) = .ok (.bool value) ↔
      boolOfText? text = some value := by
  simp only [coerce]
  cases boolOfText? text <;> simp

theorem Enters.coerce_value (henters : Enters type value text) :
    coerce type value = .ok value := by
  cases henters <;> rfl

/-- A text comes to the scalar that it is entered for, but for great
integers. -/
theorem coerce_entered_iff (henters : Enters type value text) :
    coerce type (.text text) = .ok value ↔ Signed value := by
  cases henters with
  | string text => exact iff_of_true rfl (signed_text text)
  | @number value left right hlow _ hleft hright =>
      have hrender : (Json.int value).render.toList =
          (Number.int value).render.toList := String.toList_ofList
      rw [signed_int_iff, Json.int, coerce_number_text_iff]
      refine numberOfText?_eq_iff hlow ?_
      rw [String.toList_ofList, ← Json.int, hrender]
      exact Text.trim_append hleft (Number.tight_render_int value) hright
  | @boolean value word left right hword hleft hright =>
      have hbool : boolOfText? (.ofList (left ++ (word ++ right))) =
          some value := by
        refine boolOfText?_eq hword ?_
        rw [String.toList_ofList]
        exact Text.trim_append hleft (tight_of_lowerAscii hword) hright
      exact iff_of_true (coerce_boolean_text_iff.mpr hbool) (signed_bool value)

/-! ## Binding -/

/-- What is supplied for a variable, and what is supplied in its place: the
same, or a text that is entered for it. -/
inductive Replaces (type : VariableType) : Option Json → Option Json → Prop
  | same (value : Option Json) : Replaces type value value
  | entered {value : Json} {text : String} (henters : Enters type value text)
      (hsigned : Signed value) :
      Replaces type (some value) (some (.text text))

variable {input : InputVariable} {declared : List InputVariable}
variable {supplied entered sofar : Assoc Json}

/-- A declaration takes the same from what is supplied in its place. -/
theorem Replaces.choose_cases
    (hreplaces : Replaces input.type (Assoc.get? supplied input.name)
      (Assoc.get? entered input.name)) :
    choose input entered = choose input supplied ∨
      ∃ value text, choose input supplied = some value ∧
        choose input entered = some (.text text) ∧
        coerce input.type (.text text) = coerce input.type value := by
  simp only [choose_eq, given?]
  generalize Assoc.get? supplied input.name = value at hreplaces
  generalize Assoc.get? entered input.name = other at hreplaces
  generalize input.type = type at hreplaces
  cases hreplaces with
  | same value => exact .inl rfl
  | @entered value text henters hsigned =>
      have hvalue : Json.definite? (some value) = some value := by
        cases henters <;> rfl
      refine .inr ⟨value, text, by rw [hvalue]; rfl, rfl, ?_⟩
      rw [henters.coerce_value]
      exact (coerce_entered_iff henters).mpr hsigned

theorem bindAll_entered
    (hentered : ∀ name first, declared.find? (·.name = name) = some first →
      Replaces first.type (Assoc.get? supplied name)
        (Assoc.get? entered name)) :
    bindAll declared entered sofar = bindAll declared supplied sofar := by
  induction declared generalizing supplied entered sofar with
  | nil => rfl
  | cons input rest ih =>
      have hhead := hentered input.name input (by simp)
      have hrest (sofar : Assoc Json) :
          bindAll rest (Assoc.erase entered input.name) sofar =
            bindAll rest (Assoc.erase supplied input.name) sofar := by
        apply ih
        intro name first hfirst
        by_cases hname : name = input.name
        · -- What was there under this name is used up on both sides.
          rw [hname, Assoc.get?_erase_self, Assoc.get?_erase_self]
          exact .same none
        · rw [Assoc.get?_erase_of_ne _ hname, Assoc.get?_erase_of_ne _ hname]
          exact hentered name first (by simpa [Ne.symm hname] using hfirst)
      obtain hchoose | ⟨value, text, hvalue, htext, hcoerce⟩ :=
        Replaces.choose_cases hhead
      · simp only [bindAll, hchoose, hrest]
      · simp only [bindAll, hvalue, htext, hcoerce, hrest]

end Inputs

/-- A text arrives as it was typed behind the name of an input. -/
theorem CommandLine.readInput_eq {name text : String}
    (hname : '=' ∉ name.toList) (hblank : Text.trimmed name ≠ "") :
    readInput (name ++ "=" ++ text) = .ok (Text.trimmed name, .text text) := by
  have hne : ∀ c ∈ name.toList, decide (c ≠ '=') = true := by
    intro c hc
    rw [decide_eq_true_eq]
    rintro rfl
    exact hname hc
  have hpair : (name ++ "=" ++ text).toList =
      name.toList ++ '=' :: text.toList := by
    simp
  have hkey : ((name ++ "=" ++ text).toList.takeWhile (· ≠ '=')) =
      name.toList := by
    rw [hpair, List.takeWhile_append_of_pos hne]
    simp
  have hvalue : ((name ++ "=" ++ text).toList.dropWhile (· ≠ '=')) =
      '=' :: text.toList := by
    rw [hpair, List.dropWhile_append_of_pos hne]
    simp
  unfold readInput
  simp only [hvalue, hkey, String.ofList_toList]
  rw [if_neg (by simpa using hblank)]

namespace Inputs

variable {declared : List InputVariable} {supplied entered : Assoc Json}

/-- Inputs are bound alike whether they are given as they are or as text. -/
theorem bind_entered (hne : declared ≠ [])
    (hentered : ∀ name first, declared.find? (·.name = name) = some first →
      Replaces first.type (Assoc.get? supplied name)
        (Assoc.get? entered name)) :
    bind declared entered = bind declared supplied ∧
    (∀ type value text, Enters type value text →
      coerce type value = .ok value ∧
        (coerce type (.text text) = .ok value ↔ Signed value)) ∧
    ∀ name text, '=' ∉ name.toList → Text.trimmed name ≠ "" →
      CommandLine.readInput (name ++ "=" ++ text) =
        .ok (Text.trimmed name, .text text) := by
  refine ⟨?_, fun type value text henters => ?_, fun name text => ?_⟩
  · simp only [bind, hne, List.isEmpty_iff, if_false]
    exact bindAll_entered hentered
  · exact ⟨henters.coerce_value, coerce_entered_iff henters⟩
  · exact CommandLine.readInput_eq

/-- A number, a truth value and a text that are declared. -/
def parcel : List InputVariable :=
  [⟨"count", .number, true, none⟩, ⟨"gift", .boolean, false, none⟩,
    ⟨"note", .string, false, none⟩]

/-- The greatest integer that is read as one, with white space around it. -/
theorem bind_entered_parcel :
    parcel ≠ [] ∧
    CommandLine.readInputs
        ["count= 9223372036854775807", "gift=TRUE ", "note= thanks "] =
      .ok [("count", .text " 9223372036854775807"), ("gift", .text "TRUE "),
        ("note", .text " thanks ")] ∧
    bind parcel [("count", .text " 9223372036854775807"),
        ("gift", .text "TRUE "), ("note", .text " thanks ")] =
      bind parcel [("count", .int 9223372036854775807), ("gift", .bool true),
        ("note", .text " thanks ")] := by
  have hcount : Replaces .number (some (.int 9223372036854775807))
      (some (.text " 9223372036854775807")) :=
    .entered (@Enters.number _ [' '] [] (by decide) (by decide) (by decide)
      Text.blank_nil) (signed_int_iff.mpr (by decide))
  have hgift : Replaces .boolean (some (.bool true)) (some (.text "TRUE ")) :=
    .entered (@Enters.boolean _ "TRUE".toList [] [' '] (by decide +kernel)
      Text.blank_nil (by decide)) (signed_bool true)
  refine ⟨by decide, by decide +kernel, (bind_entered (by decide) ?_).1⟩
  intro name first hfirst
  have hmem := List.mem_of_find?_eq_some hfirst
  obtain rfl : first.name = name := by simpa using List.find?_some hfirst
  simp only [parcel, List.mem_cons, List.not_mem_nil, or_false] at hmem
  rcases hmem with rfl | rfl | rfl
  · exact hcount
  · exact hgift
  · exact .same _

/-- The greatest integer of a JSON document is bound as a double. -/
theorem bind_entered_great :
    Enters .number (.int 18446744073709551615) "18446744073709551615" ∧
    bind [⟨"count", .number, true, none⟩]
        [("count", .text "18446744073709551615")] ≠
      bind [⟨"count", .number, true, none⟩]
        [("count", .int 18446744073709551615)] := by
  constructor
  · exact @Enters.number _ [] [] (by decide) (by decide) Text.blank_nil
      Text.blank_nil
  · decide +kernel

end Inputs

end Workflow
