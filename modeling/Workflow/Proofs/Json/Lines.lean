import Workflow.Proofs.Json.Rendering

/-!
# The compact form is one line

A control character is escaped wherever a quoted text holds one, and nothing
else that is written holds any.  So the compact form of a value has no line
end, whatever the texts inside the value are (`Json.oneLine_render`).
-/

namespace Workflow

namespace Text

/-- Text without control characters. -/
def Plain (text : List Char) : Prop :=
  ∀ c ∈ text, 32 ≤ c.toNat

variable {text rest : List Char} {c : Char}

@[simp] theorem plain_nil : Plain [] := by
  simp [Plain]

@[simp] theorem plain_cons : Plain (c :: text) ↔ 32 ≤ c.toNat ∧ Plain text := by
  simp [Plain]

@[simp] theorem plain_append :
    Plain (text ++ rest) ↔ Plain text ∧ Plain rest := by
  simp [Plain, or_imp, forall_and]

/-- Text without line ends. -/
structure OneLine (text : List Char) : Prop where
  feed_not_mem : '\n' ∉ text
  return_not_mem : '\r' ∉ text

theorem Plain.not_mem (hplain : Plain text) (hcontrol : c.toNat < 32) :
    c ∉ text :=
  fun hc => absurd (hplain c hc) (Nat.not_le.mpr hcontrol)

theorem Plain.oneLine (hplain : Plain text) : OneLine text :=
  ⟨hplain.not_mem (by decide), hplain.not_mem (by decide)⟩

theorem Plain.subset (hplain : Plain text) (hsubset : rest ⊆ text) :
    Plain rest :=
  fun c hc => hplain c (hsubset hc)

theorem plain_replicate {n : Nat} (hc : 32 ≤ c.toNat) :
    Plain (List.replicate n c) := by
  intro d hd
  rwa [List.eq_of_mem_replicate hd]

/-- Digits are no control characters. -/
theorem plain_toDigits (n : Nat) : Plain (Nat.toDigits 10 n) := by
  intro c hc
  have hdigit := isDigit_iff.mp ((spells_toDigits n).isDigit c hc)
  omega

theorem plain_repr (n : Nat) : Plain (Nat.repr n).toList := by
  rw [Nat.toList_repr]
  exact plain_toDigits n

end Text

open Text (Plain)

/-! ## Numbers -/

namespace Decimal.Style

variable (style : Style)

theorem plain_layOut {ds : List Char} {e : Int} (hds : Plain ds) :
    Plain (style.layOut ds e) := by
  have hzeros : ∀ n, Plain (zeros n) :=
    fun n => Text.plain_replicate (by decide)
  unfold layOut
  split
  · split
    · simp [hzeros, hds]
    · dsimp only
      split
      · have hpoint : Plain (if style.pointZero then ['.', '0'] else []) := by
          split <;> simp
        simp [hds, hzeros, hpoint]
      · simp [hds.subset (List.take_subset _ _),
          hds.subset (List.drop_subset _ _)]
  · have hsign : Plain
        (if e < 0 then ['-'] else if style.exponentPlus then ['+'] else []) := by
      repeat' split
      all_goals simp
    have hexponent := Text.plain_toDigits e.natAbs
    match ds with
    | [] => simp [hsign, hexponent]
    | [d] => simp_all
    | d :: c :: rest => simp_all

theorem plain_write (x : Float) : Plain (style.write x).toList := by
  have hsign : ∀ negative : Prop, ∀ [Decidable negative],
      Plain (if negative then ['-'] else []) := by
    intro negative _
    split <;> simp
  have hmagnitude : Plain (style.magnitude (Binary.ofDouble x)) :=
    style.plain_layOut (Text.plain_repr _)
  unfold write
  dsimp only
  split
  · rw [String.toList_ofList, Text.plain_append]
    constructor
    · split <;> simp
    · split <;> simp
  · rw [String.toList_ofList, Text.plain_append]
    exact ⟨hsign _, hmagnitude⟩

end Decimal.Style

namespace Number

theorem plain_render (number : Number) : Plain number.render.toList := by
  cases number with
  | int value =>
      cases value with
      | ofNat n => exact Text.plain_repr n
      | negSucc n =>
          change Plain ("-" ++ Nat.repr (n + 1)).toList
          rw [String.toList_append, Text.plain_append]
          exact ⟨by simp [Plain], Text.plain_repr _⟩
  | real value =>
      by_cases hfinite : value.isFinite = true
      · simpa [render, hfinite] using style.plain_write value
      · simp [render, hfinite, Plain]

end Number

namespace Json

/-! ## Texts -/

theorem le_hexDigit : ∀ n < 16, 32 ≤ (hexDigit n).toNat := by
  decide

/-- A control character is not written as itself. -/
theorem plain_escape (c : Char) : Plain (escape c) := by
  unfold escape
  repeat' split
  case isFalse.isFalse.isFalse.isFalse.isFalse.isFalse.isFalse.isTrue hcontrol =>
    have hhigh := le_hexDigit (c.toNat / 16) (by omega)
    have hlow := le_hexDigit (c.toNat % 16) (by omega)
    simp [hhigh, hlow]
  all_goals simp
  omega

theorem plain_quoted (text : String) : Plain (quoted text) := by
  have hescaped : Plain (text.toList.flatMap escape) := by
    intro c hc
    obtain ⟨d, -, hd⟩ := List.mem_flatMap.mp hc
    exact plain_escape d c hd
  simp [quoted, hescaped]

/-! ## Values -/

-- The recursion is that of `written`.
mutual

theorem plain_written : (value : Json) → Plain (written value)
  | null => by simp [written, Plain]
  | bool true => by simp [written, Plain]
  | bool false => by simp [written, Plain]
  | number value => by
      rw [written]
      exact value.plain_render
  | text value => by
      rw [written]
      exact plain_quoted value
  | list items => by
      have hitems := plain_writtenItems items
      simp [written, hitems]
  | record members => by
      have hmembers := plain_writtenMembers members
      simp [written, hmembers]

theorem plain_writtenItems : (items : List Json) → Plain (writtenItems items)
  | [] => by simp [writtenItems]
  | [item] => by
      rw [writtenItems]
      exact plain_written item
  | item :: next :: rest => by
      have hitem := plain_written item
      have hrest := plain_writtenItems (next :: rest)
      simp [writtenItems, hitem, hrest]

theorem plain_writtenMembers :
    (members : List (String × Json)) → Plain (writtenMembers members)
  | [] => by simp [writtenMembers]
  | [(name, value)] => by
      have hname := plain_quoted name
      have hvalue := plain_written value
      simp [writtenMembers, hname, hvalue]
  | (name, value) :: next :: rest => by
      have hname := plain_quoted name
      have hvalue := plain_written value
      have hrest := plain_writtenMembers (next :: rest)
      simp [writtenMembers, hname, hvalue, hrest]

end

/-- The compact form of a value is one line. -/
theorem oneLine_render (value : Json) : Text.OneLine value.render.toList := by
  rw [render, String.toList_ofList]
  exact (plain_written value).oneLine

end Json

end Workflow
