import Mathlib.Data.List.DropRight
import Workflow.Json.Printer
import Workflow.Proofs.Json.Canonical
import Workflow.Proofs.Text.Digits

/-!
# The compact form is read back

The text of a value is scanned as the document that spells the value out
(`scan_render`), provided that the text of each of its numbers is read as that
number.  Of doubles this has to be assumed; of integers it is proved
(`Number.readsBack_int`).
-/

namespace Workflow

namespace Document

/-- What can follow a value in the compact form: nothing, a comma or a closing
bracket. -/
def Ends : List Char → Prop
  | [] => True
  | c :: _ => c = ',' ∨ c = ']' ∨ c = '}'

theorem ends_comma (rest : List Char) : Ends (',' :: rest) :=
  .inl rfl

end Document

/-- The text of a number is read as the number. -/
def Number.ReadsBack (number : Number) : Prop :=
  ∀ rest, Document.Ends rest →
    Document.scanNumber? (number.render.toList ++ rest) = some (some number, rest)

namespace Json

mutual

/-- All numbers inside a value. -/
def numbers : Json → List Number
  | .number value => [value]
  | .list items => numbersOfItems items
  | .record members => numbersOfMembers members
  | _ => []

def numbersOfItems : List Json → List Number
  | [] => []
  | item :: rest => numbers item ++ numbersOfItems rest

def numbersOfMembers : List (String × Json) → List Number
  | [] => []
  | (_, value) :: rest => numbers value ++ numbersOfMembers rest

end

theorem forall_numbers_list {P : Number → Prop} {items : List Json} :
    (∀ number ∈ (list items).numbers, P number) ↔
      ∀ item ∈ items, ∀ number ∈ item.numbers, P number := by
  rw [numbers]
  induction items with
  | nil => simp [numbersOfItems]
  | cons item rest ih =>
      simp only [numbersOfItems, List.forall_mem_append, List.forall_mem_cons, ih]

theorem forall_numbers_record {P : Number → Prop}
    {members : List (String × Json)} :
    (∀ number ∈ (record members).numbers, P number) ↔
      ∀ member ∈ members, ∀ number ∈ member.2.numbers, P number := by
  rw [numbers]
  induction members with
  | nil => simp [numbersOfMembers]
  | cons member rest ih =>
      simp only [numbersOfMembers, List.forall_mem_append, List.forall_mem_cons,
        ih]

/-- Every number inside a value is read back from its text. -/
def Legible (value : Json) : Prop :=
  ∀ number ∈ value.numbers, number.ReadsBack

theorem legible_list {items : List Json} :
    (list items).Legible ↔ ∀ item ∈ items, item.Legible :=
  forall_numbers_list

theorem legible_record {members : List (String × Json)} :
    (record members).Legible ↔ ∀ member ∈ members, member.2.Legible :=
  forall_numbers_record

theorem escape_length_pos (c : Char) : 0 < (escape c).length := by
  unfold escape
  repeat' split
  all_goals exact Nat.zero_lt_succ _

end Json

namespace Document

/-! ## Quoted texts -/

theorem hexValue?_hexDigit {n : Nat} (hlt : n < 16) :
    Text.hexValue? (Json.hexDigit n) = some n := by
  revert n
  decide

section Escapes

variable {fuel : Nat} {sofar : List Char} {c : Char} {rest : List Char}

theorem scanText_simple {letter : Char} (hletter : letter ≠ 'u')
    (hescape : simpleEscape? letter = some c) :
    scanText (fuel + 1) (some sofar) ('\\' :: letter :: rest) =
      scanText fuel (some (c :: sofar)) rest := by
  conv => lhs; unfold scanText
  split
  · contradiction
  · next heq => simp at heq
  · next heq => exact absurd (List.cons.inj (List.cons.inj heq).2).1 hletter
  · next heq =>
      obtain ⟨rfl, rfl⟩ := List.cons.inj (List.cons.inj heq).2
      simp [hescape]
  · next hother heq =>
      obtain ⟨rfl, rfl⟩ := List.cons.inj heq
      exact absurd rfl (hother letter rest rfl)

theorem scanText_plain (hquote : c ≠ '"') (hslash : c ≠ '\\')
    (hplain : ¬ c.toNat < 32) :
    scanText (fuel + 1) (some sofar) (c :: rest) =
      scanText fuel (some (c :: sofar)) rest := by
  conv => lhs; unfold scanText
  split
  · contradiction
  · next heq => exact absurd (List.cons.inj heq).1 hquote
  · next heq => exact absurd (List.cons.inj heq).1 hslash
  · next heq => exact absurd (List.cons.inj heq).1 hslash
  · next heq =>
      obtain ⟨rfl, rfl⟩ := List.cons.inj heq
      simp [hplain]

theorem scanText_code {a b d e : Char} {code : Nat}
    (hcode : hex4? a b d e = some code)
    (hwhole : code < 0xD800 ∨ 0xDFFF < code) :
    scanText (fuel + 1) (some sofar) ('\\' :: 'u' :: a :: b :: d :: e :: rest) =
      scanText fuel (some (Char.ofNat code :: sofar)) rest := by
  have hnotHigh : ¬ (0xD800 ≤ code ∧ code ≤ 0xDBFF) := by omega
  have hnotLow : ¬ (0xDC00 ≤ code ∧ code ≤ 0xDFFF) := by omega
  simp [scanText, hcode, hnotHigh, hnotLow]

theorem scanText_control (hcontrol : c.toNat < 32) :
    scanText (fuel + 1) (some sofar)
        ('\\' :: 'u' :: '0' :: '0' :: Json.hexDigit (c.toNat / 16) ::
          Json.hexDigit (c.toNat % 16) :: rest) =
      scanText fuel (some (c :: sofar)) rest := by
  have hzero : Text.hexValue? '0' = some 0 := by decide
  have hhigh := hexValue?_hexDigit (show c.toNat / 16 < 16 by omega)
  have hlow := hexValue?_hexDigit (show c.toNat % 16 < 16 by omega)
  have hcode : hex4? '0' '0' (Json.hexDigit (c.toNat / 16))
      (Json.hexDigit (c.toNat % 16)) = some c.toNat := by
    simp [hex4?, hzero, hhigh, hlow]
    omega
  rw [scanText_code hcode (.inl (by omega)), Char.ofNat_toNat]

/-- The escape of a character is read as the character. -/
theorem scanText_escape :
    scanText (fuel + 1) (some sofar) (Json.escape c ++ rest) =
      scanText fuel (some (c :: sofar)) rest := by
  have hcode {n : Nat} (hc : c.toNat = n) : Char.ofNat n = c := by
    rw [← hc, Char.ofNat_toNat]
  unfold Json.escape
  split
  · next hc => exact scanText_simple (by decide) (by rw [hc]; rfl)
  split
  · next hc => exact scanText_simple (by decide) (by rw [hc]; rfl)
  split
  · next hc => exact scanText_simple (by decide) (by rw [hc]; rfl)
  split
  · next hc => exact scanText_simple (by decide) (by rw [hc]; rfl)
  split
  · next hc => exact scanText_simple (by decide) (by rw [hc]; rfl)
  split
  · next hc => exact scanText_simple (by decide) (by rw [← hcode hc]; rfl)
  split
  · next hc => exact scanText_simple (by decide) (by rw [← hcode hc]; rfl)
  split
  · next hcontrol => exact scanText_control hcontrol
  · next hquote hslash _ _ _ _ _ hplain =>
      exact scanText_plain hquote hslash hplain

end Escapes

theorem scanText_escapes {fuel : Nat} {sofar chars rest : List Char}
    (hfuel : chars.length < fuel) :
    scanText fuel (some sofar) (chars.flatMap Json.escape ++ '"' :: rest) =
      some (some (String.ofList (sofar.reverse ++ chars)), rest) := by
  induction chars generalizing fuel sofar with
  | nil =>
      match fuel with
      | fuel + 1 => simp [scanText]
  | cons c chars ih =>
      match fuel with
      | fuel + 1 =>
          rw [List.flatMap_cons, List.append_assoc, scanText_escape,
            ih (by simpa using hfuel)]
          simp

/-- A quoted text is read as the text. -/
theorem scanText_quoted {name : String} {rest : List Char} :
    scanText ((name.toList.flatMap Json.escape ++ '"' :: rest).length + 1)
        (some []) (name.toList.flatMap Json.escape ++ '"' :: rest) =
      some (some name, rest) := by
  -- No character is written with fewer characters, so the fuel lasts.
  have hlength (chars : List Char) :
      chars.length ≤ (chars.flatMap Json.escape).length := by
    induction chars with
    | nil => simp
    | cons c chars ih =>
        have hpos := Json.escape_length_pos c
        rw [List.flatMap_cons, List.length_append, List.length_cons]
        omega
  have hname := hlength name.toList
  rw [scanText_escapes (by rw [List.length_append]; omega)]
  simp

/-! ## Values -/

theorem skipGap_cons {c : Char} {cs : List Char} (hgap : isGap c = false) :
    skipGap (c :: cs) = c :: cs :=
  List.dropWhile_cons_of_neg (by simp [hgap])

theorem scanValue_skipGap (fuel : Nat) (cs : List Char) :
    scanValue fuel (skipGap cs) = scanValue fuel cs := by
  have hskip : skipGap (skipGap cs) = skipGap cs :=
    List.dropWhile_idempotent isGap cs
  cases fuel with
  | zero => rfl
  | succ fuel => rw [scanValue, scanValue, hskip]

theorem scanItems_skipGap (fuel : Nat) (cs : List Char) :
    scanItems fuel (skipGap cs) = scanItems fuel cs := by
  cases fuel with
  | zero => rfl
  | succ fuel => rw [scanItems, scanItems, scanValue_skipGap]

theorem scanMembers_skipGap (fuel : Nat) (cs : List Char) :
    scanMembers fuel (skipGap cs) = scanMembers fuel cs := by
  have hskip : skipGap (skipGap cs) = skipGap cs :=
    List.dropWhile_idempotent isGap cs
  cases fuel with
  | zero => rfl
  | succ fuel => rw [scanMembers, scanMembers, hskip]

/-- A number starts with a digit or a minus sign. -/
theorem exists_of_scanNumber? {cs : List Char}
    {result : Option Number × List Char} (hscan : scanNumber? cs = some result) :
    ∃ c rest, cs = c :: rest ∧ (c = '-' ∨ c.isDigit = true) := by
  match cs with
  | [] => simp [scanNumber?, scanWhole?, spanDigits] at hscan
  | c :: rest =>
      refine ⟨c, rest, rfl, ?_⟩
      by_cases hminus : c = '-'
      · exact .inl hminus
      · cases hdigit : c.isDigit with
        | true => exact .inr rfl
        | false =>
            have hzero : c ≠ '0' := by
              rintro rfl
              exact absurd hdigit (by decide)
            simp [scanNumber?, scanWhole?, spanDigits, hminus, hzero, hdigit]
              at hscan

section Starts

variable {c d : Char} (hc : c = '-' ∨ c.isDigit = true)
include hc

theorem ne_of_startsNumber (hd : d ≠ '-' ∧ d.isDigit = false) : c ≠ d := by
  rintro rfl
  rcases hc with rfl | hdigit
  · exact hd.1 rfl
  · simp [hd.2] at hdigit

theorem isGap_of_startsNumber : isGap c = false := by
  simp [isGap, ne_of_startsNumber hc (d := ' ') (by decide),
    ne_of_startsNumber hc (d := '\n') (by decide),
    ne_of_startsNumber hc (d := '\t') (by decide),
    ne_of_startsNumber hc (d := '\r') (by decide)]

end Starts

/-- What can stand behind an opening bracket or a comma: anything that closes
nothing. -/
def Opens (cs : List Char) : Prop :=
  ∃ c rest, skipGap cs = c :: rest ∧ c ≠ ']'

theorem opens_cons {c : Char} {cs : List Char} (hgap : isGap c = false)
    (hne : c ≠ ']') : Opens (c :: cs) :=
  ⟨c, cs, skipGap_cons hgap, hne⟩

/-- The text of a value is not empty, and whatever follows it, it closes
nothing. -/
theorem exists_written {value : Json} (hlegible : value.Legible) :
    ∃ c cs, Json.written value = c :: cs ∧ isGap c = false ∧ c ≠ ']' := by
  cases value with
  | null => exact ⟨_, _, rfl, by decide, by decide⟩
  | bool value => cases value <;> exact ⟨_, _, rfl, by decide, by decide⟩
  | number n =>
      have hscan := hlegible n (by simp [Json.numbers]) [] trivial
      rw [List.append_nil] at hscan
      obtain ⟨c, cs, hcs, hc⟩ := exists_of_scanNumber? hscan
      exact ⟨c, cs, by rw [Json.written, hcs], isGap_of_startsNumber hc,
        ne_of_startsNumber hc (by decide)⟩
  | text value => exact ⟨_, _, rfl, by decide, by decide⟩
  | list items => exact ⟨_, _, rfl, by decide, by decide⟩
  | record members => exact ⟨_, _, rfl, by decide, by decide⟩

theorem opens_written {value : Json} (hlegible : value.Legible)
    (rest : List Char) : Opens (Json.written value ++ rest) := by
  obtain ⟨c, cs, hcs, hgap, hne⟩ := exists_written hlegible
  rw [hcs]
  exact opens_cons hgap hne

theorem opens_writtenItems {item : Json} {items : List Json}
    (hlegible : item.Legible) (rest : List Char) :
    Opens (Json.writtenItems (item :: items) ++ rest) := by
  cases items with
  | nil => exact opens_written hlegible rest
  | cons next items =>
      rw [Json.writtenItems, List.append_assoc]
      · exact opens_written hlegible _
      · simp

theorem scanValue_number {value : Option Number} {fuel : Nat}
    {cs rest : List Char} (hscan : scanNumber? cs = some (value, rest)) :
    scanValue (fuel + 1) cs = (number value, some rest) := by
  obtain ⟨c, tail, rfl, hc⟩ := exists_of_scanNumber? hscan
  have hne (d : Char) (hd : d ≠ '-' ∧ d.isDigit = false) : c ≠ d :=
    ne_of_startsNumber hc hd
  unfold scanValue
  rw [skipGap_cons (isGap_of_startsNumber hc)]
  simp only [hne '[' (by decide), hne '{' (by decide), hne '"' (by decide),
    hne 'n' (by decide), hne 't' (by decide), hne 'f' (by decide), if_false,
    hscan]

theorem scanValue_text {value : Option String} {fuel : Nat}
    {cs rest : List Char}
    (htext : scanText (cs.length + 1) (some []) cs = some (value, rest)) :
    scanValue (fuel + 1) ('"' :: cs) = (text value, some rest) := by
  unfold scanValue
  rw [skipGap_cons (by decide)]
  simp [htext]

theorem scanValue_list {items : List Document} {fuel : Nat}
    {cs rest : List Char} (hopens : Opens cs)
    (hitems : scanItems fuel cs = (items, true, some rest)) :
    scanValue (fuel + 1) ('[' :: cs) = (list items true, some rest) := by
  obtain ⟨c, tail, hskip, hne⟩ := hopens
  rw [← scanItems_skipGap, hskip] at hitems
  unfold scanValue
  rw [skipGap_cons (by decide)]
  simp only [if_true, hskip]
  split
  · next heq => exact absurd (List.cons.inj heq).1 hne
  · rw [hitems]

theorem scanValue_record {members : List (Option String × Document)}
    {fuel : Nat} {cs tail rest : List Char} (hskip : skipGap cs = '"' :: tail)
    (hmembers : scanMembers fuel cs = (members, true, some rest)) :
    scanValue (fuel + 1) ('{' :: cs) = (record members true, some rest) := by
  rw [← scanMembers_skipGap, hskip] at hmembers
  unfold scanValue
  rw [skipGap_cons (by decide)]
  simp [hskip, hmembers]

section Items

variable {item : Document} {fuel : Nat} {cs left more rest : List Char}
variable (hitem : scanValue fuel cs = (item, some left))
include hitem

theorem scanItems_last (hleft : skipGap left = ']' :: rest) :
    scanItems (fuel + 1) cs = ([item], true, some rest) := by
  unfold scanItems
  simp [hitem, hleft]

theorem scanItems_more {items : List Document}
    (hleft : skipGap left = ',' :: more) (hopens : Opens more)
    (hitems : scanItems fuel more = (items, true, some rest)) :
    scanItems (fuel + 1) cs = (item :: items, true, some rest) := by
  obtain ⟨c, tail, hskip, hne⟩ := hopens
  rw [← scanItems_skipGap, hskip] at hitems
  unfold scanItems
  simp only [hitem, hleft, hskip]
  split
  · next heq => exact absurd (List.cons.inj heq).1 hne
  · rw [hitems]

end Items

section Members

variable {name : Option String} {value : Document} {fuel : Nat}
variable {text cs left more after rest : List Char}
variable (htext : skipGap text = '"' :: cs)
variable (hname : scanText (cs.length + 1) (some []) cs = some (name, left))
variable (hleft : skipGap left = ':' :: more)
variable (hvalue : scanValue fuel more = (value, some after))
include htext hname hleft hvalue

theorem scanMembers_last (hafter : skipGap after = '}' :: rest) :
    scanMembers (fuel + 1) text = ([(name, value)], true, some rest) := by
  unfold scanMembers
  simp [htext, hname, hleft, hvalue, hafter]

theorem scanMembers_more {members : List (Option String × Document)}
    {last : List Char} (hafter : skipGap after = ',' :: rest)
    (hmembers : scanMembers fuel rest = (members, true, some last)) :
    scanMembers (fuel + 1) text = ((name, value) :: members, true, some last) := by
  unfold scanMembers
  simp [htext, hname, hleft, hvalue, hafter, hmembers]

end Members

/-! ## Values and what follows them -/

section Written

variable {value next : Json} {items : List Json} {name : String}
variable {member : String × Json} {members : List (String × Json)}
variable {rest : List Char}

theorem written_list_append :
    Json.written (.list items) ++ rest =
      '[' :: (Json.writtenItems items ++ ']' :: rest) := by
  simp [Json.written]

theorem written_record_append :
    Json.written (.record members) ++ rest =
      '{' :: (Json.writtenMembers members ++ '}' :: rest) := by
  simp [Json.written]

theorem writtenItems_append :
    Json.writtenItems (value :: next :: items) ++ rest =
      Json.written value ++ ',' :: (Json.writtenItems (next :: items) ++ rest) := by
  simp [Json.writtenItems]

theorem writtenMembers_last :
    Json.writtenMembers [(name, value)] ++ rest =
      '"' :: (name.toList.flatMap Json.escape ++
        '"' :: ':' :: (Json.written value ++ rest)) := by
  simp [Json.writtenMembers, Json.quoted]

theorem writtenMembers_append :
    Json.writtenMembers ((name, value) :: member :: members) ++ rest =
      '"' :: (name.toList.flatMap Json.escape ++
        '"' :: ':' :: (Json.written value ++
          ',' :: (Json.writtenMembers (member :: members) ++ rest))) := by
  simp [Json.writtenMembers, Json.quoted]

/-- The members of an object start with the quote of a name. -/
theorem exists_writtenMembers_append (member : String × Json)
    (members : List (String × Json)) (rest : List Char) :
    ∃ cs, Json.writtenMembers (member :: members) ++ rest = '"' :: cs := by
  obtain ⟨name, value⟩ := member
  cases members with
  | nil => exact ⟨_, writtenMembers_last⟩
  | cons member members => exact ⟨_, writtenMembers_append⟩

theorem written_length_pos (hlegible : value.Legible) :
    0 < (Json.written value).length := by
  obtain ⟨c, cs, hcs, -⟩ := exists_written hlegible
  simp [hcs]

end Written

-- The recursion is that of the values.  An item takes one step of fuel for itself
-- and one for the list that it stands in, and at least one character is written for
-- it, so twice the length of the text is enough.
mutual

/-- The text of a value is scanned as the document of the value. -/
theorem scanValue_written {fuel : Nat} {rest : List Char} :
    {value : Json} → value.Legible → Ends rest →
      2 * (Json.written value).length ≤ fuel →
      scanValue fuel (Json.written value ++ rest) = (ofJson value, some rest)
  | .null, _, _, hfuel => by
      match fuel with
      | fuel + 1 => rfl
  | .bool true, _, _, hfuel => by
      match fuel with
      | fuel + 1 => rfl
  | .bool false, _, _, hfuel => by
      match fuel with
      | fuel + 1 => rfl
  | .number n, hlegible, hrest, hfuel => by
      have hpos := written_length_pos hlegible
      have hreads := hlegible n (by simp [Json.numbers])
      match fuel with
      | 0 => omega
      | fuel + 1 => exact scanValue_number (hreads rest hrest)
  | .text value, _, _, hfuel => by
      match fuel with
      | fuel + 1 =>
          rw [Json.written, Json.quoted, List.cons_append, List.cons_append,
            List.append_assoc]
          exact scanValue_text scanText_quoted
  | .list [], hlegible, hrest, hfuel => by
      match fuel with
      | fuel + 1 => rfl
  | .list (item :: items), hlegible, hrest, hfuel => by
      have hall := Json.legible_list.mp hlegible
      have hlength : (Json.written (.list (item :: items))).length =
          (Json.writtenItems (item :: items)).length + 2 := by
        simp [Json.written]
      match fuel with
      | fuel + 1 =>
          rw [written_list_append]
          exact scanValue_list
            (opens_writtenItems (hall item List.mem_cons_self) _)
            (scanItems_written hall (by omega))
  | .record [], hlegible, hrest, hfuel => by
      match fuel with
      | fuel + 1 => rfl
  | .record (member :: members), hlegible, hrest, hfuel => by
      have hall := Json.legible_record.mp hlegible
      have hlength : (Json.written (.record (member :: members))).length =
          (Json.writtenMembers (member :: members)).length + 2 := by
        simp [Json.written]
      match fuel with
      | fuel + 1 =>
          obtain ⟨cs, hcs⟩ := exists_writtenMembers_append member members
            ('}' :: rest)
          rw [written_record_append, hcs]
          exact scanValue_record (skipGap_cons (by decide))
            (hcs ▸ scanMembers_written hall (by omega))

theorem scanItems_written {fuel : Nat} {rest : List Char} :
    {item : Json} → {items : List Json} →
      (∀ each ∈ item :: items, each.Legible) →
      2 * (Json.writtenItems (item :: items)).length + 1 ≤ fuel →
      scanItems fuel (Json.writtenItems (item :: items) ++ ']' :: rest) =
        (ofItems (item :: items), true, some rest)
  | item, [], hlegible, hfuel => by
      match fuel with
      | fuel + 1 =>
          exact scanItems_last (scanValue_written
            (hlegible item List.mem_cons_self) (.inr (.inl rfl))
            (Nat.le_of_succ_le_succ hfuel)) (skipGap_cons (by decide))
  | item, next :: items, hlegible, hfuel => by
      obtain ⟨hitem, hitems⟩ := List.forall_mem_cons.mp hlegible
      have hlength : (Json.writtenItems (item :: next :: items)).length =
          (Json.written item).length +
            ((Json.writtenItems (next :: items)).length + 1) := by
        simp [Json.writtenItems]
      match fuel with
      | fuel + 1 =>
          rw [writtenItems_append]
          exact scanItems_more
            (scanValue_written hitem (ends_comma _) (by omega))
            (skipGap_cons (by decide))
            (opens_writtenItems (hitems next List.mem_cons_self) _)
            (scanItems_written hitems (by omega))

theorem scanMembers_written {fuel : Nat} {rest : List Char} :
    {member : String × Json} → {members : List (String × Json)} →
      (∀ each ∈ member :: members, each.2.Legible) →
      2 * (Json.writtenMembers (member :: members)).length + 1 ≤ fuel →
      scanMembers fuel (Json.writtenMembers (member :: members) ++ '}' :: rest) =
        (ofMembers (member :: members), true, some rest)
  | (name, value), [], hlegible, hfuel => by
      have hlength : (Json.writtenMembers [(name, value)]).length =
          (Json.quoted name).length + ((Json.written value).length + 1) := by
        simp [Json.writtenMembers]
      match fuel with
      | fuel + 1 =>
          rw [writtenMembers_last]
          exact scanMembers_last (skipGap_cons (by decide)) scanText_quoted
            (skipGap_cons (by decide)) (scanValue_written
              (hlegible _ List.mem_cons_self) (.inr (.inr rfl)) (by omega))
            (skipGap_cons (by decide))
  | (name, value), member :: members, hlegible, hfuel => by
      obtain ⟨hvalue, hmembers⟩ := List.forall_mem_cons.mp hlegible
      change value.Legible at hvalue
      have hlength :
          (Json.writtenMembers ((name, value) :: member :: members)).length =
            (Json.quoted name).length + ((Json.written value).length +
              ((Json.writtenMembers (member :: members)).length + 2)) := by
        simp [Json.writtenMembers]
        omega
      match fuel with
      | fuel + 1 =>
          rw [writtenMembers_append]
          exact scanMembers_more (skipGap_cons (by decide)) scanText_quoted
            (skipGap_cons (by decide))
            (scanValue_written hvalue (ends_comma _) (by omega))
            (skipGap_cons (by decide)) (scanMembers_written hmembers (by omega))

end

/-- The compact form of a value is scanned as the document of the value. -/
theorem scan_render {value : Json} (hlegible : value.Legible) :
    scan value.render = (ofJson value, true) := by
  have hscan : scanValue (2 * (Json.written value).length + 2)
      (Json.written value ++ []) = (ofJson value, some []) :=
    scanValue_written hlegible trivial (Nat.le_add_right _ 2)
  rw [List.append_nil] at hscan
  simp [scan, Json.render, hscan, skipGap]

end Document

end Workflow
