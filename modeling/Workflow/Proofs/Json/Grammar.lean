import Workflow.Proofs.Json.Rendering
import Workflow.Proofs.Text.Trim

/-!
# The grammar of JSON texts

`Json.Spells` says which texts are texts of a value, by the grammar alone:
white space is free between the parts of a text, a character inside a quoted
text may be escaped, the members of an object come in any order, and the last
of repeated names stands.  What a text spells is what it is read as
(`Json.parse?_of_spells`).
-/

namespace Workflow

namespace Json

/-! ## Leaves -/

/-- White space between the parts of a text. -/
def Gap (text : List Char) : Prop :=
  ∀ c ∈ text, Document.isGap c = true

theorem gap_nil : Gap [] :=
  List.forall_mem_nil _

/-- What a letter stands for after a backslash. -/
def escapes : List (Char × Char) :=
  [('"', '"'), ('\\', '\\'), ('/', '/'), ('b', Char.ofNat 8),
    ('f', Char.ofNat 12), ('n', '\n'), ('r', '\r'), ('t', '\t')]

/-- How a character may be written inside a quoted text: as it is, with an
escape of one letter, or by its code in hexadecimal digits, which is split in
two beyond four digits. -/
inductive SpellsChar : Char → List Char → Prop
  | plain {c : Char} (hcontrol : ¬ c.toNat < 32) (hquote : c ≠ '"')
      (hslash : c ≠ '\\') : SpellsChar c [c]
  | letter {letter c : Char} (hescape : (letter, c) ∈ escapes) :
      SpellsChar c ['\\', letter]
  | code {a b d e : Char} {code : Nat}
      (hcode : Document.hex4? a b d e = some code)
      (hwhole : code < 0xD800 ∨ 0xDFFF < code) :
      SpellsChar (Char.ofNat code) ['\\', 'u', a, b, d, e]
  | halves {a b d e i j k l : Char} {high low : Nat}
      (hhigh : Document.hex4? a b d e = some (0xD800 + high))
      (hlow : Document.hex4? i j k l = some (0xDC00 + low))
      (hhighBound : high < 0x400) (hlowBound : low < 0x400) :
      SpellsChar (Char.ofNat (0x10000 + high * 0x400 + low))
        ['\\', 'u', a, b, d, e, '\\', 'u', i, j, k, l]

/-- How characters may be written inside a quoted text. -/
inductive SpellsChars : List Char → List Char → Prop
  | nil : SpellsChars [] []
  | cons {c : Char} {chars piece text : List Char} (hchar : SpellsChar c piece)
      (hchars : SpellsChars chars text) :
      SpellsChars (c :: chars) (piece ++ text)

/-- Characters that need no escape may all be written as they are. -/
theorem spellsChars_self {chars : List Char}
    (hplain : ∀ c ∈ chars, ¬ c.toNat < 32 ∧ c ≠ '"' ∧ c ≠ '\\') :
    SpellsChars chars chars := by
  induction chars with
  | nil => exact .nil
  | cons c chars ih =>
      obtain ⟨⟨hcontrol, hquote, hslash⟩, hchars⟩ :=
        List.forall_mem_cons.mp hplain
      exact .cons (.plain hcontrol hquote hslash) (ih hchars)

/-- Digits, one of them at least. -/
structure Digits (ds : List Char) : Prop where
  ne_nil : ds ≠ []
  isDigit : ∀ c ∈ ds, c.isDigit = true

/-- An integer part has no zero in front. -/
inductive Whole : List Char → Prop
  | zero : Whole ['0']
  | digits {c : Char} {ds : List Char} (hds : Digits (c :: ds))
      (hzero : c ≠ '0') : Whole (c :: ds)

/-- The digits after the point, and how they are written. -/
inductive Fraction : List Char → List Char → Prop
  | absent : Fraction [] []
  | present {ds : List Char} (hds : Digits ds) : Fraction ds ('.' :: ds)

/-- An exponent with a flag for a minus sign, and how it is written. -/
inductive Exponent : Option (Bool × List Char) → List Char → Prop
  | absent : Exponent none []
  | plain {e : Char} {ds : List Char} (he : e = 'e' ∨ e = 'E')
      (hds : Digits ds) : Exponent (some (false, ds)) (e :: ds)
  | plus {e : Char} {ds : List Char} (he : e = 'e' ∨ e = 'E')
      (hds : Digits ds) : Exponent (some (false, ds)) (e :: '+' :: ds)
  | minus {e : Char} {ds : List Char} (he : e = 'e' ∨ e = 'E')
      (hds : Digits ds) : Exponent (some (true, ds)) (e :: '-' :: ds)

/-- The sign in front of a number. -/
def sign (negative : Bool) : List Char :=
  if negative then ['-'] else []

/-- How a number may be written. -/
inductive SpellsNumber : Number → List Char → Prop
  | mk {negative : Bool} {whole fraction : List Char}
      {exponent : Option (Bool × List Char)} {point power : List Char}
      {number : Number} (hwhole : Whole whole)
      (hfraction : Fraction fraction point)
      (hexponent : Exponent exponent power)
      (hvalue : Number.ofLiteral? negative whole fraction exponent =
        some number) :
      SpellsNumber number (sign negative ++ (whole ++ (point ++ power)))

/-! ## Values -/

mutual

/-- How a value may be written with so much room for nesting: each list or
record takes one level of it. -/
inductive Spells : Nat → Json → List Char → Prop
  | null {room : Nat} : Spells room .null "null".toList
  | yes {room : Nat} : Spells room (.bool true) "true".toList
  | no {room : Nat} : Spells room (.bool false) "false".toList
  | number {room : Nat} {value : Number} {text : List Char}
      (hnumber : SpellsNumber value text) : Spells room (.number value) text
  | text {room : Nat} {value : String} {inner : List Char}
      (hchars : SpellsChars value.toList inner) :
      Spells room (.text value) ('"' :: (inner ++ ['"']))
  | emptyList {room : Nat} {gap : List Char} (hgap : Gap gap) :
      Spells (room + 1) (.list []) ('[' :: (gap ++ [']']))
  | list {room : Nat} {items : List Json} {inner : List Char}
      (hitems : SpellsItems room items inner) :
      Spells (room + 1) (.list items) ('[' :: (inner ++ [']']))
  | emptyRecord {room : Nat} {gap : List Char} (hgap : Gap gap) :
      Spells (room + 1) (.record []) ('{' :: (gap ++ ['}']))
  | record {room : Nat} {members : List (String × Json)} {inner : List Char}
      (hmembers : SpellsMembers room members inner) :
      Spells (room + 1) (ofMembers members) ('{' :: (inner ++ ['}']))

/-- A value with white space around it. -/
inductive SpellsPadded : Nat → Json → List Char → Prop
  | mk {room : Nat} {value : Json} {before text after : List Char}
      (hbefore : Gap before) (hvalue : Spells room value text)
      (hafter : Gap after) :
      SpellsPadded room value (before ++ (text ++ after))

/-- Items with commas between them. -/
inductive SpellsItems : Nat → List Json → List Char → Prop
  | last {room : Nat} {item : Json} {text : List Char}
      (hitem : SpellsPadded room item text) : SpellsItems room [item] text
  | more {room : Nat} {item : Json} {items : List Json}
      {text rest : List Char} (hitem : SpellsPadded room item text)
      (hitems : SpellsItems room items rest) :
      SpellsItems room (item :: items) (text ++ ',' :: rest)

/-- Members with commas between them. -/
inductive SpellsMembers : Nat → List (String × Json) → List Char → Prop
  | last {room : Nat} {name : String} {value : Json}
      {before inner after text : List Char} (hbefore : Gap before)
      (hname : SpellsChars name.toList inner) (hafter : Gap after)
      (hvalue : SpellsPadded room value text) :
      SpellsMembers room [(name, value)]
        (before ++ '"' :: (inner ++ '"' :: (after ++ ':' :: text)))
  | more {room : Nat} {name : String} {value : Json}
      {members : List (String × Json)}
      {before inner after text rest : List Char} (hbefore : Gap before)
      (hname : SpellsChars name.toList inner) (hafter : Gap after)
      (hvalue : SpellsPadded room value text)
      (hmembers : SpellsMembers room members rest) :
      SpellsMembers room ((name, value) :: members)
        (before ++ '"' :: (inner ++ '"' :: (after ++ ':' ::
          (text ++ ',' :: rest))))

end

end Json

namespace Document

open Json (Gap escapes SpellsChar SpellsChars Digits Whole Fraction Exponent
  SpellsNumber Spells SpellsPadded SpellsItems SpellsMembers)

/-! ## Reading white space and quoted texts -/

theorem skipGap_append {gap : List Char} (hgap : Gap gap) (rest : List Char) :
    skipGap (gap ++ rest) = skipGap rest :=
  List.dropWhile_append_of_pos hgap

theorem skipGap_append_cons {gap : List Char} {c : Char} (hgap : Gap gap)
    (hc : isGap c = false) (rest : List Char) :
    skipGap (gap ++ c :: rest) = c :: rest := by
  rw [skipGap_append hgap, skipGap_cons hc]

theorem scanText_halves {fuel high low : Nat} {sofar rest : List Char}
    {a b d e i j k l : Char}
    (hhigh : hex4? a b d e = some (0xD800 + high))
    (hlow : hex4? i j k l = some (0xDC00 + low))
    (hhighBound : high < 0x400) (hlowBound : low < 0x400) :
    scanText (fuel + 1) (some sofar)
        ('\\' :: 'u' :: a :: b :: d :: e ::
          '\\' :: 'u' :: i :: j :: k :: l :: rest) =
      scanText fuel
        (some (Char.ofNat (0x10000 + high * 0x400 + low) :: sofar)) rest := by
  have hpair : lowSurrogate? ('\\' :: 'u' :: i :: j :: k :: l :: rest) =
      some (0xDC00 + low, rest) := by
    have hinside : 0xDC00 + low ≤ 0xDFFF := by omega
    simp [lowSurrogate?, hlow, hinside]
  have hinside : 0xD800 + high ≤ 0xDBFF := by omega
  simp [scanText, hhigh, hinside, hpair]

/-- A character is read as itself, however it is written. -/
theorem scanText_spellsChar {c : Char} {piece : List Char}
    (hchar : SpellsChar c piece) {fuel : Nat} {sofar rest : List Char} :
    scanText (fuel + 1) (some sofar) (piece ++ rest) =
      scanText fuel (some (c :: sofar)) rest := by
  cases hchar with
  | plain hcontrol hquote hslash =>
      exact scanText_plain hquote hslash hcontrol
  | @letter letter c hescape =>
      have htable : ∀ entry ∈ escapes,
          entry.1 ≠ 'u' ∧ simpleEscape? entry.1 = some entry.2 := by
        decide
      obtain ⟨hletter, hsimple⟩ := htable _ hescape
      exact scanText_simple hletter hsimple
  | code hcode hwhole => exact scanText_code hcode hwhole
  | halves hhigh hlow hhighBound hlowBound =>
      exact scanText_halves hhigh hlow hhighBound hlowBound

theorem length_pos_of_spellsChar {c : Char} {piece : List Char}
    (hchar : SpellsChar c piece) : 0 < piece.length := by
  cases hchar <;> exact Nat.zero_lt_succ _

theorem length_le_of_spellsChars {chars inner : List Char}
    (hchars : SpellsChars chars inner) : chars.length ≤ inner.length := by
  induction hchars with
  | nil => exact Nat.le_refl 0
  | cons hchar _ ih =>
      have hpos := length_pos_of_spellsChar hchar
      rw [List.length_append, List.length_cons]
      omega

theorem scanText_append {chars inner : List Char}
    (hchars : SpellsChars chars inner) {fuel : Nat} {sofar rest : List Char}
    (hfuel : chars.length < fuel) :
    scanText fuel (some sofar) (inner ++ '"' :: rest) =
      some (some (String.ofList (sofar.reverse ++ chars)), rest) := by
  obtain ⟨fuel, rfl⟩ := Nat.exists_eq_add_of_lt hfuel
  rw [Nat.add_assoc]
  clear hfuel
  induction hchars generalizing sofar with
  | nil => simp [scanText]
  | @cons c chars piece text hchar _ ih =>
      have hone : (c :: chars).length + (fuel + 1) =
          chars.length + (fuel + 1) + 1 := by
        rw [List.length_cons]
        omega
      rw [hone, List.append_assoc, scanText_spellsChar hchar, ih]
      simp

/-- A quoted text is read as what it spells. -/
theorem scanText_spells {value : String} {inner : List Char}
    (hchars : SpellsChars value.toList inner) (rest : List Char) :
    scanText ((inner ++ '"' :: rest).length + 1) (some [])
        (inner ++ '"' :: rest) = some (some value, rest) := by
  have hlength := length_le_of_spellsChars hchars
  rw [scanText_append hchars (by rw [List.length_append]; omega)]
  simp

/-! ## Reading numbers -/

/-- What can follow a value: nothing, white space, a comma or a closing
bracket. -/
def Follows (rest : List Char) : Prop :=
  ∀ c ∈ rest.head?, isGap c = true ∨ c = ',' ∨ c = ']' ∨ c = '}'

theorem follows_nil : Follows [] :=
  fun c hc => absurd hc (by simp)

theorem follows_cons {c : Char} (hc : c = ',' ∨ c = ']' ∨ c = '}')
    (rest : List Char) : Follows (c :: rest) := by
  intro d hd
  obtain rfl := Option.some.inj hd
  exact .inr hc

theorem follows_append {gap rest : List Char} (hgap : Gap gap)
    (hrest : Follows rest) : Follows (gap ++ rest) := by
  cases gap with
  | nil => exact hrest
  | cons c gap =>
      intro d hd
      obtain rfl := Option.some.inj hd
      exact .inl (hgap _ List.mem_cons_self)

theorem Follows.stops {rest : List Char} (hrest : Follows rest) :
    ∀ c ∈ rest.head?, c.isDigit = false ∧ c ≠ '.' ∧ c ≠ 'e' ∧ c ≠ 'E' := by
  intro c hc
  obtain hgap | rfl | rfl | rfl := hrest c hc
  · simp only [isGap, Bool.or_eq_true, decide_eq_true_eq] at hgap
    rcases hgap with ((rfl | rfl) | rfl) | rfl <;> decide
  all_goals decide

section Numbers

variable {rest : List Char}

theorem spanDigits_append {ds : List Char}
    (hds : ∀ c ∈ ds, c.isDigit = true)
    (hrest : ∀ c ∈ rest.head?, c.isDigit = false) :
    spanDigits (ds ++ rest) = (ds, rest) := by
  have hstops : rest.takeWhile Char.isDigit = [] ∧
      rest.dropWhile Char.isDigit = rest := by
    cases rest with
    | nil => exact ⟨rfl, rfl⟩
    | cons c rest =>
        have hc : c.isDigit = false := hrest c rfl
        simp [hc]
  simp only [spanDigits, List.takeWhile_append_of_pos hds,
    List.dropWhile_append_of_pos hds, hstops, List.append_nil]

theorem scanWhole?_append {whole : List Char} (hwhole : Whole whole)
    (hrest : ∀ c ∈ rest.head?, c.isDigit = false) :
    scanWhole? (whole ++ rest) = some (whole, rest) := by
  cases hwhole with
  | zero =>
      cases rest with
      | nil => rfl
      | cons c rest =>
          have hc : c.isDigit = false := hrest c rfl
          simp [scanWhole?, hc]
  | @digits c ds hds hzero =>
      have hspan := spanDigits_append hds.isDigit hrest
      rw [List.cons_append] at hspan ⊢
      simp [scanWhole?, hzero, hspan]

theorem scanFraction?_append {fraction point : List Char}
    (hfraction : Fraction fraction point)
    (hrest : ∀ c ∈ rest.head?, c.isDigit = false ∧ c ≠ '.') :
    scanFraction? (point ++ rest) = some (fraction, rest) := by
  cases hfraction with
  | absent =>
      cases rest with
      | nil => rfl
      | cons c rest =>
          have hc : c ≠ '.' := (hrest c rfl).2
          simp [scanFraction?, hc]
  | present hds =>
      have hspan := spanDigits_append hds.isDigit fun c hc => (hrest c hc).1
      simp [scanFraction?, hspan, hds.ne_nil]

theorem scanExponent?_append {exponent : Option (Bool × List Char)}
    {power : List Char} (hexponent : Exponent exponent power)
    (hrest : ∀ c ∈ rest.head?, c.isDigit = false ∧ c ≠ 'e' ∧ c ≠ 'E') :
    scanExponent? (power ++ rest) = some (exponent, rest) := by
  have hspan {ds : List Char} (hds : Digits ds) :
      spanDigits (ds ++ rest) = (ds, rest) :=
    spanDigits_append hds.isDigit fun c hc => (hrest c hc).1
  cases hexponent with
  | absent =>
      cases rest with
      | nil => rfl
      | cons c rest =>
          have hc := (hrest c rfl).2
          simp [scanExponent?, hc.1, hc.2]
  | @plain e ds he hds =>
      obtain ⟨d, ds, rfl⟩ := List.exists_cons_of_ne_nil hds.ne_nil
      have hd : d ≠ '-' ∧ d ≠ '+' := by
        have hdigit := hds.isDigit d List.mem_cons_self
        constructor <;> rintro rfl <;> exact absurd hdigit (by decide)
      have hspan := hspan hds
      rw [List.cons_append] at hspan
      simp [scanExponent?, he, hd.1, hd.2, hspan]
  | plus he hds => simp [scanExponent?, he, hspan hds, hds.ne_nil]
  | minus he hds => simp [scanExponent?, he, hspan hds, hds.ne_nil]

/-- What follows a fraction does not go on with it. -/
theorem power_append_stops {exponent : Option (Bool × List Char)}
    {power : List Char} (hexponent : Exponent exponent power)
    (hrest : Follows rest) :
    ∀ c ∈ (power ++ rest).head?, c.isDigit = false ∧ c ≠ '.' := by
  intro c hc
  cases hexponent with
  | absent =>
      obtain ⟨hdigit, hpoint, -⟩ := hrest.stops c hc
      exact ⟨hdigit, hpoint⟩
  | plain he | plus he | minus he =>
      obtain rfl := Option.some.inj hc
      rcases he with rfl | rfl <;> decide

/-- What follows an integer part does not go on with it. -/
theorem point_append_stops {fraction point : List Char}
    (hfraction : Fraction fraction point)
    (hrest : ∀ c ∈ rest.head?, c.isDigit = false ∧ c ≠ '.') :
    ∀ c ∈ (point ++ rest).head?, c.isDigit = false := by
  intro c hc
  cases hfraction with
  | absent => exact (hrest c hc).1
  | present =>
      obtain rfl := Option.some.inj hc
      decide

theorem exists_of_whole {whole : List Char} (hwhole : Whole whole) :
    ∃ c ds, whole = c :: ds ∧ c ≠ '-' := by
  cases hwhole with
  | zero => exact ⟨'0', [], rfl, by decide⟩
  | @digits c ds hds _ =>
      refine ⟨c, ds, rfl, ?_⟩
      rintro rfl
      exact absurd (hds.isDigit '-' List.mem_cons_self) (by decide)

/-- A number is read as what it spells. -/
theorem scanNumber?_spells {number : Number} {text : List Char}
    (hnumber : SpellsNumber number text) (hrest : Follows rest) :
    scanNumber? (text ++ rest) = some (some number, rest) := by
  cases hnumber with
  | @mk negative whole fraction exponent point power number hwhole hfraction
      hexponent hvalue =>
      have hpower := power_append_stops hexponent hrest
      have hscanned := scanWhole?_append hwhole
        (point_append_stops hfraction hpower)
      have hfraction := scanFraction?_append hfraction hpower
      have hexponent := scanExponent?_append hexponent fun c hc =>
        ⟨(hrest.stops c hc).1, (hrest.stops c hc).2.2⟩
      obtain ⟨c, ds, rfl, hminus⟩ := exists_of_whole hwhole
      rw [List.cons_append] at hscanned
      cases negative with
      | true =>
          simp [Json.sign, scanNumber?, hscanned, hfraction, hexponent, hvalue]
      | false =>
          simp [Json.sign, scanNumber?, hminus, hscanned, hfraction, hexponent,
            hvalue]

end Numbers

/-! ## Where a text starts and ends -/

/-- A character of a number. -/
def Numeric (c : Char) : Prop :=
  c.isDigit = true ∨ c ∈ ['-', '+', '.', 'e', 'E']

theorem Numeric.isBlank_eq_false {c : Char} (hc : Numeric c) :
    Text.isBlank c = false := by
  obtain hdigit | hmem := hc
  · exact Text.isBlank_eq_false_of_isDigit hdigit
  · simp only [List.mem_cons, List.not_mem_nil, or_false] at hmem
    rcases hmem with rfl | rfl | rfl | rfl | rfl <;> decide

theorem numeric_of_spellsNumber {number : Number} {text : List Char}
    (hnumber : SpellsNumber number text) : ∀ c ∈ text, Numeric c := by
  have hdigits {ds : List Char} (hds : Digits ds) : ∀ c ∈ ds, Numeric c :=
    fun c hc => .inl (hds.isDigit c hc)
  have hletter {e : Char} (he : e = 'e' ∨ e = 'E') : Numeric e := by
    rcases he with rfl | rfl <;> exact .inr (by decide)
  obtain @⟨negative, _, _, _, _, _, _, hwhole, hfraction, hexponent, -⟩ := hnumber
  simp only [List.forall_mem_append]
  refine ⟨?_, ?_, ?_, ?_⟩
  · cases negative
    · exact fun c hc => absurd hc List.not_mem_nil
    · exact List.forall_mem_singleton.mpr (.inr (by decide))
  · cases hwhole with
    | zero => exact List.forall_mem_singleton.mpr (.inl (by decide))
    | digits hds => exact hdigits hds
  · cases hfraction with
    | absent => exact fun c hc => absurd hc List.not_mem_nil
    | present hds =>
        exact List.forall_mem_cons.mpr ⟨.inr (by decide), hdigits hds⟩
  · cases hexponent with
    | absent => exact fun c hc => absurd hc List.not_mem_nil
    | plain he hds => exact List.forall_mem_cons.mpr ⟨hletter he, hdigits hds⟩
    | plus he hds | minus he hds =>
        simp only [List.forall_mem_cons]
        exact ⟨hletter he, .inr (by decide), hdigits hds⟩

section Ends

variable {room : Nat} {value : Json} {text rest : List Char}

/-- The text of a value is not empty, and it closes nothing. -/
theorem exists_of_spells (hvalue : Spells room value text) :
    ∃ c cs, text = c :: cs ∧ isGap c = false ∧ c ≠ ']' := by
  cases hvalue with
  | null | yes | no | text | emptyList | list | emptyRecord | record =>
      exact ⟨_, _, rfl, by decide, by decide⟩
  | number hnumber =>
      have hscan := scanNumber?_spells hnumber follows_nil
      rw [List.append_nil] at hscan
      obtain ⟨c, cs, rfl, hc⟩ := exists_of_scanNumber? hscan
      exact ⟨c, cs, rfl, isGap_of_startsNumber hc,
        ne_of_startsNumber hc (by decide)⟩

theorem tight_of_spells (hvalue : Spells room value text) : Text.Tight text := by
  have henclosed {first last : Char} (hfirst : Text.isBlank first = false)
      (hlast : Text.isBlank last = false) (inner : List Char) :
      Text.Tight (first :: (inner ++ [last])) :=
    Text.tight_append (Text.tight_singleton hfirst) (Text.tight_singleton hlast)
  obtain ⟨c, cs, htext, -⟩ := exists_of_spells hvalue
  cases hvalue with
  | null => exact henclosed (by decide) (by decide) ['u', 'l']
  | yes => exact henclosed (by decide) (by decide) ['r', 'u']
  | no => exact henclosed (by decide) (by decide) ['a', 'l', 's']
  | number hnumber =>
      apply Text.tight_of_forall (by simp [htext])
      intro c hc
      exact (numeric_of_spellsNumber hnumber c hc).isBlank_eq_false
  | text | emptyList | list | emptyRecord | record =>
      exact henclosed (by decide) (by decide) _

theorem opens_of_padded (hvalue : SpellsPadded room value text) :
    Opens (text ++ rest) := by
  obtain @⟨_, _, before, inner, after, hbefore, hinner, -⟩ := hvalue
  obtain ⟨c, cs, rfl, hgap, hne⟩ := exists_of_spells hinner
  refine ⟨c, cs ++ (after ++ rest), ?_, hne⟩
  simp only [List.append_assoc, List.cons_append]
  exact skipGap_append_cons hbefore hgap _

theorem opens_of_items {items : List Json}
    (hitems : SpellsItems room items text) : Opens (text ++ rest) := by
  cases hitems with
  | last hitem => exact opens_of_padded hitem
  | more hitem _ =>
      rw [List.append_assoc]
      exact opens_of_padded hitem

end Ends

/-! ## Reading values -/

theorem scanValue_emptyList {fuel : Nat} {gap rest : List Char}
    (hgap : Gap gap) :
    scanValue (fuel + 1) ('[' :: (gap ++ ']' :: rest)) =
      (list [] true, some rest) := by
  unfold scanValue
  rw [skipGap_cons (by decide)]
  simp [skipGap_append_cons hgap (show isGap ']' = false by decide)]

theorem scanValue_emptyRecord {fuel : Nat} {gap rest : List Char}
    (hgap : Gap gap) :
    scanValue (fuel + 1) ('{' :: (gap ++ '}' :: rest)) =
      (record [] true, some rest) := by
  unfold scanValue
  rw [skipGap_cons (by decide)]
  simp [skipGap_append_cons hgap (show isGap '}' = false by decide)]

theorem exists_of_members {room : Nat} {members : List (String × Json)}
    {text : List Char} (hmembers : SpellsMembers room members text)
    (rest : List Char) : ∃ cs, skipGap (text ++ rest) = '"' :: cs := by
  cases hmembers with
  | last hbefore | more hbefore =>
      rw [List.append_assoc, List.cons_append]
      exact ⟨_, skipGap_append_cons hbefore (by decide) _⟩

-- The recursion is that of the grammar.  As in the compact form, twice the length
-- of the text is enough fuel.
mutual

/-- A value is read as what it spells. -/
theorem scanValue_spells {fuel : Nat} {rest : List Char} :
    {room : Nat} → {value : Json} → {text : List Char} →
      Spells room value text → Follows rest → 2 * text.length ≤ fuel →
      ∃ document, scanValue fuel (text ++ rest) = (document, some rest) ∧
        document.toJson? room = some value
  | _, _, _, .null, _, hfuel => by
      match fuel with
      | fuel + 1 => exact ⟨null, rfl, rfl⟩
  | _, _, _, .yes, _, hfuel => by
      match fuel with
      | fuel + 1 => exact ⟨bool true, rfl, rfl⟩
  | _, _, _, .no, _, hfuel => by
      match fuel with
      | fuel + 1 => exact ⟨bool false, rfl, rfl⟩
  | room, _, digits, .number hnumber, hrest, hfuel => by
      have hvalue : Spells room (.number _) digits := .number hnumber
      obtain ⟨c, cs, hcs, -⟩ := exists_of_spells hvalue
      have hlength : digits.length = cs.length + 1 := by
        rw [hcs, List.length_cons]
      match fuel with
      | 0 => omega
      | fuel + 1 =>
          have hscan := scanNumber?_spells hnumber hrest
          exact ⟨number (some _), scanValue_number hscan, rfl⟩
  | _, _, _, .text hchars, _, hfuel => by
      match fuel with
      | fuel + 1 =>
          refine ⟨text (some _), ?_, rfl⟩
          rw [List.cons_append, List.append_assoc]
          exact scanValue_text (scanText_spells hchars rest)
  | _, _, _, .emptyList hgap, _, hfuel => by
      match fuel with
      | fuel + 1 =>
          refine ⟨list [] true, ?_, rfl⟩
          rw [List.cons_append, List.append_assoc]
          exact scanValue_emptyList hgap
  | _, _, _, .list hitems, _, hfuel => by
      simp only [List.length_cons, List.length_append, List.length_nil] at hfuel
      match fuel with
      | fuel + 1 =>
          obtain ⟨items, hscan, hvalues⟩ :=
            scanItems_spells hitems (show _ ≤ fuel by omega)
          refine ⟨list items true, ?_, by simp [toJson?, hvalues]⟩
          rw [List.cons_append, List.append_assoc]
          exact scanValue_list (opens_of_items hitems) hscan
  | _, _, _, .emptyRecord hgap, _, hfuel => by
      match fuel with
      | fuel + 1 =>
          refine ⟨record [] true, ?_, rfl⟩
          rw [List.cons_append, List.append_assoc]
          exact scanValue_emptyRecord hgap
  | _, _, _, .record hmembers, _, hfuel => by
      simp only [List.length_cons, List.length_append, List.length_nil] at hfuel
      match fuel with
      | fuel + 1 =>
          obtain ⟨members, hscan, hvalues⟩ :=
            scanMembers_spells hmembers (show _ ≤ fuel by omega)
          obtain ⟨cs, hquote⟩ := exists_of_members hmembers ('}' :: rest)
          refine ⟨record members true, ?_, ?_⟩
          · rw [List.cons_append, List.append_assoc]
            exact scanValue_record hquote hscan
          · simp [toJson?, hvalues, Json.ofMembers, Assoc.ofList]

theorem scanValue_padded {fuel : Nat} {rest : List Char} :
    {room : Nat} → {value : Json} → {text : List Char} →
      SpellsPadded room value text → Follows rest → 2 * text.length ≤ fuel →
      ∃ document left, scanValue fuel (text ++ rest) = (document, some left) ∧
        skipGap left = skipGap rest ∧ document.toJson? room = some value
  | _, _, _, @SpellsPadded.mk _ _ before inner after hbefore hvalue hafter,
      hrest, hfuel => by
      simp only [List.length_append] at hfuel
      have hinner : 2 * inner.length ≤ fuel := by omega
      obtain ⟨document, hscan, hread⟩ :=
        scanValue_spells hvalue (follows_append hafter hrest) hinner
      refine ⟨document, after ++ rest, ?_, skipGap_append hafter rest, hread⟩
      rw [← scanValue_skipGap, List.append_assoc, skipGap_append hbefore,
        scanValue_skipGap, List.append_assoc, hscan]

theorem scanItems_spells {fuel : Nat} {rest : List Char} :
    {room : Nat} → {items : List Json} → {text : List Char} →
      SpellsItems room items text → 2 * text.length + 1 ≤ fuel →
      ∃ documents, scanItems fuel (text ++ ']' :: rest) =
          (documents, true, some rest) ∧
        toItems? room documents = some items
  | _, _, _, .last hitem, hfuel => by
      match fuel with
      | fuel + 1 =>
          obtain ⟨document, left, hscan, hleft, hread⟩ :=
            scanValue_padded hitem (follows_cons (.inr (.inl rfl)) rest)
              (Nat.le_of_succ_le_succ hfuel)
          rw [skipGap_cons (by decide)] at hleft
          exact ⟨[document], scanItems_last hscan hleft, by
            simp [toItems?, hread]⟩
  | _, _, _, @SpellsItems.more _ _ _ first more hitem hitems, hfuel => by
      simp only [List.length_append, List.length_cons] at hfuel
      match fuel with
      | fuel + 1 =>
          have hfirst : 2 * first.length ≤ fuel := by omega
          have hmore : 2 * more.length + 1 ≤ fuel := by omega
          obtain ⟨document, left, hscan, hleft, hread⟩ :=
            scanValue_padded hitem (follows_cons (.inl rfl) (more ++ ']' :: rest))
              hfirst
          obtain ⟨documents, hscans, hreads⟩ := scanItems_spells hitems hmore
          rw [skipGap_cons (by decide)] at hleft
          refine ⟨document :: documents, ?_, by simp [toItems?, hread, hreads]⟩
          rw [List.append_assoc, List.cons_append]
          exact scanItems_more hscan hleft (opens_of_items hitems) hscans

theorem scanMembers_spells {fuel : Nat} {rest : List Char} :
    {room : Nat} → {members : List (String × Json)} → {text : List Char} →
      SpellsMembers room members text → 2 * text.length + 1 ≤ fuel →
      ∃ documents, scanMembers fuel (text ++ '}' :: rest) =
          (documents, true, some rest) ∧
        ∀ sofar, toMembers? room sofar documents =
          some (members.foldl (fun map entry =>
            Assoc.insert map entry.1 entry.2) sofar)
  | _, _, _, @SpellsMembers.last _ name _ _ _ _ first hbefore hname hafter
      hvalue, hfuel => by
      simp only [List.length_append, List.length_cons] at hfuel
      match fuel with
      | fuel + 1 =>
          have hfirst : 2 * first.length ≤ fuel := by omega
          obtain ⟨document, left, hscan, hleft, hread⟩ :=
            scanValue_padded hvalue (follows_cons (.inr (.inr rfl)) rest) hfirst
          rw [skipGap_cons (by decide)] at hleft
          refine ⟨[(some name, document)], ?_, by simp [toMembers?, hread]⟩
          simp only [List.append_assoc, List.cons_append]
          exact scanMembers_last (skipGap_append_cons hbefore (by decide) _)
            (scanText_spells hname _)
            (skipGap_append_cons hafter (by decide) _) hscan hleft
  | _, _, _, @SpellsMembers.more _ name _ _ _ _ _ first more hbefore hname hafter
      hvalue hmembers, hfuel => by
      simp only [List.length_append, List.length_cons] at hfuel
      match fuel with
      | fuel + 1 =>
          have hfirst : 2 * first.length ≤ fuel := by omega
          have hmore : 2 * more.length + 1 ≤ fuel := by omega
          obtain ⟨document, left, hscan, hleft, hread⟩ :=
            scanValue_padded hvalue (follows_cons (.inl rfl) (more ++ '}' :: rest))
              hfirst
          obtain ⟨documents, hscans, hreads⟩ :=
            scanMembers_spells hmembers hmore
          rw [skipGap_cons (by decide)] at hleft
          refine ⟨(some name, document) :: documents, ?_, by
            simp [toMembers?, hread, hreads]⟩
          simp only [List.append_assoc, List.cons_append]
          exact scanMembers_more (skipGap_append_cons hbefore (by decide) _)
            (scanText_spells hname _)
            (skipGap_append_cons hafter (by decide) _) hscan hleft hscans

end

end Document

/-- A text is read as the value that it spells, if it does not nest too deep. -/
theorem Json.parse?_of_spells {value : Json} {text : List Char}
    (hvalue : Json.Spells Json.maxDepth value text) :
    Json.parse? (String.ofList text) = some value := by
  obtain ⟨document, hscan, hread⟩ :=
    Document.scanValue_spells hvalue Document.follows_nil
      (Nat.le_add_right (2 * text.length) 2)
  rw [List.append_nil] at hscan
  simp [parse?, parseWithin?, Document.scan, hscan, Document.skipGap, hread]

end Workflow
