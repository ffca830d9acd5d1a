import Workflow.Proofs.Text.CodeUnits

/-!
# Reading UTF-8 piece by piece

What `Utf8.next?` reads it reads off the first few bytes, whatever follows
them.  Hence bytes that arrive in two pieces are read like the bytes as a
whole, if those that the first piece leaves are put in front of the second
(`decode_append`).  This includes bytes that are not well formed: they are left
for ever, in one piece or in many.  Bytes are read to the end just if they are
the encoding of a text (`decode_eq_iff`).

Bytes below 0x80 stand for themselves and for nothing else, so the line ends of
a text are where they are among its bytes, and bytes that wait are not completed
across one of them (`decode_stuck`).
-/

namespace Workflow.Utf8

variable {bytes rest more left : List UInt8} {c : Char} {text front : List Char}

/-! ## Characters -/

/-- A character is read off its own bytes.  In ASCII these are one byte. -/
theorem exists_of_next? (hnext : next? bytes = some (c, rest)) :
    ∃ used, bytes = used ++ rest ∧
      (∀ more, next? (used ++ more) = some (c, more)) ∧
      (c.toNat < 0x80 → used = [UInt8.ofNat c.toNat]) := by
  refine ⟨String.utf8EncodeChar c, next?_eq_some_iff.mp hnext, ?_, ?_⟩
  · intro more
    exact next?_eq_some_iff.mpr rfl
  · intro hascii
    rw [encodeChar_eq, units, if_pos (Nat.le_of_lt_succ hascii)]

theorem next?_append (hnext : next? bytes = some (c, rest)) :
    next? (bytes ++ more) = some (c, rest ++ more) := by
  obtain ⟨used, rfl, hused, -⟩ := exists_of_next? hnext
  rw [List.append_assoc, hused]

/-! ## Bytes in pieces -/

theorem decode_of_none (hnext : next? bytes = none) :
    decode bytes = ([], bytes) := by
  rw [decode]
  split
  next => rfl
  next heq => simp [hnext] at heq

theorem decode_of_some (hnext : next? bytes = some (c, rest)) :
    decode bytes = (c :: (decode rest).1, (decode rest).2) := by
  rw [decode]
  split
  next heq => simp [hnext] at heq
  next heq =>
    obtain ⟨rfl, rfl⟩ := Prod.mk.inj (Option.some.inj (hnext.symm.trans heq))
    rfl

/-- What is left starts with no character. -/
theorem next?_decode (bytes : List UInt8) :
    next? (decode bytes).2 = none := by
  induction bytes using decode.induct with
  | case1 bytes hnext => rwa [decode_of_none hnext]
  | case2 bytes c rest hnext _ _ _ ih => rwa [decode_of_some hnext]

/-- The bytes that are left wait for those that come later. -/
theorem decode_append (bytes more : List UInt8) :
    decode (bytes ++ more) =
      ((decode bytes).1 ++ (decode ((decode bytes).2 ++ more)).1,
        (decode ((decode bytes).2 ++ more)).2) := by
  induction bytes using decode.induct with
  | case1 bytes hnext => simp [decode_of_none hnext]
  | case2 bytes c rest hnext _ _ _ ih =>
      rw [decode_of_some hnext, decode_of_some (next?_append hnext), ih]
      rfl

/-! ## Texts -/

theorem toList_eq (bytes : ByteArray) : bytes.toList = bytes.data.toList := by
  have hloop (n : Nat) (sofar : List UInt8) :
      ByteArray.toList.loop bytes n sofar =
        sofar.reverse ++ bytes.data.toList.drop n := by
    induction n, sofar using ByteArray.toList.loop.induct bytes with
    | case1 n sofar hlt ih =>
        have hlength : n < bytes.data.toList.length := by simpa using hlt
        have hget : bytes.get! n = bytes.data.toList[n] := by
          simp [ByteArray.get!, hlt]
        rw [ByteArray.toList.loop, if_pos hlt, ih,
          List.drop_eq_getElem_cons hlength, hget]
        simp
    | case2 n sofar hle =>
        have hlength : bytes.data.toList.length ≤ n := by simpa using hle
        rw [ByteArray.toList.loop, if_neg hle, List.drop_of_length_le hlength,
          List.append_nil]
  exact hloop 0 []

theorem encode_eq (text : String) :
    encode text = text.toList.flatMap String.utf8EncodeChar := by
  have hbytes : text.toUTF8 =
      (text.toList.flatMap String.utf8EncodeChar).toByteArray :=
    (String.utf8Encode_toList).symm
  rw [encode, toList_eq, hbytes, List.toList_data_toByteArray]

/-- What is read, and what is left, are the bytes. -/
theorem flatMap_decode (bytes : List UInt8) :
    (decode bytes).1.flatMap String.utf8EncodeChar ++ (decode bytes).2 =
      bytes := by
  induction bytes using decode.induct with
  | case1 bytes hnext =>
      rw [decode_of_none hnext]
      rfl
  | case2 bytes c rest hnext _ _ _ ih =>
      rw [decode_of_some hnext, List.flatMap_cons, List.append_assoc, ih,
        next?_eq_some_iff.mp hnext]

theorem decode_flatMap (text : List Char) :
    decode (text.flatMap String.utf8EncodeChar) = (text, []) := by
  induction text with
  | nil => exact decode_of_none rfl
  | cons c text ih =>
      have hnext : next? ((c :: text).flatMap String.utf8EncodeChar) =
          some (c, text.flatMap String.utf8EncodeChar) :=
        next?_eq_some_iff.mpr List.flatMap_cons
      rw [decode_of_some hnext, ih]

/-- Bytes are read to the end just if they are the encoding of a text. -/
theorem decode_eq_iff {text : String} :
    decode bytes = (text.toList, []) ↔ bytes = encode text := by
  rw [encode_eq]
  constructor
  · intro hdecode
    have hbytes := flatMap_decode bytes
    rw [hdecode, List.append_nil] at hbytes
    exact hbytes.symm
  · rintro rfl
    exact decode_flatMap _

/-! ## ASCII -/

/-- Bytes that wait are not completed to a character of ASCII. -/
theorem eq_nil_of_next?_append (hleft : next? left = none)
    (hnext : next? (left ++ more) = some (c, rest))
    (hascii : c.toNat < 0x80) : left = [] := by
  obtain ⟨used, happend, hused, hbyte⟩ := exists_of_next? hnext
  obtain rfl := hbyte hascii
  cases left with
  | nil => rfl
  | cons a left =>
      obtain ⟨rfl, -⟩ := List.cons.inj happend
      have hread := hused left
      rw [List.singleton_append, hleft] at hread
      simp at hread

theorem exists_of_decode_cons (hdecode : decode bytes = (c :: text, left)) :
    ∃ rest, next? bytes = some (c, rest) ∧ decode rest = (text, left) := by
  cases hnext : next? bytes with
  | none => simp [decode_of_none hnext] at hdecode
  | some read =>
      obtain ⟨d, rest⟩ := read
      rw [decode_of_some hnext] at hdecode
      obtain ⟨htext, rfl⟩ := Prod.mk.inj hdecode
      obtain ⟨rfl, rfl⟩ := List.cons.inj htext
      exact ⟨rest, rfl, rfl⟩

/-- The last byte of a text that ends in ASCII is its last character. -/
theorem exists_of_decode_snoc (hascii : c.toNat < 0x80)
    (hdecode : decode bytes = (front ++ [c], [])) :
    ∃ before, bytes = before ++ [UInt8.ofNat c.toNat] ∧
      decode before = (front, []) := by
  induction front generalizing bytes with
  | nil =>
      obtain ⟨rest, hnext, hrest⟩ := exists_of_decode_cons hdecode
      obtain ⟨used, rfl, -, hbyte⟩ := exists_of_next? hnext
      have hstops : next? rest = none := by
        cases hmore : next? rest with
        | none => rfl
        | some read =>
            obtain ⟨d, more⟩ := read
            simp [decode_of_some hmore] at hrest
      rw [decode_of_none hstops] at hrest
      obtain rfl : rest = [] := (Prod.mk.inj hrest).2
      exact ⟨[], by simp [hbyte hascii], decode_of_none rfl⟩
  | cons d front ih =>
      obtain ⟨rest, hnext, hrest⟩ := exists_of_decode_cons hdecode
      obtain ⟨used, rfl, hused, -⟩ := exists_of_next? hnext
      obtain ⟨before, rfl, hbefore⟩ := ih hrest
      refine ⟨used ++ before, (List.append_assoc ..).symm, ?_⟩
      rw [decode_of_some (hused before), hbefore]

theorem suffix_of_decode {d : Char} (hc : c.toNat < 0x80)
    (hd : d.toNat < 0x80) (hdecode : decode bytes = (text, []))
    (hends : [c, d] <:+ text) :
    [UInt8.ofNat c.toNat, UInt8.ofNat d.toNat] <:+ bytes := by
  obtain ⟨front, rfl⟩ := hends
  rw [← List.singleton_append, ← List.append_assoc] at hdecode
  obtain ⟨before, rfl, hbefore⟩ := exists_of_decode_snoc hd hdecode
  obtain ⟨before, rfl, -⟩ := exists_of_decode_snoc hc hbefore
  exact ⟨before, by simp⟩

/-! ## Bytes that wait -/

/-- Bytes that wait are not completed across a byte of ASCII. -/
theorem next?_append_ascii (hleft : next? left = none) (hne : left ≠ [])
    {b : UInt8} (hb : b.toNat < 128) : next? (left ++ b :: more) = none := by
  rw [Option.eq_none_iff_forall_ne_some]
  intro ⟨c, rest⟩ hnext
  have hbytes := next?_eq_some_iff.mp hnext
  obtain ⟨front, hused, hmore⟩ | ⟨front, hlonger, -⟩ :=
    List.append_eq_append_iff.mp hbytes
  · cases front with
    | nil =>
        rw [List.append_nil] at hused
        have hread := next?_eq_some_iff.mpr (congrArg (· ++ []) hused.symm)
        simp [hleft] at hread
    | cons d front =>
        obtain ⟨rfl, -⟩ := List.cons.inj hmore
        -- The byte of ASCII would be one of those after the first of a character.
        obtain ⟨a, left, rfl⟩ := List.exists_cons_of_ne_nil hne
        have hcodes := codes_units c.valid
        have hmem : b ∈ (units c.val.toNat).tail := by
          have hunits : units c.val.toNat = a :: left ++ b :: front := hused
          rw [hunits]
          simp
        have hlarge := hcodes.of_mem_tail hmem
        omega
  · have hread := next?_eq_some_iff.mpr hlonger
    rw [hleft] at hread
    contradiction

/-- Once bytes of ASCII follow bytes that wait, nothing more is read. -/
theorem decode_stuck (hwaits : (decode bytes).2 ≠ []) {b : UInt8}
    (hb : b.toNat < 128) : (decode (bytes ++ b :: more)).1 = (decode bytes).1 := by
  have hnone : next? ((decode bytes).2 ++ b :: more) = none :=
    next?_append_ascii (next?_decode bytes) hwaits hb
  rw [decode_append, decode_of_none hnone, List.append_nil]

end Workflow.Utf8
