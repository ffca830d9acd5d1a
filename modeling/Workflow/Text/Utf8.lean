/-!
# UTF-8

Well-formed UTF-8 as the Unicode standard tables it: no overlong forms, no surrogates, nothing above
U+10FFFF.  `Utf8.decode` reads as many whole characters as it can and leaves the rest of the bytes,
which starts with a character that is cut off or not well formed.
-/

namespace Workflow.Utf8

/-- Whether a byte continues a character. -/
def continues (b : UInt8) : Bool :=
  0x80 ≤ b && b ≤ 0xBF

/-- The six bits that a continuing byte adds. -/
def low (b : UInt8) : Nat :=
  b.toNat % 64

/-- Whether a byte can follow the first one of a character of three bytes. -/
def second3 (a b : UInt8) : Bool :=
  if a = 0xE0 then 0xA0 ≤ b && b ≤ 0xBF
  else if a = 0xED then 0x80 ≤ b && b ≤ 0x9F
  else continues b

/-- Whether a byte can follow the first one of a character of four bytes. -/
def second4 (a b : UInt8) : Bool :=
  if a = 0xF0 then 0x90 ≤ b && b ≤ 0xBF
  else if a = 0xF4 then 0x80 ≤ b && b ≤ 0x8F
  else continues b

/-- The first character of some bytes, and the bytes after it. -/
def next? (bytes : List UInt8) : Option (Char × List UInt8) :=
  match bytes with
  | [] => none
  | a :: rest =>
    if a < 0x80 then some (Char.ofNat a.toNat, rest)
    else if 0xC2 ≤ a && a ≤ 0xDF then
      match rest with
      | b :: rest =>
        if continues b then some (Char.ofNat (a.toNat % 32 * 64 + low b), rest) else none
      | _ => none
    else if 0xE0 ≤ a && a ≤ 0xEF then
      match rest with
      | b :: c :: rest =>
        if second3 a b && continues c then
          some (Char.ofNat (a.toNat % 16 * 4096 + low b * 64 + low c), rest)
        else none
      | _ => none
    else if 0xF0 ≤ a && a ≤ 0xF4 then
      match rest with
      | b :: c :: d :: rest =>
        if second4 a b && continues c && continues d then
          some (Char.ofNat (a.toNat % 8 * 262144 + low b * 4096 + low c * 64 + low d), rest)
        else none
      | _ => none
    else none

theorem length_of_next? {bytes rest : List UInt8} {c : Char} (h : next? bytes = some (c, rest)) :
    rest.length < bytes.length := by
  unfold next? at h
  split at h
  · simp at h
  · split at h
    · simp only [Option.some.injEq, Prod.mk.injEq] at h
      obtain ⟨-, rfl⟩ := h
      simp only [List.length_cons]
      omega
    · split at h
      · split at h
        · split at h
          · simp only [Option.some.injEq, Prod.mk.injEq] at h
            obtain ⟨-, rfl⟩ := h
            simp only [List.length_cons]
            omega
          · simp at h
        · simp at h
      · split at h
        · split at h
          · split at h
            · simp only [Option.some.injEq, Prod.mk.injEq] at h
              obtain ⟨-, rfl⟩ := h
              simp only [List.length_cons]
              omega
            · simp at h
          · simp at h
        · split at h
          · split at h
            · split at h
              · simp only [Option.some.injEq, Prod.mk.injEq] at h
                obtain ⟨-, rfl⟩ := h
                simp only [List.length_cons]
                omega
              · simp at h
            · simp at h
          · simp at h

/-- The whole characters at the start of some bytes, and the bytes after them. -/
def decode (bytes : List UInt8) : List Char × List UInt8 :=
  match _h : next? bytes with
  | none => ([], bytes)
  | some (c, rest) =>
    let (text, left) := decode rest
    (c :: text, left)
termination_by bytes.length
decreasing_by exact length_of_next? _h

/-- The bytes of a text. -/
def encode (text : String) : List UInt8 :=
  text.toUTF8.toList

/-- How many bytes at the start of a text are replaced together when they are not a character: the
start of a character that breaks off, or a single byte. -/
def brokenLength : List UInt8 → Nat
  | a :: b :: rest =>
    if 0xE0 ≤ a && a ≤ 0xEF && second3 a b then 2
    else if 0xF0 ≤ a && a ≤ 0xF4 && second4 a b then
      if rest.head?.any continues then 3 else 2
    else 1
  | _ => 1

/-- Whether some bytes that start with no character are the start of one that breaks off. -/
def isCutOff : List UInt8 → Bool
  | [a] => 0xC2 ≤ a && a ≤ 0xF4
  | [a, b] =>
    (0xE0 ≤ a && a ≤ 0xEF && second3 a b) || (0xF0 ≤ a && a ≤ 0xF4 && second4 a b)
  | [a, b, c] => 0xF0 ≤ a && a ≤ 0xF4 && second4 a b && continues c
  | _ => false

/-- The text of some bytes, with U+FFFD in place of whatever is not a character; of so many
characters at most. -/
def decodeLossyFor : Nat → List UInt8 → List Char
  | 0, _ => []
  | fuel + 1, bytes =>
    match next? bytes, bytes with
    | some (c, rest), _ => c :: decodeLossyFor fuel rest
    | none, [] => []
    | none, bytes => Char.ofNat 0xFFFD :: decodeLossyFor fuel (bytes.drop (brokenLength bytes))

/-- The text of some bytes, with U+FFFD in place of whatever is not a character. -/
def decodeLossy (bytes : List UInt8) : String :=
  String.ofList (decodeLossyFor bytes.length bytes)

end Workflow.Utf8
