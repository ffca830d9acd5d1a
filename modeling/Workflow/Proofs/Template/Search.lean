import Mathlib.Data.List.TakeWhile
import Workflow.Proofs.Text.Piece
import Workflow.Template

/-!
# Searching a template

A reference is searched for by a pattern: two braces, white space, an
expression without braces, white space and two braces, where white space takes
as much as it can and the expression as little.  A search tries all ways to
match from the left, the preferred ones first.  `head?_ways` says that it needs
no choices: the first way takes the block that stands at the start of the text,
if one does, and its expression without the white space around it.
-/

namespace Workflow.Template

/-! ## Ways to match -/

/-- What follows a piece of text. -/
def exactly (piece text : List Char) : List (List Char) :=
  (Text.dropHead? piece text).toList

/-- The ways to take some characters of a kind, the longest first. -/
def mostOf (kind : Char → Bool) : List Char → List (List Char × List Char)
  | [] => [([], [])]
  | c :: rest =>
    (if kind c then (mostOf kind rest).map fun (taken, left) => (c :: taken, left)
      else []) ++ [([], c :: rest)]

/-- The ways to take some characters of a kind, the shortest first. -/
def fewestOf (kind : Char → Bool) : List Char → List (List Char × List Char)
  | [] => [([], [])]
  | c :: rest =>
    ([], c :: rest) ::
      if kind c then (fewestOf kind rest).map fun (taken, left) => (c :: taken, left)
      else []

/-- The ways to match a block at the start of a text, the preferred ones first:
the expression, and what follows. -/
def ways (text : List Char) : List (List Char × List Char) :=
  (exactly ['{', '{'] text).flatMap fun inside =>
    (mostOf Text.isBlank inside).flatMap fun (_, start) =>
      (fewestOf isPlain start).flatMap fun (expression, stop) =>
        (mostOf Text.isBlank stop).flatMap fun (_, close) =>
          (exactly ['}', '}'] close).map fun after => (expression, after)

/-! ## White space and braces -/

theorem isPlain_of_isBlank {c : Char} (hblank : Text.isBlank c = true) :
    isPlain c = true := by
  unfold isPlain
  rw [Bool.and_eq_true, decide_eq_true_eq, decide_eq_true_eq]
  constructor
  · rintro rfl
    exact absurd hblank (by decide)
  · rintro rfl
    exact absurd hblank (by decide)

/-- Skipping white space does not change where the next brace is. -/
theorem dropWhile_isPlain_trimLeft (cs : List Char) :
    (Text.trimLeft cs).dropWhile isPlain = cs.dropWhile isPlain := by
  induction cs with
  | nil => rfl
  | cons c cs ih =>
      unfold Text.trimLeft at ih ⊢
      cases hblank : Text.isBlank c with
      | true => simp [hblank, isPlain_of_isBlank hblank, ih]
      | false => simp [hblank]

theorem takeWhile_isPlain_trimLeft (cs : List Char) :
    (Text.trimLeft cs).takeWhile isPlain = Text.trimLeft (cs.takeWhile isPlain) := by
  induction cs with
  | nil => rfl
  | cons c cs ih =>
      unfold Text.trimLeft at ih ⊢
      cases hblank : Text.isBlank c with
      | true => simp [hblank, isPlain_of_isBlank hblank, ih]
      | false => cases hplain : isPlain c <;> simp [hblank, hplain]

/-! ## The first way -/

section

variable {β : Type} {kind : Char → Bool}

/-- Where nothing is found after some characters of a kind unless it is found
after all of them, taking all of them is enough. -/
theorem findSome?_mostOf (find : List Char → Option β)
    (hskip : ∀ text, (find text).isSome → (find (text.dropWhile kind)).isSome)
    (text : List Char) :
    (mostOf kind text).findSome? (fun way => find way.2) =
      find (text.dropWhile kind) := by
  induction text with
  | nil => simp [mostOf]
  | cons c rest ih =>
      cases hkind : kind c with
      | false => simp [mostOf, hkind]
      | true =>
          have hrest : ((mostOf kind rest).map fun (taken, left) =>
              (c :: taken, left)).findSome? (fun way => find way.2) =
              find (rest.dropWhile kind) := by
            rw [List.findSome?_map]
            exact ih
          have hdrop : (c :: rest).dropWhile kind = rest.dropWhile kind := by
            simp [hkind]
          have hskip := hskip (c :: rest)
          rw [hdrop] at hskip ⊢
          simp only [mostOf, hkind, if_true, List.findSome?_append, hrest,
            List.findSome?_singleton]
          cases hfound : find (rest.dropWhile kind) with
          | some found => rfl
          | none =>
              rw [hfound] at hskip
              simpa using hskip

end

/-- What follows the end of a block. -/
def closed? (text : List Char) : Option (List Char) :=
  Text.dropHead? ['}', '}'] text

theorem head?_exactly (piece text : List Char) :
    (exactly piece text).head? = Text.dropHead? piece text := by
  unfold exactly
  cases Text.dropHead? piece text <;> rfl

theorem trimLeft_of_closed? {text after : List Char}
    (hclosed : closed? text = some after) : Text.trimLeft text = text := by
  obtain rfl := Text.dropHead?_eq_some_iff.mp hclosed
  exact List.dropWhile_cons_of_neg (by decide)

/-- The expression up to the next brace, without white space at its end, if the
end of a block follows. -/
def expression? (text : List Char) : Option (List Char × List Char) :=
  (closed? (text.dropWhile isPlain)).map fun after =>
    (Text.trimRight (text.takeWhile isPlain), after)

theorem trimRight_cons {c : Char} {cs : List Char}
    (hsome : ∃ d ∈ c :: cs, Text.isBlank d = false) :
    Text.trimRight (c :: cs) = c :: Text.trimRight cs := by
  unfold Text.trimRight
  rw [List.reverse_cons, List.dropWhile_append]
  by_cases hblank : ∀ d ∈ cs, Text.isBlank d = true
  · have hdrop : cs.reverse.dropWhile Text.isBlank = [] :=
      List.dropWhile_eq_nil_iff.mpr fun d hd => hblank d (List.mem_reverse.mp hd)
    obtain ⟨d, hd, hd'⟩ := hsome
    obtain rfl | hd := List.mem_cons.mp hd
    · simp [hdrop, hd']
    · simp [hblank d hd] at hd'
  · have hdrop : cs.reverse.dropWhile Text.isBlank ≠ [] := by
      intro hdrop
      apply hblank
      simpa using List.dropWhile_eq_nil_iff.mp hdrop
    simp [hdrop]

theorem trimRight_of_trimLeft {cs : List Char} (htrim : Text.trimLeft cs = []) :
    Text.trimRight cs = [] := by
  have hblank := List.dropWhile_eq_nil_iff.mp htrim
  unfold Text.trimRight
  rw [List.dropWhile_eq_nil_iff.mpr fun d hd => hblank d (List.mem_reverse.mp hd),
    List.reverse_nil]

/-- If the end of a block follows after white space, then no expression is left
before it. -/
theorem expression?_of_closed? {text after : List Char}
    (hclosed : closed? (Text.trimLeft text) = some after) :
    expression? text = some ([], after) := by
  have hends := Text.dropHead?_eq_some_iff.mp hclosed
  have hdrop : text.dropWhile isPlain = Text.trimLeft text := by
    rw [← dropWhile_isPlain_trimLeft, hends]
    exact List.dropWhile_cons_of_neg (by decide)
  have htake : Text.trimLeft (text.takeWhile isPlain) = [] := by
    rw [← takeWhile_isPlain_trimLeft, hends]
    exact List.takeWhile_cons_of_neg (by decide)
  simp [expression?, hdrop, hclosed, trimRight_of_trimLeft htake]

/-- Otherwise the expression, if there is one, is more than white space. -/
theorem exists_of_not_closed? {text after : List Char}
    (hopen : closed? (Text.trimLeft text) = none)
    (hclosed : closed? (text.dropWhile isPlain) = some after) :
    ∃ d ∈ text.takeWhile isPlain, Text.isBlank d = false := by
  by_contra hnone
  have hblank : ∀ d ∈ text.takeWhile isPlain, Text.isBlank d = true := by
    simpa using hnone
  have htrim : Text.trimLeft text = text.dropWhile isPlain := by
    rw [← trimLeft_of_closed? hclosed]
    conv_lhs => rw [← List.takeWhile_append_dropWhile (p := isPlain) (l := text)]
    exact List.dropWhile_append_of_pos hblank
  rw [htrim, hclosed] at hopen
  contradiction

theorem findSome?_fewestOf (text : List Char) :
    (fewestOf isPlain text).findSome? (fun way =>
      (closed? (Text.trimLeft way.2)).map (way.1, ·)) = expression? text := by
  induction text with
  | nil => rfl
  | cons c rest ih =>
      cases hopen : closed? (Text.trimLeft (c :: rest)) with
      | some after =>
          rw [expression?_of_closed? hopen]
          simp [fewestOf, hopen]
      | none =>
          rw [fewestOf, List.findSome?_cons, hopen]
          cases hplain : isPlain c with
          | false =>
              have hdrop : closed? ((c :: rest).dropWhile isPlain) = none := by
                rw [List.dropWhile_cons_of_neg (by simp [hplain])]
                by_contra hsome
                obtain ⟨after, hclosed⟩ := Option.ne_none_iff_exists'.mp hsome
                rw [trimLeft_of_closed? hclosed, hclosed] at hopen
                contradiction
              simp [expression?, hdrop]
          | true =>
              have hrest : ((fewestOf isPlain rest).map fun (taken, left) =>
                  (c :: taken, left)).findSome? (fun way =>
                    (closed? (Text.trimLeft way.2)).map (way.1, ·)) =
                  (expression? rest).map fun (taken, left) => (c :: taken, left) := by
                rw [← ih, List.findSome?_map, List.map_findSome?]
                congr 1
                funext way
                simp only [Function.comp_apply, Option.map_map]
                rfl
              simp only [Option.map_none, if_true, hrest]
              have hsome := fun after => @exists_of_not_closed? (c :: rest) after hopen
              simp only [expression?, List.dropWhile_cons_of_pos hplain,
                List.takeWhile_cons_of_pos hplain] at hsome ⊢
              cases hclosed : closed? (rest.dropWhile isPlain) with
              | none => rfl
              | some after => simp [trimRight_cons (hsome after hclosed)]

/-- A block starts with two braces, and ends with the first two after them. -/
theorem blockAt?_eq (text : List Char) :
    blockAt? text = (Text.dropHead? ['{', '{'] text).bind fun inside =>
      (closed? (inside.dropWhile isPlain)).map fun after =>
        (inside.takeWhile isPlain, after) := by
  unfold blockAt?
  split
  next rest =>
    have hstart : Text.dropHead? ['{', '{'] ('{' :: '{' :: rest) = some rest :=
      Text.dropHead?_append ['{', '{'] rest
    rw [hstart, Option.bind_some]
    split
    next after hdrop =>
      have hclosed : closed? ('}' :: '}' :: after) = some after :=
        Text.dropHead?_append ['}', '}'] after
      rw [hdrop, hclosed, Option.map_some]
    next hdrop =>
      cases hclosed : closed? (rest.dropWhile isPlain) with
      | none => rfl
      | some after =>
          exact absurd (Text.dropHead?_eq_some_iff.mp hclosed) (hdrop after)
  next hopen =>
    cases hstart : Text.dropHead? ['{', '{'] text with
    | none => rfl
    | some rest => exact absurd (Text.dropHead?_eq_some_iff.mp hstart) (hopen rest)

/-- White space before the end of a block can be skipped as a whole. -/
theorem findSome?_mostOf_closed? (expression text : List Char) :
    (mostOf Text.isBlank text).findSome? (fun way =>
      (exactly ['}', '}'] way.2).map (expression, ·) |>.head?) =
      (closed? (Text.trimLeft text)).map (expression, ·) := by
  have hhead : ∀ text, ((exactly ['}', '}'] text).map (expression, ·)).head? =
      (closed? text).map (expression, ·) := by
    intro text
    rw [List.head?_map, head?_exactly]
    rfl
  simp only [hhead]
  refine findSome?_mostOf (fun text => (closed? text).map (expression, ·)) ?_ text
  intro text hclosed
  obtain ⟨after, hafter⟩ := Option.isSome_iff_exists.mp (by simpa using hclosed)
  have htrim : text.dropWhile Text.isBlank = text := trimLeft_of_closed? hafter
  rw [htrim]
  exact hclosed

/-- White space before an expression can be skipped as a whole. -/
theorem findSome?_mostOf_expression? (text : List Char) :
    (mostOf Text.isBlank text).findSome? (fun way => expression? way.2) =
      expression? (Text.trimLeft text) := by
  refine findSome?_mostOf expression? ?_ text
  intro text hclosed
  have hdrop := dropWhile_isPlain_trimLeft text
  unfold Text.trimLeft at hdrop
  simpa [expression?, hdrop] using hclosed

/-- The first way to match takes the block at the start of a text, and its
expression without the white space around it. -/
theorem head?_ways (text : List Char) :
    (ways text).head? = (blockAt? text).map fun (expression, after) =>
      (Text.trim expression, after) := by
  rw [blockAt?_eq]
  unfold ways exactly
  cases Text.dropHead? ['{', '{'] text with
  | none => rfl
  | some inside =>
      simp only [Option.toList_some, List.flatMap_singleton, Option.bind_some,
        List.head?_flatMap]
      have hclose := findSome?_mostOf_closed?
      unfold exactly at hclose
      simp only [hclose, findSome?_fewestOf, findSome?_mostOf_expression?]
      simp only [expression?, dropWhile_isPlain_trimLeft,
        takeWhile_isPlain_trimLeft, Option.map_map]
      rfl

end Workflow.Template
