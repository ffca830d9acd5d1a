import Workflow.Proofs.Template.Search

/-!
# What a template is made of

A template is cut from left to right: where a reference begins it is cut off,
and where none begins one character is.  `Cut` says so without a word about the
state of a run, and about a template it says one thing only.  The text that
comes out has the literal characters where they were and a value for each
reference, so no value is looked at again, and two states that agree on what
the template refers to are not told apart.  `settled` is the whole statement;
it also says that the search for the pattern comes to the same.
-/

namespace Workflow.Template

/-! ## References -/

/-- How a reference is written between its braces, white space aside. -/
inductive Reference.Written : Reference → List Char → Prop
  | lastOutput : Written .lastOutput "lastOutput".toList
  | input {first : Char} {name : List Char} (hfirst : startsName first = true)
      (hname : ∀ c ∈ name, inName c = true) :
      Written (.input (String.ofList (first :: name)))
        ("input.".toList ++ first :: name)

variable {template rest after expression : List Char} {target : Reference}

theorem inName_of_startsName {c : Char} (hstarts : startsName c = true) :
    inName c = true := by
  unfold startsName at hstarts
  unfold inName Char.isAlphanum
  simp only [Bool.or_eq_true] at hstarts ⊢
  exact .inl (hstarts.imp_left .inl)

theorem isName_cons {first : Char} {name : List Char} :
    isName (first :: name) = true ↔
      startsName first = true ∧ ∀ c ∈ name, inName c = true := by
  simp only [isName, List.all_cons, Bool.and_eq_true, List.all_eq_true]
  constructor
  · rintro ⟨hfirst, -, hname⟩
    exact ⟨hfirst, hname⟩
  · rintro ⟨hfirst, hname⟩
    exact ⟨hfirst, inName_of_startsName hfirst, hname⟩

theorem reference?_eq_some_iff :
    reference? expression = some target ↔ target.Written expression := by
  constructor
  · intro href
    unfold reference? at href
    split at href
    next hlast =>
      obtain rfl := Option.some.inj href
      exact hlast ▸ .lastOutput
    next =>
      split at href
      next name hname =>
        obtain rfl := Text.dropHead?_eq_some_iff.mp hname
        split at href
        next hvalid =>
          obtain rfl := Option.some.inj href
          cases name with
          | nil => contradiction
          | cons first name =>
              obtain ⟨hfirst, hname⟩ := isName_cons.mp hvalid
              exact .input hfirst hname
        next => contradiction
      next => contradiction
  · rintro (- | ⟨hfirst, hname⟩)
    · exact if_pos rfl
    · rename_i first name
      have hlast : "input.".toList ++ first :: name ≠ "lastOutput".toList := by
        simp
      rw [reference?, if_neg hlast, Text.dropHead?_append]
      exact if_pos (isName_cons.mpr ⟨hfirst, hname⟩)

/-! ## Blocks -/

/-- An expression between double braces. -/
def block (expression : List Char) : List Char :=
  '{' :: '{' :: expression ++ ['}', '}']

theorem blockAt?_eq_some_iff :
    blockAt? template = some (expression, rest) ↔
      (∀ c ∈ expression, isPlain c = true) ∧ template = block expression ++ rest := by
  rw [blockAt?_eq]
  constructor
  · intro hblock
    obtain ⟨inside, hstart, hinside⟩ := Option.bind_eq_some_iff.mp hblock
    obtain ⟨after, hclosed, hparts⟩ := Option.map_eq_some_iff.mp hinside
    obtain ⟨rfl, rfl⟩ := Prod.mk.inj hparts
    refine ⟨fun c hc => List.mem_takeWhile_imp hc, ?_⟩
    rw [Text.dropHead?_eq_some_iff.mp hstart]
    have hsplit := List.takeWhile_append_dropWhile (p := isPlain) (l := inside)
    rw [Text.dropHead?_eq_some_iff.mp hclosed] at hsplit
    simpa [block] using hsplit.symm
  · rintro ⟨hplain, rfl⟩
    have hstart : block expression ++ rest =
        ['{', '{'] ++ (expression ++ (['}', '}'] ++ rest)) := by
      simp [block]
    rw [hstart, Text.dropHead?_append, Option.bind_some,
      List.dropWhile_append_of_pos hplain, List.takeWhile_append_of_pos hplain]
    have hclosed : closed? (['}', '}'] ++ rest) = some rest :=
      Text.dropHead?_append _ _
    have hdrop : (['}', '}'] ++ rest).dropWhile isPlain = ['}', '}'] ++ rest :=
      List.dropWhile_cons_of_neg (by decide)
    have htake : (['}', '}'] ++ rest).takeWhile isPlain = [] :=
      List.takeWhile_cons_of_neg (by decide)
    rw [hdrop, htake, hclosed, List.append_nil, Option.map_some]

/-- A template begins with a reference: two braces, an expression without
braces that is a reference but for the white space around it, two braces. -/
def Begins (template : List Char) (target : Reference) (rest : List Char) : Prop :=
  ∃ expression, (∀ c ∈ expression, c ≠ '{' ∧ c ≠ '}') ∧
    target.Written (Text.trim expression) ∧ template = block expression ++ rest

theorem begins_iff :
    Begins template target rest ↔ ∃ expression,
      blockAt? template = some (expression, rest) ∧
        reference? (Text.trim expression) = some target := by
  simp only [Begins, blockAt?_eq_some_iff, reference?_eq_some_iff, isPlain,
    Bool.and_eq_true, decide_eq_true_eq]
  constructor
  · rintro ⟨expression, hplain, hwritten, htemplate⟩
    exact ⟨expression, ⟨hplain, htemplate⟩, hwritten⟩
  · rintro ⟨expression, ⟨hplain, htemplate⟩, hwritten⟩
    exact ⟨expression, hplain, hwritten, htemplate⟩

theorem Begins.unique {reference : Reference}
    (hbegins : Begins template target rest)
    (hother : Begins template reference after) :
    target = reference ∧ rest = after := by
  obtain ⟨expression, hblock, htarget⟩ := begins_iff.mp hbegins
  obtain ⟨same, hsame, hreference⟩ := begins_iff.mp hother
  rw [hblock] at hsame
  obtain ⟨rfl, rfl⟩ := Prod.mk.inj (Option.some.inj hsame)
  rw [htarget] at hreference
  exact ⟨Option.some.inj hreference, rfl⟩

theorem Begins.eq_cons (hbegins : Begins template target rest) :
    ∃ after, template = '{' :: '{' :: after := by
  obtain ⟨expression, -, -, rfl⟩ := hbegins
  exact ⟨_, rfl⟩

/-! ## Cutting -/

/-- A template, cut from left to right into references and characters that
stand for themselves. -/
inductive Cut : List Char → List Piece → Prop
  | nil : Cut [] []
  | reference {template rest : List Char} {target : Reference} {parts : List Piece}
      (hbegins : Begins template target rest) (hrest : Cut rest parts) :
      Cut template (.reference target :: parts)
  | literal {c : Char} {rest : List Char} {parts : List Piece}
      (hnone : ∀ target after, ¬ Begins (c :: rest) target after)
      (hrest : Cut rest parts) : Cut (c :: rest) (.literal [c] :: parts)

variable {parts others : List Piece}

/-- There is one way to cut a template. -/
theorem Cut.unique (hcut : Cut template parts) (hother : Cut template others) :
    parts = others := by
  induction hcut generalizing others with
  | nil =>
      cases hother with
      | nil => rfl
      | reference hbegins => cases hbegins.eq_cons.choose_spec
  | reference hbegins hrest ih =>
      cases hother with
      | nil => cases hbegins.eq_cons.choose_spec
      | reference hbegins' hrest' =>
          obtain ⟨rfl, rfl⟩ := hbegins.unique hbegins'
          rw [ih hrest']
      | literal hnone => exact absurd hbegins (hnone _ _)
  | literal hnone hrest ih =>
      cases hother with
      | reference hbegins => exact absurd hbegins (hnone _ _)
      | literal _ hrest' => rw [ih hrest']

/-- A piece, its text cut into characters. -/
def Piece.apart : Piece → List Piece
  | literal text => text.map fun c => .literal [c]
  | reference target => [.reference target]

/-- No reference begins where there is no brace. -/
theorem Cut.append {text : List Char} (htext : ∀ c ∈ text, c ≠ '{')
    (hrest : Cut rest parts) :
    Cut (text ++ rest) ((Piece.literal text).apart ++ parts) := by
  induction text with
  | nil => exact hrest
  | cons c text ih =>
      obtain ⟨hc, htext⟩ := List.forall_mem_cons.mp htext
      refine .literal ?_ (ih htext)
      intro target after hbegins
      obtain ⟨_, heq⟩ := hbegins.eq_cons
      exact hc (List.cons.inj heq).1

/-- A block that is no reference is literal, and no reference begins inside. -/
theorem Cut.block (hplain : ∀ c ∈ expression, isPlain c = true)
    (hnone : reference? (Text.trim expression) = none) (hrest : Cut rest parts) :
    Cut (block expression ++ rest)
      ((Piece.literal (Template.block expression)).apart ++ parts) := by
  have hclose : ∀ c ∈ expression ++ ['}', '}'], c ≠ '{' := by
    intro c hc
    obtain hc | hc := List.mem_append.mp hc
    · have hplain := hplain c hc
      simp only [isPlain, Bool.and_eq_true, decide_eq_true_eq] at hplain
      exact hplain.1
    · rintro rfl
      simp at hc
  refine .literal ?_ (.literal ?_ (hrest.append hclose))
  · intro target after hbegins
    obtain ⟨other, hblock, htarget⟩ := begins_iff.mp hbegins
    have hself := blockAt?_eq_some_iff.mpr
      ⟨hplain, (rfl : Template.block expression ++ rest = _)⟩
    obtain ⟨rfl, -⟩ := Prod.mk.inj (Option.some.inj (hself.symm.trans hblock))
    rw [hnone] at htarget
    contradiction
  · intro target after hbegins
    obtain ⟨tail, heq⟩ := hbegins.eq_cons
    have hhead := (List.cons.inj heq).2
    cases expression with
    | nil => simp at hhead
    | cons c expression =>
        exact hclose c (by simp) (List.cons.inj hhead).1

theorem not_begins_of_blockAt? (hnone : blockAt? template = none) :
    ¬ Begins template target rest := by
  intro hbegins
  obtain ⟨_, hblock, -⟩ := begins_iff.mp hbegins
  rw [hnone] at hblock
  contradiction

theorem cut_pieces (template : List Char) :
    Cut template ((pieces template).flatMap Piece.apart) := by
  fun_induction pieces template with
  | case1 => exact .nil
  | case2 c rest expression after hblock ih =>
      rw [List.flatMap_cons]
      obtain ⟨hplain, heq⟩ := blockAt?_eq_some_iff.mp hblock
      unfold pieceOf
      split
      next target htarget =>
        exact .reference (begins_iff.mpr ⟨expression, hblock, htarget⟩) ih
      next hnone =>
        rw [heq]
        exact .block hplain hnone ih
  | case3 c rest hblock ih =>
      exact .literal (fun _ _ => not_begins_of_blockAt? hblock) ih

theorem cut_iff :
    Cut template parts ↔ parts = (pieces template).flatMap Piece.apart := by
  constructor
  · intro hcut
    exact hcut.unique (cut_pieces template)
  · rintro rfl
    exact cut_pieces template

/-! ## What comes out -/

variable {context other : Context}

/-- The name of the missing input that a piece refers to. -/
def Piece.missing? (context : Context) : Piece → Option String
  | literal _ => none
  | reference .lastOutput => none
  | reference (.input name) =>
    if (Assoc.get? context.inputs name).isSome then none else some name

/-- What there is to say about a missing input. -/
def unresolved (name : String) : String :=
  s!"unresolved reference 'input.{name}'"

theorem Piece.warning?_eq (piece : Piece) :
    piece.warning? context = (piece.missing? context).map unresolved := by
  rcases piece with text | (name | _)
  · rfl
  · simp only [warning?, Reference.warning?, missing?]
    split <;> rfl
  · rfl

theorem Piece.flatMap_render_apart (piece : Piece) :
    piece.apart.flatMap (render context) = piece.render context := by
  cases piece with
  | literal text => simp [apart, List.flatMap_map, render]
  | reference target => simp [apart]

theorem Piece.filterMap_warning?_apart (piece : Piece) :
    piece.apart.filterMap (warning? context) = (piece.warning? context).toList := by
  cases piece with
  | literal text => simp [apart, warning?]
  | reference target =>
      cases hwarning : (reference target).warning? context <;> simp [apart, hwarning]

/-- The text is made of the parts, and the missing inputs are named in the order
in which they are referred to. -/
theorem Cut.resolve {template : String} (hcut : Cut template.toList parts) :
    resolve template context =
      ⟨String.ofList (parts.flatMap (Piece.render context)),
        (parts.filterMap (Piece.missing? context)).map unresolved⟩ := by
  obtain rfl := cut_iff.mp hcut
  have hwarnings : ∀ pieces : List Piece,
      (pieces.filterMap (Piece.missing? context)).map unresolved =
        pieces.filterMap (Piece.warning? context) := by
    intro pieces
    rw [List.map_filterMap]
    exact List.filterMap_congr fun piece _ => piece.warning?_eq.symm
  rw [hwarnings]
  simp only [Template.resolve, List.flatMap_assoc, List.filterMap_flatMap,
    Piece.flatMap_render_apart, Piece.filterMap_warning?_apart]
  rw [List.filterMap_eq_flatMap_toList]

/-- Two states are not told apart if they agree on what is referred to. -/
theorem Cut.resolve_congr {template : String} (hcut : Cut template.toList parts)
    (hlast : context.lastOutput = other.lastOutput)
    (hinputs : ∀ name, Piece.reference (.input name) ∈ parts →
      Assoc.get? context.inputs name = Assoc.get? other.inputs name) :
    Template.resolve template context = Template.resolve template other := by
  have hpart : ∀ part ∈ parts, part.render context = part.render other ∧
      part.missing? context = part.missing? other := by
    rintro (text | (name | _)) hmem
    · exact ⟨rfl, rfl⟩
    · simp only [Piece.render, Reference.render, Piece.missing?, hinputs name hmem,
        and_self]
    · simp only [Piece.render, Reference.render, Piece.missing?, hlast, and_self]
  rw [hcut.resolve, hcut.resolve,
    List.flatMap_congr fun part hmem => (hpart part hmem).1,
    List.filterMap_congr fun part hmem => (hpart part hmem).2]

/-! ## Searching for the pattern -/

/-- What is put in for a match, and what there is to say about it: for an
expression that is no reference, the match itself. -/
def replacement (context : Context) (whole expression : List Char) :
    List Char × List String :=
  match reference? expression with
  | some target => ((target.render context).toList, (target.warning? context).toList)
  | none => (whole, [])

theorem length_lt_of_ways (hway : (ways template).head? = some (expression, after)) :
    after.length < template.length := by
  rw [head?_ways] at hway
  obtain ⟨⟨inside, rest⟩, hblock, hparts⟩ := Option.map_eq_some_iff.mp hway
  obtain ⟨-, rfl⟩ := Prod.mk.inj hparts
  exact length_lt_of_blockAt? hblock

/-- Replace every match of the pattern.  The search goes on after a match, and
where nothing matches, one character on. -/
def replaceAll (context : Context) (template : List Char) : List Char × List String :=
  match _h : template with
  | [] => ([], [])
  | c :: rest =>
    match _hway : (ways (c :: rest)).head? with
    | some (expression, after) =>
      let whole := (c :: rest).take ((c :: rest).length - after.length)
      let (text, warnings) := replacement context whole expression
      let (more, others) := replaceAll context after
      (text ++ more, warnings ++ others)
    | none =>
      let (more, others) := replaceAll context rest
      (c :: more, others)
termination_by template.length
decreasing_by
  · have := length_lt_of_ways _hway
    simpa using this
  · simp

theorem replaceAll_of_match {c : Char}
    (hway : (ways (c :: rest)).head? = some (expression, after)) :
    replaceAll context (c :: rest) =
      let put := replacement context
        ((c :: rest).take ((c :: rest).length - after.length)) expression
      (put.1 ++ (replaceAll context after).1,
        put.2 ++ (replaceAll context after).2) := by
  rw [replaceAll]
  split
  next expression' after' hway' =>
    obtain ⟨rfl, rfl⟩ := Prod.mk.inj (Option.some.inj (hway.symm.trans hway'))
    rfl
  next hnone =>
    rw [hway] at hnone
    contradiction

theorem replaceAll_of_no_match {c : Char} (hnone : (ways (c :: rest)).head? = none) :
    replaceAll context (c :: rest) =
      (c :: (replaceAll context rest).1, (replaceAll context rest).2) := by
  rw [replaceAll]
  split
  next hway =>
    rw [hnone] at hway
    contradiction
  next => rfl

/-- What is put in for a block is what its piece is rendered as. -/
theorem replacement_block (context : Context) (expression : List Char) :
    replacement context (block expression) (Text.trim expression) =
      ((pieceOf expression).render context,
        ((pieceOf expression).warning? context).toList) := by
  unfold replacement pieceOf
  cases reference? (Text.trim expression) <;> rfl

/-- The search for the pattern comes to the same as cutting once. -/
theorem replaceAll_eq (context : Context) (template : List Char) :
    replaceAll context template =
      ((pieces template).flatMap (Piece.render context),
        (pieces template).filterMap (Piece.warning? context)) := by
  fun_induction pieces template with
  | case1 => simp [replaceAll]
  | case2 c rest expression after hblock ih =>
      have hway : (ways (c :: rest)).head? = some (Text.trim expression, after) := by
        rw [head?_ways, hblock, Option.map_some]
      have hwhole : (c :: rest).take ((c :: rest).length - after.length) =
          block expression := by
        rw [(blockAt?_eq_some_iff.mp hblock).2]
        simp
      rw [replaceAll_of_match hway, hwhole, replacement_block, ih]
      cases hwarning : (pieceOf expression).warning? context <;> simp [hwarning]
  | case3 c rest hblock ih =>
      have hnone : (ways (c :: rest)).head? = none := by
        rw [head?_ways, hblock, Option.map_none]
      rw [replaceAll_of_no_match hnone, ih]
      rfl

/-! ## Values -/

/-- Two values that are alike in all but their strings, with the strings of the
one reworded in the other. -/
inductive Reworded (reword : String → String) : Json → Json → Prop
  | null : Reworded reword .null .null
  | bool (value : Bool) : Reworded reword (.bool value) (.bool value)
  | number (value : Number) : Reworded reword (.number value) (.number value)
  | text (text : String) : Reworded reword (.text text) (.text (reword text))
  | list {items others : List Json}
      (hitems : List.Forall₂ (Reworded reword) items others) :
      Reworded reword (.list items) (.list others)
  | record {members others : List (String × Json)}
      (hnames : members.map Prod.fst = others.map Prod.fst)
      (hvalues : List.Forall₂ (Reworded reword) (members.map Prod.snd)
        (others.map Prod.snd)) :
      Reworded reword (.record members) (.record others)

mutual

theorem reworded_resolveJson (context : Context) : (value : Json) →
    Reworded (fun text => (resolve text context).text) value
      (resolveJson context value)
  | .null => .null
  | .bool value => .bool value
  | .number value => .number value
  | .text text => .text text
  | .list items => .list (reworded_resolveItems context items)
  | .record members =>
      .record (map_fst_resolveMembers context members)
        (reworded_resolveMembers context members)

theorem reworded_resolveItems (context : Context) : (items : List Json) →
    List.Forall₂ (Reworded fun text => (resolve text context).text) items
      (resolveItems context items)
  | [] => .nil
  | item :: rest =>
      .cons (reworded_resolveJson context item) (reworded_resolveItems context rest)

theorem map_fst_resolveMembers (context : Context) :
    (members : List (String × Json)) →
      members.map Prod.fst = (resolveMembers context members).map Prod.fst
  | [] => rfl
  | (name, _) :: rest => congrArg (name :: ·) (map_fst_resolveMembers context rest)

theorem reworded_resolveMembers (context : Context) :
    (members : List (String × Json)) →
      List.Forall₂ (Reworded fun text => (resolve text context).text)
        (members.map Prod.snd) ((resolveMembers context members).map Prod.snd)
  | [] => .nil
  | (_, value) :: rest =>
      .cons (reworded_resolveJson context value)
        (reworded_resolveMembers context rest)

end

/-! ## The whole statement -/

/-- What the parts of a template settle about it. -/
structure Settled (template : String) (parts : List Piece) : Prop where
  /-- There is one way to cut the template. -/
  cut_iff (others : List Piece) : Cut template.toList others ↔ others = parts
  /-- Literal parts are kept, and references stand for values. -/
  text (context : Context) : (resolve template context).text =
    String.ofList (parts.flatMap (Piece.render context))
  /-- Missing inputs are named, in the order in which they are referred to. -/
  warnings (context : Context) : (resolve template context).warnings =
    (parts.filterMap (Piece.missing? context)).map unresolved
  /-- The search for the pattern gives the same. -/
  search (context : Context) :
    ((resolve template context).text.toList, (resolve template context).warnings) =
      replaceAll context template.toList
  /-- States that agree on what is referred to give the same. -/
  agree (context other : Context) (hlast : context.lastOutput = other.lastOutput)
    (hinputs : ∀ name, Piece.reference (.input name) ∈ parts →
      Assoc.get? context.inputs name = Assoc.get? other.inputs name) :
    resolve template context = resolve template other

/-- Every template is cut in one way, which settles what comes out of it in
every state; and of a value only the strings are touched. -/
theorem settled :
    (∀ template : String, ∃ parts, Settled template parts) ∧
      ∀ (context : Context) (value : Json),
        Reworded (fun text => (resolve text context).text) value
          (resolveJson context value) := by
  refine ⟨fun template => ?_, reworded_resolveJson⟩
  have hcut := cut_pieces template.toList
  refine ⟨(pieces template.toList).flatMap Piece.apart, fun others => cut_iff,
    ?_, ?_, ?_, ?_⟩
  · intro context
    rw [hcut.resolve]
  · intro context
    rw [hcut.resolve]
  · intro context
    rw [replaceAll_eq]
    simp [resolve]
  · intro context other hlast hinputs
    exact hcut.resolve_congr hlast hinputs

/-- A third brace before a reference is literal, and so is one after it. -/
example : pieces "{{{ lastOutput }}}".toList =
    [.literal ['{'], .reference .lastOutput, .literal ['}']] := by cbv

end Workflow.Template
