import InsertPivot.Converter
import InsertPivot.Proofs.Run

/-!
# What the fragments of a text contribute

A text is converted fragment by fragment, and what a fragment contributes depends on nothing but the fragment.
The failure policy decides one thing only: whether a statement that cannot be converted is copied or refuses the
text. So the two policies give the same result wherever no statement is refused.

The converted text and the list of converted statements are made one beside the other from the same fragments.
`Converter.Rewritten` says how the text is made from the blocks of that list.
-/

namespace InsertPivot

/-- Where a function on a list either stops or goes on, the first item that it stops at decides. -/
theorem mapM_eq_of_stop {ε α β : Type} {f : α → Except ε β} (stop? : α → Option ε) (value : α → β)
    (h : ∀ x, f x = (stop? x).elim (.ok (value x)) .error) (xs : List α) :
    xs.mapM f = (xs.findSome? stop?).elim (.ok (xs.map value)) .error := by
  induction xs with
  | nil => rfl
  | cons x xs ih =>
    rw [List.mapM_cons, h x, ih, List.findSome?_cons]
    cases stop? x with
    | some fault => rfl
    | none => cases xs.findSome? stop? <;> rfl

theorem eq_ok_of_toOption {ε α : Type} {x : Except ε α} {a : α} (h : x.toOption = some a) : x = .ok a := by
  cases x with
  | ok b => exact congrArg Except.ok (Option.some.inj h)
  | error fault => cases h

namespace Direction

/-- Whether a statement is in the form that is wanted. -/
def Reached : Direction → Insert → Prop
  | toValues, statement => statement.isSetForm = false
  | toSet, statement => statement.isSetForm = true

/-- A conversion reaches its form. -/
theorem reached_of_convert {direction : Direction} {statement converted : Insert}
    (h : direction.convert statement = .ok converted) : direction.Reached converted := by
  obtain ⟨keywordCase, priority, ignore, table, payload, updates⟩ := statement
  cases direction with
  | toValues => cases payload <;> cases h <;> rfl
  | toSet =>
    cases payload with
    | set items =>
      cases h
      rfl
    | values columns rows =>
      simp only [Direction.convert, Insert.toSet] at h
      split at h
      · cases h
      · split at h
        · cases h
        · cases h
          rfl

/-- Statements are brought into the form that is wanted one by one. -/
theorem forall₂_of_apply {direction : Direction} {statements converted : List Insert}
    (h : direction.apply statements = .ok converted) :
    converted.length = statements.length ∧ ∀ statement ∈ converted, direction.Reached statement := by
  rw [apply] at h
  induction statements generalizing converted with
  | nil =>
    cases h
    exact ⟨rfl, by simp⟩
  | cons statement statements ih =>
    rw [List.mapM_cons] at h
    obtain ⟨first, hfirst, h⟩ := Sql.except_bind_eq_ok_iff.mp h
    obtain ⟨others, hothers, h⟩ := Sql.except_bind_eq_ok_iff.mp h
    cases h
    obtain ⟨hlength, hreached⟩ := ih hothers
    exact ⟨by rw [List.length_cons, List.length_cons, hlength],
      List.forall_mem_cons.mpr ⟨reached_of_convert hfirst, hreached⟩⟩

end Direction

namespace Converter

variable (c : Converter) (direction : Direction)

/-! ## One fragment -/

/-- Why a fragment cannot be converted, if it is a statement that cannot be. -/
def refusal? : Fragment → Option Refusal
  | .passthrough _ => none
  | .statement text =>
    match c.attempt direction text with
    | .ok _ => none
    | .error refusal => some refusal

/-- Why a fragment refuses the text that it stands in. -/
def stop? (fragment : Fragment) : Option Refusal :=
  match c.policy with
  | .abort => c.refusal? direction fragment
  | .skip => none

/-- What stands in place of a fragment that does not refuse the text: its converted statements, or its own text
where it holds none or cannot be converted. -/
def kept : Fragment → String
  | .passthrough text => text
  | .statement text =>
    match c.attempt direction text with
    | .ok statements => c.written statements
    | .error _ => text

/-- The converted statements of a fragment, if it is converted. -/
def block? : Fragment → Option (List Insert)
  | .passthrough _ => none
  | .statement text => (c.attempt direction text).toOption

/-- A fragment contributes what is kept of it, unless it stops the run. -/
theorem contribution_eq (f : Fragment) :
    c.contribution direction f = (c.stop? direction f).elim (.ok (c.kept direction f)) .error := by
  obtain ⟨codec, policy⟩ := c
  cases f with
  | passthrough text => cases policy <;> rfl
  | statement text =>
    simp only [contribution, stop?, refusal?, kept]
    cases attempt ⟨codec, policy⟩ direction text <;> cases policy <;> rfl

/-- A fragment holds its statements, unless it stops the run. -/
theorem held_eq (f : Fragment) :
    c.held direction f = (c.stop? direction f).elim (.ok ((c.block? direction f).getD [])) .error := by
  obtain ⟨codec, policy⟩ := c
  cases f with
  | passthrough text => cases policy <;> rfl
  | statement text =>
    simp only [held, stop?, refusal?, block?]
    cases attempt ⟨codec, policy⟩ direction text <;> cases policy <;> rfl

variable {c direction}

/-- The statements of a fragment are the ones that were read from it, in the form that is wanted. -/
theorem exists_of_attempt {text : String} {statements : List Insert} (h : c.attempt direction text = .ok statements) :
    ∃ parsed, c.codec.parse (Heading.complete text) = .ok parsed ∧ direction.apply parsed = .ok statements := by
  obtain ⟨parsed, hparsed, happly⟩ := Sql.except_bind_eq_ok_iff.mp h
  refine ⟨parsed, ?_, ?_⟩
  · cases hread : c.codec.parse (Heading.complete text) <;> rw [hread] at hparsed <;> cases hparsed
    rfl
  · cases hforms : direction.apply parsed <;> rw [hforms] at happly <;> cases happly
    rfl

/-! ## A whole text -/

/-- A conversion is refused for the first fragment that refuses it, and puts together what the fragments become. -/
theorem convert_eq (text : String) :
    c.convert text direction =
      ((Fragment.split text).findSome? (c.stop? direction)).elim
        (.ok (String.join ((Fragment.split text).map (c.kept direction)))) .error := by
  rw [convert, mapM_eq_of_stop (c.stop? direction) (c.kept direction) (c.contribution_eq direction)]
  cases (Fragment.split text).findSome? (c.stop? direction) <;> rfl

/-- The statements of a text are refused for the same fragment, and put together from the same fragments. -/
theorem statements_eq (text : String) :
    c.statements text direction =
      ((Fragment.split text).findSome? (c.stop? direction)).elim
        (.ok ((Fragment.split text).filterMap (c.block? direction)).flatten) .error := by
  have hflatten (fragments : List Fragment) :
      (fragments.map fun f => (c.block? direction f).getD []).flatten =
      (fragments.filterMap (c.block? direction)).flatten := by
    induction fragments with
    | nil => rfl
    | cons f fragments ih =>
      rw [List.map_cons, List.flatten_cons, ih, List.filterMap_cons]
      cases c.block? direction f <;> rfl
  rw [statements, mapM_eq_of_stop (c.stop? direction) (fun f => (c.block? direction f).getD []) (c.held_eq direction)]
  cases (Fragment.split text).findSome? (c.stop? direction) with
  | some refusal => rfl
  | none => exact congrArg Except.ok (hflatten _)

/-- No fragment stops a run that skips failures. -/
theorem findSome?_stop?_skip (codec : Codec) (fragments : List Fragment) :
    fragments.findSome? (stop? ⟨codec, .skip⟩ direction) = none :=
  List.findSome?_eq_none_iff.mpr fun _ _ => rfl

/-! ## The two policies -/

/-- Where failures are skipped nothing is refused, and each fragment becomes what it becomes alone. Where they are
not, the first fragment that cannot be converted refuses the text, and without one the result is the same. -/
theorem policies_agree (codec : Codec) (direction : Direction) (text : String) :
    let skipping : Converter := ⟨codec, .skip⟩
    let aborting : Converter := ⟨codec, .abort⟩
    skipping.convert text direction = .ok (String.join ((Fragment.split text).map (skipping.kept direction))) ∧
      skipping.statements text direction =
        .ok ((Fragment.split text).filterMap (skipping.block? direction)).flatten ∧
      aborting.convert text direction =
        match (Fragment.split text).findSome? (aborting.refusal? direction) with
        | some refusal => .error refusal
        | none => skipping.convert text direction := by
  intro skipping aborting
  have hskipped : skipping.convert text direction =
      .ok (String.join ((Fragment.split text).map (skipping.kept direction))) := by
    rw [convert_eq, findSome?_stop?_skip]
    rfl
  refine ⟨hskipped, ?_, ?_⟩
  · rw [statements_eq, findSome?_stop?_skip]
    rfl
  · -- what a fragment becomes does not depend on the policy
    rw [hskipped, convert_eq]
    have hstop : (Fragment.split text).findSome? (aborting.stop? direction) =
        (Fragment.split text).findSome? (aborting.refusal? direction) := rfl
    rw [hstop]
    cases (Fragment.split text).findSome? (aborting.refusal? direction) <;> rfl

/-! ## Text and statements -/

variable (c direction) in
/-- How a text is made from its fragments and the blocks of its converted statements: a fragment that is converted
takes the next block, and the others are copied. -/
inductive Rewritten : List Fragment → List (List Insert) → String → Prop where
  | nil : Rewritten [] [] ""
  /-- What is copied is no statement, or one that cannot be converted and is skipped. -/
  | copied {f : Fragment} {fragments : List Fragment} {blocks : List (List Insert)} {out : String} :
      (∀ text, f = .statement text → c.policy = .skip ∧ ∃ refusal, c.attempt direction text = .error refusal) →
        Rewritten fragments blocks out → Rewritten (f :: fragments) blocks (f.text ++ out)
  /-- A block has as many statements as were read. -/
  | converted {text : String} {parsed block : List Insert} {fragments : List Fragment} {blocks : List (List Insert)}
      {out : String} :
      c.codec.parse (Heading.complete text) = .ok parsed → direction.apply parsed = .ok block →
        block.length = parsed.length → Rewritten fragments blocks out →
          Rewritten (.statement text :: fragments) (block :: blocks)
            (";\n".intercalate (block.map c.codec.format) ++ ";" ++ out)

/-- Where no fragment refuses the text, it is made from the blocks of the statements. -/
theorem rewritten_of_stop {fragments : List Fragment} (h : ∀ f ∈ fragments, c.stop? direction f = none) :
    c.Rewritten direction fragments (fragments.filterMap (c.block? direction))
      (String.join (fragments.map (c.kept direction))) := by
  induction fragments with
  | nil => exact .nil
  | cons f fragments ih =>
    obtain ⟨hf, hrest⟩ := List.forall_mem_cons.mp h
    have hrewritten := ih hrest
    rw [List.map_cons, String.join_cons, List.filterMap_cons]
    cases f with
    | passthrough text =>
      refine .copied (f := .passthrough text) ?_ hrewritten
      rintro text ⟨⟩
    | statement text =>
      cases hattempt : c.attempt direction text with
      | ok statements =>
        obtain ⟨parsed, hparsed, happly⟩ := exists_of_attempt hattempt
        simp only [block?, kept, hattempt]
        exact .converted hparsed happly (Direction.forall₂_of_apply happly).1 hrewritten
      | error refusal =>
        have hskip : c.policy = .skip := by
          cases hpolicy : c.policy with
          | skip => rfl
          | abort => simp [stop?, hpolicy, refusal?, hattempt] at hf
        simp only [block?, kept, hattempt]
        refine .copied (f := .statement text) ?_ hrewritten
        rintro text ⟨⟩
        exact ⟨hskip, refusal, hattempt⟩

/-- The statements of a block are in the form that is wanted. -/
theorem reached_of_mem_blocks {fragments : List Fragment} {statement : Insert}
    (h : statement ∈ (fragments.filterMap (c.block? direction)).flatten) : direction.Reached statement := by
  obtain ⟨block, hblock, hstatement⟩ := List.mem_flatten.mp h
  obtain ⟨f, -, hf⟩ := List.mem_filterMap.mp hblock
  cases f with
  | passthrough text => cases hf
  | statement text =>
    cases hattempt : c.attempt direction text with
    | error refusal => simp [block?, hattempt, Except.toOption] at hf
    | ok statements =>
      obtain ⟨parsed, -, happly⟩ := exists_of_attempt hattempt
      simp only [block?, hattempt, Except.toOption, Option.some.injEq] at hf
      subst hf
      exact (Direction.forall₂_of_apply happly).2 statement hstatement

/-- A text is refused as its statements are. Where it is not, its statements fall into blocks, one for each fragment
that is converted, and the converted text is the text with these fragments replaced. -/
theorem convert_and_statements (c : Converter) (direction : Direction) (text : String) :
    match c.convert text direction, c.statements text direction with
    | .ok out, .ok found =>
      (∃ blocks, found = blocks.flatten ∧ c.Rewritten direction (Fragment.split text) blocks out) ∧
        ∀ statement ∈ found, direction.Reached statement
    | .error refusal, .error other => refusal = other
    | _, _ => False := by
  rw [convert_eq, statements_eq]
  cases hstop : (Fragment.split text).findSome? (c.stop? direction) with
  | some refusal => rfl
  | none =>
    rw [List.findSome?_eq_none_iff] at hstop
    exact ⟨⟨_, rfl, rewritten_of_stop hstop⟩, fun statement hmem => reached_of_mem_blocks hmem⟩

end Converter

end InsertPivot
