import InsertPivot.Proofs.Contributions
import InsertPivot.Proofs.Slices

/-!
# One edit, or none

What a run makes of a document is told here without saying how it goes about it. `Document.Target` is the part of
the text that a run is for: the selection, or all of the text where nothing is selected. `Document.Misplaced` are
the selections that address no part of the text. `Document.Answers` are the answers of a run with the calls of
`replace` that it makes: one where the target can be converted, with the target's range and what it is converted
to, and none where the run is refused.

A run is a sequence of steps on a document that stays when a step is refused, so that a refused run makes no edit is
a fact about the order of its steps (`rewritten_eq`). The calls are counted on a document that keeps a list of them,
`Document.Watched`. Any document can be watched, and what a run leaves behind is what the listed calls make of it.

Nothing is said about documents that edit themselves: `replace` alone changes a text or a selection.
-/

namespace InsertPivot

open Text (ByteRange)

namespace Converter

variable {c : Converter} {direction : Direction} {text : String} {refusal : Refusal}

/-- A statement is refused because it cannot be read or brought into the wanted form. -/
theorem exists_fault_of_attempt (h : c.attempt direction text = .error refusal) :
    (∃ fault, refusal = .read fault) ∨ ∃ fault, refusal = .form fault := by
  unfold attempt at h
  cases hread : c.codec.parse (Heading.complete text) with
  | error fault =>
    rw [hread] at h
    cases h
    exact .inl ⟨fault, rfl⟩
  | ok statements =>
    rw [hread] at h
    change (direction.apply statements).mapError Refusal.form = .error refusal at h
    cases hform : direction.apply statements with
    | error fault =>
      rw [hform] at h
      cases h
      exact .inr ⟨fault, rfl⟩
    | ok converted =>
      rw [hform] at h
      cases h

/-- So is a text, which is refused for one of its statements. -/
theorem exists_fault_of_convert (h : c.convert text direction = .error refusal) :
    (∃ fault, refusal = .read fault) ∨ ∃ fault, refusal = .form fault := by
  rw [convert_eq] at h
  cases hstop : (Fragment.split text).findSome? (c.stop? direction) with
  | none =>
    rw [hstop] at h
    cases h
  | some found =>
    rw [hstop] at h
    cases h
    obtain ⟨f, -, hf⟩ := List.exists_of_findSome?_eq_some hstop
    cases hpolicy : c.policy with
    | skip => simp [stop?, hpolicy] at hf
    | abort =>
      cases f with
      | passthrough text => simp [stop?, hpolicy, refusal?] at hf
      | statement text =>
        cases hattempt : c.attempt direction text with
        | ok statements => simp [stop?, hpolicy, refusal?, hattempt] at hf
        | error other =>
          simp only [stop?, hpolicy, refusal?, hattempt, Option.some.injEq] at hf
          subst hf
          exact exists_fault_of_attempt hattempt

end Converter

namespace Document

variable {δ : Type} [Document δ] {document : δ} {range : ByteRange} {before part behind : String}

/-! ## What a run is for -/

/-- Whether a selection addresses no part of a text: it is not empty and no slice of the text, or it is empty and lies
beyond the end. An empty one inside a character selects nothing, as any empty one does. -/
def Misplaced (range : ByteRange) (text : String) : Prop :=
  range.start ≠ range.stop ∧ ¬ range.IsSlice text ∨ range.start = range.stop ∧ text.utf8ByteSize < range.stop

/-- The range that a run is for, with what stands before it, in it and behind it: the selection, or the whole text
where the selection is missing or empty. -/
inductive Target (document : δ) : ByteRange → String → String → String → Prop where
  | whole : (∀ range ∈ selection document, range.start = range.stop ∧ range.stop ≤ (text document).utf8ByteSize) →
      Target document ⟨0, (text document).utf8ByteSize⟩ "" (text document) ""
  | selected {range : ByteRange} {before part behind : String} : selection document = some range →
      range.start ≠ range.stop → range.Covers (text document) before part behind →
        Target document range before part behind

/-- A target covers what it says it does. -/
theorem Target.covers (h : Target document range before part behind) :
    range.Covers (text document) before part behind := by
  cases h with
  | whole _ => exact ByteRange.covers_all _
  | selected _ _ hcovers => exact hcovers

/-- A selection is misplaced, or there is a target. -/
theorem misplaced_or_target (document : δ) :
    (∃ range, selection document = some range ∧ Misplaced range (text document)) ∨
      ∃ range before part behind, Target document range before part behind := by
  cases hselection : selection document with
  | none => exact .inr ⟨_, _, _, _, .whole (by simp [hselection])⟩
  | some range =>
    by_cases hempty : range.start = range.stop
    · by_cases hsize : range.stop ≤ (text document).utf8ByteSize
      · exact .inr ⟨_, _, _, _, .whole (by simp [hselection, hempty, hsize])⟩
      · exact .inl ⟨range, rfl, .inr ⟨hempty, Nat.lt_of_not_le hsize⟩⟩
    · by_cases hslice : range.IsSlice (text document)
      · obtain ⟨before, part, behind, hcovers⟩ := ByteRange.isSlice_iff.mp hslice
        exact .inr ⟨range, before, part, behind, .selected hselection hempty hcovers⟩
      · exact .inl ⟨range, rfl, .inl ⟨hempty, hslice⟩⟩

/-- A selection that is no slice is refused with the size of the text. -/
theorem targetRange_of_misplaced (hselection : selection document = some range)
    (h : Misplaced range (text document)) :
    targetRange document = .error (.invalidSelection range (text document).utf8ByteSize) := by
  have hslice : (slice? (text document) range).isNone := by
    rw [Option.isNone_iff_eq_none, ← Option.not_isSome_iff_eq_none, isSome_slice?_iff]
    obtain ⟨-, hslice⟩ | ⟨-, hsize⟩ := h
    · exact hslice
    · intro hslice
      exact Nat.not_le.mpr hsize hslice.2.2.le_utf8ByteSize
  have hempty : ¬ (range.start = range.stop ∧ range.stop ≤ (text document).utf8ByteSize) := by
    obtain ⟨hne, -⟩ | ⟨-, hsize⟩ := h
    · exact fun hempty => hne hempty.1
    · exact fun hempty => Nat.not_le.mpr hsize hempty.2
  simp only [targetRange, hselection, textSize_eq, Bool.and_eq_true, decide_eq_true_eq, if_neg hempty, if_pos hslice]

/-- The range of a target is the one that is taken. -/
theorem targetRange_of_target (h : Target document range before part behind) : targetRange document = .ok range := by
  cases h with
  | whole h =>
    cases hselection : selection document with
    | none => simp only [targetRange, hselection, textSize_eq]
    | some range =>
      have hempty := h range hselection
      simp only [targetRange, hselection, textSize_eq, Bool.and_eq_true, decide_eq_true_eq, if_pos hempty]
  | selected hselection hne hcovers =>
    have hslice : ¬ (slice? (text document) range).isNone := by
      rw [slice?_of_covers hcovers]
      exact Bool.false_ne_true
    have hempty : ¬ (range.start = range.stop ∧ range.stop ≤ (text document).utf8ByteSize) := fun hempty => hne hempty.1
    simp only [targetRange, hselection, textSize_eq, Bool.and_eq_true, decide_eq_true_eq, if_neg hempty, if_neg hslice]

/-- The part of a target is the one that is converted. -/
theorem Target.part_eq (h : Target document range before part behind) : Document.part document range = part := by
  rw [Document.part, slice?_of_covers h.covers, Option.getD_some]

/-! ## What a run answers -/

section Run

variable (c : Converter) (direction : Direction)

/-- A conversion step by step. Where a step is refused, no edit was made before. -/
theorem rewritten_eq (document : δ) :
    rewritten c direction document =
      match targetRange document with
      | .error refusal => (.error refusal, document)
      | .ok range =>
        match c.convert (Document.part document range) direction with
        | .error refusal => (.error refusal, document)
        | .ok new => (.ok ⟨range.start, range.start + textSize new⟩, replace document range new) := by
  have hsteps : rewritten c direction document =
      (do
        let range ← ofExcept (targetRange document)
        let new ← ofExcept (c.convert (Document.part document range) direction)
        set (replace document range new)
        return ⟨range.start, range.start + textSize new⟩ : Edits δ ByteRange).run.run document := rfl
  -- the document stands outside of the answer, so a refusal keeps the one that was reached
  rw [hsteps]
  cases targetRange document with
  | error refusal => rfl
  | ok range =>
    show (do
        let new ← ofExcept (c.convert (Document.part document range) direction)
        set (replace document range new)
        return ⟨range.start, range.start + textSize new⟩ : Edits δ ByteRange).run.run document = _
    simp only
    cases c.convert (Document.part document range) direction with
    | error refusal => rfl
    | ok new => rfl

/-- A selection that is no slice leaves the document as it is. -/
theorem rewritten_of_misplaced (hselection : selection document = some range) (h : Misplaced range (text document)) :
    rewritten c direction document = (.error (.invalidSelection range (text document).utf8ByteSize), document) := by
  rw [rewritten_eq, targetRange_of_misplaced hselection h]

/-- A run converts its target, and answers with the range that the converted text has. -/
theorem rewritten_of_target (h : Target document range before part behind) :
    rewritten c direction document =
      match c.convert part direction with
      | .error refusal => (.error refusal, document)
      | .ok new => (.ok ⟨range.start, range.start + new.utf8ByteSize⟩, replace document range new) := by
  simp only [rewritten_eq, targetRange_of_target h, h.part_eq, textSize_eq]

/-- A document with a list of the calls of `replace` that were made on it. -/
structure Watched (δ : Type) where
  document : δ
  calls : List (ByteRange × String) := []

instance : Document (Watched δ) where
  text watched := text watched.document
  selection watched := selection watched.document
  replace watched range new := ⟨replace watched.document range new, watched.calls ++ [(range, new)]⟩

/-- The calls of `replace` that a run makes on a document. -/
def calls (document : δ) : List (ByteRange × String) :=
  (rewritten c direction (⟨document, []⟩ : Watched δ)).2.calls

/-- What a run answers, and the calls of `replace` that it makes. -/
inductive Answers (document : δ) : Except Refusal ByteRange → List (ByteRange × String) → Prop where
  | misplaced {range : ByteRange} : selection document = some range → Misplaced range (text document) →
      Answers document (.error (.invalidSelection range (text document).utf8ByteSize)) []
  | refused {range : ByteRange} {before part behind : String} {refusal : Refusal} :
      Target document range before part behind → c.convert part direction = .error refusal →
        Answers document (.error refusal) []
  | edited {range : ByteRange} {before part behind new : String} :
      Target document range before part behind → c.convert part direction = .ok new →
        Answers document (.ok ⟨range.start, range.start + new.utf8ByteSize⟩) [(range, new)]

variable {c direction}

/-- What a run is for does not depend on whether it is watched. -/
theorem Target.watched (h : Target document range before part behind) (calls : List (ByteRange × String)) :
    Target (⟨document, calls⟩ : Watched δ) range before part behind := by
  cases h with
  | whole h => exact .whole h
  | selected hselection hne hcovers => exact .selected hselection hne hcovers

/-- A run answers so and makes these calls, and these make of the document what it leaves behind. -/
theorem Answers.rewritten_eq {answer : Except Refusal ByteRange} {made : List (ByteRange × String)}
    (h : Answers c direction document answer made) :
    rewritten c direction document =
        (answer, made.foldl (fun document (range, new) => replace document range new) document) ∧
      calls c direction document = made := by
  cases h with
  | misplaced hselection h =>
    have hwatched : rewritten c direction (⟨document, []⟩ : Watched δ) = (_, ⟨document, []⟩) :=
      rewritten_of_misplaced c direction hselection h
    exact ⟨rewritten_of_misplaced c direction hselection h, by rw [calls, hwatched]⟩
  | refused htarget hconvert =>
    rw [calls, rewritten_of_target c direction htarget, rewritten_of_target c direction (htarget.watched []), hconvert]
    exact ⟨rfl, rfl⟩
  | edited htarget hconvert =>
    rw [calls, rewritten_of_target c direction htarget, rewritten_of_target c direction (htarget.watched []), hconvert]
    exact ⟨rfl, rfl⟩

/-- A run has an answer for every document. -/
theorem exists_answers (c : Converter) (direction : Direction) (document : δ) :
    ∃ answer made, Answers c direction document answer made := by
  obtain ⟨range, hselection, h⟩ | ⟨range, before, part, behind, htarget⟩ := misplaced_or_target document
  · exact ⟨_, _, .misplaced hselection h⟩
  · cases hconvert : c.convert part direction with
    | error refusal => exact ⟨_, _, .refused htarget hconvert⟩
    | ok new => exact ⟨_, _, .edited htarget hconvert⟩

/-- The answer that is specified is the one that is given, with the calls that are made. -/
theorem answers_iff {answer : Except Refusal ByteRange} {made : List (ByteRange × String)} :
    Answers c direction document answer made ↔
      (run c direction (some document)).1 = answer ∧ calls c direction document = made := by
  constructor
  · intro h
    obtain ⟨hanswer, hmade⟩ := h.rewritten_eq
    exact ⟨congrArg Prod.fst hanswer, hmade⟩
  · rintro ⟨rfl, rfl⟩
    obtain ⟨answer, made, h⟩ := exists_answers c direction document
    obtain ⟨hanswer, hmade⟩ := h.rewritten_eq
    have hanswer : (run c direction (some document)).1 = answer := congrArg Prod.fst hanswer
    rwa [hanswer, hmade]

/-- What a run leaves behind is what its calls make of the document. -/
theorem left_eq (c : Converter) (direction : Direction) (document : δ) :
    (run c direction (some document)).2 =
      some ((calls c direction document).foldl (fun document (range, new) => replace document range new) document) := by
  obtain ⟨answer, made, h⟩ := exists_answers c direction document
  obtain ⟨hanswer, rfl⟩ := h.rewritten_eq
  exact congrArg (fun found => some found.2) hanswer

/-- A run is refused for its selection, or because its target cannot be converted, and makes no call either way. -/
theorem run_error_cases {refusal : Refusal} (h : (run c direction (some document)).1 = .error refusal) :
    calls c direction document = [] ∧
      ((∃ range, selection document = some range ∧ Misplaced range (text document) ∧
        refusal = .invalidSelection range (text document).utf8ByteSize) ∨
      ∃ range before part behind, Target document range before part behind ∧
        c.convert part direction = .error refusal) := by
  have hanswers : Answers c direction document (.error refusal) (calls c direction document) := answers_iff.mpr ⟨h, rfl⟩
  generalize hcalls : calls c direction document = made at hanswers
  cases hanswers with
  | misplaced hselection hmisplaced => exact ⟨rfl, .inl ⟨_, hselection, hmisplaced, rfl⟩⟩
  | refused htarget hconvert => exact ⟨rfl, .inr ⟨_, _, _, _, htarget, hconvert⟩⟩

/-- A run that is not refused has converted its target. -/
theorem run_ok_cases {edited : δ} {covered : ByteRange}
    (h : run c direction (some document) = (.ok covered, some edited)) :
    ∃ range before part behind new, Target document range before part behind ∧ c.convert part direction = .ok new ∧
      edited = replace document range new ∧ covered = ⟨range.start, range.start + new.utf8ByteSize⟩ := by
  have hanswers : Answers c direction document (.ok covered) (calls c direction document) :=
    answers_iff.mpr ⟨congrArg Prod.fst h, rfl⟩
  have hleft := (left_eq c direction document).symm.trans (congrArg Prod.snd h)
  generalize hcalls : calls c direction document = made at hanswers hleft
  cases hanswers with
  | edited htarget hconvert => exact ⟨_, _, _, _, _, htarget, hconvert, (Option.some.inj hleft).symm, rfl⟩

/-- A run is refused for its selection exactly where that is misplaced. -/
theorem run_eq_invalidSelection_iff {size : Nat} :
    (run c direction (some document)).1 = .error (.invalidSelection range size) ↔
      selection document = some range ∧ Misplaced range (text document) ∧ size = (text document).utf8ByteSize := by
  constructor
  · intro h
    obtain ⟨-, ⟨other, hselection, hmisplaced, heq⟩ | ⟨_, _, _, _, -, hconvert⟩⟩ := run_error_cases h
    · cases heq
      exact ⟨hselection, hmisplaced, rfl⟩
    · obtain ⟨fault, hfault⟩ | ⟨fault, hfault⟩ := Converter.exists_fault_of_convert hconvert <;> cases hfault
  · rintro ⟨hselection, h, rfl⟩
    exact congrArg Prod.fst (rewritten_of_misplaced c direction hselection h)

/-- A run says that there is no document exactly where there is none. -/
theorem run_eq_noTarget_iff {document : Option δ} :
    (run c direction document).1 = .error .noTarget ↔ document = none := by
  constructor
  · intro h
    cases document with
    | none => rfl
    | some document =>
      exfalso
      obtain ⟨-, ⟨_, -, -, heq⟩ | ⟨_, _, _, _, -, hconvert⟩⟩ := run_error_cases h
      · cases heq
      · obtain ⟨fault, hfault⟩ | ⟨fault, hfault⟩ := Converter.exists_fault_of_convert hconvert <;> cases hfault
  · rintro rfl
    rfl

/-- A buffer whose target is converted has the converted text in the target's place, and selects it. -/
theorem replace_buffer {buffer : Buffer} (h : range.Covers buffer.text before part behind) (new : String) :
    replace buffer range new = ⟨before ++ new ++ behind, some ⟨range.start, range.start + new.utf8ByteSize⟩⟩ := by
  show (⟨spliced buffer.text range new, some ⟨range.start, range.start + textSize new⟩⟩ : Buffer) = _
  rw [spliced_of_covers h, textSize_eq]

/-- Whatever the document, a run answers and calls `replace` as `Answers` says, and leaves behind what the calls make of
the document: what it was, where the run is refused. A missing document and a misplaced selection have answers of their
own. A buffer has the converted text in the place of its target, and selects it as one slice. -/
theorem run_atomic (c : Converter) (direction : Direction) :
    (∀ {δ : Type} [Document δ] (document : Option δ),
      (run c direction document).1 = .error .noTarget ↔ document = none) ∧
    (∀ {δ : Type} [Document δ] (document : δ),
      (∀ answer made, Answers c direction document answer made ↔
        (run c direction (some document)).1 = answer ∧ calls c direction document = made) ∧
      (∀ range size, (run c direction (some document)).1 = .error (.invalidSelection range size) ↔
        selection document = some range ∧ Misplaced range (text document) ∧ size = (text document).utf8ByteSize) ∧
      (run c direction (some document)).2 =
        some ((calls c direction document).foldl (fun document (range, new) => replace document range new) document) ∧
      ∀ refusal, (run c direction (some document)).1 = .error refusal →
        calls c direction document = [] ∧ (run c direction (some document)).2 = some document) ∧
    ∀ (buffer edited : Buffer) (covered : ByteRange), run c direction (some buffer) = (.ok covered, some edited) →
      ∃ range before part behind new, Target buffer range before part behind ∧ c.convert part direction = .ok new ∧
        edited = ⟨before ++ new ++ behind, some covered⟩ ∧
          covered = ⟨range.start, range.start + new.utf8ByteSize⟩ ∧ covered.Covers edited.text before new behind := by
  refine ⟨fun _ => run_eq_noTarget_iff, fun document => ⟨fun _ _ => answers_iff, fun _ _ => run_eq_invalidSelection_iff,
    left_eq c direction document, fun refusal hrun => ?_⟩, fun buffer edited covered hrun => ?_⟩
  · obtain ⟨hcalls, -⟩ := run_error_cases hrun
    refine ⟨hcalls, ?_⟩
    rw [left_eq, hcalls]
    rfl
  · obtain ⟨range, before, part, behind, new, htarget, hconvert, rfl, rfl⟩ := run_ok_cases hrun
    rw [replace_buffer htarget.covers]
    exact ⟨range, before, part, behind, new, htarget, hconvert, rfl, rfl, htarget.covers.replaced new⟩

/-- A selection behind a character of two bytes is converted, and one that starts inside that character is refused. -/
theorem run_atomic_accent :
    let c : Converter := ⟨.standard {}, .abort⟩
    let text := "é INSERT INTO t SET a = 1; é"
    let buffer : Buffer := ⟨text, some ⟨3, 27⟩⟩
    let edited : Buffer := ⟨"é INSERT INTO t (a) VALUES (1); é", some ⟨3, 32⟩⟩
    let inside : Buffer := ⟨text, some ⟨1, 27⟩⟩
    (run c .toValues (some buffer) = (.ok ⟨3, 32⟩, some edited) ∧
      ∃ range before part behind new, Target buffer range before part behind ∧ c.convert part .toValues = .ok new ∧
        edited = ⟨before ++ new ++ behind, some ⟨3, 32⟩⟩ ∧ (⟨3, 32⟩ : ByteRange) =
          ⟨range.start, range.start + new.utf8ByteSize⟩ ∧
          (⟨3, 32⟩ : ByteRange).Covers edited.text before new behind) ∧
      (run c .toValues (some inside)).1 = .error (.invalidSelection ⟨1, 27⟩ 30) ∧ calls c .toValues inside = [] ∧
        (run c .toValues (some inside)).2 = some inside := by
  intro c text buffer edited inside
  obtain ⟨hanswer, hleft⟩ : (run c .toValues (some buffer)).1.toOption = some ⟨3, 32⟩ ∧
      (run c .toValues (some buffer)).2 = some edited := by
    decide +kernel
  have hrun : run c .toValues (some buffer) = (.ok ⟨3, 32⟩, some edited) := Prod.ext (eq_ok_of_toOption hanswer) hleft
  have hinside : ¬ (⟨1, 27⟩ : ByteRange).IsSlice text := by
    rw [← isSome_slice?_iff]
    decide
  have hmisplaced : Misplaced ⟨1, 27⟩ text := .inl ⟨by decide, hinside⟩
  have hrefused : (run c .toValues (some inside)).1 = .error (.invalidSelection ⟨1, 27⟩ 30) :=
    run_eq_invalidSelection_iff.mpr ⟨rfl, hmisplaced, rfl⟩
  obtain ⟨-, hdocument, hbuffer⟩ := run_atomic c .toValues
  exact ⟨⟨hrun, hbuffer buffer edited ⟨3, 32⟩ hrun⟩, hrefused, (hdocument inside).2.2.2 _ hrefused⟩

end Run

end Document

end InsertPivot
