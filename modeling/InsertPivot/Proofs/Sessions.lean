import Mathlib.Logic.Relation
import InsertPivot.Proofs.Editing

/-!
# Sessions

A session edits a buffer step by step: runs, which may be refused, and edits of a slice of the text. It starts with
nothing selected. What a step selects is a slice of the text that it leaves, so no run of a session is refused for
its selection.

A run that is not refused selects what it wrote, and the next run is for exactly that. This rests on a conversion
never making nothing of something: an empty selection would be taken for none at all, and the next run would convert
the whole text. Only an empty text is converted to nothing, and then that is the whole text.
-/

namespace InsertPivot

open Text (ByteRange)

namespace Converter

variable {c : Converter} {direction : Direction}

/-- A fragment becomes what is written for its statements, which ends with a semicolon, or stays as it is. -/
theorem kept_ne_empty {f : Fragment} (h : f.text ≠ "") : c.kept direction f ≠ "" := by
  cases f with
  | passthrough text => exact h
  | statement text =>
    simp only [kept]
    cases c.attempt direction text with
    | ok statements => simp [written]
    | error refusal => exact h

/-- A text is converted to nothing exactly where it is empty. -/
theorem convert_eq_empty_iff {text new : String} (h : c.convert text direction = .ok new) : new = "" ↔ text = "" := by
  rw [convert_eq] at h
  have hsegmentation := (Fragment.segmentation_iff_split text _).mpr rfl
  cases hstop : (Fragment.split text).findSome? (c.stop? direction) with
  | some refusal =>
    rw [hstop] at h
    cases h
  | none =>
    rw [hstop] at h
    cases h
    have hjoined := hsegmentation.joined_eq
    cases hsplit : Fragment.split text with
    | nil =>
      rw [hsplit] at hjoined
      exact iff_of_true rfl hjoined.symm
    | cons f fragments =>
      have hf : f.text ≠ "" := hsegmentation.nonempty f (by rw [hsplit]; exact List.mem_cons_self)
      rw [hsplit, Fragment.joined_cons] at hjoined
      rw [List.map_cons, String.join_cons, ← hjoined]
      simp [hf, kept_ne_empty hf]

end Converter

namespace Document

/-! ## Steps -/

/-- A step of a session: a run, refused or not, or an edit of a slice of the text. -/
inductive Step : Buffer → Buffer → Prop where
  | runs (c : Converter) (direction : Direction) (buffer : Buffer) : Step buffer (rewritten c direction buffer).2
  | replaces {buffer : Buffer} {range : ByteRange} (new : String) : range.IsSlice buffer.text →
      Step buffer (replace buffer range new)

/-- Whether a buffer selects nothing, or a slice of its text. -/
def WellPlaced (buffer : Buffer) : Prop :=
  ∀ range ∈ buffer.selection, range.IsSlice buffer.text

variable {c : Converter} {direction : Direction} {buffer edited : Buffer} {covered : ByteRange}

/-- To replace a slice selects what was written, which is a slice. -/
theorem wellPlaced_replace {range : ByteRange} (h : range.IsSlice buffer.text) (new : String) :
    WellPlaced (replace buffer range new) := by
  obtain ⟨before, part, behind, hcovers⟩ := ByteRange.isSlice_iff.mp h
  rw [replace_buffer hcovers]
  rintro _ ⟨⟩
  exact ByteRange.isSlice_iff.mpr ⟨before, new, behind, hcovers.replaced new⟩

/-- A step keeps the selection a slice. -/
theorem Step.wellPlaced {next : Buffer} (h : Step buffer next) (hbuffer : WellPlaced buffer) : WellPlaced next := by
  cases h with
  | runs c direction =>
    obtain ⟨answer, made, h⟩ := exists_answers c direction buffer
    rw [h.rewritten_eq.1]
    cases h with
    | misplaced _ _ => exact hbuffer
    | refused _ _ => exact hbuffer
    | edited htarget _ =>
      exact wellPlaced_replace (ByteRange.isSlice_iff.mpr ⟨_, _, _, htarget.covers⟩) _
  | replaces new hslice => exact wellPlaced_replace hslice new

/-- What a session selects is a slice of its text. -/
theorem wellPlaced_of_steps {start : String} (h : Relation.ReflTransGen Step ⟨start, none⟩ buffer) :
    WellPlaced buffer := by
  induction h with
  | refl => rintro _ ⟨⟩
  | tail _ hstep ih => exact hstep.wellPlaced ih

/-- A selection that is a slice is never refused. -/
theorem WellPlaced.not_misplaced (h : WellPlaced buffer) {range : ByteRange}
    (hselection : buffer.selection = some range) :
    ¬ Misplaced range buffer.text := by
  have hslice := h range hselection
  rintro (⟨-, hnot⟩ | ⟨-, hsize⟩)
  · exact hnot hslice
  · exact Nat.not_le.mpr hsize hslice.2.2.le_utf8ByteSize

/-! ## Runs one after the other -/

/-- Only an empty text has an empty target. -/
theorem Target.text_eq_empty {δ : Type} [Document δ] {document : δ} {range : ByteRange} {before part behind : String}
    (h : Target document range before part behind) (hpart : part = "") : text document = "" := by
  cases h with
  | whole _ => exact hpart
  | selected _ hne hcovers =>
    refine absurd ?_ hne
    rw [hcovers.start_eq, hcovers.stop_eq, hpart, String.append_empty]

/-- The next run is for what a run wrote. -/
theorem target_of_run (h : run c direction (some buffer) = (.ok covered, some edited)) :
    ∃ target before part behind new, Target buffer target before part behind ∧ c.convert part direction = .ok new ∧
      Target edited covered before new behind := by
  obtain ⟨range, before, part, behind, new, htarget, hconvert, rfl, rfl⟩ := run_ok_cases h
  refine ⟨range, before, part, behind, new, htarget, hconvert, ?_⟩
  rw [replace_buffer htarget.covers]
  by_cases hnew : new = ""
  · -- nothing was written, so the text was empty and all of it is the target again
    have hpart := (Converter.convert_eq_empty_iff hconvert).mp hnew
    have hempty : before ++ part ++ behind = "" := htarget.covers.text_eq.symm.trans (htarget.text_eq_empty hpart)
    obtain ⟨hbefore, rfl⟩ := String.append_eq_empty_iff.mp hempty
    obtain ⟨rfl, -⟩ := String.append_eq_empty_iff.mp hbefore
    subst hnew
    have hstart : range.start = 0 := htarget.covers.start_eq
    rw [hstart]
    exact .whole (by rintro _ ⟨⟩; exact ⟨rfl, Nat.le_refl 0⟩)
  · refine .selected rfl ?_ (htarget.covers.replaced new)
    have hsize : new.utf8ByteSize ≠ 0 := fun hzero => hnew (String.utf8ByteSize_eq_zero_iff.mp hzero)
    show range.start ≠ range.start + new.utf8ByteSize
    omega

/-- Whatever a session did, what it selects is a slice of its text, so no run is refused for its selection; and right
after a run that is not refused, the next one is for the range that it answered, and so converts what it wrote. -/
theorem selection_of_steps {start : String} (h : Relation.ReflTransGen Step ⟨start, none⟩ buffer) :
    (∀ range ∈ buffer.selection, range.IsSlice buffer.text) ∧
    (∃ range, targetRange buffer = .ok range) ∧
    ∀ (c : Converter) (direction : Direction),
      (∀ range size, (run c direction (some buffer)).1 ≠ .error (.invalidSelection range size)) ∧
      ∀ edited covered, run c direction (some buffer) = (.ok covered, some edited) →
        targetRange edited = .ok covered ∧
        ∃ range new, targetRange buffer = .ok range ∧ c.convert (part buffer range) direction = .ok new ∧
          part edited covered = new ∧
          ∀ (next : Converter) (onwards : Direction), run next onwards (some edited) =
            match next.convert new onwards with
            | .error refusal => (.error refusal, some edited)
            | .ok written =>
              (.ok ⟨covered.start, covered.start + written.utf8ByteSize⟩, some (replace edited covered written)) := by
  -- the invariant: the selection of a document that was reached is a slice of its text
  have hplaced := wellPlaced_of_steps h
  refine ⟨hplaced, ?_, fun c direction => ⟨fun range size hrun => ?_, fun edited covered hrun => ?_⟩⟩
  · obtain ⟨range, hselection, hmisplaced⟩ | ⟨range, _, _, _, htarget⟩ := misplaced_or_target buffer
    · exact absurd hmisplaced (hplaced.not_misplaced hselection)
    · exact ⟨range, targetRange_of_target htarget⟩
  · obtain ⟨hselection, hmisplaced, -⟩ := run_eq_invalidSelection_iff.mp hrun
    exact hplaced.not_misplaced hselection hmisplaced
  · obtain ⟨range, before, part, behind, new, htarget, hconvert, hnext⟩ := target_of_run hrun
    refine ⟨targetRange_of_target hnext, range, new, targetRange_of_target htarget, ?_, hnext.part_eq, ?_⟩
    · rw [htarget.part_eq, hconvert]
    · intro next onwards
      rw [run, rewritten_of_target next onwards hnext]
      cases next.convert new onwards <;> rfl

/-- A session that converts a text, edits what stands before the statement, and has selected that. -/
theorem selection_of_steps_accent :
    let c : Converter := ⟨.standard {}, .abort⟩
    let start : Buffer := ⟨"é INSERT INTO t SET a = 1;", none⟩
    let buffer : Buffer := ⟨"INSERT INTO u SET b = 2; INSERT INTO t (a) VALUES (1);", some ⟨0, 24⟩⟩
    let edited : Buffer := ⟨"INSERT INTO u (b) VALUES (2); INSERT INTO t (a) VALUES (1);", some ⟨0, 29⟩⟩
    (Relation.ReflTransGen Step start buffer ∧ run c .toValues (some buffer) = (.ok ⟨0, 29⟩, some edited)) ∧
      (⟨0, 24⟩ : ByteRange).IsSlice buffer.text ∧ targetRange edited = .ok ⟨0, 29⟩ := by
  intro c start buffer edited
  let converted : Buffer := ⟨"é INSERT INTO t (a) VALUES (1);", some ⟨0, 32⟩⟩
  obtain ⟨hanswer, hleft, hfirst⟩ : (run c .toValues (some buffer)).1.toOption = some ⟨0, 29⟩ ∧
      (run c .toValues (some buffer)).2 = some edited ∧ (rewritten c .toValues start).2 = converted := by
    decide +kernel
  have hrun : run c .toValues (some buffer) = (.ok ⟨0, 29⟩, some edited) := Prod.ext (eq_ok_of_toOption hanswer) hleft
  have hconverted : Relation.ReflTransGen Step start converted := .single (hfirst ▸ Step.runs c .toValues start)
  have hslice : (⟨0, 2⟩ : ByteRange).IsSlice converted.text := by
    rw [← isSome_slice?_iff]
    decide
  have hreplaced : replace converted ⟨0, 2⟩ "INSERT INTO u SET b = 2;" = buffer := by decide +kernel
  have hsteps : Relation.ReflTransGen Step start buffer := hconverted.tail (hreplaced ▸ Step.replaces _ hslice)
  obtain ⟨hplaced, -, hruns⟩ := selection_of_steps hsteps
  exact ⟨⟨hsteps, hrun⟩, hplaced ⟨0, 24⟩ rfl, ((hruns c .toValues).2 edited ⟨0, 29⟩ hrun).1⟩

end Document

end InsertPivot
