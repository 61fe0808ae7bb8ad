import InsertPivot.Proofs.Idempotence

/-!
# Texts put one behind the other

A text that ends where its last candidate ends can be converted piece by piece: what stands behind it neither
moves a candidate of it nor changes what is cut from it, and it is cut as it would be alone. A text that ends in
a gap has no such end, since a candidate that opens in the gap may end in what follows.
-/

namespace InsertPivot

/-- Where a list is put together from two, its second part is taken once all of the first is. -/
theorem mapM_append_eq {ε α β : Type} (f : α → Except ε β) (xs ys : List α) :
    (xs ++ ys).mapM f = (do return (← xs.mapM f) ++ (← ys.mapM f)) := by
  induction xs with
  | nil =>
    rw [List.nil_append, List.mapM_nil]
    cases ys.mapM f <;> rfl
  | cons x xs ih =>
    rw [List.cons_append, List.mapM_cons, List.mapM_cons, ih]
    cases f x with
    | error fault => rfl
    | ok y =>
      cases xs.mapM f with
      | error fault => rfl
      | ok zs => cases ys.mapM f <;> rfl

namespace Fragment

/-! ## Where a text ends -/

/-- Whether a text is empty, or ends where the last candidate that is cut from it ends. -/
def EndsWithCandidate (text : String) : Prop :=
  text = "" ∨ ∃ before last, split text = before ++ [last] ∧ IsCandidate last.text.toList

/-- A candidate is no gap. -/
theorem IsCandidate.not_isGap {cs : List Char} (h : IsCandidate cs) (behind : List Char) : ¬ IsGap cs behind := by
  obtain ⟨w, c, body, rfl, hw, -⟩ := h
  intro hgap
  refine hgap _ List.suffix_rfl (by simp) ⟨w, c, body ++ ';' :: behind, by simp, hw, by simp⟩

/-- What is cut last from a text is a gap unless it is a candidate, and then nothing stands behind it. -/
theorem Cut.append {cs ds : List Char} {fragments others : List Fragment} (h : Cut cs fragments)
    (hlast : ∀ f ∈ fragments.getLast?, IsCandidate f.text.toList) (hothers : Cut ds others) :
    Cut (cs ++ ds) (fragments ++ others) := by
  induction h with
  | @last gap hgap =>
    have hnil : gap = [] := by
      by_contra hne
      have hcandidate := hlast (Fragment.ofChars gap) (by rw [ofGap_of_ne hne]; exact Option.mem_some_self _)
      rw [text_ofChars, String.toList_ofList] at hcandidate
      exact hcandidate.not_isGap [] hgap
    subst hnil
    exact hothers
  | @next gap found rest fragments hgap hfound hrest ih =>
    -- the gap is still one when more stands behind the candidate that ends it
    have hgap' : IsGap gap (found ++ (rest ++ ds)) := hgap.replace hfound hfound (rest ++ ds)
    have hrest' := ih fun f hf => hlast f (by
      rw [List.getLast?_append, List.getLast?_cons, Option.mem_def.mp hf]
      exact Option.mem_some_self _)
    simpa using Cut.next hgap' hfound hrest'

theorem EndsWithCandidate.getLast? {text : String} (h : EndsWithCandidate text) :
    ∀ f ∈ (split text).getLast?, IsCandidate f.text.toList := by
  intro f hf
  obtain rfl | ⟨before, last, hsplit, hlast⟩ := h
  · have hnothing : split "" = [] := splitChars_of_none rfl
    rw [hnothing] at hf
    cases hf
  · rw [hsplit, List.getLast?_append, List.getLast?_singleton] at hf
    obtain rfl := Option.some.inj hf
    exact hlast

/-- A text that ends with a candidate is cut as it would be alone, whatever stands behind it. -/
theorem EndsWithCandidate.split_append {text : String} (h : EndsWithCandidate text) (behind : String) :
    split (text ++ behind) = split text ++ split behind := by
  have hcut := (cut_splitChars text.toList).append h.getLast? (cut_splitChars behind.toList)
  rw [split, String.toList_append]
  exact hcut.splitChars_eq

end Fragment

namespace Converter

variable (c : Converter) (direction : Direction)

/-- The fragments of a text contribute one behind the other. -/
theorem convert_of_parts {text : String} {before behind : List Fragment} (h : Fragment.split text = before ++ behind) :
    c.convert text direction = (do
      let parts ← before.mapM (c.contribution direction)
      let others ← behind.mapM (c.contribution direction)
      return String.join parts ++ String.join others) := by
  rw [convert, h, mapM_append_eq]
  cases before.mapM (c.contribution direction) with
  | error refusal => rfl
  | ok parts =>
    cases behind.mapM (c.contribution direction) with
    | error refusal => rfl
    | ok others => exact congrArg Except.ok String.join_append

/-- So do those of two texts that are cut as each would be alone. -/
theorem convert_of_split {text first second : String}
    (h : Fragment.split text = Fragment.split first ++ Fragment.split second) :
    c.convert text direction = (do return (← c.convert first direction) ++ (← c.convert second direction)) := by
  rw [c.convert_of_parts direction h, convert, convert]
  cases (Fragment.split first).mapM (c.contribution direction) with
  | error refusal => rfl
  | ok parts => cases (Fragment.split second).mapM (c.contribution direction) <;> rfl

/-- And they hold their statements one behind the other. -/
theorem statements_of_split {text first second : String}
    (h : Fragment.split text = Fragment.split first ++ Fragment.split second) :
    c.statements text direction = (do return (← c.statements first direction) ++ (← c.statements second direction)) := by
  rw [statements, statements, statements, h, mapM_append_eq]
  cases (Fragment.split first).mapM (c.held direction) with
  | error refusal => rfl
  | ok parts =>
    cases (Fragment.split second).mapM (c.held direction) with
    | error refusal => rfl
    | ok others => exact congrArg Except.ok List.flatten_append

/-- Behind a text that ends with a candidate, or behind none, another is converted as it would be alone: both are
cut, converted and read one behind the other, and the first refusal is that of the whole. -/
theorem convert_append {text : String} (h : Fragment.EndsWithCandidate text) (behind : String) :
    Fragment.split (text ++ behind) = Fragment.split text ++ Fragment.split behind ∧
      c.convert (text ++ behind) direction =
        (do return (← c.convert text direction) ++ (← c.convert behind direction)) ∧
      c.statements (text ++ behind) direction =
        (do return (← c.statements text direction) ++ (← c.statements behind direction)) :=
  have hsplit := h.split_append behind
  ⟨hsplit, c.convert_of_split direction hsplit, c.statements_of_split direction hsplit⟩

/-- A statement, and behind it another without a semicolon, which is refused. -/
theorem convert_append_pieces :
    let c : Converter := ⟨.standard {}, .abort⟩
    let first := "-- x\nINSERT INTO t (a) VALUES (1);"
    let behind := "INSERT\tINTO u VALUES (2)"
    Fragment.EndsWithCandidate first ∧
      Fragment.split (first ++ behind) = Fragment.split first ++ Fragment.split behind ∧
      c.convert (first ++ behind) .toSet = (do return (← c.convert first .toSet) ++ (← c.convert behind .toSet)) ∧
      c.statements (first ++ behind) .toSet =
        (do return (← c.statements first .toSet) ++ (← c.statements behind .toSet)) := by
  intro c first behind
  have hends : Fragment.EndsWithCandidate first :=
    .inr ⟨[.passthrough "-- x\n"], .statement "INSERT INTO t (a) VALUES (1);", by decide +kernel,
      "INSERT".toList, 'I', "NTO t (a) VALUES (1)".toList, by decide, by decide, by decide⟩
  exact ⟨hends, c.convert_append .toSet hends behind⟩

end Converter

end InsertPivot
