import InsertPivot.Proofs.Boundaries
import InsertPivot.Proofs.Passthrough

/-!
# Behind the last semicolon

A text that ends with a semicolon need not end with a candidate. Behind `INSERT` and a tab no candidate opens, so
the semicolon of such a statement ends nothing: what is written behind it goes on in the same gap. A gap that starts
with `INSERT` is read whole, and the blanks and comments at its end are not written again.

So what stands behind the last semicolon is kept wherever a candidate ends there, and wherever the gap that ends
there is copied: one that is no statement, or, while failures are skipped, one that cannot be converted, neither alone
nor with what stands behind it. Of these two readings neither gives the other, since a string or a line comment that
is open at the semicolon goes on behind it.
-/

namespace InsertPivot

/-- The last entry is one of the second list, if that has any. -/
theorem mem_of_getLast?_append {α : Type} {a : α} {xs ys : List α} (hne : ys ≠ []) (h : (xs ++ ys).getLast? = some a) :
    a ∈ ys := by
  obtain ⟨b, hb⟩ := Option.ne_none_iff_exists'.mp (mt List.getLast?_eq_none_iff.mp hne)
  rw [List.getLast?_append, hb] at h
  cases h
  exact List.mem_of_getLast? hb

namespace Fragment

/-! ## A cut of a text with more behind it -/

/-- What has no semicolon does not make a candidate of what stands before it. -/
theorem startsCandidate_append_iff {cs ds : List Char} (hds : ';' ∉ ds) :
    StartsCandidate (cs ++ ds) ↔ StartsCandidate cs := by
  constructor
  · rintro ⟨w, c, body, hcs, hw, hbody⟩
    have hopening : w ++ ' ' :: c :: body = (w ++ [' ', c]) ++ body := by simp
    rw [hopening] at hcs
    obtain ⟨more, -, rfl⟩ | ⟨inside, rfl, rfl⟩ := List.append_eq_append_iff.mp hcs
    · exact absurd (List.mem_append_right more hbody) hds
    · obtain hinside | hmem := List.mem_append.mp hbody
      · exact ⟨w, c, inside, by simp, hw, hinside⟩
      · exact absurd hmem hds
  · rintro ⟨w, c, body, rfl, hw, hbody⟩
    exact ⟨w, c, body ++ ds, by simp, hw, List.mem_append_left ds hbody⟩

/-- A text without semicolons is a gap. -/
theorem isGap_of_notMem {cs : List Char} (h : ';' ∉ cs) : IsGap cs [] := by
  rintro rest hrest - ⟨w, c, body, hcs, -, hbody⟩
  rw [List.append_nil] at hcs
  exact h (hrest.mem (by simp [hcs, hbody]))

/-- A gap with a text without semicolons behind it is a gap. -/
theorem IsGap.append {gap ds : List Char} (h : IsGap gap []) (hds : ';' ∉ ds) : IsGap (gap ++ ds) [] := by
  induction gap with
  | nil => exact isGap_of_notMem hds
  | cons c gap ih =>
    obtain ⟨hhere, hrest⟩ := isGap_cons_iff.mp h
    refine isGap_cons_iff.mpr ⟨?_, ih hrest⟩
    rw [List.append_nil] at hhere ⊢
    exact fun hstarts => hhere ((startsCandidate_append_iff hds).mp hstarts)

/-- Whether a text starts with the word `INSERT` is settled before its first semicolon. -/
theorem startsStatement_append {cs : List Char} (h : ';' ∈ cs) (ds : List Char) :
    startsStatement (cs ++ ds) = startsStatement cs := by
  rw [Bool.eq_iff_iff, startsStatement, startsStatement, Option.isSome_iff_exists, Option.isSome_iff_exists]
  constructor
  · rintro ⟨rest, hrest⟩
    obtain ⟨w, hcs, hw⟩ := afterWord?_eq_some_iff.mp hrest
    obtain ⟨more, rfl, -⟩ | ⟨inside, rfl, -⟩ := List.append_eq_append_iff.mp hcs
    · have hmem : ';'.toUpper ∈ leadWord := hw ▸ List.mem_map_of_mem (List.mem_append_left more h)
      exact absurd hmem (by decide)
    · exact ⟨inside, afterWord?_eq_some_iff.mpr ⟨w, rfl, hw⟩⟩
  · rintro ⟨rest, hrest⟩
    obtain ⟨w, rfl, hw⟩ := afterWord?_eq_some_iff.mp hrest
    exact ⟨rest ++ ds, afterWord?_eq_some_iff.mpr ⟨w, List.append_assoc _ _ _, hw⟩⟩

/-- A text is one that ends with a candidate, or is empty, and a gap behind it. -/
theorem Cut.exists_head {cs : List Char} {fragments : List Fragment} (h : Cut cs fragments) :
    ∃ head gap before, cs = head ++ gap ∧ Cut head before ∧ (∀ f ∈ before.getLast?, IsCandidate f.text.toList) ∧
      IsGap gap [] := by
  induction h with
  | @last gap hgap => exact ⟨[], gap, [], rfl, .last (isGap_nil []), by simp, hgap⟩
  | @next gap found rest fragments hgap hfound hrest ih =>
    obtain ⟨head, final, before, rfl, hhead, hbefore, hfinal⟩ := ih
    have hgap' : IsGap gap (found ++ head) := by simpa using hgap.replace hfound hfound head
    refine ⟨gap ++ (found ++ head), final, ofGap gap ++ Fragment.ofChars found :: before, by simp,
      .next hgap' hfound hhead, fun f hf => ?_, hfinal⟩
    -- the head ends with the candidate that was found last, which is this one where the rest is a gap
    cases hlast : before.getLast? with
    | none =>
      obtain rfl : Fragment.ofChars found = f := by simpa [List.getLast?_append, List.getLast?_cons, hlast] using hf
      simpa using hfound
    | some g =>
      obtain rfl : g = f := by simpa [List.getLast?_append, List.getLast?_cons, hlast] using hf
      exact hbefore g hlast

/-- Every text is one that ends with a candidate, and a gap behind it. -/
theorem exists_head_gap (text : String) :
    ∃ head gap, text = head ++ gap ∧ EndsWithCandidate head ∧ IsGap gap.toList [] := by
  obtain ⟨head, gap, before, htext, hhead, hbefore, hgap⟩ := (cut_splitChars text.toList).exists_head
  refine ⟨String.ofList head, String.ofList gap, ?_, ?_, by rwa [String.toList_ofList]⟩
  · rw [← String.ofList_append, ← htext, String.ofList_toList]
  · cases hlast : before.getLast? with
    | none =>
      obtain rfl := List.getLast?_eq_none_iff.mp hlast
      exact .inl (by simpa using hhead.joined_eq.symm)
    | some last =>
      obtain ⟨front, rfl⟩ := List.getLast?_eq_some_iff.mp hlast
      refine .inr ⟨front, last, ?_, hbefore last hlast⟩
      rw [split, String.toList_ofList, hhead.splitChars_eq]

/-- A gap is one fragment. -/
theorem split_of_isGap {text : String} (h : IsGap text.toList []) : split text = ofGap text.toList :=
  splitChars_of_none (seek_isGap h)

end Fragment

namespace Converter

open Fragment (IsCandidate IsGap startsStatement)

variable {format : Format} {policy : FailurePolicy} {direction : Direction} {text behind kept : String}

/-- What is written for statements ends with a semicolon. -/
theorem getLast?_written (c : Converter) (statements : List Insert) :
    (c.written statements).toList.getLast? = some ';' := by
  simp [written]

/-- A statement in which no candidate opens keeps what stands behind it exactly where it is not converted, with that
and without. -/
theorem contribution_append_iff (hgap : IsGap text.toList []) (hstarts : startsStatement text.toList)
    (hne : behind ≠ "")
    (hsemicolon : ';' ∉ behind.toList)
    (hkept : contribution ⟨.standard format, policy⟩ direction (.statement text) = .ok kept) :
    contribution ⟨.standard format, policy⟩ direction (.statement (text ++ behind)) = .ok (kept ++ behind) ↔
      (∃ refusal, attempt ⟨.standard format, policy⟩ direction text = .error refusal) ∧
        ∃ refusal, attempt ⟨.standard format, policy⟩ direction (text ++ behind) = .error refusal := by
  rw [contribution] at hkept ⊢
  cases hboth : attempt ⟨.standard format, policy⟩ direction (text ++ behind) with
  | ok statements =>
    -- what is written ends with a semicolon, and what stands behind does not
    simp only [Except.ok.injEq, reduceCtorEq, exists_false, and_false, iff_false]
    intro heq
    have hlast := getLast?_written ⟨.standard format, policy⟩ statements
    rw [heq, String.toList_append] at hlast
    exact hsemicolon (mem_of_getLast?_append (mt String.toList_eq_nil_iff.mp hne) hlast)
  | error refusal =>
    cases htext : attempt ⟨.standard format, policy⟩ direction text with
    | ok statements =>
      rw [htext] at hkept
      cases hkept
      cases policy with
      | abort => simp
      | skip =>
        have hwritten : written ⟨.standard format, .skip⟩ statements ≠ text :=
          written_ne_of_isGap hgap hstarts statements
        simpa [eq_comm] using hwritten
    | error refusal' =>
      rw [htext] at hkept
      cases policy with
      | abort => cases hkept
      | skip =>
        cases hkept
        simp

/-- A gap that is not empty is one fragment. -/
theorem convert_of_isGap (c : Converter) (hgap : IsGap text.toList []) (hne : text ≠ "") :
    c.convert text direction = c.contribution direction (Fragment.ofChars text.toList) := by
  rw [convert, Fragment.split_of_isGap hgap, Fragment.ofGap_of_ne (mt String.toList_eq_nil_iff.mp hne), List.mapM_cons,
    List.mapM_nil]
  cases c.contribution direction (Fragment.ofChars text.toList) with
  | error refusal => rfl
  | ok out => simp [String.join]

/-- A gap that starts no statement is copied. -/
theorem convert_passthrough (c : Converter) (hgap : IsGap text.toList [])
    (hstarts : startsStatement text.toList = false) :
    c.convert text direction = .ok text := by
  by_cases hne : text = ""
  · subst hne
    rw [convert, Fragment.split_of_isGap hgap]
    rfl
  · rw [c.convert_of_isGap hgap hne, Fragment.ofChars, hstarts]
    simp [contribution]

/-- Behind a text that ends with a candidate, what another is converted to stands behind what that is converted to. -/
theorem convert_append_eq_ok_iff {c : Converter} {head out : String} (hhead : Fragment.EndsWithCandidate head) :
    c.convert (head ++ text) direction = .ok out ↔
      ∃ front kept, c.convert head direction = .ok front ∧ c.convert text direction = .ok kept ∧ front ++ kept =
        out := by
  rw [c.convert_of_split direction (hhead.split_append text)]
  cases c.convert head direction with
  | error refusal => simp [bind, Except.bind]
  | ok front => cases c.convert text direction <;> simp [bind, Except.bind, pure, Except.pure]

/-- What stands behind the semicolon that ends a gap is kept exactly where the gap is copied, with that and without. -/
theorem convert_gap_append_iff (hgap : IsGap text.toList []) (hlast : ';' ∈ text.toList)
    (hsemicolon : ';' ∉ behind.toList)
    (hkept : convert ⟨.standard format, policy⟩ text direction = .ok kept) :
    convert ⟨.standard format, policy⟩ (text ++ behind) direction = .ok (kept ++ behind) ↔
      behind = "" ∨ startsStatement text.toList = false ∨
        (∃ refusal, attempt ⟨.standard format, policy⟩ direction text = .error refusal) ∧
          ∃ refusal, attempt ⟨.standard format, policy⟩ direction (text ++ behind) = .error refusal := by
  by_cases hne : behind = ""
  · simp [hne, hkept]
  have hgap' : IsGap (text ++ behind).toList [] := by
    rw [String.toList_append]
    exact hgap.append hsemicolon
  have hsame : startsStatement (text ++ behind).toList = startsStatement text.toList := by
    rw [String.toList_append, Fragment.startsStatement_append hlast]
  cases hstarts : startsStatement text.toList with
  | false =>
    rw [convert_passthrough _ hgap hstarts] at hkept
    cases hkept
    simpa [hne] using convert_passthrough _ hgap' (hsame.trans hstarts)
  | true =>
    have htext : text ≠ "" := by
      rintro rfl
      cases hlast
    have hstatement {t : String} (h : startsStatement t.toList = true) : Fragment.ofChars t.toList = .statement t := by
      rw [Fragment.ofChars, if_pos h, String.ofList_toList]
    rw [convert_of_isGap _ hgap htext, hstatement hstarts] at hkept
    rw [convert_of_isGap _ hgap' (by simp [hne]), hstatement (hsame.trans hstarts),
      contribution_append_iff hgap hstarts hne hsemicolon hkept]
    simp [hne]

/-- What stands behind the last semicolon of a text and neither has another nor starts a statement is kept, as it is,
exactly where there is nothing, or where the last fragment ends with that semicolon as a candidate does, or is no
statement, or is one that is not converted, with what stands behind it and without. -/
theorem convert_append_behind_iff (format : Format) (policy : FailurePolicy) (direction : Direction)
    {text behind out : String} (hlast : text.toList.getLast? = some ';') (hsemicolon : ';' ∉ behind.toList)
    (hstarts : startsStatement behind.toList = false)
    (hconvert : convert ⟨.standard format, policy⟩ text direction = .ok out) :
    convert ⟨.standard format, policy⟩ (text ++ behind) direction = .ok (out ++ behind) ↔
      behind = "" ∨ ∃ last ∈ (Fragment.split text).getLast?,
        IsCandidate last.text.toList ∨ last.isStatement = false ∨
          (∃ refusal, attempt ⟨.standard format, policy⟩ direction last.text = .error refusal) ∧
            ∃ refusal, attempt ⟨.standard format, policy⟩ direction (last.text ++ behind) = .error refusal := by
  obtain ⟨head, gap, rfl, hhead, hgap⟩ := Fragment.exists_head_gap text
  obtain ⟨front, kept, hfront, hkept, rfl⟩ := (convert_append_eq_ok_iff hhead).mp hconvert
  have hcancel : convert ⟨.standard format, policy⟩ (head ++ gap ++ behind) direction = .ok (front ++ kept ++ behind) ↔
      convert ⟨.standard format, policy⟩ (gap ++ behind) direction = .ok (kept ++ behind) := by
    rw [String.append_assoc, String.append_assoc, convert_append_eq_ok_iff hhead]
    constructor
    · rintro ⟨front', kept', hfront', hkept', heq⟩
      cases hfront.symm.trans hfront'
      rw [hkept', String.append_right_inj _ |>.mp heq]
    · intro hboth
      exact ⟨front, kept ++ behind, hfront, hboth, rfl⟩
  rw [hcancel]
  by_cases hempty : gap = ""
  · -- the text ends with a candidate, and what stands behind it is a fragment of its own
    subst hempty
    rw [convert_passthrough _ hgap (by decide)] at hkept
    cases hkept
    rw [String.append_empty] at hlast ⊢
    refine iff_of_true ?_ ?_
    · rw [String.empty_append]
      exact convert_passthrough _ (Fragment.isGap_of_notMem hsemicolon) hstarts
    · obtain rfl | ⟨before, last, hsplit, hcandidate⟩ := hhead
      · cases hlast
      · exact .inr ⟨last, by simp [hsplit], .inl hcandidate⟩
  · have hne : gap.toList ≠ [] := mt String.toList_eq_nil_iff.mp hempty
    have hmem : ';' ∈ gap.toList := mem_of_getLast?_append hne (by rwa [← String.toList_append])
    have hfragment : (Fragment.split (head ++ gap)).getLast? = some (Fragment.ofChars gap.toList) := by
      rw [hhead.split_append gap, Fragment.split_of_isGap hgap, Fragment.ofGap_of_ne hne, List.getLast?_append_cons]
      rfl
    rw [convert_gap_append_iff hgap hmem hsemicolon hkept, hfragment]
    simp only [Option.mem_some_iff, exists_eq_left', Fragment.text_ofChars, String.ofList_toList,
      Fragment.isStatement_ofChars]
    have hcandidate : ¬ IsCandidate gap.toList := fun h => h.not_isGap [] hgap
    simp only [hcandidate, false_or]

/-- A candidate ends the text, and a comment behind it is kept. -/
theorem convert_append_behind_comment :
    let c : Converter := ⟨.standard {}, .abort⟩
    let text := "SELECT 1; INSERT INTO t SET a = 1;"
    let behind := " -- kept\n"
    let out := "SELECT 1; INSERT INTO t (a) VALUES (1);"
    text.toList.getLast? = some ';' ∧ ';' ∉ behind.toList ∧ startsStatement behind.toList = false ∧
      c.convert text .toValues = .ok out ∧
      (c.convert (text ++ behind) .toValues = .ok (out ++ behind) ↔
        behind = "" ∨ ∃ last ∈ (Fragment.split text).getLast?,
          IsCandidate last.text.toList ∨ last.isStatement = false ∨
            (∃ refusal, c.attempt .toValues last.text = .error refusal) ∧
              ∃ refusal, c.attempt .toValues (last.text ++ behind) = .error refusal) := by
  intro c text behind out
  have hlast : text.toList.getLast? = some ';' := by decide
  have hsemicolon : ';' ∉ behind.toList := by decide
  have hstarts : startsStatement behind.toList = false := by decide
  have hconvert : c.convert text .toValues = .ok out := eq_ok_of_toOption (by decide +kernel)
  exact ⟨hlast, hsemicolon, hstarts, hconvert, convert_append_behind_iff {} .abort .toValues hlast hsemicolon hstarts hconvert⟩

/-- Neither reading gives the other: a string that is open at the semicolon ends in a comment behind it. -/
example :
    let c : Converter := ⟨.standard {}, .skip⟩
    (c.convert "INSERT\tINTO t SET a = ';" .toValues).toOption = some "INSERT\tINTO t SET a = ';" ∧
      (c.convert "INSERT\tINTO t SET a = ';-- '\n" .toValues).toOption = some "INSERT INTO t (a) VALUES (';-- ');" := by
  decide +kernel

/-- Whether a text is made of white space and comments only, none of which servers carry out. -/
def isBlankText (text : String) : Bool :=
  (Sql.Lexeme.kinds none 0 text.toList).any fun pieces =>
    pieces.all fun piece => piece.token?.isNone && !isExecutableComment piece

/-- Behind `INSERT` and a tab no candidate opens, so a comment behind the semicolon is read with the statement and
lost. -/
theorem not_convert_append_blanks :
    let c : Converter := ⟨.standard {}, .abort⟩
    let text := "INSERT\tINTO t SET a = 1;"
    let behind := " -- kept\n"
    text.toList.getLast? = some ';' ∧ isBlankText behind ∧ ';' ∉ behind.toList ∧
      (∀ rest ∈ behind.toList.tails, startsStatement rest = false) ∧
      (c.convert text .toValues).toOption = some "INSERT INTO t (a) VALUES (1);" ∧
      (c.convert (text ++ behind) .toValues).toOption = some "INSERT INTO t (a) VALUES (1);" ∧
      ¬ ∀ policy direction text behind out, text.toList.getLast? = some ';' → isBlankText behind → ';' ∉ behind.toList →
          (∀ rest ∈ behind.toList.tails, startsStatement rest = false) →
            convert ⟨.standard {}, policy⟩ text direction = .ok out →
              convert ⟨.standard {}, policy⟩ (text ++ behind) direction = .ok (out ++ behind) := by
  intro c text behind
  have hlast : text.toList.getLast? = some ';' := by decide
  have hblank : isBlankText behind := by decide +kernel
  have hsemicolon : ';' ∉ behind.toList := by decide
  have hkeyword : ∀ rest ∈ behind.toList.tails, startsStatement rest = false := by decide +kernel
  obtain ⟨halone, hboth⟩ : (c.convert text .toValues).toOption = some "INSERT INTO t (a) VALUES (1);" ∧
      (c.convert (text ++ behind) .toValues).toOption = some "INSERT INTO t (a) VALUES (1);" := by
    decide +kernel
  refine ⟨hlast, hblank, hsemicolon, hkeyword, halone, hboth, fun all => ?_⟩
  rw [all _ _ text behind _ hlast hblank hsemicolon hkeyword (eq_ok_of_toOption halone)] at hboth
  exact absurd hboth (by decide)

end Converter

end InsertPivot
