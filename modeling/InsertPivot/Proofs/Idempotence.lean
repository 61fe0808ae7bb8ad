import InsertPivot.Converter
import InsertPivot.Proofs.Narrowing
import InsertPivot.Proofs.Run
import InsertPivot.Proofs.Segmentation

/-!
# Converting twice

Converting a text that was converted already changes nothing, whatever the codec, as long as it reads again
what it wrote (`Converter.Rereads`). The conversion writes a candidate, or several with a line feed between
them, in place of a fragment, or copies the fragment. The result is therefore cut where it was put together:
no candidate starts earlier, because a gap before one candidate is a gap before any other.

Nothing is said about a fragment without statements. It is written as a lone semicolon, which the next
conversion takes for a part of what stands around it.
-/

namespace InsertPivot

/-- What lists are paired by holds of each entry and another one. -/
theorem exists_of_forall₂ {α β : Type} {r : α → β → Prop} {as : List α} {bs : List β} (h : List.Forall₂ r as bs)
    {a : α} (ha : a ∈ as) : ∃ b, r a b := by
  induction h with
  | nil => cases ha
  | @cons a' b as bs hr _ ih =>
    obtain rfl | ha := List.mem_cons.mp ha
    · exact ⟨b, hr⟩
    · exact ih ha

namespace Fragment

/-! ## Other candidates behind a gap -/

/-- A candidate starts with the first letter of `INSERT`. -/
theorem exists_head_of_isCandidate {found : List Char} (h : IsCandidate found) :
    ∃ i rest, found = i :: rest ∧ i.toUpper = 'I' := by
  obtain ⟨w, c, body, rfl, hw, -⟩ := h
  obtain ⟨i, w, rfl, hi, -⟩ := List.map_eq_cons_iff.mp hw
  exact ⟨i, _, rfl, hi⟩

/-- Whether a candidate opens before another one does not depend on the other: `INSERT` and a space do not
overlap with themselves. -/
theorem isSome_opening?_congr {part : List Char} (hpart : part ≠ []) {i j : Char} (hi : i.toUpper = 'I')
    (hj : j.toUpper = 'I') (x y : List Char) :
    (opening? (part ++ i :: x)).isSome = (opening? (part ++ j :: y)).isSome := by
  have hne (k : Char) (hk : k.toUpper = 'I') : k ≠ ' ' := by
    rintro rfl
    exact absurd hk (by decide)
  have hi' := hne i hi
  have hj' := hne j hj
  -- what opens a candidate is eight characters long, so the part is taken at each shorter length
  match part with
  | [] => exact absurd rfl hpart
  | [_] | [_, _] | [_, _, _] | [_, _, _, _] | [_, _, _, _, _] => simp [opening?, leadWord, afterWord?, hi, hj]
  | [_, _, _, _, _, _] | [_, _, _, _, _, _, _] =>
    simp only [opening?, leadWord, afterWord?, List.cons_append, List.nil_append]
    grind
  | _ :: _ :: _ :: _ :: _ :: _ :: _ :: _ :: _ =>
    simp only [opening?, leadWord, afterWord?, List.cons_append]
    grind

/-- A gap before one candidate is a gap before any. -/
theorem IsGap.replace {gap found found' rest : List Char} (hgap : IsGap gap (found ++ rest))
    (hfound : IsCandidate found)
    (hfound' : IsCandidate found') (rest' : List Char) : IsGap gap (found' ++ rest') := by
  intro part hpart hne hstarts
  obtain ⟨body, hopen, -⟩ := startsCandidate_iff.mp hstarts
  have hnone := opening?_of_isGap hgap hfound hpart hne
  obtain ⟨i, x, rfl, hi⟩ := exists_head_of_isCandidate hfound
  obtain ⟨j, y, rfl, hj⟩ := exists_head_of_isCandidate hfound'
  have hsome := isSome_opening?_congr hne hj hi (y ++ rest') (x ++ rest)
  rw [← List.cons_append, ← List.cons_append, hopen, hnone] at hsome
  cases hsome

/-- A line feed is a gap, whatever follows it. -/
theorem isGap_lineFeed (behind : List Char) : IsGap ['\n'] behind := by
  refine isGap_cons_iff.mpr ⟨?_, isGap_nil behind⟩
  rintro ⟨w, c, body, hcs, hw, -⟩
  obtain ⟨i, w, rfl, hi, -⟩ := List.map_eq_cons_iff.mp hw
  cases hcs
  exact absurd hi (by decide)

/-! ## What is written in place of a fragment -/

/-- Statements as they are written, as fragments: each a candidate, with a line feed between two. -/
def ofWritten : List String → List Fragment
  | [] => []
  | [t] => [ofChars (t.toList ++ [';'])]
  | t :: u :: ts => ofChars (t.toList ++ [';']) :: ofChars ['\n'] :: ofWritten (u :: ts)

theorem joined_ofWritten {ts : List String} (hts : ts ≠ []) : joined (ofWritten ts) = ";\n".intercalate ts ++ ";" := by
  have hsemicolon (t : String) : String.ofList (t.toList ++ [';']) = t ++ ";" := by
    rw [String.ofList_append, String.ofList_toList]
  induction ts with
  | nil => exact absurd rfl hts
  | cons t ts ih =>
    cases ts with
    | nil => simp [ofWritten, hsemicolon]
    | cons u ts =>
      rw [ofWritten, joined_cons, joined_cons, ih (List.cons_ne_nil _ _), text_ofChars, text_ofChars, hsemicolon,
        String.intercalate_cons_cons]
      have hfeed : ";" ++ String.ofList ['\n'] = ";\n" := rfl
      rw [← hfeed]
      simp only [String.append_assoc]

/-- What stands in place of a fragment: the fragment itself, or statements. -/
def Becomes (f : Fragment) (fs : List Fragment) : Prop :=
  fs = [f] ∨ ∃ ts, ts ≠ [] ∧ (∀ t ∈ ts, IsCandidate (t.toList ++ [';'])) ∧ fs = ofWritten ts

/-- Statements behind a gap are cut from it and from one another. -/
theorem Cut.written {gap rest : List Char} {fragments : List Fragment} {ts : List String} (hts : ts ≠ [])
    (hcandidates : ∀ t ∈ ts, IsCandidate (t.toList ++ [';']))
    (hgap : ∀ found behind, IsCandidate found → IsGap gap (found ++ behind)) (hrest : Cut rest fragments) :
    Cut (gap ++ ((joined (ofWritten ts)).toList ++ rest)) (ofGap gap ++ (ofWritten ts ++ fragments)) := by
  induction ts generalizing gap with
  | nil => exact absurd rfl hts
  | cons t ts ih =>
    have ht := hcandidates t List.mem_cons_self
    cases ts with
    | nil =>
      have hcut := Cut.next (hgap _ rest ht) ht hrest
      simpa [ofWritten] using hcut
    | cons u ts =>
      have hrest := ih (List.cons_ne_nil _ _) (fun s hs => hcandidates s (List.mem_cons_of_mem _ hs))
        (fun found behind _ => isGap_lineFeed _)
      have hcut := Cut.next (hgap _ _ ht) ht hrest
      simpa [ofWritten, ofGap] using hcut

/-- A text whose fragments are replaced is cut at the same places. -/
theorem Cut.replaced {cs : List Char} {fragments : List Fragment} (h : Cut cs fragments)
    {become : Fragment → List Fragment} (hbecome : ∀ f ∈ fragments, Becomes f (become f)) :
    Cut (joined (fragments.flatMap become)).toList (fragments.flatMap become) := by
  have hnothing : Cut [] [] := Cut.last (isGap_nil [])
  have hquiet : ∀ found behind, IsCandidate found → IsGap [] (found ++ behind) := fun _ _ _ => isGap_nil _
  -- a candidate that is copied is a statement that is written as it was
  have hwritten {found : List Char} (hfound : IsCandidate found) {fs : List Fragment}
      (hfs : Becomes (Fragment.ofChars found) fs) :
      ∃ ts, ts ≠ [] ∧ (∀ t ∈ ts, IsCandidate (t.toList ++ [';'])) ∧ fs = ofWritten ts := by
    obtain rfl | hts := hfs
    · obtain ⟨w, c, body, rfl, hw, hmem⟩ := hfound
      have hsplit : w ++ ' ' :: c :: (body ++ [';']) = (w ++ ' ' :: c :: body) ++ [';'] := by simp
      refine ⟨[String.ofList (w ++ ' ' :: c :: body)], List.cons_ne_nil _ _, fun t ht => ?_, ?_⟩
      · rw [List.mem_singleton.mp ht, String.toList_ofList]
        exact ⟨w, c, body, hsplit.symm, hw, hmem⟩
      · rw [ofWritten, String.toList_ofList, hsplit]
    · exact hts
  induction h with
  | @last gap hgap =>
    by_cases hnil : gap = []
    · subst hnil
      exact hnothing
    · rw [ofGap_of_ne hnil, List.flatMap_singleton]
      rw [ofGap_of_ne hnil] at hbecome
      obtain hsame | ⟨ts, hts, hcandidates, hwrites⟩ := hbecome _ List.mem_cons_self
      · rw [hsame, joined_cons, joined_nil, text_ofChars, String.append_empty, String.toList_ofList, ← ofGap_of_ne hnil]
        exact .last hgap
      · have hcut := Cut.written hts hcandidates hquiet hnothing
        rw [hwrites]
        simpa [ofGap] using hcut
  | @next gap found rest fragments hgap hfound _ ih =>
    have hrest := ih fun f hf => hbecome f (List.mem_append_right _ (List.mem_cons_of_mem _ hf))
    obtain ⟨ts, hts, hcandidates, hwrites⟩ :=
      hwritten hfound (hbecome _ (List.mem_append_right _ List.mem_cons_self))
    rw [List.flatMap_append, List.flatMap_cons, hwrites]
    by_cases hnil : gap = []
    · subst hnil
      have hcut := Cut.written hts hcandidates hquiet hrest
      simpa [ofGap, joined_append] using hcut
    · rw [ofGap_of_ne hnil, List.flatMap_singleton]
      obtain hsame | ⟨us, hus, hcandidates', hwrites'⟩ :=
        hbecome (Fragment.ofChars gap) (List.mem_append_left _ (by rw [ofGap_of_ne hnil]; exact List.mem_cons_self))
      · have hcut := Cut.written hts hcandidates (fun found' behind hfound' => hgap.replace hfound hfound' behind) hrest
        rw [hsame, ← ofGap_of_ne hnil]
        simpa [joined_append, joined_ofGap] using hcut
      · have hcut := Cut.written hus hcandidates' hquiet (Cut.written hts hcandidates hquiet hrest)
        rw [hwrites']
        simpa [ofGap, joined_append] using hcut

end Fragment

namespace Converter

open Fragment (IsCandidate leadWord ofWritten Becomes)

/-! ## Reading again -/

/-- Whether a statement is read again from what is written for it: it is written with `INSERT`, a space and more
but no semicolon, and converting that alone writes it again. -/
structure Rereads (c : Converter) (direction : Direction) (statement : Insert) : Prop where
  opens : (Fragment.opening? (c.codec.format statement).toList).isSome
  noSemicolon : ';' ∉ (c.codec.format statement).toList
  again : ∃ read converted,
    c.codec.parse (Heading.complete (c.codec.format statement ++ ";")) = .ok [read] ∧
      direction.apply [read] = .ok [converted] ∧ c.codec.format converted = c.codec.format statement

/-- Whether every fragment of a text that is converted gives statements, and only such as are read again. -/
def Rereadable (c : Converter) (direction : Direction) (text : String) : Prop :=
  ∀ fragment statements, .statement fragment ∈ Fragment.split text →
    c.attempt direction fragment = .ok statements →
      statements ≠ [] ∧ ∀ statement ∈ statements, c.Rereads direction statement

variable {c : Converter} {direction : Direction}

/-- Whether converting what is written for a statement, alone, writes it again. -/
def writesAgain (c : Converter) (direction : Direction) (statement : Insert) : Bool :=
  match c.codec.parse (Heading.complete (c.codec.format statement ++ ";")) with
  | .ok [read] =>
    match direction.apply [read] with
    | .ok [converted] => c.codec.format converted = c.codec.format statement
    | _ => false
  | _ => false

/-- To be written again means to be read, converted and written as before. -/
theorem writesAgain_iff {statement : Insert} :
    c.writesAgain direction statement ↔ ∃ read converted,
      c.codec.parse (Heading.complete (c.codec.format statement ++ ";")) = .ok [read] ∧
        direction.apply [read] = .ok [converted] ∧ c.codec.format converted = c.codec.format statement := by
  unfold writesAgain
  constructor
  · intro h
    split at h
    next read hparse =>
      split at h
      next converted happly => exact ⟨read, converted, hparse, happly, of_decide_eq_true h⟩
      next => cases h
    next => cases h
  · rintro ⟨read, converted, hparse, happly, hformat⟩
    rw [hparse]
    simp only [happly, hformat, decide_true]

instance (statement : Insert) : Decidable (c.Rereads direction statement) :=
  decidable_of_iff
    ((Fragment.opening? (c.codec.format statement).toList).isSome ∧ ';' ∉ (c.codec.format statement).toList ∧
      c.writesAgain direction statement)
    ⟨fun ⟨hopens, hsemicolon, hagain⟩ => ⟨hopens, hsemicolon, writesAgain_iff.mp hagain⟩,
      fun h => ⟨h.opens, h.noSemicolon, writesAgain_iff.mpr h.again⟩⟩

/-- Whether a fragment, if it is converted, gives statements, and only such as are read again. -/
def isRereadable (c : Converter) (direction : Direction) : Fragment → Bool
  | .passthrough _ => true
  | .statement text =>
    match c.attempt direction text with
    | .ok statements => !statements.isEmpty && statements.all fun statement => c.Rereads direction statement
    | .error _ => true

instance (text : String) : Decidable (c.Rereadable direction text) :=
  decidable_of_iff ((Fragment.split text).all (c.isRereadable direction)) <| by
    rw [List.all_eq_true]
    constructor
    · intro h fragment statements hmem hattempt
      have hfragment := h _ hmem
      simpa [isRereadable, hattempt] using hfragment
    · intro h f hf
      cases f with
      | passthrough text => rfl
      | statement text =>
        rw [isRereadable]
        cases hattempt : c.attempt direction text with
        | error refusal => rfl
        | ok statements => simpa using h text statements hf hattempt

/-- What is read again is a candidate when it is written. -/
theorem Rereads.isCandidate {statement : Insert} (h : c.Rereads direction statement) :
    IsCandidate ((c.codec.format statement).toList ++ [';']) := by
  obtain ⟨body, hopen⟩ := Option.isSome_iff_exists.mp h.opens
  obtain ⟨w, d, hcs, hw⟩ := Fragment.opening?_eq_some_iff.mp hopen
  refine ⟨w, d, body, by rw [hcs]; simp, hw, fun hmem => h.noSemicolon ?_⟩
  rw [hcs]
  simp [hmem]

/-- A statement that is read again is contributed as it was written. -/
theorem Rereads.contribution {statement : Insert} (h : c.Rereads direction statement) :
    c.contribution direction (Fragment.ofChars ((c.codec.format statement).toList ++ [';'])) =
      .ok (Fragment.ofChars ((c.codec.format statement).toList ++ [';'])).text := by
  obtain ⟨read, converted, hparse, happly, hformat⟩ := h.again
  have htext : String.ofList ((c.codec.format statement).toList ++ [';']) = c.codec.format statement ++ ";" := by
    rw [String.ofList_append, String.ofList_toList]
  have hattempt : c.attempt direction (c.codec.format statement ++ ";") = .ok [converted] := by
    rw [attempt, hparse]
    show (direction.apply [read]).mapError _ = _
    rw [happly]
    rfl
  rw [Fragment.text_ofChars, Fragment.ofChars, if_pos (Fragment.startsStatement_of_isCandidate h.isCandidate), htext,
    Converter.contribution, hattempt]
  simp [written, hformat]

/-- What stands in the result in place of a fragment. -/
def became (c : Converter) (direction : Direction) : Fragment → List Fragment
  | .passthrough text => [.passthrough text]
  | .statement text =>
    match c.attempt direction text with
    | .ok statements => ofWritten (statements.map c.codec.format)
    | .error _ => [.statement text]

/-- What stands in place of a fragment is its contribution. -/
theorem joined_became {f : Fragment} {t : String} (h : c.contribution direction f = .ok t)
    (hne : ∀ fragment statements, f = .statement fragment → c.attempt direction fragment = .ok statements →
      statements ≠ []) :
    Fragment.joined (c.became direction f) = t := by
  cases f with
  | passthrough text =>
    cases h
    exact Fragment.joined_singleton _
  | statement text =>
    rw [Converter.contribution] at h
    rw [became]
    cases hattempt : c.attempt direction text with
    | ok statements =>
      rw [hattempt] at h
      cases h
      exact Fragment.joined_ofWritten (by simpa using hne text statements rfl hattempt)
    | error refusal =>
      rw [hattempt] at h
      cases hpolicy : c.policy with
      | skip =>
        rw [hpolicy] at h
        cases h
        exact Fragment.joined_singleton _
      | abort =>
        rw [hpolicy] at h
        cases h

/-- What stands in place of some fragments are their contributions, one behind the other. -/
theorem joined_flatMap_became {fragments : List Fragment} {parts : List String}
    (hparts : List.Forall₂ (fun f t => c.contribution direction f = .ok t) fragments parts)
    (hne : ∀ f ∈ fragments, ∀ fragment statements, f = .statement fragment →
      c.attempt direction fragment = .ok statements → statements ≠ []) :
    Fragment.joined (fragments.flatMap (c.became direction)) = String.join parts := by
  induction hparts with
  | nil => rfl
  | @cons f t fragments parts hf _ ih =>
    rw [List.flatMap_cons, Fragment.joined_append, String.join_cons, joined_became hf (hne f List.mem_cons_self),
      ih fun g hg => hne g (List.mem_cons_of_mem _ hg)]

/-- A fragment stays as it is or becomes statements, if each of them is read again. -/
theorem becomes_became {f : Fragment}
    (h : ∀ fragment statements, f = .statement fragment → c.attempt direction fragment = .ok statements →
      statements ≠ [] ∧ ∀ statement ∈ statements, c.Rereads direction statement) :
    Becomes f (c.became direction f) := by
  cases f with
  | passthrough text => exact .inl rfl
  | statement text =>
    rw [became]
    cases hattempt : c.attempt direction text with
    | error refusal => exact .inl rfl
    | ok statements =>
      obtain ⟨hne, hreads⟩ := h text statements rfl hattempt
      refine .inr ⟨statements.map c.codec.format, by simpa using hne, fun t ht => ?_, rfl⟩
      obtain ⟨statement, hstatement, rfl⟩ := List.mem_map.mp ht
      exact (hreads statement hstatement).isCandidate

/-- What stands in place of a fragment is contributed as it stands. -/
theorem contribution_became {f : Fragment} {t : String} (hf : c.contribution direction f = .ok t)
    (h : ∀ fragment statements, f = .statement fragment → c.attempt direction fragment = .ok statements →
      ∀ statement ∈ statements, c.Rereads direction statement) :
    ∀ g ∈ c.became direction f, c.contribution direction g = .ok g.text := by
  have hwritten (statements : List Insert) (hreads : ∀ statement ∈ statements, c.Rereads direction statement) :
      ∀ g ∈ ofWritten (statements.map c.codec.format), c.contribution direction g = .ok g.text := by
    induction statements with
    | nil => simp [ofWritten]
    | cons statement statements ih =>
      have hfirst := (hreads statement List.mem_cons_self).contribution
      have hrest := ih fun s hs => hreads s (List.mem_cons_of_mem _ hs)
      cases statements with
      | nil => simpa [ofWritten] using hfirst
      | cons next statements =>
        intro g hg
        rw [List.map_cons, List.map_cons, ofWritten, ← List.map_cons, List.mem_cons, List.mem_cons] at hg
        obtain rfl | rfl | hg := hg
        · exact hfirst
        · rfl
        · exact hrest g hg
  cases f with
  | passthrough text =>
    intro g hg
    cases List.mem_singleton.mp hg
    rfl
  | statement text =>
    rw [became]
    rw [Converter.contribution] at hf
    cases hattempt : c.attempt direction text with
    | ok statements => exact hwritten statements (h text statements rfl hattempt)
    | error refusal =>
      rw [hattempt] at hf
      intro g hg
      cases List.mem_singleton.mp hg
      rw [Converter.contribution, hattempt]
      cases hpolicy : c.policy with
      | skip => rfl
      | abort =>
        rw [hpolicy] at hf
        cases hf

/-! ## Converting twice -/

/-- A text that was converted is converted to itself, if what was written is read again. -/
theorem convert_convert {text out : String} (h : c.convert text direction = .ok out)
    (hreads : c.Rereadable direction text) : c.convert out direction = .ok out := by
  rw [convert, Sql.except_bind_eq_ok_iff] at h
  obtain ⟨parts, hparts, hout⟩ := h
  cases hout
  rw [mapM_eq_ok_iff] at hparts
  have hmember : ∀ f ∈ Fragment.split text, ∀ fragment statements, f = .statement fragment →
      c.attempt direction fragment = .ok statements →
        statements ≠ [] ∧ ∀ statement ∈ statements, c.Rereads direction statement := by
    rintro f hf fragment statements rfl hattempt
    exact hreads fragment statements hf hattempt
  have hcut := (Fragment.cut_splitChars text.toList).replaced fun f hf => becomes_became (hmember f hf)
  change Fragment.Cut (Fragment.joined ((Fragment.split text).flatMap (c.became direction))).toList _ at hcut
  have hjoined := joined_flatMap_became hparts fun f hf fragment statements heq hattempt =>
    (hmember f hf fragment statements heq hattempt).1
  have hsplit : Fragment.split (String.join parts) = (Fragment.split text).flatMap (c.became direction) := by
    rw [hjoined] at hcut
    exact hcut.splitChars_eq
  have hagain : (Fragment.split (String.join parts)).mapM (c.contribution direction) =
      .ok ((Fragment.split (String.join parts)).map Fragment.text) := by
    rw [mapM_eq_ok_iff, List.forall₂_map_right_iff, List.forall₂_same, hsplit]
    intro g hg
    obtain ⟨f, hf, hg⟩ := List.mem_flatMap.mp hg
    obtain ⟨t, ht⟩ := exists_of_forall₂ hparts hf
    exact contribution_became ht (fun fragment statements heq hattempt =>
      (hmember f hf fragment statements heq hattempt).2) g hg
  rw [convert, hagain]
  show Except.ok (Fragment.joined (Fragment.split (String.join parts))) = _
  rw [hsplit, hjoined]

/-- A text with a gap, a statement, one that cannot be read, and one that ends with the text. -/
theorem convert_convert_mixed :
    let c : Converter := ⟨.standard {}, .skip⟩
    let text := "-- x\nINSERT INTO t (a) VALUES (1);\nINSERT bad;INSERT\tINTO u (b) VALUES ('x')"
    let out := "-- x\nINSERT INTO t SET a = 1;\nINSERT bad;INSERT INTO u SET b = 'x';"
    c.convert text .toSet = .ok out ∧ c.Rereadable .toSet text ∧ c.convert out .toSet = .ok out := by
  intro c text out
  obtain ⟨hout, hreads⟩ : (c.convert text .toSet).toOption = some out ∧ c.Rereadable .toSet text := by decide +kernel
  cases h : c.convert text .toSet with
  | error refusal =>
    rw [h] at hout
    cases hout
  | ok found =>
    rw [h] at hout
    cases Option.some.inj hout
    exact ⟨rfl, hreads, convert_convert h hreads⟩

end Converter

end InsertPivot
