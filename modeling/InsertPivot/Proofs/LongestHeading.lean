import InsertPivot.Heading
import InsertPivot.Proofs.Segmentation

/-!
# The longest heading

A heading is looked for word by word, and a text that has none ends the search. Here it is told what it finds: of all
the ways to read a text as `INSERT` and modifiers behind it, `Heading.Runs`, the one that goes furthest
(`Heading.IsHead`). Words of letters, digits and underscores leave no choice where they end, so there is one way to
read each further word, and to stop early is to read less.

Completing a heading therefore makes one edit at one place, and none the second time: what is written there is `INTO`,
which is no modifier, and it ends where the heading did.
-/

namespace InsertPivot.Heading

open Fragment (afterWord? leadWord afterWord?_eq_some_iff)

/-! ## One word more -/

/-- Whether a text goes on with white space and one of some words, in any case, up to where a word ends; `rest` is what
stands behind it. -/
def GoesOn (words : List (List Char)) (cs rest : List Char) : Prop :=
  ∃ ws w, cs = ws ++ (w ++ rest) ∧ ws ≠ [] ∧ (∀ c ∈ ws, isBlank c) ∧ w.map Char.toUpper ∈ words ∧ atWordEnd rest

/-- Whether words consist of what ASCII words consist of. -/
def AreWords (words : List (List Char)) : Prop :=
  ∀ word ∈ words, word ≠ [] ∧ ∀ c ∈ word, isWordChar c

theorem modifiers_areWords : AreWords modifiers := by
  unfold AreWords
  decide

theorem into_areWords : AreWords ["INTO".toList] := by
  unfold AreWords
  decide

/-- Only letters are changed by raising them. -/
theorem toUpper_eq_or_isAlpha (c : Char) : c.toUpper = c ∨ c.isAlpha := by
  by_cases hlower : c.isLower
  · exact .inr (Bool.or_eq_true_iff.mpr (.inr hlower))
  · refine .inl ?_
    unfold Char.toUpper
    rw [dif_neg]
    intro h
    exact hlower (Bool.and_eq_true_iff.mpr ⟨decide_eq_true h.1, decide_eq_true h.2⟩)

/-- What a word character is raised from is a word character. -/
theorem isWordChar_of_toUpper {c : Char} (h : isWordChar c.toUpper) : isWordChar c := by
  obtain heq | halpha := toUpper_eq_or_isAlpha c
  · rwa [heq] at h
  · simp [isWordChar, Char.isAlphanum, halpha]

/-- White space stands at or before the blank in the order of characters. -/
theorem le_of_isBlank {c : Char} (h : isBlank c) : c.toNat ≤ 32 := by
  simp only [isBlank, Bool.or_eq_true, decide_eq_true_eq, Bool.and_eq_true] at h
  obtain rfl | h := h
  · decide
  · omega

theorem bounds_of_isAlpha {c : Char} (h : c.isAlpha) : 48 ≤ c.toNat ∧ c.toNat < 0x80 := by
  have hbounds : 'A'.val ≤ c.val ∧ c.val ≤ 'Z'.val ∨ 'a'.val ≤ c.val ∧ c.val ≤ 'z'.val := by
    obtain hupper | hlower := Bool.or_eq_true_iff.mp h
    · exact .inl (of_decide_eq_true hupper)
    · exact .inr ((Bool.and_eq_true_iff.mp hlower).imp of_decide_eq_true of_decide_eq_true)
  simp only [UInt32.le_iff_toNat_le] at hbounds
  change 65 ≤ c.toNat ∧ c.toNat ≤ 90 ∨ 97 ≤ c.toNat ∧ c.toNat ≤ 122 at hbounds
  omega

/-- Word characters start with the digits. -/
theorem le_of_isWordChar {c : Char} (h : isWordChar c) : 48 ≤ c.toNat := by
  obtain halphanum | hscore := Bool.or_eq_true_iff.mp h
  · obtain halpha | hdigit := Bool.or_eq_true_iff.mp halphanum
    · exact (bounds_of_isAlpha halpha).1
    · exact UInt32.le_iff_toNat_le.mp (of_decide_eq_true (Bool.and_eq_true_iff.mp hdigit).1)
  · rw [of_decide_eq_true hscore]
    decide

theorem isBlank_eq_false {c : Char} (h : isWordChar c) : isBlank c = false := by
  cases hblank : isBlank c with
  | false => rfl
  | true =>
    have := le_of_isWordChar h
    have := le_of_isBlank hblank
    omega

variable {words others : List (List Char)} {cs rest other : List Char}

/-- However a word is spelled, it consists of word characters. -/
theorem AreWords.isWordChar_of_mem (hwords : AreWords words) {w : List Char} (hmem : w.map Char.toUpper ∈ words) :
    ∀ c ∈ w, isWordChar c :=
  fun _ hc => isWordChar_of_toUpper ((hwords _ hmem).2 _ (List.mem_map_of_mem hc))

/-- The white space before a word ends where the word starts. -/
theorem AreWords.dropWhile_isBlank (hwords : AreWords words) {ws w : List Char} (hws : ∀ c ∈ ws, isBlank c)
    (hmem : w.map Char.toUpper ∈ words) (rest : List Char) :
    (ws ++ (w ++ rest)).dropWhile isBlank = w ++ rest := by
  rw [List.dropWhile_append_of_pos hws]
  cases w with
  | nil => exact absurd rfl (hwords _ hmem).1
  | cons c w => simp [isBlank_eq_false (hwords.isWordChar_of_mem hmem c List.mem_cons_self)]

/-- A text that goes on does so in one way: with all its white space and with all of the word behind. -/
theorem GoesOn.eq (h : GoesOn words cs rest) (hwords : AreWords words) :
    ((cs.dropWhile isBlank).takeWhile isWordChar).map Char.toUpper ∈ words ∧
      rest = (cs.dropWhile isBlank).dropWhile isWordChar := by
  obtain ⟨ws, w, rfl, -, hws, hmem, hend⟩ := h
  have hw := hwords.isWordChar_of_mem hmem
  have hstop : rest.takeWhile isWordChar = [] ∧ rest.dropWhile isWordChar = rest := by
    cases rest with
    | nil => exact ⟨rfl, rfl⟩
    | cons c rest =>
      have hc : isWordChar c = false := by simpa [atWordEnd] using hend
      simp [hc]
  rw [hwords.dropWhile_isBlank hws hmem, List.takeWhile_append_of_pos hw, List.dropWhile_append_of_pos hw, hstop.1,
    hstop.2, List.append_nil]
  exact ⟨hmem, rfl⟩

/-- Where two words can stand, it is the same word with the same text behind it. -/
theorem GoesOn.unique (h : GoesOn words cs rest) (hother : GoesOn others cs other) (hwords : AreWords words)
    (hothers : AreWords others) : rest = other ∧ ∃ word ∈ words, word ∈ others := by
  obtain ⟨hmem, hrest⟩ := h.eq hwords
  obtain ⟨hmem', hother⟩ := hother.eq hothers
  exact ⟨hrest.trans hother.symm, _, hmem, hmem'⟩

/-- What is found is there. -/
theorem goesOn_of_afterOneOf? (h : afterOneOf? words cs = some rest) : GoesOn words cs rest := by
  unfold afterOneOf? at h
  simp only at h
  split at h
  next hlt =>
    obtain ⟨word, hmem, hword⟩ := List.exists_of_findSome?_eq_some h
    obtain ⟨hafter, hend⟩ := Option.filter_eq_some_iff.mp hword
    obtain ⟨w, hw, rfl⟩ := afterWord?_eq_some_iff.mp hafter
    refine ⟨cs.takeWhile isBlank, w, ?_, ?_, fun c => List.all_eq_true.mp List.all_takeWhile c, hmem, hend⟩
    · rw [← hw, List.takeWhile_append_dropWhile]
    · intro hnil
      have hlength := congrArg List.length (List.takeWhile_append_dropWhile (p := isBlank) (l := cs))
      rw [hnil, List.nil_append] at hlength
      omega
  next => cases h

/-- What is there is found, though perhaps up to another place. -/
theorem afterOneOf?_isSome_of_goesOn (h : GoesOn words cs rest) (hwords : AreWords words) :
    (afterOneOf? words cs).isSome := by
  obtain ⟨ws, w, rfl, hne, hws, hmem, hend⟩ := h
  have hlt : (w ++ rest).length < (ws ++ (w ++ rest)).length := by
    have := List.length_pos_iff.mpr hne
    simp only [List.length_append]
    omega
  rw [afterOneOf?, hwords.dropWhile_isBlank hws hmem]
  simp only [if_pos hlt, List.findSome?_isSome_iff]
  refine ⟨w.map Char.toUpper, hmem, Option.isSome_iff_exists.mpr ⟨rest, ?_⟩⟩
  exact Option.filter_eq_some_iff.mpr ⟨afterWord?_eq_some_iff.mpr ⟨w, rfl, rfl⟩, hend⟩

/-- What is found is what is there: words of word characters leave no choice where they end. -/
theorem afterOneOf?_eq_some_iff (hwords : AreWords words) :
    afterOneOf? words cs = some rest ↔ GoesOn words cs rest := by
  refine ⟨goesOn_of_afterOneOf?, fun h => ?_⟩
  obtain ⟨found, hfound⟩ := Option.isSome_iff_exists.mp (afterOneOf?_isSome_of_goesOn h hwords)
  rw [hfound, (h.unique (goesOn_of_afterOneOf? hfound) hwords hwords).1]

/-! ## All headings of a text -/

variable {text head : List Char}

/-- The ways to read a text as a heading: the word `INSERT` in any case at its start, up to where a word ends, and any
number of modifiers behind it. The index is what stands behind the heading. -/
inductive Runs (text : List Char) : List Char → Prop
  | lead {lead rest : List Char} (split : text = lead ++ rest) (spelled : lead.map Char.toUpper = leadWord)
      (ended : atWordEnd rest) : Runs text rest
  | more {cs rest : List Char} (runs : Runs text cs) (goesOn : GoesOn modifiers cs rest) : Runs text rest

/-- The heading of a text: the one that no other goes beyond. -/
structure IsHead (text head rest : List Char) : Prop where
  split : text = head ++ rest
  runs : Runs text rest
  longest : ∀ other, Runs text other → rest.length ≤ other.length

/-- A text that runs has the word `INSERT` at its start. -/
theorem Runs.exists_lead (h : Runs text rest) :
    ∃ lead behind, text = lead ++ (behind ++ rest) ∧ lead.map Char.toUpper = leadWord := by
  induction h with
  | lead split spelled ended => exact ⟨_, [], split, spelled⟩
  | more _ goesOn ih =>
    obtain ⟨lead, behind, htext, hlead⟩ := ih
    obtain ⟨ws, w, rfl, -⟩ := goesOn
    exact ⟨lead, behind ++ (ws ++ w), by simpa using htext, hlead⟩

/-- A run ends where a word ends. -/
theorem Runs.atWordEnd (h : Runs text rest) : atWordEnd rest := by
  cases h with
  | lead split spelled ended => exact ended
  | more runs goesOn =>
    obtain ⟨_, _, _, _, _, _, hend⟩ := goesOn
    exact hend

/-- What stands behind a heading can be anything that does not go on with its last word. -/
theorem Runs.replace (h : Runs text rest) {head : List Char} (htext : text = head ++ rest) {rest' : List Char}
    (hend : Heading.atWordEnd rest') : Runs (head ++ rest') rest' := by
  induction h generalizing head rest' with
  | lead split spelled ended => exact .lead (by rw [List.append_cancel_right (htext.symm.trans split)]) spelled hend
  | more runs goesOn ih =>
    obtain ⟨ws, w, rfl, hne, hws, hmem, -⟩ := goesOn
    obtain ⟨lead, behind, hsplit, -⟩ := runs.exists_lead
    have hhead : head = lead ++ behind ++ (ws ++ w) :=
      List.append_cancel_right (htext.symm.trans (by simpa using hsplit))
    have hstop : Heading.atWordEnd (ws ++ (w ++ rest')) := by
      cases ws with
      | nil => exact absurd rfl hne
      | cons c ws =>
        cases hc : isWordChar c with
        | false => simp [Heading.atWordEnd, hc]
        | true =>
          have := (isBlank_eq_false hc).symm.trans (hws c List.mem_cons_self)
          cases this
    have hruns := ih (hsplit.trans (List.append_assoc ..).symm) hstop
    rw [hhead, List.append_assoc, List.append_assoc ws]
    exact .more hruns ⟨ws, w, rfl, hne, hws, hmem, hend⟩

/-! ## The heading that is found -/

/-- A modifier that is found is taken, and the search goes on behind it. -/
theorem afterModifiers_of_some (h : afterOneOf? modifiers cs = some rest) :
    afterModifiers cs = afterModifiers rest := by
  rw [afterModifiers]
  split
  next hnone =>
    rw [h] at hnone
    cases hnone
  next hsome =>
    rw [h] at hsome
    cases hsome
    rfl

/-- Where no modifier is found, the search ends. -/
theorem afterModifiers_of_none (h : afterOneOf? modifiers cs = none) : afterModifiers cs = cs := by
  rw [afterModifiers]
  split
  next => rfl
  next hsome =>
    rw [h] at hsome
    cases hsome

/-- The search for modifiers prolongs a run. -/
theorem Runs.afterModifiers (h : Runs text cs) : Runs text (afterModifiers cs) := by
  fun_induction Heading.afterModifiers cs with
  | case1 cs hnone => exact h
  | case2 cs rest hsome hlt ih => exact ih (.more h (goesOn_of_afterOneOf? hsome))

/-- The search for modifiers only shortens what is left. -/
theorem afterModifiers_length (cs : List Char) : (afterModifiers cs).length ≤ cs.length := by
  fun_induction afterModifiers cs with
  | case1 cs hnone => exact Nat.le_refl _
  | case2 cs rest hsome hlt ih => omega

/-- To find no more than stands there already is to find no modifier. -/
theorem afterModifiers_eq_of_length (h : cs.length ≤ (afterModifiers cs).length) : afterModifiers cs = cs := by
  cases hafter : afterOneOf? modifiers cs with
  | none => exact afterModifiers_of_none hafter
  | some rest =>
    have hlt := afterOneOf?_length hafter
    have hle := afterModifiers_length rest
    rw [← afterModifiers_of_some hafter] at hle
    omega

/-- Where a heading is found, the text runs up to its end. -/
theorem runs_of_rest? (h : rest? text = some rest) : Runs text rest := by
  obtain ⟨tail, htail, rfl⟩ := Option.map_eq_some_iff.mp h
  obtain ⟨hafter, hend⟩ := Option.filter_eq_some_iff.mp htail
  obtain ⟨lead, hsplit, hlead⟩ := afterWord?_eq_some_iff.mp hafter
  exact (Runs.lead hsplit hlead hend).afterModifiers

/-- However far a heading is read, the same heading is found by reading on. -/
theorem Runs.rest?_eq (h : Runs text cs) : rest? text = some (Heading.afterModifiers cs) := by
  induction h with
  | lead split spelled ended =>
    rw [rest?, Option.filter_eq_some_iff.mpr ⟨afterWord?_eq_some_iff.mpr ⟨_, split, spelled⟩, ended⟩, Option.map_some]
  | more _ goesOn ih =>
    rw [ih, afterModifiers_of_some ((afterOneOf?_eq_some_iff modifiers_areWords).mpr goesOn)]

/-- The longest heading is the one that is found. -/
theorem isHead_iff : IsHead text head rest ↔ text = head ++ rest ∧ rest? text = some rest := by
  constructor
  · rintro ⟨hsplit, hruns, hlongest⟩
    refine ⟨hsplit, ?_⟩
    rw [hruns.rest?_eq, afterModifiers_eq_of_length (hlongest _ hruns.afterModifiers)]
  · rintro ⟨hsplit, hrest⟩
    refine ⟨hsplit, runs_of_rest? hrest, fun other hother => ?_⟩
    cases hrest.symm.trans hother.rest?_eq
    exact afterModifiers_length other

/-- Where a heading is found, there is a longest one. -/
theorem exists_isHead_of_rest? (h : rest? text = some rest) : ∃ head, IsHead text head rest := by
  obtain ⟨lead, behind, hsplit, -⟩ := (runs_of_rest? h).exists_lead
  exact ⟨lead ++ behind, isHead_iff.mpr ⟨hsplit.trans (List.append_assoc ..).symm, h⟩⟩

/-- A text has at most one longest heading. -/
theorem IsHead.unique {head' rest' : List Char} (h : IsHead text head rest) (h' : IsHead text head' rest') :
    head = head' ∧ rest = rest' := by
  obtain ⟨hsplit, hrest⟩ := isHead_iff.mp h
  obtain ⟨hsplit', hrest'⟩ := isHead_iff.mp h'
  cases hrest.symm.trans hrest'
  exact ⟨List.append_cancel_right (hsplit.symm.trans hsplit'), rfl⟩

/-! ## What is written in -/

/-- Whether `INTO` is there is told by what is found. -/
theorem startsInto_iff : startsInto cs ↔ ∃ after, GoesOn ["INTO".toList] cs after := by
  simp only [startsInto, Option.isSome_iff_exists, afterOneOf?_eq_some_iff into_areWords]

/-- Where `INTO` stands, no modifier does. -/
theorem GoesOn.no_modifier (h : GoesOn ["INTO".toList] cs rest) : afterOneOf? modifiers cs = none := by
  cases hafter : afterOneOf? modifiers cs with
  | none => rfl
  | some other =>
    obtain ⟨-, word, hinto, hmodifier⟩ := h.unique (goesOn_of_afterOneOf? hafter) into_areWords modifiers_areWords
    rw [List.mem_singleton.mp hinto] at hmodifier
    exact absurd hmodifier (by decide)

/-- A heading with `INTO` behind it needs none. -/
theorem Runs.complete?_eq_none {text : String} (h : Runs text.toList cs) (hinto : GoesOn ["INTO".toList] cs rest) :
    complete? text = none := by
  have hrest := h.rest?_eq
  rw [afterModifiers_of_none hinto.no_modifier] at hrest
  rw [complete?, hrest]
  exact if_pos (startsInto_iff.mpr ⟨rest, hinto⟩)

/-- However `INSERT` is spelled, it consists of letters. -/
theorem isAlpha_of_lead {lead : List Char} (hlead : lead.map Char.toUpper = leadWord) : ∀ c ∈ lead, c.isAlpha := by
  intro c hc
  have hupper : c.toUpper.isAlpha := by
    have hmem : c.toUpper ∈ leadWord := hlead ▸ List.mem_map_of_mem hc
    revert hmem
    generalize c.toUpper = u
    revert u
    decide
  obtain heq | halpha := toUpper_eq_or_isAlpha c
  · rwa [heq] at hupper
  · exact halpha

/-- `INTO` is written in capitals as soon as one letter of `INSERT` is one. -/
theorem keyword_of_lead {lead : List Char} (hlead : lead.map Char.toUpper = leadWord) :
    (LetterCase.ofWord (String.ofList lead)).keyword "INTO" = if lead.any Char.isUpper then "INTO" else "into" := by
  have halpha := isAlpha_of_lead hlead
  have hletters : lead.any Text.isAlphabetic := by
    cases lead with
    | nil => cases hlead
    | cons c lead =>
      have hc := halpha c List.mem_cons_self
      simp [Text.isAlphabetic, (bounds_of_isAlpha hc).2, hc]
  have hcapitals : lead.any Text.isUppercase = lead.any Char.isUpper := by
    rw [Bool.eq_iff_iff, List.any_eq_true, List.any_eq_true]
    refine exists_congr fun c => and_congr_right fun hc => ?_
    rw [Text.isUppercase, if_pos (bounds_of_isAlpha (halpha c hc)).2]
  rw [LetterCase.ofWord, String.toList_ofList, hletters, hcapitals]
  cases lead.any Char.isUpper <;> rfl

/-- Behind a heading that no `INTO` follows, the word is written in the case of the heading. -/
theorem IsHead.complete?_eq {text : String} (h : IsHead text.toList head rest) (hnone : startsInto rest = false) :
    complete? text = some (String.ofList
      (head ++ (if (text.toList.take 6).any Char.isUpper then " INTO" else " into").toList ++ rest)) := by
  obtain ⟨hsplit, hrest⟩ := isHead_iff.mp h
  obtain ⟨lead, behind, hlead, hspelled⟩ := h.runs.exists_lead
  have hhead : head = lead ++ behind := List.append_cancel_right (hsplit.symm.trans (by simpa using hlead))
  have hsix : lead.length = 6 := Fragment.length_of_lead hspelled
  have htake : text.toList.take (text.toList.length - rest.length) = head := by
    rw [hsplit, List.length_append, Nat.add_sub_cancel, List.take_left]
  have hword : head.take 6 = lead ∧ text.toList.take 6 = lead := by
    rw [hlead, hhead, ← hsix]
    exact ⟨List.take_left, List.take_left⟩
  rw [complete?, hrest]
  simp only [hnone, Bool.false_eq_true, if_false, htake, hword.1, hword.2, keyword_of_lead hspelled]
  cases lead.any Char.isUpper <;> rfl

/-- Nothing is written if and only if there is no heading, or `INTO` follows it. -/
theorem complete?_eq_none_iff {text : String} :
    complete? text = none ↔
      ∀ head rest, IsHead text.toList head rest → ∃ after, GoesOn ["INTO".toList] rest after := by
  constructor
  · intro hnone head rest hhead
    cases hinto : startsInto rest with
    | true => exact startsInto_iff.mp hinto
    | false =>
      rw [hhead.complete?_eq hinto] at hnone
      cases hnone
  · intro hall
    cases hrest : rest? text.toList with
    | none => rw [complete?, hrest]
    | some rest =>
      obtain ⟨head, hhead⟩ := exists_isHead_of_rest? hrest
      obtain ⟨after, hinto⟩ := hall head rest hhead
      exact hhead.runs.complete?_eq_none hinto

/-- What completing writes in is `INTO` at a word end, so completing again writes nothing. -/
theorem complete?_complete (text : String) : complete? (complete text) = none := by
  cases hcomplete : complete? text with
  | none => rw [complete, hcomplete, Option.getD_none, hcomplete]
  | some completed =>
    have hsome : complete? text ≠ none := by
      rw [hcomplete]
      exact nofun
    obtain ⟨head, rest, hhead, hinto⟩ : ∃ head rest, IsHead text.toList head rest ∧
        ¬∃ after, GoesOn ["INTO".toList] rest after := by
      simpa only [ne_eq, complete?_eq_none_iff, Classical.not_forall, exists_prop] using hsome
    have hwritten := hcomplete.symm.trans (hhead.complete?_eq (Bool.eq_false_iff.mpr (hinto ∘ startsInto_iff.mp)))
    obtain ⟨w, hw, hupper⟩ : ∃ w, (if (text.toList.take 6).any Char.isUpper then " INTO" else " into").toList =
        ' ' :: w ∧
        w.map Char.toUpper = "INTO".toList := by
      cases (text.toList.take 6).any Char.isUpper <;> exact ⟨_, rfl, rfl⟩
    rw [complete, hcomplete, Option.getD_some, Option.some.inj hwritten, hw, List.append_assoc]
    have hruns : Runs (head ++ (' ' :: w ++ rest)) (' ' :: w ++ rest) := hhead.runs.replace hhead.split rfl
    have hagain : GoesOn ["INTO".toList] (' ' :: w ++ rest) rest :=
      ⟨[' '], w, rfl, List.cons_ne_nil _ _, by decide, List.mem_singleton.mpr hupper, hhead.runs.atWordEnd⟩
    rw [← String.toList_ofList (l := head ++ (' ' :: w ++ rest))] at hruns
    exact hruns.complete?_eq_none hagain

/-- Completing a heading is one edit at one place: with no heading, or with `INTO` behind it, the text is returned as it
is, and otherwise `INTO` is written behind the longest heading, in the letter case of the first word, between two parts
that stay as they are. A text that was completed is returned as it is. -/
theorem complete_edit (text : String) :
    (complete? text = none ↔
      ∀ head rest, IsHead text.toList head rest → ∃ after, GoesOn ["INTO".toList] rest after) ∧
    (∀ head rest, IsHead text.toList head rest → (¬∃ after, GoesOn ["INTO".toList] rest after) →
      complete? text = some (String.ofList
        (head ++ (if (text.toList.take 6).any Char.isUpper then " INTO" else " into").toList ++ rest))) ∧
    complete text = (complete? text).getD text ∧
    complete? (complete text) = none ∧
    complete (complete text) = complete text := by
  refine ⟨complete?_eq_none_iff, fun head rest hhead hinto => ?_, rfl, complete?_complete text, ?_⟩
  · exact hhead.complete?_eq (Bool.eq_false_iff.mpr (hinto ∘ startsInto_iff.mp))
  · rw [complete, complete?_complete, Option.getD_none]

/-- Modifiers may be repeated, and a word ends at any character but a letter, a digit and an underscore. -/
theorem complete_edit_repeated :
    let text := "Insert\x0b\x0cignore\tDELAYED IGNORE$ (a) VALUES (1)"
    let rest := "$ (a) VALUES (1)".toList
    IsHead text.toList "Insert\x0b\x0cignore\tDELAYED IGNORE".toList rest ∧
      (¬∃ after, GoesOn ["INTO".toList] rest after) ∧
      complete? text = some "Insert\x0b\x0cignore\tDELAYED IGNORE INTO$ (a) VALUES (1)" := by
  intro text rest
  have htext : text.toList = "Insert".toList ++ "\x0b\x0cignore\tDELAYED IGNORE$ (a) VALUES (1)".toList := by
    simp [text]
  have hlead : Runs text.toList "\x0b\x0cignore\tDELAYED IGNORE$ (a) VALUES (1)".toList := .lead htext rfl rfl
  have hignore : Runs text.toList "\tDELAYED IGNORE$ (a) VALUES (1)".toList :=
    hlead.more ⟨['\x0b', '\x0c'], "ignore".toList, rfl, by decide, by decide, by decide, rfl⟩
  have hdelayed : Runs text.toList " IGNORE$ (a) VALUES (1)".toList :=
    hignore.more ⟨['\t'], "DELAYED".toList, rfl, by decide, by decide, by decide, rfl⟩
  have hruns : Runs text.toList rest :=
    hdelayed.more ⟨[' '], "IGNORE".toList, rfl, by decide, by decide, by decide, rfl⟩
  have hsplit : text.toList = "Insert\x0b\x0cignore\tDELAYED IGNORE".toList ++ rest := by
    simp [text, rest]
  have hhead : IsHead text.toList "Insert\x0b\x0cignore\tDELAYED IGNORE".toList rest :=
    isHead_iff.mpr ⟨hsplit, hruns.rest?_eq.trans (congrArg some (afterModifiers_of_none rfl))⟩
  have hinto : ¬∃ after, GoesOn ["INTO".toList] rest after := by
    rw [← startsInto_iff]
    decide
  have hcomplete := (complete_edit text).2.1 _ _ hhead hinto
  refine ⟨hhead, hinto, hcomplete.trans (congrArg some ?_)⟩
  decide +kernel

end InsertPivot.Heading
