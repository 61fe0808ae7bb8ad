import Mathlib.Data.List.Infix
import InsertPivot.Proofs.BothForms
import InsertPivot.Proofs.Completion
import InsertPivot.Proofs.Contributions

/-!
# Texts without the word `INSERT`

In a text that is free of the keyword each `insert` goes on into a longer name, as in `inserted_at`. No candidate
opens in such a text, so it is one gap. What a gap is depends on its first six letters only: one that starts with
`insert` is read as SQL all the same. There the word is read as the longer name that it is, and refused, unless
completing the heading cuts it in two: behind `insert$` a heading ends, and `INTO` is written in.

So a text that is free of the keyword is copied exactly where it does not start with these letters, or where it
cannot be converted and failures are skipped.
-/

namespace InsertPivot

namespace Fragment

/-- The characters that an unquoted name goes on with: ASCII letters and digits, `_`, `$` and the characters from
U+0080 to U+FFFF. -/
def isNameChar (c : Char) : Bool :=
  c.isAlphanum || c = '_' || c = '$' || (0x80 ≤ c.toNat && c.toNat ≤ 0xffff)

/-- Whether each `insert` in a text, in any ASCII case, goes on into a longer name. -/
def KeywordFree (text : String) : Prop :=
  ∀ rest ∈ text.toList.tails, ∀ behind ∈ afterWord? leadWord rest, behind.head?.any isNameChar

instance (text : String) : Decidable (KeywordFree text) :=
  inferInstanceAs (Decidable (∀ rest ∈ text.toList.tails, ∀ behind ∈ afterWord? leadWord rest, behind.head?.any isNameChar))

variable {text : String}

theorem KeywordFree.exists_nameChar (h : KeywordFree text) (before : List Char) {w : List Char} (behind : List Char)
    (htext : text.toList = before ++ (w ++ behind)) (hw : w.map Char.toUpper = leadWord) :
    ∃ c rest, behind = c :: rest ∧ isNameChar c := by
  have hafter : afterWord? leadWord (w ++ behind) = some behind := afterWord?_eq_some_iff.mpr ⟨w, rfl, hw⟩
  have hhead := h (w ++ behind) ((List.mem_tails _ _).mpr ⟨before, htext.symm⟩) behind hafter
  cases behind with
  | nil => cases hhead
  | cons c rest => exact ⟨c, rest, rfl, hhead⟩

/-- No candidate is found in a text that is free of the keyword, since it opens with the keyword and a space. -/
theorem KeywordFree.seek_eq_none (h : KeywordFree text) : seek text.toList = none := by
  cases hseek : seek text.toList with
  | none => rfl
  | some found =>
    obtain ⟨gap, found, rest⟩ := found
    obtain ⟨htext, -, w, c, body, rfl, hw, -⟩ := of_seek_eq_some hseek
    obtain ⟨d, more, hbehind, hname⟩ := h.exists_nameChar gap (' ' :: c :: (body ++ [';']) ++ rest)
      (by rw [htext]; simp) hw
    cases hbehind
    exact absurd hname (by decide)

/-- A text that is free of the keyword is one fragment. -/
theorem KeywordFree.split_eq (h : KeywordFree text) : split text = ofGap text.toList :=
  splitChars_of_none h.seek_eq_none

end Fragment

/-! ## Names that start with `insert` -/

/-- A longer word than `INSERT` starts no statement. -/
theorem readInserts_of_longerWord {text : String} {w rest : List Char} {c : Char} (htext : text.toList = w ++ c :: rest)
    (hw : w.map Char.toUpper = Fragment.leadWord)
    (hc : Heading.isWordChar c) : ∃ fault, readInserts text = .error fault := by
  cases hread : readInserts text with
  | error fault => exact ⟨fault, rfl⟩
  | ok ts =>
    exfalso
    obtain ⟨ps, hps⟩ := exists_kinds_of_readInserts hread
    obtain ⟨-, ts', hreads, -⟩ := reads_of_readInserts hps hread
    have hword : Sql.Lexeme.IsWord w := Sql.Lexeme.isWord_of_toUpper hw (by decide) (by decide) (by decide)
    have hcontinues : Sql.Lexeme.continuesWord c := by
      simp only [Heading.isWordChar, Bool.or_eq_true, decide_eq_true_eq] at hc
      obtain hc | rfl := hc
      · simp only [Char.isAlphanum, Bool.or_eq_true] at hc
        obtain hc | hc := hc <;> simp [Sql.Lexeme.continuesWord, Sql.Lexeme.startsWord, hc]
      · decide
    have htake : (c :: rest).takeWhile Sql.Lexeme.continuesWord = c :: rest.takeWhile Sql.Lexeme.continuesWord := by
      rw [List.takeWhile_cons, if_pos hcontinues]
    rw [htext, Sql.Lexeme.kinds_isWord hword, htake] at hps
    obtain ⟨others, -, rfl⟩ := Option.map_eq_some_iff.mp hps
    rw [Sql.Lexeme.bare_token] at hreads
    have hfold := @fold_append w (c :: rest.takeWhile Sql.Lexeme.continuesWord) _ hw (by decide)
    obtain ⟨d, ds, hd⟩ := List.exists_cons_of_ne_nil (foldChar_ne_nil c)
    obtain hlead | hlead := keyword_of_reads rfl hreads
    all_goals
      rw [hfold, ← String.toList_inj, String.toList_ofList, List.flatMap_cons, hd] at hlead
      simp [Fragment.leadWord] at hlead

namespace Converter

variable {format : Format} {policy : FailurePolicy} {direction : Direction} {text : String}

open Fragment (KeywordFree leadWord afterWord? startsStatement)

/-- Converted statements are not the text that they were read from, where no candidate opens in that. -/
theorem written_ne_of_isGap (hgap : Fragment.IsGap text.toList []) (hstarts : startsStatement text.toList)
    (statements : List Insert) : written ⟨.standard format, policy⟩ statements ≠ text := by
  rintro rfl
  cases statements with
  | nil =>
    have hsemicolon : (written ⟨.standard format, policy⟩ []).toList = [';'] := by simp [written]
    rw [hsemicolon] at hstarts
    exact absurd hstarts (by decide)
  | cons statement statements =>
    have hopens := statement.startsCandidate_written format policy statements
    refine hgap _ List.suffix_rfl (fun hnil => ?_) (by rwa [List.append_nil])
    rw [hnil] at hopens
    obtain ⟨w, c, body, hcs, -⟩ := hopens
    simp at hcs

theorem written_ne (h : KeywordFree text) (hstarts : startsStatement text.toList) (statements : List Insert) :
    written ⟨.standard format, policy⟩ statements ≠ text :=
  written_ne_of_isGap (Fragment.isGap_of_seek_eq_none h.seek_eq_none) hstarts statements

/-- A text that is free of the keyword is copied exactly where it does not start with `insert`, or where it cannot be
converted and failures are skipped. It cannot be where an ASCII letter, a digit or `_` follows. -/
theorem convert_keywordFree_iff (format : Format) (policy : FailurePolicy) (direction : Direction) {text : String}
    (h : KeywordFree text) :
    let c : Converter := ⟨.standard format, policy⟩
    (c.convert text direction = .ok text ↔
      startsStatement text.toList = false ∨ policy = .skip ∧ ∃ refusal, c.attempt direction text = .error refusal) ∧
      ∀ behind ∈ afterWord? leadWord text.toList, Heading.atWordEnd behind = false →
        ∃ fault, c.attempt direction text = .error (.read fault) := by
  intro c
  refine ⟨?_, fun behind hafter hend => ?_⟩
  · by_cases hstarts : startsStatement text.toList
    -- the whole text is one fragment, and nothing that is written for statements is equal to it
    · have hsplit : Fragment.split text = [.statement text] := by
        have hne : text.toList ≠ [] := fun hnil => by simp [hnil, startsStatement, afterWord?, leadWord] at hstarts
        rw [h.split_eq, Fragment.ofGap_of_ne hne, Fragment.ofChars, if_pos hstarts, String.ofList_toList]
      have hconvert : c.convert text direction = c.contribution direction (.statement text) := by
        rw [convert, hsplit, List.mapM_cons, List.mapM_nil]
        cases c.contribution direction (.statement text) with
        | error refusal => rfl
        | ok out => simp [String.join]
      simp only [hconvert, contribution, hstarts, Bool.true_eq_false, false_or]
      cases hattempt : c.attempt direction text with
      | ok statements => simpa using written_ne h hstarts statements
      | error refusal => cases policy <;> simp [c]
    · have hpassed : c.convert text direction = .ok text := by
        rw [convert, h.split_eq]
        cases hcs : text.toList with
        | nil => rw [String.toList_eq_nil_iff.mp hcs]; rfl
        | cons d ds =>
          rw [← hcs, Fragment.ofGap_of_ne (by simp [hcs]), Fragment.ofChars, if_neg hstarts, String.ofList_toList]
          simp [contribution, String.join]
      exact iff_of_true hpassed (.inl (Bool.eq_false_iff.mpr hstarts))
  · obtain ⟨w, htext, hw⟩ := Fragment.afterWord?_eq_some_iff.mp hafter
    cases behind with
    | nil => cases hend
    | cons d rest =>
      have hcomplete : Heading.complete text = text := by
        have hrest : Heading.rest? text.toList = none := by
          rw [Heading.rest?, hafter, Option.filter_some, hend]
          rfl
        rw [Heading.complete, Heading.complete?, hrest, Option.getD_none]
      obtain ⟨fault, hfault⟩ := readInserts_of_longerWord htext hw (by simpa [Heading.atWordEnd] using hend)
      refine ⟨fault, ?_⟩
      have hparse : c.codec.parse (Heading.complete text) = .error fault := by rw [hcomplete]; exact hfault
      rw [attempt, hparse]
      rfl

/-- A text with longer names that start with `insert`, none of which stands first. -/
theorem convert_keywordFree_names :
    let c : Converter := ⟨.standard {}, .abort⟩
    let text := "select inserted_at from insert$log; -- Inserting"
    KeywordFree text ∧
      (c.convert text .toSet = .ok text ↔
        startsStatement text.toList = false ∨
          FailurePolicy.abort = .skip ∧ ∃ refusal, c.attempt .toSet text = .error refusal) ∧
      ∀ behind ∈ afterWord? leadWord text.toList, Heading.atWordEnd behind = false →
        ∃ fault, c.attempt .toSet text = .error (.read fault) := by
  intro c text
  have hfree : KeywordFree text := by decide +kernel
  exact ⟨hfree, convert_keywordFree_iff {} .abort .toSet hfree⟩

/-- `Inserting rows` is refused, and `insert$log set a = 1` becomes a statement that inserts into `into$log`. -/
theorem not_convert_inserting :
    let c : Converter := ⟨.standard {}, .abort⟩
    KeywordFree "Inserting rows" ∧ (c.convert "Inserting rows" .toSet).toOption = none ∧
      KeywordFree "insert$log set a = 1" ∧
        (c.convert "insert$log set a = 1" .toValues).toOption = some "insert into into$log (a) values (1);" ∧
          ¬ ∀ text, KeywordFree text → c.convert text .toSet = .ok text := by
  intro c
  have hfree : KeywordFree "Inserting rows" := by decide +kernel
  have hrefused : (c.convert "Inserting rows" .toSet).toOption = none := by decide +kernel
  refine ⟨hfree, hrefused, by decide +kernel, by decide +kernel, fun all => ?_⟩
  rw [all _ hfree] at hrefused
  cases hrefused

end Converter

end InsertPivot
