import InsertPivot.Proofs.Lexing
import InsertPivot.Proofs.LongestHeading

/-!
# What a heading is cut into

The heading of a text is read twice by different rules: `Heading.rest?` looks for ASCII words with ASCII
white space between them, and the lexer for words of its own, which may be longer. Here the first is put in
terms of the second. A heading is cut into one word for `INSERT` and one for each modifier, and only its
last word may go on into the text behind the heading, as in `IGNORE$t`.
-/

namespace InsertPivot

namespace Sql.Lexeme

/-! ## Cutting word by word -/

/-- The characters that belong to the piece before are passed over. -/
theorem kinds_drop (previous : Option Token) (taken : Nat) (cs : List Char) :
    kinds previous taken cs = kinds previous 0 (cs.drop taken) := by
  induction cs generalizing taken with
  | nil => cases taken <;> rfl
  | cons c cs ih =>
    cases taken with
    | zero => rfl
    | succ taken => exact ih taken

/-- A text is cut into its first piece and the pieces of what is left. -/
theorem kinds_cons {previous : Option Token} {c : Char} {cs : List Char} {piece : Piece} {more : Nat}
    (h : kindAt previous c cs = some (piece, more)) :
    kinds previous 0 (c :: cs) = (kinds piece.token? 0 (cs.drop more)).map (piece :: ·) := by
  rw [kinds, h, ← kinds_drop]
  cases hrest : kinds piece.token? more cs <;> simp [hrest]

/-- A character that announces no string is cut as any other. -/
theorem pieceAt_plain {p : Text.Position} {previous : Option Token} {c : Char} {cs : List Char}
    (hannounced : cs.head?.bind (announced? c) = none) :
    pieceAt p previous c cs = plainPiece p previous c cs := by
  unfold pieceAt
  split
  next kind _ _ hkind =>
    rw [hannounced] at hkind
    cases hkind
  next => rfl

/-- A word ends where no character that continues a word follows. -/
theorem kindAt_word {previous : Option Token} {c : Char} {cs : List Char} (hc : startsWord c) (hat : c ≠ '@')
    (hannounced : cs.head?.bind (announced? c) = none) :
    kindAt previous c cs =
      some (.token (.word (String.ofList (c :: cs.takeWhile continuesWord)) none),
        (cs.takeWhile continuesWord).length) := by
  have hspace : c ≠ ' ' ∧ c ≠ '\t' ∧ c ≠ '\n' ∧ c ≠ '\r' := by
    refine ⟨?_, ?_, ?_, ?_⟩ <;> rintro rfl <;> revert hc <;> decide
  obtain ⟨hspace, htab, hline, hreturn⟩ := hspace
  rw [kindAt, pieceAt_plain hannounced]
  simp only [plainPiece, hspace, htab, hline, hreturn, hat, hc, decide_false, Bool.or_self, Bool.false_eq_true,
    if_false, if_true, wordPiece, List.singleton_append, List.length_singleton, Nat.sub_self, Nat.zero_add]
  rfl

/-- A word is cut where it ends. -/
theorem kinds_word {previous : Option Token} {c : Char} {cs : List Char} (hc : startsWord c) (hat : c ≠ '@')
    (hannounced : cs.head?.bind (announced? c) = none) :
    kinds previous 0 (c :: cs) =
      (kinds (some (.word (String.ofList (c :: cs.takeWhile continuesWord)) none)) 0
        (cs.dropWhile continuesWord)).map
          (.token (.word (String.ofList (c :: cs.takeWhile continuesWord)) none) :: ·) := by
  have hdrop : cs.drop (cs.takeWhile continuesWord).length = cs.dropWhile continuesWord := by
    conv_lhs => arg 2; rw [← List.takeWhile_append_dropWhile (p := continuesWord) (l := cs)]
    exact List.drop_left
  rw [kinds_cons (kindAt_word hc hat hannounced), hdrop]
  rfl

/-- Of the word before a text only that it is a word decides what the text starts with. -/
theorem kindAt_congr {a b : String} {q r : Option Char} (c : Char) (cs : List Char) :
    kindAt (some (.word a q)) c cs = kindAt (some (.word b r)) c cs := by
  have hnumeral (cs : List Char) : numeral (some (.word a q)) cs = numeral (some (.word b r)) cs := by
    simp [numeral, Token.isWord]
  have hpiece (p : Text.Position) : numeralPiece p (some (.word a q)) c cs =
      numeralPiece p (some (.word b r)) c cs := by
    simp only [numeralPiece, hnumeral, Option.any_some, Token.isWord]
  have hplain (p : Text.Position) : plainPiece p (some (.word a q)) c cs = plainPiece p (some (.word b r)) c cs := by
    simp only [plainPiece, hpiece]
  unfold kindAt pieceAt
  simp only [hplain]

/-- How a text is cut does not depend on which word stands before it. -/
theorem kinds_congr {a b : String} {q r : Option Char} (cs : List Char) :
    kinds (some (.word a q)) 0 cs = kinds (some (.word b r)) 0 cs := by
  cases cs with
  | nil => rfl
  | cons c cs => rw [kinds, kinds, kindAt_congr]

/-! ## White space -/

open Heading (isBlank)

/-- White space that a message shows as a blank. -/
def Piece.isSpace : Piece → Bool
  | .blank (.space _) => true
  | _ => false

theorem eq_of_isBlank {c : Char} (hc : isBlank c) :
    c = ' ' ∨ c = '\t' ∨ c = '\n' ∨ c = '\x0b' ∨ c = '\x0c' ∨ c = '\r' := by
  simp only [isBlank, Bool.or_eq_true, decide_eq_true_eq, Bool.and_eq_true] at hc
  obtain hc | ⟨hlow, hhigh⟩ := hc
  · exact .inl hc
  · have hof : c = Char.ofNat c.toNat := (Char.ofNat_toNat c).symm
    generalize c.toNat = n at hof hlow hhigh
    subst hof
    obtain rfl | rfl | rfl | rfl | rfl : n = 9 ∨ n = 10 ∨ n = 11 ∨ n = 12 ∨ n = 13 := by omega
    all_goals decide

theorem head_announced_blank {c : Char} (hc : isBlank c) (cs : List Char) :
    cs.head?.bind (announced? c) = none := by
  have hnone (quote : Char) : announced? c quote = none := by
    obtain rfl | rfl | rfl | rfl | rfl | rfl := eq_of_isBlank hc <;> simp [announced?]
  cases cs <;> simp [hnone]

/-- Most white space is cut off character by character. -/
theorem kindAt_blank {c : Char} (hc : isBlank c) (hreturn : c ≠ '\r') :
    ∃ shown, ∀ previous cs, kindAt previous c cs = some (.blank (.space shown), 0) := by
  have hplain (previous : Option Token) (cs : List Char) :
      kindAt previous c cs = (plainPiece .start previous c cs).toOption := by
    rw [kindAt, pieceAt_plain (head_announced_blank hc cs)]
  obtain rfl | rfl | rfl | rfl | rfl | rfl := eq_of_isBlank hc
  · exact ⟨' ', fun previous cs => hplain previous cs⟩
  · exact ⟨'\t', fun previous cs => hplain previous cs⟩
  · exact ⟨'\n', fun previous cs => hplain previous cs⟩
  · exact ⟨' ', fun previous cs => hplain previous cs⟩
  · exact ⟨' ', fun previous cs => hplain previous cs⟩
  · exact absurd rfl hreturn

/-- A carriage return is cut off with the line feed behind it. -/
theorem kindAt_return (previous : Option Token) (cs : List Char) :
    kindAt previous '\r' cs = some (.blank (.space '\n'), if cs.head? = some '\n' then 1 else 0) := by
  rw [kindAt, pieceAt_plain (head_announced_blank (by decide) cs)]
  rfl

/-- White space is cut off by itself, whatever stands before and behind it. -/
theorem kinds_blanks {ws : List Char} (hne : ws ≠ []) (hws : ∀ c ∈ ws, isBlank c) :
    ∃ spaces : List Piece, (∀ piece ∈ spaces, piece.isSpace) ∧
      ∀ previous rest, (∀ c ∈ rest.head?, !isBlank c) →
        kinds previous 0 (ws ++ rest) = (kinds none 0 rest).map (spaces ++ ·) := by
  -- a carriage return may take a second character, so the induction is on the length
  induction hlength : ws.length using Nat.strongRecOn generalizing ws with
  | ind n ih =>
    have hmore (tail : List Char) (shown : Char) (hlt : tail.length < n) (htail : ∀ c ∈ tail, isBlank c) :
        ∃ spaces : List Piece, (∀ piece ∈ spaces, piece.isSpace) ∧
          ∀ rest, (∀ c ∈ rest.head?, !isBlank c) →
            (kinds none 0 (tail ++ rest)).map (Piece.blank (.space shown) :: ·) =
              (kinds none 0 rest).map (spaces ++ ·) := by
      by_cases hnil : tail = []
      · subst hnil
        exact ⟨[.blank (.space shown)], by simp [Piece.isSpace], fun rest _ => rfl⟩
      · obtain ⟨spaces, hspaces, hkinds⟩ := ih tail.length hlt hnil htail rfl
        refine ⟨.blank (.space shown) :: spaces, ?_, fun rest hrest => ?_⟩
        · intro piece hpiece
          obtain rfl | hpiece := List.mem_cons.mp hpiece
          · rfl
          · exact hspaces piece hpiece
        · rw [hkinds none rest hrest, Option.map_map]
          rfl
    cases ws with
    | nil => exact absurd rfl hne
    | cons c tail =>
      have hc : isBlank c := hws c List.mem_cons_self
      have htail : ∀ c ∈ tail, isBlank c := fun c h => hws c (List.mem_cons_of_mem _ h)
      rw [List.length_cons] at hlength
      by_cases hreturn : c = '\r'
      · subst hreturn
        by_cases hfeed : tail.head? = some '\n'
        · obtain ⟨spaces, hspaces, hkinds⟩ := hmore tail.tail '\n' (by rw [List.length_tail]; omega)
            (fun c h => htail c (List.mem_of_mem_tail h))
          refine ⟨spaces, hspaces, fun previous rest hrest => ?_⟩
          have hhead : (tail ++ rest).head? = some '\n' := by rw [List.head?_append, hfeed]; rfl
          have hdrop : (tail ++ rest).drop 1 = tail.tail ++ rest := by
            cases tail with
            | nil => cases hfeed
            | cons _ _ => rfl
          rw [List.cons_append, kinds_cons (kindAt_return previous (tail ++ rest)), if_pos hhead, hdrop]
          exact hkinds rest hrest
        · obtain ⟨spaces, hspaces, hkinds⟩ := hmore tail '\n' (by omega) htail
          refine ⟨spaces, hspaces, fun previous rest hrest => ?_⟩
          have hhead : (tail ++ rest).head? ≠ some '\n' := by
            cases tail with
            | nil => exact fun h => absurd (hrest '\n' h) (by decide)
            | cons _ _ => exact hfeed
          rw [List.cons_append, kinds_cons (kindAt_return previous (tail ++ rest)), if_neg hhead]
          exact hkinds rest hrest
      · obtain ⟨shown, hkind⟩ := kindAt_blank hc hreturn
        obtain ⟨spaces, hspaces, hkinds⟩ := hmore tail shown (by omega) htail
        refine ⟨spaces, hspaces, fun previous rest hrest => ?_⟩
        rw [List.cons_append, kinds_cons (hkind previous (tail ++ rest))]
        exact hkinds rest hrest

/-- White space ends a word. -/
theorem not_continuesWord_of_isBlank {c : Char} (hc : isBlank c) : continuesWord c = false := by
  obtain rfl | rfl | rfl | rfl | rfl | rfl := eq_of_isBlank hc <;> rfl

/-- White space has no tokens. -/
theorem filterMap_spaces {ps : List Piece} (h : ∀ piece ∈ ps, piece.isSpace) : ps.filterMap Piece.token? = [] := by
  rw [List.filterMap_eq_nil_iff]
  intro piece hpiece
  have := h piece hpiece
  cases piece with
  | token _ => cases this
  | blank _ => rfl

/-- White space is no comment that is executed. -/
theorem any_spaces {ps : List Piece} (h : ∀ piece ∈ ps, piece.isSpace) : ps.any isExecutableComment = false := by
  rw [List.any_eq_false]
  intro piece hpiece
  have := h piece hpiece
  cases piece with
  | token _ => cases this
  | blank b =>
    cases b with
    | space _ => exact Bool.false_ne_true
    | lineComment _ => cases this
    | blockComment _ => cases this

/-! ## Words between white space -/

/-- Whether some characters are the start of one word, whatever follows them. -/
def IsWord (w : List Char) : Prop :=
  ∃ c cs, w = c :: cs ∧ startsWord c ∧ c ≠ '@' ∧ (∀ quote, announced? c quote = none) ∧ ∀ d ∈ cs, continuesWord d

/-- A word does not start with white space. -/
theorem IsWord.head_not_blank {w : List Char} (hw : IsWord w) (rest : List Char) :
    ∀ c ∈ (w ++ rest).head?, !isBlank c := by
  obtain ⟨c, cs, rfl, hc, -⟩ := hw
  rintro d ⟨⟩
  cases hblank : isBlank c with
  | false => rfl
  | true =>
    obtain rfl | rfl | rfl | rfl | rfl | rfl := eq_of_isBlank hblank <;> exact absurd hc (by decide)

/-- A word goes on as far as the text behind it continues it. -/
theorem kinds_isWord {w : List Char} (hw : IsWord w) (previous : Option Token) (rest : List Char) :
    kinds previous 0 (w ++ rest) =
      (kinds (some (.word "" none)) 0 (rest.dropWhile continuesWord)).map
        (.token (.word (String.ofList (w ++ rest.takeWhile continuesWord)) none) :: ·) := by
  obtain ⟨c, cs, rfl, hc, hat, hannounced, hcs⟩ := hw
  have htake : (cs ++ rest).takeWhile continuesWord = cs ++ rest.takeWhile continuesWord :=
    List.takeWhile_append_of_pos hcs
  have hdrop : (cs ++ rest).dropWhile continuesWord = rest.dropWhile continuesWord :=
    List.dropWhile_append_of_pos hcs
  have hnone : (cs ++ rest).head?.bind (announced? c) = none := by
    cases cs ++ rest <;> simp [hannounced]
  rw [List.cons_append, kinds_word hc hat hnone, htake, hdrop]
  exact congrArg _ (kinds_congr _)

/-- The tokens of some words, of which the last goes on with some characters. -/
def wordTokens : List (List Char) → List Char → List Token
  | [], _ => []
  | [w], more => [.word (String.ofList (w ++ more)) none]
  | w :: ws, more => .word (String.ofList w) none :: wordTokens ws more

theorem wordTokens_nil : ∀ ws : List (List Char), wordTokens ws [] = ws.map fun w => .word (String.ofList w) none
  | [] => rfl
  | [w] => by rw [wordTokens, List.append_nil]; rfl
  | w :: v :: ws => congrArg (Token.word (String.ofList w) none :: ·) (wordTokens_nil (v :: ws))

/-- The last of some words takes in what directly follows it. -/
theorem wordTokens_concat (ws : List (List Char)) (w more : List Char) :
    wordTokens (ws ++ [w]) more =
      (ws.map fun w => .word (String.ofList w) none) ++ [.word (String.ofList (w ++ more)) none] := by
  induction ws with
  | nil => rfl
  | cons v ws ih =>
    cases ws with
    | nil => rfl
    | cons u ws => exact congrArg _ ih

/-- White space and a word behind it, some number of times. -/
def joined (chunks : List (List Char × List Char)) : List Char :=
  chunks.flatMap fun (ws, w) => ws ++ w

/-- Words with white space between them are cut into these words, of which the last goes on into the text
behind them. -/
theorem kinds_words {w : List Char} (hw : IsWord w) {chunks : List (List Char × List Char)}
    (hchunks : ∀ chunk ∈ chunks, chunk.1 ≠ [] ∧ (∀ c ∈ chunk.1, isBlank c) ∧ IsWord chunk.2)
    (previous : Option Token) (rest : List Char) :
    ∃ ps : List Piece,
      kinds previous 0 (w ++ (joined chunks ++ rest)) =
        (kinds (some (.word "" none)) 0 (rest.dropWhile continuesWord)).map (ps ++ ·) ∧
      ps.filterMap Piece.token? = wordTokens (w :: chunks.map Prod.snd) (rest.takeWhile continuesWord) ∧
      ps.any isExecutableComment = false := by
  induction chunks generalizing w previous with
  | nil =>
    refine ⟨[_], kinds_isWord hw previous rest, rfl, rfl⟩
  | cons chunk chunks ih =>
    obtain ⟨ws, w'⟩ := chunk
    obtain ⟨hne, hws, hw'⟩ := hchunks _ List.mem_cons_self
    obtain ⟨spaces, hspaces, hblanks⟩ := kinds_blanks hne hws
    obtain ⟨ps, hps, htokens, hcomments⟩ := ih hw' (fun chunk h => hchunks chunk (List.mem_cons_of_mem _ h)) none
    have hjoined : joined ((ws, w') :: chunks) ++ rest = ws ++ (w' ++ (joined chunks ++ rest)) := by
      simp only [joined, List.flatMap_cons, List.append_assoc]
    -- white space does not continue the word before it
    have hstop (cs : List Char) : (ws ++ cs).takeWhile continuesWord = [] ∧
        (ws ++ cs).dropWhile continuesWord = ws ++ cs := by
      cases ws with
      | nil => exact absurd rfl hne
      | cons c ws =>
        have hc := not_continuesWord_of_isBlank (hws c List.mem_cons_self)
        simp [hc]
    refine ⟨.token (.word (String.ofList w) none) :: (spaces ++ ps), ?_, ?_, ?_⟩
    · rw [hjoined, kinds_isWord hw, (hstop _).1, (hstop _).2, hblanks _ _ (hw'.head_not_blank _), hps,
        List.append_nil, Option.map_map, Option.map_map]
      simp only [Function.comp_def, List.cons_append, List.append_assoc]
    · show Token.word _ none :: (spaces ++ ps).filterMap Piece.token? = _
      rw [List.filterMap_append, htokens, filterMap_spaces hspaces]
      rfl
    · rw [List.any_cons, List.any_append, hcomments, any_spaces hspaces]
      rfl

/-! ## The pieces of a heading -/

/-- What raises to the start of a word starts one. -/
theorem startsWord_of_toUpper {c : Char} (h : startsWord c.toUpper) : startsWord c := by
  obtain heq | halpha := Heading.toUpper_eq_or_isAlpha c
  · rwa [heq] at h
  · simp [startsWord, halpha]

/-- What raises to a character of a word is one. -/
theorem continuesWord_of_toUpper {c : Char} (h : continuesWord c.toUpper) : continuesWord c := by
  obtain heq | halpha := Heading.toUpper_eq_or_isAlpha c
  · rwa [heq] at h
  · simp [continuesWord, startsWord, halpha]

/-- Letters that announce no string start a word in any case. -/
theorem isWord_of_toUpper {w : List Char} {c : Char} {cs : List Char} (hw : w.map Char.toUpper = c :: cs)
    (hc : startsWord c) (hplain : c ∉ ['@', 'B', 'N', 'X']) (hcs : ∀ d ∈ cs, continuesWord d) : IsWord w := by
  obtain ⟨a, as, rfl, rfl, rfl⟩ := List.map_eq_cons_iff.mp hw
  refine ⟨a, as, rfl, startsWord_of_toUpper hc, ?_, ?_, ?_⟩
  · rintro rfl
    exact hplain (by decide)
  · intro quote
    have hne : ∀ d ∈ ['b', 'B', 'n', 'N', 'x', 'X'], a ≠ d := by
      rintro d hd rfl
      revert hd hplain
      simp only [List.mem_cons, List.not_mem_nil, or_false]
      rintro hplain (rfl | rfl | rfl | rfl | rfl | rfl) <;> exact hplain (by decide)
    simp only [List.mem_cons, List.not_mem_nil, or_false, forall_eq_or_imp, forall_eq] at hne
    simp [announced?, hne]
  · intro d hd
    exact continuesWord_of_toUpper (hcs _ (List.mem_map_of_mem hd))

end Sql.Lexeme

namespace Heading

open Sql.Lexeme (IsWord joined Piece kinds wordTokens)

/-- The number of modifiers that a text starts with. -/
def modifierCount (cs : List Char) : Nat :=
  match h : afterOneOf? modifiers cs with
  | none => 0
  | some rest =>
    have := afterOneOf?_length h
    modifierCount rest + 1
termination_by cs.length

/-- A heading after its first word is modifiers with white space before each. -/
theorem exists_modifiers (cs : List Char) :
    ∃ chunks, cs = joined chunks ++ afterModifiers cs ∧ chunks.length = modifierCount cs ∧
      ∀ chunk ∈ chunks, chunk.1 ≠ [] ∧ (∀ c ∈ chunk.1, isBlank c) ∧ chunk.2.map Char.toUpper ∈ modifiers := by
  fun_induction afterModifiers cs with
  | case1 cs hnone =>
    refine ⟨[], rfl, ?_, by simp⟩
    rw [modifierCount]
    split
    next => rfl
    next rest h =>
      rw [hnone] at h
      cases h
  | case2 cs rest hsome hlt ih =>
    obtain ⟨ws, w, hcs, hne, hws, hmem, -⟩ := goesOn_of_afterOneOf? hsome
    obtain ⟨chunks, hchunks, hcount, hall⟩ := ih
    refine ⟨(ws, w) :: chunks, ?_, ?_, ?_⟩
    · rw [joined, List.flatMap_cons, List.append_assoc, List.append_assoc, ← joined, ← hchunks, hcs]
    · rw [modifierCount]
      split
      next hnone =>
        rw [hsome] at hnone
        cases hnone
      next rest' h =>
        rw [hsome] at h
        cases h
        rw [List.length_cons, hcount]
    · intro chunk hchunk
      obtain rfl | hchunk := List.mem_cons.mp hchunk
      · exact ⟨hne, hws, hmem⟩
      · exact hall chunk hchunk

/-- However a modifier is spelled, it is a word. -/
theorem isWord_of_modifier {w : List Char} (hw : w.map Char.toUpper ∈ modifiers) : IsWord w := by
  simp only [modifiers, List.mem_cons, List.not_mem_nil, or_false] at hw
  obtain h | h | h | h := hw <;>
    exact Sql.Lexeme.isWord_of_toUpper h (by decide) (by decide) (by decide)

/-- A text with a heading: what it is made of, and what completing it puts behind the modifiers. -/
theorem exists_of_complete? {text completed : String} (h : complete? text = some completed) :
    ∃ lead chunks into rest,
      text.toList = lead ++ (joined chunks ++ rest) ∧
      completed.toList = lead ++ (joined (chunks ++ [([' '], into)]) ++ rest) ∧
      lead.map Char.toUpper = Fragment.leadWord ∧ into.map Char.toUpper = "INTO".toList ∧
      (∀ chunk ∈ chunks, chunk.1 ≠ [] ∧ (∀ c ∈ chunk.1, isBlank c) ∧ chunk.2.map Char.toUpper ∈ modifiers) ∧
      chunks.length = modifierCount (text.toList.drop 6) := by
  unfold complete? at h
  cases hrest : rest? text.toList with
  | none =>
    rw [hrest] at h
    cases h
  | some rest =>
    rw [hrest] at h
    obtain ⟨tail, htail, rfl⟩ := Option.map_eq_some_iff.mp hrest
    have hafter := (Option.filter_eq_some_iff.mp htail).1
    obtain ⟨lead, htext, hlead⟩ := Fragment.afterWord?_eq_some_iff.mp hafter
    obtain ⟨chunks, hchunks, hcount, hall⟩ := exists_modifiers tail
    have hsix : lead.length = 6 := Fragment.length_of_lead hlead
    have hdrop : text.toList.drop 6 = tail := by rw [htext, ← hsix, List.drop_left]
    have hsplit : text.toList = (lead ++ joined chunks) ++ afterModifiers tail := by
      rw [htext, List.append_assoc, ← hchunks]
    have htake : text.toList.take (text.toList.length - (afterModifiers tail).length) = lead ++ joined chunks := by
      rw [hsplit, List.length_append, Nat.add_sub_cancel, List.take_left]
    simp only [htake] at h
    split at h
    next => cases h
    next =>
      generalize LetterCase.ofWord (String.ofList ((lead ++ joined chunks).take 6)) = letterCase at h
      cases h
      refine ⟨lead, chunks, (letterCase.keyword "INTO").toList, afterModifiers tail, ?_, ?_, hlead, ?_, hall, ?_⟩
      · rw [hsplit, List.append_assoc]
      · rw [String.toList_ofList, joined, joined, List.flatMap_append, List.flatMap_singleton]
        simp only [List.append_assoc, List.cons_append, List.nil_append]
      · cases letterCase <;> decide
      · rw [hcount, hdrop]

/-- Completing a heading changes the cut of a text in one place: behind the words of the heading is one more,
and where the last of them goes on into the text behind it, the new one goes on instead. -/
theorem exists_pieces_of_complete? {text completed : String} {all : List Piece}
    (hcomplete : complete? text = some completed) (hall : kinds none 0 text.toList = some all) :
    ∃ (ps ps' qs : List Piece) (lead into more : List Char) (words : List (List Char)),
      all = ps ++ qs ∧ kinds none 0 completed.toList = some (ps' ++ qs) ∧
      ps.any isExecutableComment = false ∧ ps'.any isExecutableComment = false ∧
      ps.filterMap Piece.token? = wordTokens (lead :: words) more ∧
      ps'.filterMap Piece.token? = wordTokens (lead :: words ++ [into]) more ∧
      lead.map Char.toUpper = Fragment.leadWord ∧ into.map Char.toUpper = "INTO".toList ∧
      (∀ word ∈ words, word.map Char.toUpper ∈ modifiers) ∧
      words.length = modifierCount (text.toList.drop 6) := by
  obtain ⟨lead, chunks, into, rest, htext, hcompleted, hlead, hinto, hchunks, hcount⟩ := exists_of_complete? hcomplete
  have hleadWord : IsWord lead := Sql.Lexeme.isWord_of_toUpper hlead (by decide) (by decide) (by decide)
  have hspaced : ∀ chunk ∈ chunks, chunk.1 ≠ [] ∧ (∀ c ∈ chunk.1, isBlank c) ∧ IsWord chunk.2 := by
    intro chunk hchunk
    obtain ⟨hne, hblank, hmodifier⟩ := hchunks chunk hchunk
    exact ⟨hne, hblank, isWord_of_modifier hmodifier⟩
  have hwithInto : ∀ chunk ∈ chunks ++ [([' '], into)],
      chunk.1 ≠ [] ∧ (∀ c ∈ chunk.1, isBlank c) ∧ IsWord chunk.2 := by
    intro chunk hchunk
    obtain hchunk | hchunk := List.mem_append.mp hchunk
    · exact hspaced chunk hchunk
    · obtain rfl := List.mem_singleton.mp hchunk
      refine ⟨List.cons_ne_nil _ _, fun c hc => ?_, ?_⟩
      · obtain rfl := List.mem_singleton.mp hc
        rfl
      · exact Sql.Lexeme.isWord_of_toUpper hinto (by decide) (by decide) (by decide)
  obtain ⟨ps, hps, htokens, hcomments⟩ := Sql.Lexeme.kinds_words hleadWord hspaced none rest
  obtain ⟨ps', hps', htokens', hcomments'⟩ := Sql.Lexeme.kinds_words hleadWord hwithInto none rest
  rw [← htext, hall] at hps
  obtain ⟨qs, hqs, rfl⟩ := Option.map_eq_some_iff.mp hps.symm
  rw [← hcompleted, hqs] at hps'
  rw [List.map_append] at htokens'
  refine ⟨ps, ps', qs, lead, into, _, chunks.map Prod.snd, rfl, hps', hcomments, hcomments', htokens, htokens', hlead,
    hinto, ?_, ?_⟩
  · intro word hword
    obtain ⟨chunk, hchunk, rfl⟩ := List.mem_map.mp hword
    exact (hchunks chunk hchunk).2.2
  · rw [List.length_map, hcount]

end Heading

end InsertPivot
