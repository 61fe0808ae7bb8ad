import InsertPivot.Proofs.Places.Insert

/-!
# The words before the table

`Reader.front` takes words in a fixed order and at most one of a kind, so which words it takes is a matter of
keywords alone: `withoutFront` are the keywords that it leaves. Modifiers at the start are either all taken,
and then `INTO` behind them is the last word that is, or the first that is left is a modifier, whatever
follows.

The table comes next, then the data, and the data starts with one of a few words or with a parenthesis. So a
word that is left before the table and does not belong there is the table.
-/

namespace InsertPivot.Sql.Reader

/-! ## Readers that take keywords -/

/-- The keywords that some lexemes are. -/
def keywords (ls : List Lexeme) : List (Option String) :=
  ls.map (·.token.keyword?)

@[simp] theorem keywords_nil : keywords [] = [] := rfl

@[simp] theorem keywords_cons (l : Lexeme) (ls : List Lexeme) :
    keywords (l :: ls) = l.token.keyword? :: keywords ls := rfl

/-- A reader that never fails and takes what its keywords say. -/
def Leaves {α : Type} (r : Reader α) (rest : List (Option String) → List (Option String)) : Prop :=
  ∀ ls, ∃ a left, r.run ls = .ok (a, left) ∧ left <:+ ls ∧ keywords left = rest (keywords ls)

/-- A reader that takes nothing leaves all keywords. -/
theorem Leaves.pure {α : Type} (a : α) : Leaves (pure a : Reader α) id :=
  fun ls => ⟨a, ls, rfl, List.suffix_rfl, rfl⟩

/-- A reader behind another one leaves what it leaves of what the first one leaves. -/
theorem Leaves.bind {α β : Type} {r : Reader α} {f : α → Reader β} {g h : List (Option String) → List (Option String)}
    (hr : Leaves r g) (hf : ∀ a, Leaves (f a) h) : Leaves (r >>= f) (h ∘ g) := by
  intro ls
  obtain ⟨a, left, hrun, hsuffix, hleft⟩ := hr ls
  obtain ⟨b, rest, hrun', hsuffix', hrest⟩ := hf a left
  exact ⟨b, rest, (run_bind_of_ok hrun).trans hrun', hsuffix'.trans hsuffix, hrest.trans (congrArg h hleft)⟩

/-! ## Which words are taken -/

/-- Keywords without the first where it is one of some words. -/
def withoutWord (words : List String) : List (Option String) → List (Option String)
  | some k :: ks => if k ∈ words then ks else some k :: ks
  | ks => ks

/-- Keywords without `OR` and one of some words at their start, or else without `REPLACE` there. -/
def withoutConflict (words : List String) : List (Option String) → List (Option String)
  | some "OR" :: some k :: ks => if k ∈ words then ks else some "OR" :: some k :: ks
  | ks => withoutWord ["REPLACE"] ks

/-- The words that say behind `OR` what is done about rows that are there already. -/
def conflictWords : List String :=
  ["REPLACE", "ROLLBACK", "ABORT", "FAIL", "IGNORE"]

/-- The words of which one tells the priority of a statement. -/
def priorityWords : List String :=
  ["LOW_PRIORITY", "DELAYED", "HIGH_PRIORITY"]

/-- The keywords that are left of some behind `IGNORE`. -/
def behindIgnore (ks : List (Option String)) : List (Option String) :=
  withoutWord ["INTO"] (withoutWord ["OVERWRITE"] ks)

/-- The keywords that are left of some behind the priority. -/
def behindPriority (ks : List (Option String)) : List (Option String) :=
  behindIgnore (withoutWord ["IGNORE"] ks)

/-- The keywords that are left of some when the words before the table are taken. -/
def withoutFront (ks : List (Option String)) : List (Option String) :=
  behindPriority (withoutWord priorityWords (withoutConflict conflictWords ks))

/-- A keyword that may stand is taken off, where it stands. -/
theorem acceptKeyword_leaves (word : String) : Leaves (acceptKeyword word) (withoutWord [word]) := by
  intro ls
  cases ls with
  | nil => exact ⟨false, [], rfl, List.suffix_rfl, rfl⟩
  | cons l ls =>
    cases hl : l.token.keyword? with
    | none => exact ⟨false, l :: ls, run_acceptKeyword_of_ne (by simp [hl]), List.suffix_rfl, by simp [hl, withoutWord]⟩
    | some k =>
      by_cases hk : k = word
      · exact ⟨true, ls, run_acceptKeyword_of_eq (by simp [hl, hk]), List.suffix_cons l ls,
          by simp [hl, hk, withoutWord]⟩
      · exact ⟨false, l :: ls, run_acceptKeyword_of_ne (by simp [hl, hk]), List.suffix_rfl,
          by simp [hl, hk, withoutWord]⟩

theorem withoutWord_nil (ks : List (Option String)) : withoutWord [] ks = ks := by
  match ks with
  | [] | none :: _ | some _ :: _ => rfl

/-- One of the words is taken off. -/
theorem withoutWord_of_mem {words : List String} {word : String} (h : word ∈ words) (ks : List (Option String)) :
    withoutWord words (some word :: ks) = ks := by
  rw [withoutWord, if_pos h]

/-- No other word is taken off. -/
theorem withoutWord_of_notMem {words : List String} {word : String} (h : word ∉ words) (ks : List (Option String)) :
    withoutWord words (some word :: ks) = some word :: ks := by
  rw [withoutWord, if_neg h]

/-- One more word, which is asked for first. -/
theorem Leaves.orWord {α : Type} {r : Reader α} {words : List String} (hr : Leaves r (withoutWord words))
    (word : String) (a : α) :
    Leaves (do if ← acceptKeyword word then return a else r) (withoutWord (word :: words)) := by
  intro ls
  by_cases hword : ls.head?.bind (·.token.keyword?) = some word
  · cases ls with
    | nil => cases hword
    | cons l ls =>
      have hl : l.token.keyword? = some word := hword
      refine ⟨a, ls, run_bind_of_ok (run_acceptKeyword_of_eq hword), List.suffix_cons l ls, ?_⟩
      rw [keywords_cons, hl, withoutWord, if_pos List.mem_cons_self]
  · obtain ⟨b, left, hrun, hsuffix, hleft⟩ := hr ls
    refine ⟨b, left, (run_bind_of_ok (run_acceptKeyword_of_ne hword)).trans hrun, hsuffix, hleft.trans ?_⟩
    cases ls with
    | nil => rfl
    | cons l ls =>
      cases hl : l.token.keyword? with
      | none => rw [keywords_cons, hl, withoutWord, withoutWord] <;> simp
      | some k =>
        have hk : k ≠ word := fun h => hword (h ▸ hl)
        simp only [keywords_cons, hl, withoutWord, List.mem_cons, hk, false_or]

/-- A priority takes one word off. -/
theorem priority_leaves : Leaves priority (withoutWord priorityWords) := by
  have hnone : Leaves (pure none : Reader (Option Priority)) (withoutWord []) := by
    intro ls
    exact ⟨none, ls, rfl, List.suffix_rfl, (withoutWord_nil _).symm⟩
  exact ((hnone.orWord _ _).orWord _ _).orWord _ _

theorem withoutConflict_nil (ks : List (Option String)) : withoutConflict [] ks = withoutWord ["REPLACE"] ks := by
  unfold withoutConflict
  split <;> rfl

/-- Any word but `OR` and `REPLACE` is left where it is. -/
theorem withoutConflict_of_notMem {words : List String} {word : String} (h : word ∉ ["OR", "REPLACE"])
    (ks : List (Option String)) : withoutConflict words (some word :: ks) = some word :: ks := by
  have hreplace : word ∉ ["REPLACE"] := fun hmem => h (List.mem_cons_of_mem _ hmem)
  unfold withoutConflict
  split
  next heq =>
    cases heq
    exact absurd List.mem_cons_self h
  next => exact withoutWord_of_notMem hreplace ks

/-- A conflict clause whose two words do not stand here is not taken, and the next one is tried. -/
theorem withoutConflict_cons {word : String} {words : List String} {ks : List (Option String)}
    (h : ks.take 2 ≠ [some "OR", some word]) : withoutConflict (word :: words) ks = withoutConflict words ks := by
  unfold withoutConflict
  split
  next k ks =>
    have hk : k ≠ word := fun hk => h (by rw [hk]; rfl)
    simp only [List.mem_cons, hk, false_or]
  next => rfl

/-- One more word behind `OR`, which is asked for first. -/
theorem Leaves.orPair {r : Reader (Option ConflictClause)} {words : List String} (hr : Leaves r (withoutConflict words))
    (word : String) (found : ConflictClause) :
    Leaves (do if ← acceptKeywords ["OR", word] then return some found else r) (withoutConflict (word :: words)) := by
  intro ls
  have hkeywords : (keywords ls).take 2 = (ls.take 2).map (·.token.keyword?) := List.map_take.symm
  have hrun := run_acceptKeywords ["OR", word] ls
  by_cases hword : (ls.take 2).map (·.token.keyword?) = [some "OR", some word]
  · refine ⟨some found, ls.drop 2, run_bind_of_ok (hrun.trans (if_pos hword)), List.drop_suffix 2 ls, ?_⟩
    have hsplit : keywords ls = some "OR" :: some word :: keywords (ls.drop 2) := by
      rw [← List.take_append_drop 2 (keywords ls), hkeywords, hword]
      exact congrArg _ List.map_drop.symm
    rw [hsplit, withoutConflict, if_pos List.mem_cons_self]
  · obtain ⟨b, left, hrest, hsuffix, hleft⟩ := hr ls
    refine ⟨b, left, (run_bind_of_ok (hrun.trans (if_neg hword))).trans hrest, hsuffix, hleft.trans ?_⟩
    rw [← hkeywords] at hword
    exact (withoutConflict_cons hword).symm

/-- A conflict clause takes two words off, or `REPLACE` alone. -/
theorem conflictClause_leaves : Leaves conflictClause (withoutConflict conflictWords) := by
  have hreplace : Leaves (do if ← acceptKeyword "REPLACE" then return some ConflictClause.replace else return none)
      (withoutConflict []) := by
    intro ls
    obtain ⟨found, left, hrun, hsuffix, hleft⟩ := acceptKeyword_leaves "REPLACE" ls
    rw [← withoutConflict_nil] at hleft
    cases found with
    | true => exact ⟨_, left, run_bind_of_ok hrun, hsuffix, hleft⟩
    | false => exact ⟨_, left, run_bind_of_ok hrun, hsuffix, hleft⟩
  exact ((((hreplace.orPair _ _).orPair _ _).orPair _ _).orPair _ _).orPair _ _

/-- The words in front of a table are taken in the order of the grammar, each at most once. -/
theorem front_leaves : Leaves front withoutFront := by
  exact (conflictClause_leaves.bind fun _ => priority_leaves.bind fun _ => (acceptKeyword_leaves _).bind fun _ =>
    (acceptKeyword_leaves _).bind fun _ => (acceptKeyword_leaves _).bind fun _ => Leaves.pure _)

/-! ## Which words were taken -/

/-- What is taken for a keyword is that keyword, where the answer is yes, and nothing otherwise. -/
theorem exists_of_acceptKeyword {word : String} {ls left : List Lexeme} {found : Bool}
    (h : (acceptKeyword word).run ls = .ok (found, left)) :
    ∃ taken, ls = taken ++ left ∧ keywords taken = if found then [some word] else [] := by
  rw [run_acceptKeyword] at h
  split at h
  next hword =>
    cases h
    cases ls with
    | nil => cases hword
    | cons l ls => exact ⟨[l], rfl, congrArg (· :: []) hword⟩
  next =>
    cases h
    exact ⟨[], rfl, rfl⟩

/-- All that was taken for a keyword is that keyword. -/
theorem keyword_of_taken {word : String} {taken : List Lexeme} {found : Bool}
    (h : keywords taken = if found then [some word] else []) : ∀ l ∈ taken, l.token.keyword? = some word := by
  intro l hl
  have hmem : l.token.keyword? ∈ keywords taken := List.mem_map_of_mem hl
  rw [h] at hmem
  cases found with
  | true => exact List.mem_singleton.mp hmem
  | false => cases hmem

/-- Where a keyword does not stand, nothing is taken. -/
theorem left_of_acceptKeyword {word : String} {ls left : List Lexeme}
    (h : (acceptKeyword word).run ls = .ok (false, left)) : left = ls := by
  rw [run_acceptKeyword] at h
  split at h
  next => cases h
  next =>
    cases h
    rfl

/-- A choice by a word is made by that word, or else as it is made without it. -/
theorem exists_of_orWord {α : Type} {word : String} {a found : α} {r : Reader α} {ls left : List Lexeme}
    (h : (do if ← acceptKeyword word then return a else r : Reader α).run ls = .ok (found, left)) :
    (found = a ∧ ∃ taken, ls = taken ++ left ∧ keywords taken = [some word]) ∨ r.run ls = .ok (found, left) := by
  obtain ⟨here, left₁, hhere, h⟩ := run_bind_eq_ok_iff.mp h
  cases here with
  | true =>
    cases h
    exact .inl ⟨rfl, exists_of_acceptKeyword hhere⟩
  | false =>
    rw [left_of_acceptKeyword hhere] at h
    exact .inr h

/-- What is taken for a priority is the word of the priority that is found. -/
theorem exists_of_priority {ls left : List Lexeme} {found : Option Priority}
    (h : priority.run ls = .ok (found, left)) :
    ∃ taken, ls = taken ++ left ∧ keywords taken = (found.map fun p => some p.text).toList := by
  obtain ⟨rfl, htaken⟩ | h := exists_of_orWord h
  · exact htaken
  · obtain ⟨rfl, htaken⟩ | h := exists_of_orWord h
    · exact htaken
    · obtain ⟨rfl, htaken⟩ | h := exists_of_orWord h
      · exact htaken
      · cases h
        exact ⟨[], rfl, rfl⟩

/-- What is said about rows that are there already starts with one of two words. -/
def SaysConflict (ls left : List Lexeme) : Prop :=
  ∃ taken, ls = taken ++ left ∧ ∀ k ∈ (keywords taken).head?, k = some "OR" ∨ k = some "REPLACE"

/-- Two words tried in front of the other clauses: they were taken, or the clause is one of the others. -/
theorem saysConflict_of_orPair {word : String} {a found : Option ConflictClause} {r : Reader (Option ConflictClause)}
    {ls left : List Lexeme} (hr : r.run ls = .ok (found, left) → SaysConflict ls left)
    (h : (do if ← acceptKeywords ["OR", word] then return a else r : Reader _).run ls = .ok (found, left)) :
    SaysConflict ls left := by
  obtain ⟨here, left₁, hhere, h⟩ := run_bind_eq_ok_iff.mp h
  cases here with
  | true =>
    cases h
    rw [run_acceptKeywords] at hhere
    split at hhere
    next hwords =>
      cases hhere
      refine ⟨ls.take 2, (List.take_append_drop 2 ls).symm, fun k hk => .inl ?_⟩
      rw [show keywords (ls.take 2) = [some "OR", some word] from hwords] at hk
      exact (Option.some.inj hk).symm
    next => cases hhere
  | false =>
    rw [left_of_acceptKeywords hhere] at h
    exact hr h

/-- What is taken for a conflict clause starts with `OR` or with `REPLACE`, if it is anything. -/
theorem exists_of_conflictClause {ls left : List Lexeme} {found : Option ConflictClause}
    (h : conflictClause.run ls = .ok (found, left)) : SaysConflict ls left := by
  refine saysConflict_of_orPair (fun h => ?_) h
  refine saysConflict_of_orPair (fun h => ?_) h
  refine saysConflict_of_orPair (fun h => ?_) h
  refine saysConflict_of_orPair (fun h => ?_) h
  refine saysConflict_of_orPair (fun h => ?_) h
  obtain ⟨-, taken, rfl, htaken⟩ | h := exists_of_orWord h
  · refine ⟨taken, rfl, fun k hk => .inr ?_⟩
    rw [htaken] at hk
    exact (Option.some.inj hk).symm
  · cases h
    exact ⟨[], rfl, fun k hk => by cases hk⟩

/-- The words that stand before the table, behind what is said about rows that are there already. -/
def Front.words (found : Front) : List (Option String) :=
  (found.priority.map fun p => some p.text).toList ++ (if found.ignore then [some "IGNORE"] else []) ++
    (if found.overwrite then [some "OVERWRITE"] else []) ++ (if found.into then [some "INTO"] else [])

/-- The words before the table are what is said about rows that are there already, and the words that are
noted. -/
theorem exists_of_front {ls left : List Lexeme} {found : Front} (h : front.run ls = .ok (found, left)) :
    ∃ first taken, ls = first ++ taken ++ left ∧
      (∀ k ∈ (keywords first).head?, k = some "OR" ∨ k = some "REPLACE") ∧ keywords taken = found.words := by
  obtain ⟨conflict, left₁, hconflict, h⟩ := run_bind_eq_ok_iff.mp h
  obtain ⟨priority, left₂, hpriority, h⟩ := run_bind_eq_ok_iff.mp h
  obtain ⟨ignore, left₃, hignore, h⟩ := run_bind_eq_ok_iff.mp h
  obtain ⟨overwrite, left₄, hoverwrite, h⟩ := run_bind_eq_ok_iff.mp h
  obtain ⟨into, left₅, hinto, h⟩ := run_bind_eq_ok_iff.mp h
  cases h
  obtain ⟨first, rfl, hfirst⟩ := exists_of_conflictClause hconflict
  obtain ⟨second, rfl, hsecond⟩ := exists_of_priority hpriority
  obtain ⟨third, rfl, hthird⟩ := exists_of_acceptKeyword hignore
  obtain ⟨fourth, rfl, hfourth⟩ := exists_of_acceptKeyword hoverwrite
  obtain ⟨fifth, rfl, hfifth⟩ := exists_of_acceptKeyword hinto
  refine ⟨first, second ++ third ++ fourth ++ fifth, by simp only [List.append_assoc], hfirst, ?_⟩
  simp only [keywords, List.map_append] at hsecond hthird hfourth hfifth ⊢
  rw [hsecond, hthird, hfourth, hfifth]
  rfl

/-- If no conflict clause stands in front, the words that were taken are told by what was found. -/
theorem words_of_front {ls left : List Lexeme} {found : Front} (h : front.run (ls ++ left) = .ok (found, left))
    (hls : ∀ k ∈ (keywords ls).head?, k ≠ some "OR" ∧ k ≠ some "REPLACE") : found.words = keywords ls := by
  obtain ⟨first, taken, hsplit, hfirst, htaken⟩ := exists_of_front h
  obtain rfl : ls = first ++ taken := List.append_cancel_right hsplit
  cases first with
  | nil => exact htaken.symm
  | cons l first =>
    obtain hl | hl := hfirst _ rfl
    · exact absurd hl (hls _ rfl).1
    · exact absurd hl (hls _ rfl).2

/-- No priority is spelled as another modifier is. -/
theorem priority_text_notMem (p : Priority) : p.text ∉ ["IGNORE", "OVERWRITE", "INTO"] := by
  cases p <;> decide

/-- Each priority has a spelling of its own. -/
theorem priority_text_injective {p q : Priority} (h : p.text = q.text) : p = q := by
  revert h
  cases p <;> cases q <;> decide

/-- Among the words that were found, `IGNORE` stands if and only if it is kept. -/
theorem Front.mem_words_ignore (found : Front) : some "IGNORE" ∈ found.words ↔ found.ignore := by
  have hpriority (p : Priority) : p.text ≠ "IGNORE" := fun h => priority_text_notMem p (by simp [h])
  simp [Front.words, hpriority]

/-- Among the words that were found, a priority stands if and only if it is kept. -/
theorem Front.mem_words_priority (found : Front) (p : Priority) :
    some p.text ∈ found.words ↔ found.priority = some p := by
  have hother := priority_text_notMem p
  simp only [List.mem_cons, List.not_mem_nil, or_false, not_or] at hother
  have hpriority (q : Priority) : q.text = p.text ↔ q = p := ⟨priority_text_injective, congrArg _⟩
  simp [Front.words, hother, hpriority]

/-- One more word at the end, which tells neither the priority nor `IGNORE`, changes neither. -/
theorem Front.eq_of_words {found found' : Front} (h : found'.words = found.words ++ [some "INTO"]) :
    found'.priority = found.priority ∧ found'.ignore = found.ignore := by
  have hmem (k : String) (hk : k ≠ "INTO") : some k ∈ found'.words ↔ some k ∈ found.words := by
    simp [h, hk]
  constructor
  · refine Option.ext fun p => ?_
    rw [← found.mem_words_priority, ← found'.mem_words_priority]
    exact hmem _ (by cases p <;> decide)
  · rw [Bool.eq_iff_iff, ← found.mem_words_ignore, ← found'.mem_words_ignore]
    exact hmem _ (by decide)

/-! ## Modifiers at the start -/

/-- All words that may stand before the table. -/
def frontWords : List String :=
  "OR" :: "OVERWRITE" :: "INTO" :: (conflictWords ++ priorityWords)

/-- Takes nothing but some of the words off the front. -/
def Drops (rest : List (Option String) → List (Option String)) : Prop :=
  ∀ ks, ∃ taken, ks = taken ++ rest ks ∧ ∀ k ∈ taken, ∃ word ∈ frontWords, k = some word

/-- What drops words in front, behind another that does, drops words in front. -/
theorem Drops.comp {f g : List (Option String) → List (Option String)} (hg : Drops g) (hf : Drops f) :
    Drops fun ks => g (f ks) := by
  intro ks
  obtain ⟨first, hfirst, hwords⟩ := hf ks
  obtain ⟨second, hsecond, hwords'⟩ := hg (f ks)
  refine ⟨first ++ second, by rw [List.append_assoc, ← hsecond, ← hfirst], fun k hk => ?_⟩
  obtain hk | hk := List.mem_append.mp hk
  · exact hwords k hk
  · exact hwords' k hk

/-- Taking off one of the words in front drops words in front. -/
theorem withoutWord_drops {words : List String} (hwords : ∀ word ∈ words, word ∈ frontWords) :
    Drops (withoutWord words) := by
  intro ks
  unfold withoutWord
  split
  next k ks =>
    by_cases hk : k ∈ words
    · exact ⟨[some k], by rw [if_pos hk]; rfl, by simpa using hwords k hk⟩
    · exact ⟨[], by rw [if_neg hk]; rfl, by simp⟩
  next => exact ⟨[], rfl, by simp⟩

/-- Taking off a conflict clause drops words in front. -/
theorem withoutConflict_drops : Drops (withoutConflict conflictWords) := by
  intro ks
  unfold withoutConflict
  split
  next k ks =>
    by_cases hk : k ∈ conflictWords
    · refine ⟨[some "OR", some k], by rw [if_pos hk]; rfl, ?_⟩
      have hmem : k ∈ frontWords := by simp [frontWords, hk]
      simpa using ⟨by decide, hmem⟩
    · exact ⟨[], by rw [if_neg hk]; rfl, by simp⟩
  next => exact withoutWord_drops (by decide) _

/-- What stands behind `IGNORE` drops words in front. -/
theorem behindIgnore_drops : Drops behindIgnore :=
  (withoutWord_drops (by decide)).comp (withoutWord_drops (by decide))

/-- What stands behind a priority drops words in front. -/
theorem behindPriority_drops : Drops behindPriority :=
  behindIgnore_drops.comp (withoutWord_drops (by decide))

/-- The whole of what stands in front of a table drops words in front. -/
theorem withoutFront_drops : Drops withoutFront :=
  behindPriority_drops.comp ((withoutWord_drops (by decide)).comp withoutConflict_drops)

/-- What becomes of modifiers that stand first: all are taken, and `INTO` behind them is taken last, or one
of them is left with all that follows it. -/
inductive Outcome (rest : List (Option String) → List (Option String)) (ks : List (Option String)) : Prop where
  | taken (more : List (Option String) → List (Option String)) (hrest : ∀ rs, rest (ks ++ rs) = more rs)
    (hdrops : Drops more) (hinto : ∀ rs, more (some "INTO" :: rs) = rs)
  | left (taken : List (Option String)) (first : Option String) (others : List (Option String))
    (hks : ks = taken ++ first :: others) (hrest : ∀ rs, rest (ks ++ rs) = first :: (others ++ rs))

/-- A word that is taken whatever follows it does not change what becomes of the rest. -/
theorem Outcome.cons {f g : List (Option String) → List (Option String)} {k : Option String}
    {ks : List (Option String)} (hf : ∀ rs, f (k :: rs) = g rs) (h : Outcome g ks) : Outcome f (k :: ks) := by
  cases h with
  | taken more hrest hdrops hinto =>
    exact .taken more (fun rs => (hf _).trans (hrest rs)) hdrops hinto
  | left taken first others hks hrest =>
    exact .left (k :: taken) first others (by rw [hks]; rfl) fun rs => (hf _).trans (hrest rs)

/-- A word that stops the reading whatever follows it is what it stops at. -/
theorem Outcome.here {f : List (Option String) → List (Option String)} {k : Option String}
    {ks : List (Option String)} (hf : ∀ rs, f (k :: rs) = k :: rs) : Outcome f (k :: ks) :=
  .left [] k ks rfl fun rs => hf (ks ++ rs)

/-- The words that a heading may have between `INSERT` and `INTO`. -/
def modifierWords : List String :=
  "IGNORE" :: priorityWords

/-- No priority is a word of another clause. -/
theorem priority_notMem {word : String} (h : word ∈ priorityWords) :
    word ∉ ["OR", "REPLACE"] ∧ word ∉ ["IGNORE"] ∧ word ∉ ["OVERWRITE", "INTO"] := by
  revert word
  decide

/-- Behind `IGNORE`, any word but `OVERWRITE` and `INTO` is left where it is. -/
theorem behindIgnore_of_notMem {word : String} (h : word ∉ ["OVERWRITE", "INTO"]) (rs : List (Option String)) :
    behindIgnore (some word :: rs) = some word :: rs := by
  have hoverwrite : word ∉ ["OVERWRITE"] := fun hmem => h (List.mem_cons.mpr (.inl (List.mem_singleton.mp hmem)))
  rw [behindIgnore, withoutWord_of_notMem hoverwrite,
    withoutWord_of_notMem (fun hmem => h (List.mem_cons_of_mem _ hmem))]

/-- `INTO` alone is taken off, and nothing behind it. -/
theorem withoutFront_into (rs : List (Option String)) : withoutFront (some "INTO" :: rs) = rs := by
  rw [withoutFront, withoutConflict_of_notMem (by decide), withoutWord_of_notMem (by decide), behindPriority,
    withoutWord_of_notMem (by decide), behindIgnore, withoutWord_of_notMem (by decide), withoutWord_of_mem (by decide)]

variable {ks : List (Option String)}

/-- Behind `IGNORE`, modifiers are all taken or one of them stops the reading. -/
theorem behindIgnore_modifiers (hks : ∀ k ∈ ks, ∃ word ∈ modifierWords, k = some word) : Outcome behindIgnore ks := by
  cases ks with
  | nil => exact .taken behindIgnore (fun _ => rfl) behindIgnore_drops fun _ => rfl
  | cons k ks =>
    obtain ⟨word, hword, rfl⟩ := hks k List.mem_cons_self
    have hlater : ∀ word ∈ modifierWords, word ∉ ["OVERWRITE", "INTO"] := by decide
    exact .here (behindIgnore_of_notMem (hlater word hword))

/-- Behind a priority, modifiers are all taken or one of them stops the reading. -/
theorem behindPriority_modifiers (hks : ∀ k ∈ ks, ∃ word ∈ modifierWords, k = some word) :
    Outcome behindPriority ks := by
  cases ks with
  | nil => exact .taken behindPriority (fun _ => rfl) behindPriority_drops fun _ => rfl
  | cons k ks =>
    obtain ⟨word, hword, rfl⟩ := hks k List.mem_cons_self
    have hothers := behindIgnore_modifiers fun k hk => hks k (List.mem_cons_of_mem _ hk)
    obtain rfl | hpriority := List.mem_cons.mp hword
    · exact .cons (fun _ => rfl) hothers
    · refine .here fun rs => ?_
      have hword := priority_notMem hpriority
      rw [behindPriority, withoutWord_of_notMem hword.2.1, behindIgnore_of_notMem hword.2.2]

/-- What becomes of the modifiers of a heading does not depend on what follows them. -/
theorem withoutFront_modifiers (hks : ∀ k ∈ ks, ∃ word ∈ modifierWords, k = some word) :
    Outcome withoutFront ks := by
  cases ks with
  | nil => exact .taken withoutFront (fun _ => rfl) withoutFront_drops fun rs => withoutFront_into rs
  | cons k ks =>
    obtain ⟨word, hword, rfl⟩ := hks k List.mem_cons_self
    have hmore : ∀ k ∈ ks, ∃ word ∈ modifierWords, k = some word := fun k hk => hks k (List.mem_cons_of_mem _ hk)
    obtain rfl | hpriority := List.mem_cons.mp hword
    · -- behind `IGNORE` no priority is looked for any more
      refine .cons (fun rs => ?_) (behindIgnore_modifiers hmore)
      rw [withoutFront, withoutConflict_of_notMem (by decide), withoutWord_of_notMem (by decide), behindPriority,
        withoutWord_of_mem (by decide)]
    · refine .cons (fun rs => ?_) (behindPriority_modifiers hmore)
      rw [withoutFront, withoutConflict_of_notMem (priority_notMem hpriority).1, withoutWord_of_mem hpriority]

/-! ## The table -/

/-- The name that a token is, where it is one. -/
def nameText? : Token → Option String
  | .word text _ => some text
  | .string .single body | .string .double body => some body
  | _ => none

/-- A name is one lexeme, and its text is that lexeme's. -/
theorem exists_of_ident {ls left : List Lexeme} {name : Ident} (h : ident.run ls = .ok (name, left)) :
    ∃ l, ls = l :: left ∧ nameText? l.token = some name.value := by
  cases ls with
  | nil => cases h
  | cons l ls =>
    replace h := (run_bind_of_ok (run_peek? (l :: ls))).symm.trans h
    rw [List.head?_cons] at h
    split at h
    iterate 3
      next heq =>
        cases heq
        cases h
        exact ⟨_, rfl, rfl⟩
    next => cases h

/-- A name has a part for its first lexeme, and goes on only behind a period. -/
theorem exists_of_dottedName {ls left : List Lexeme} {names : List Ident} (h : dottedName.run ls = .ok (names, left)) :
    ∃ l rest name more, ls = l :: rest ∧ names = name :: more ∧ nameText? l.token = some name.value ∧
      (rest.head?.map Lexeme.token ≠ some (.symbol .period) → left = rest) := by
  replace h : (dottedSteps ls).run ls = .ok (names, left) := h
  cases ls with
  | nil => cases h
  | cons l ls =>
    obtain ⟨name, rest, hname, h⟩ := run_bind_eq_ok_iff.mp h
    obtain ⟨l', hl', hvalue⟩ := exists_of_ident hname
    cases hl'
    obtain ⟨goesOn, rest', hperiod, h⟩ := run_bind_eq_ok_iff.mp h
    rw [run_acceptSymbol] at hperiod
    by_cases hmore : ls.head?.map Lexeme.token = some (.symbol .period)
    · rw [if_pos hmore] at hperiod
      cases hperiod
      obtain ⟨others, rest'', -, h⟩ := run_bind_eq_ok_iff.mp h
      cases h
      exact ⟨l, ls, name, others, rfl, rfl, hvalue, fun hne => absurd hmore hne⟩
    · rw [if_neg hmore] at hperiod
      cases hperiod
      cases h
      exact ⟨l, _, name, [], rfl, rfl, hvalue, fun _ => rfl⟩

/-! ## The data -/

/-- The words that the data of a statement may start with. -/
def sourceWords : List String :=
  ["DEFAULT", "PARTITION", "FORMAT", "SETTINGS", "SET", "WITH", "SELECT", "VALUES", "VALUE", "TABLE", "INSERT",
    "UPDATE", "DELETE", "MERGE"]

/-- Whether the data of a statement may start here. -/
def AtSource (ls : List Lexeme) : Prop :=
  ls.head?.map Lexeme.token = some (.symbol .leftParen) ∨
    ∃ word ∈ sourceWords, ls.head?.bind (·.token.keyword?) = some word

/-- Where none of some words stands, none of them is taken. -/
theorem run_oneOf?_of_notMem {words : List String} {ls : List Lexeme}
    (h : ∀ word ∈ words, ls.head?.bind (·.token.keyword?) ≠ some word) : (oneOf? words).run ls = .ok (none, ls) := by
  rw [oneOf?, run_bind_of_ok (run_peekKeyword? ls)]
  cases hk : ls.head?.bind (·.token.keyword?) with
  | none => rfl
  | some k =>
    have hmem : words.contains k = false := by
      rw [List.contains_eq_mem, decide_eq_false]
      exact fun hmem => h k hmem hk
    simp only [hmem, Bool.false_eq_true, if_false]
    rfl

/-- What starts with none of the words in front of a body is a body with what stands behind it. -/
theorem query_run_body {inner : Nested} {ls : List Lexeme}
    (h : ∀ word ∈ ["WITH", "INSERT", "UPDATE", "DELETE", "MERGE"], ls.head?.bind (·.token.keyword?) ≠ some word) :
    (query inner).run ls = (restOfQuery inner false []).run ls := by
  have hbindings : (bindings inner).run ls = .ok ((false, []), ls) := by
    rw [bindings, run_bind_of_ok (run_acceptKeyword_of_ne (h "WITH" (by decide)))]
    rfl
  have hchange : (change? inner).run ls = .ok (none, ls) := by
    cases ls with
    | nil => rfl
    | cons l ls =>
      rw [change?, run_bind_of_ok (run_peek? _)]
      simp only [List.head?_cons]
      rw [run_bind_of_ok (run_oneOf?_of_notMem fun word hmem => h word (List.mem_cons_of_mem _ hmem))]
      rfl
  rw [query, run_bind_of_ok hbindings]
  simp only
  rw [run_bind_of_ok hchange]

/-- Data that starts with no word of its own is a query. -/
theorem source_run_query {inner : Nested} {ls : List Lexeme}
    (hparen : ls.head?.map Lexeme.token ≠ some (.symbol .leftParen))
    (h : ∀ word ∈ ["DEFAULT", "PARTITION", "FORMAT", "SETTINGS", "SET"],
      ls.head?.bind (·.token.keyword?) ≠ some word) :
    (source inner).run ls = (do return { query := some (← inner.query) } : Reader Source).run ls := by
  have hcolumns : (optionalColumnList true).run ls = .ok ([], ls) := by
    rw [optionalColumnList, run_bind_of_ok (run_atSymbol _ ls), decide_eq_false hparen]
    rfl
  have hpartition : (behindKeyword "PARTITION" inner.valueList).run ls = .ok (none, ls) := by
    rw [behindKeyword, run_bind_of_ok (run_acceptKeyword_of_ne (h "PARTITION" (by decide)))]
    rfl
  rw [source, run_bind_of_ok (run_acceptKeywords_of_ne (h "DEFAULT" (by decide))), if_neg Bool.false_ne_true,
    run_bind_of_ok (run_atSymbol _ ls), decide_eq_false hparen,
    run_bind_of_ok (show peekFurther.run ls = .ok (_, ls) from rfl)]
  simp only [Bool.false_and, Bool.false_eq_true, if_false]
  rw [run_bind_of_ok hcolumns, run_bind_of_ok hpartition, run_bind_of_ok (run_atKeyword _ ls),
    decide_eq_false (h "FORMAT" (by decide)), run_bind_of_ok (run_atKeyword _ ls),
    decide_eq_false (h "SETTINGS" (by decide)), Bool.or_self, if_neg Bool.false_ne_true,
    run_bind_of_ok (run_acceptKeyword_of_ne (h "SET" (by decide))), if_neg Bool.false_ne_true]

/-- Where a body was read, one of the words stands that a source of rows starts with. -/
theorem atSource_of_simpleBody {inner : Nested} {ls left : List Lexeme} {body : Body}
    (h : (simpleBody inner).run ls = .ok (body, left)) : AtSource ls := by
  by_contra hsource
  have hparen : ls.head?.map Lexeme.token ≠ some (.symbol .leftParen) := fun h => hsource (.inl h)
  have hword (word : String) (hmem : word ∈ sourceWords) : ls.head?.bind (·.token.keyword?) ≠ some word :=
    fun h => hsource (.inr ⟨word, hmem, h⟩)
  rw [simpleBody, run_bind_of_ok (run_acceptKeyword_of_ne (hword "SELECT" (by decide))),
    if_neg Bool.false_ne_true, run_bind_of_ok (run_atSymbol _ ls), decide_eq_false hparen, if_neg Bool.false_ne_true,
    run_bind_of_ok (run_acceptKeyword_of_ne (hword "VALUES" (by decide))), if_neg Bool.false_ne_true,
    run_bind_of_ok (run_acceptKeyword_of_ne (hword "VALUE" (by decide))), if_neg Bool.false_ne_true,
    run_bind_of_ok (run_acceptKeyword_of_ne (hword "TABLE" (by decide))), if_neg Bool.false_ne_true,
    run_expected] at h
  cases h

/-- The data of a statement starts where it may start. -/
theorem atSource_of_source {levels : Nat} {ls left : List Lexeme} {found : Source}
    (h : (source (.upTo levels)).run ls = .ok (found, left)) : AtSource ls := by
  by_contra hsource
  have hparen : ls.head?.map Lexeme.token ≠ some (.symbol .leftParen) := fun h => hsource (.inl h)
  have hwords {words : List String} (hwords : words ⊆ sourceWords) :
      ∀ word ∈ words, ls.head?.bind (·.token.keyword?) ≠ some word :=
    fun word hmem h => hsource (.inr ⟨word, hwords hmem, h⟩)
  rw [source_run_query hparen (hwords (by decide))] at h
  obtain ⟨found, _, hquery, -⟩ := run_bind_eq_ok_iff.mp h
  cases levels with
  | zero => cases hquery
  | succ levels =>
    replace hquery : (query (.upTo levels)).run ls = .ok (found, _) := hquery
    rw [query_run_body (hwords (by decide))] at hquery
    obtain ⟨body, _, hbody, -⟩ := run_bind_eq_ok_iff.mp hquery
    exact hsource (atSource_of_simpleBody hbody)

/-- Whether a body lists rows. -/
def IsRows (body : Body) : Prop :=
  ∃ word explicit rows, body = .values word explicit rows

/-- A table that stands for its rows is no list of rows. -/
theorem not_isRows_of_restOfTable {ls left : List Lexeme} {body : Body} (h : restOfTable.run ls = .ok (body, left)) :
    ¬ IsRows body := by
  rintro ⟨word, explicit, rows, rfl⟩
  obtain ⟨first, _, _, h⟩ := run_bind_eq_ok_iff.mp h
  obtain ⟨second, _, _, h⟩ := run_bind_eq_ok_iff.mp h
  obtain ⟨third, _, _, h⟩ := run_bind_eq_ok_iff.mp h
  split at h
  next =>
    obtain ⟨schema, _, _, h⟩ := run_bind_eq_ok_iff.mp h
    obtain ⟨name, _, _, h⟩ := run_bind_eq_ok_iff.mp h
    cases h
  next =>
    obtain ⟨name, _, _, h⟩ := run_bind_eq_ok_iff.mp h
    cases h

/-- What is joined to a body that is no list of rows is none either. -/
theorem not_isRows_of_bodies {inner : Nested} {least : Nat} {bound ls left : List Lexeme} {first body : Body}
    (hfirst : ¬ IsRows first) (h : (bodies inner least bound first).run ls = .ok (body, left)) : ¬ IsRows body := by
  induction bound generalizing first ls with
  | nil =>
    cases h
    exact hfirst
  | cons _ bound ih =>
    obtain ⟨op, _, _, h⟩ := run_bind_eq_ok_iff.mp h
    cases op with
    | none =>
      cases h
      exact hfirst
    | some op =>
      simp only at h
      split at h
      next =>
        cases h
        exact hfirst
      next =>
        obtain ⟨_, _, _, h⟩ := run_bind_eq_ok_iff.mp h
        obtain ⟨mode, _, _, h⟩ := run_bind_eq_ok_iff.mp h
        obtain ⟨next, _, _, h⟩ := run_bind_eq_ok_iff.mp h
        obtain ⟨right, _, _, h⟩ := run_bind_eq_ok_iff.mp h
        refine ih ?_ h
        rintro ⟨word, explicit, rows, heq⟩
        cases heq

/-- Data that starts with the word `TABLE` lists no rows. -/
theorem source_of_table {levels : Nat} {l : Lexeme} {ls left : List Lexeme} {found : Source}
    (hl : l.token.keyword? = some "TABLE") (h : (source (.upTo levels)).run (l :: ls) = .ok (found, left)) :
    ∃ query, found.query = some query ∧ ¬ IsRows query.body := by
  have hparen : (l :: ls).head?.map Lexeme.token ≠ some (.symbol .leftParen) := by
    intro heq
    have htoken : l.token = .symbol .leftParen := Option.some.inj heq
    rw [htoken] at hl
    cases hl
  have hwords {words : List String} (hwords : "TABLE" ∉ words) :
      ∀ word ∈ words, (l :: ls).head?.bind (·.token.keyword?) ≠ some word := by
    rintro word hmem heq
    rw [List.head?_cons, Option.bind_some, hl] at heq
    cases heq
    exact hwords hmem
  rw [source_run_query hparen (hwords (by decide))] at h
  obtain ⟨found, _, hquery, h⟩ := run_bind_eq_ok_iff.mp h
  cases h
  refine ⟨found, rfl, ?_⟩
  cases levels with
  | zero => cases hquery
  | succ levels =>
    -- a query that starts with `TABLE` has that as its first body, and set operations make no rows of it
    replace hquery : (query (.upTo levels)).run (l :: ls) = .ok (found, _) := hquery
    rw [query_run_body (hwords (by decide))] at hquery
    obtain ⟨first, after, hfirst, hrest⟩ := run_bind_eq_ok_iff.mp hquery
    have htable : (simpleBody (.upTo levels)).run (l :: ls) = restOfTable.run ls := by
      have hword : (l :: ls).head?.bind (·.token.keyword?) = some "TABLE" := hl
      rw [simpleBody, run_bind_of_ok (run_acceptKeyword_of_ne (by rw [hword]; decide)), if_neg Bool.false_ne_true,
        run_bind_of_ok (run_atSymbol _ _), decide_eq_false hparen, if_neg Bool.false_ne_true,
        run_bind_of_ok (run_acceptKeyword_of_ne (by rw [hword]; decide)), if_neg Bool.false_ne_true,
        run_bind_of_ok (run_acceptKeyword_of_ne (by rw [hword]; decide)), if_neg Bool.false_ne_true,
        run_bind_of_ok (run_acceptKeyword_of_eq hword), if_pos rfl]
      rfl
    rw [htable] at hfirst
    obtain ⟨bound, _, _, hrest⟩ := run_bind_eq_ok_iff.mp hrest
    obtain ⟨body, _, hbody, hrest⟩ := run_bind_eq_ok_iff.mp hrest
    obtain ⟨order, _, _, hrest⟩ := run_bind_eq_ok_iff.mp hrest
    obtain ⟨limit, _, _, hrest⟩ := run_bind_eq_ok_iff.mp hrest
    obtain ⟨fetch, _, _, hrest⟩ := run_bind_eq_ok_iff.mp hrest
    obtain ⟨bound, _, _, hrest⟩ := run_bind_eq_ok_iff.mp hrest
    obtain ⟨locks, _, _, hrest⟩ := run_bind_eq_ok_iff.mp hrest
    cases hrest
    exact not_isRows_of_bodies (not_isRows_of_restOfTable hfirst) hbody

/-! ## The statement -/

/-- A statement names its table, behind one or two words that may stand before it, and its data follows. -/
theorem exists_of_restOfInsertion {inner : Nested} {lead : Option String} {replaces : Bool} {front : Front}
    {ls left : List Lexeme} {node : Insertion}
    (h : (restOfInsertion inner lead replaces front).run ls = .ok (.insert node, left)) :
    ∃ skipped l rest name more, ls = skipped ++ l :: rest ∧
      (∀ word ∈ skipped, word.token.keyword? = some "LOCAL" ∨ word.token.keyword? = some "TABLE") ∧
      nameText? l.token = some name.value ∧ node.target = .table (.ofIdents (name :: more)) ∧
      (rest.head?.map Lexeme.token ≠ some (.symbol .period) →
        ∃ data after, (source inner).run rest = .ok (data, after) ∧ node.source = data.query) := by
  obtain ⟨isLocal, ls₁, hlocal, h⟩ := run_bind_eq_ok_iff.mp h
  obtain ⟨isDirectory, ls₂, hdirectory, h⟩ := run_bind_eq_ok_iff.mp h
  cases isDirectory with
  | true =>
    obtain ⟨_, _, _, h⟩ := run_bind_eq_ok_iff.mp h
    obtain ⟨_, _, _, h⟩ := run_bind_eq_ok_iff.mp h
    obtain ⟨_, _, _, h⟩ := run_bind_eq_ok_iff.mp h
    cases h
  | false =>
    obtain ⟨tableWord, ls₃, htable, h⟩ := run_bind_eq_ok_iff.mp h
    obtain ⟨names, ls₄, hnames, h⟩ := run_bind_eq_ok_iff.mp h
    obtain ⟨data, ls₅, hdata, h⟩ := run_bind_eq_ok_iff.mp h
    obtain ⟨_, _, _, h⟩ := run_bind_eq_ok_iff.mp h
    obtain ⟨_, _, _, h⟩ := run_bind_eq_ok_iff.mp h
    obtain ⟨_, _, _, h⟩ := run_bind_eq_ok_iff.mp h
    cases h
    obtain ⟨first, rfl, hfirst⟩ := exists_of_acceptKeyword hlocal
    rw [left_of_acceptKeyword hdirectory] at htable
    obtain ⟨second, rfl, hsecond⟩ := exists_of_acceptKeyword htable
    obtain ⟨l, rest, name, more, rfl, rfl, hname, hstop⟩ := exists_of_dottedName hnames
    refine ⟨first ++ second, l, rest, name, more, by rw [List.append_assoc], ?_, hname, rfl, ?_⟩
    · intro word hword
      obtain hword | hword := List.mem_append.mp hword
      · exact .inl (keyword_of_taken hfirst word hword)
      · exact .inr (keyword_of_taken hsecond word hword)
    · intro hperiod
      rw [hstop hperiod] at hdata
      exact ⟨data, ls₅, hdata, rfl⟩

/-- A statement with other words before its table. -/
def withFront (node : Insertion) (front : Front) : Insertion :=
  { node with
    conflict := front.conflict
    priority := front.priority
    ignore := front.ignore
    overwrite := front.overwrite
    into := front.into }

/-- The words before the table are noted, and decide nothing about how a statement is read behind them. -/
theorem restOfInsertion_withFront {inner : Nested} {lead : Option String} {replaces : Bool} {front : Front}
    {ls left : List Lexeme} {node : Insertion} (front' : Front)
    (h : (restOfInsertion inner lead replaces front).run ls = .ok (.insert node, left)) :
    (restOfInsertion inner lead replaces front').run ls = .ok (.insert (withFront node front'), left) := by
  obtain ⟨isLocal, ls₁, hlocal, h⟩ := run_bind_eq_ok_iff.mp h
  obtain ⟨isDirectory, ls₂, hdirectory, h⟩ := run_bind_eq_ok_iff.mp h
  cases isDirectory with
  | true =>
    obtain ⟨_, _, _, h⟩ := run_bind_eq_ok_iff.mp h
    obtain ⟨_, _, _, h⟩ := run_bind_eq_ok_iff.mp h
    obtain ⟨_, _, _, h⟩ := run_bind_eq_ok_iff.mp h
    cases h
  | false =>
    obtain ⟨tableWord, ls₃, htable, h⟩ := run_bind_eq_ok_iff.mp h
    obtain ⟨names, ls₄, hnames, h⟩ := run_bind_eq_ok_iff.mp h
    obtain ⟨data, ls₅, hdata, h⟩ := run_bind_eq_ok_iff.mp h
    obtain ⟨rowName, ls₆, halias, h⟩ := run_bind_eq_ok_iff.mp h
    obtain ⟨onInsert, ls₇, hinsert, h⟩ := run_bind_eq_ok_iff.mp h
    obtain ⟨returning, ls₈, hreturning, h⟩ := run_bind_eq_ok_iff.mp h
    cases h
    rw [restOfInsertion, run_bind_of_ok hlocal, run_bind_of_ok hdirectory, if_neg Bool.false_ne_true,
      run_bind_of_ok htable, run_bind_of_ok hnames, run_bind_of_ok hdata, run_bind_of_ok halias,
      run_bind_of_ok hinsert, run_bind_of_ok hreturning]
    rfl

end InsertPivot.Sql.Reader
