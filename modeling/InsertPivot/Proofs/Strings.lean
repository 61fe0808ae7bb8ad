import InsertPivot.Proofs.Joining
import InsertPivot.Proofs.Sources

/-!
# Strings keep their meaning

A value that was written as strings side by side is read as one string of the first one's kind, and is written as
such. The string that is written is always the one that was read where the value was one string; where it was
several, it denotes what these denoted one behind the other exactly where no quote meets another at a seam.

Which value some strings are follows from where its lexemes end: everything that goes on behind an operand takes a
lexeme, so where nothing is taken behind the strings they are the whole value.
-/

namespace InsertPivot

namespace Sql.Reader

variable {α : Type} {r : Reader α} {ls left : List Lexeme} {inner : Nested}

/-! ## What takes a lexeme -/

/-- A reader that takes at least this many lexemes wherever it yields something. -/
def Takes (n : Nat) (r : Reader α) : Prop :=
  ∀ ls a left, r.run ls = .ok (a, left) → left.length + n ≤ ls.length

/-- A reader that goes forward never leaves more lexemes than there were. -/
theorem Forward.takes_zero (r : Reader α) [hr : Forward r] : Takes 0 r :=
  fun _ _ _ h => (hr.left_suffix h).length_le

/-- A reader behind a lexeme that is skipped takes one lexeme more. -/
theorem takes_skip {n : Nat} (h : Takes n r) {l : Lexeme} {a : α}
    (hrun : (skip >>= fun _ => r).run (l :: ls) = .ok (a, left)) :
    left.length + n < (l :: ls).length := by
  rw [run_bind_of_ok (run_skip _)] at hrun
  exact Nat.lt_succ_of_le (h _ _ _ hrun)

/-- A keyword counts where it is taken. -/
theorem takes_acceptKeyword {n : Nat} {keyword : String} {f : Bool → Reader α}
    (h : ∀ taken, Takes (n - taken.toNat) (f taken)) :
    Takes n (acceptKeyword keyword >>= f) := by
  intro ls a left hrun
  obtain ⟨taken, middle, htaken, hrun⟩ := run_bind_eq_ok_iff.mp hrun
  have hle := h taken _ _ _ hrun
  rw [run_acceptKeyword] at htaken
  split at htaken
  next hkeyword =>
    cases htaken
    cases ls with
    | nil => cases hkeyword
    | cons l ls =>
      rw [List.tail_cons, Bool.toNat_true] at hle
      rw [List.length_cons]
      omega
  next =>
    cases htaken
    simpa using hle

/-- A keyword is taken, or another reader goes on. -/
theorem takes_choice {keyword : String} {yes no : Reader α} [Forward yes] (h : Takes 1 no) :
    Takes 1 (do if ← acceptKeyword keyword then yes else no) := by
  refine takes_acceptKeyword fun taken => ?_
  cases taken with
  | true => exact Forward.takes_zero yes
  | false => exact h

variable [inner.Forward]

/-- A test that a keyword makes takes the keyword. -/
theorem takes_wordTest (e : Expr) : Takes 1 (wordTest inner e) := by
  refine takes_acceptKeyword fun negated => takes_acceptKeyword fun regexp => takes_acceptKeyword fun rlike =>
    takes_acceptKeyword fun null => ?_
  have hlast : Takes 1 (do
      if ← acceptKeywords ["SIMILAR", "TO"] then restOfLike inner .similar e negated
      else expected "IN or BETWEEN after NOT" : Reader Expr) := by
    intro ls a left hrun
    obtain ⟨taken, middle, htaken, hrun⟩ := run_bind_eq_ok_iff.mp hrun
    rw [run_acceptKeywords] at htaken
    split at htaken
    next hkeywords =>
      cases htaken
      have hle := Forward.takes_zero _ _ _ _ hrun
      have hlength := congrArg List.length hkeywords
      simp only [List.length_map, List.length_take, List.length_cons, List.length_nil] at hlength
      rw [List.length_drop] at hle
      simp only [List.length_cons, List.length_nil] at hle
      omega
    next =>
      cases htaken
      simp at hrun
  have hothers : Takes 1 (do
      if ← acceptKeyword "IN" then restOfIn inner e negated
      else if ← acceptKeyword "BETWEEN" then restOfBetween inner e negated
      else if ← acceptKeyword "LIKE" then restOfLike inner .like e negated
      else if ← acceptKeyword "ILIKE" then restOfLike inner .ilike e negated
      else if ← acceptKeywords ["SIMILAR", "TO"] then restOfLike inner .similar e negated
      else expected "IN or BETWEEN after NOT" : Reader Expr) :=
    takes_choice (takes_choice (takes_choice (takes_choice hlast)))
  by_cases hnone : negated = false ∧ regexp = false ∧ rlike = false ∧ null = false
  · obtain ⟨rfl, rfl, rfl, rfl⟩ := hnone
    exact hothers
  · have hzero : 1 - negated.toNat - regexp.toNat - rlike.toNat - null.toNat = 0 := by
      cases negated <;> cases regexp <;> cases rlike <;> cases null <;> first | rfl | exact absurd (by decide) hnone
    rw [hzero]
    exact Forward.takes_zero _

/-- What goes on behind an expression takes a lexeme, or leaves the expression as it is. -/
theorem eq_of_continued {e e' : Expr} {tightness : Nat} (h : (continued inner e tightness).run ls = .ok (e', left))
    (hle : ls.length ≤ left.length) : e' = e := by
  rw [continued, run_bind_of_ok (run_peek? ls)] at h
  cases ls with
  | nil =>
    cases h
    rfl
  | cons l ls =>
    have hskip {rest : Reader Expr} [Forward rest] (h : (skip >>= fun _ => rest).run (l :: ls) = .ok (e', left)) : e' = e :=
      absurd (takes_skip (Forward.takes_zero rest) h) (by omega)
    simp only [List.head?_cons] at h
    split at h
    · exact hskip h
    split at h
    · cases h
      rfl
    split at h
    · exact hskip h
    split at h
    · exact hskip h
    · exact hskip h
    · exact hskip h
    · exact hskip h
    · cases h
    · cases h
    · exact absurd (takes_wordTest e _ _ _ h) (by omega)

/-- Where nothing is taken behind an operand, the operand is the expression. -/
theorem eq_of_climb {least : Nat} {bound : List Lexeme} {e e' : Expr}
    (h : (climb inner least bound e).run ls = .ok (e', left))
    (hle : ls.length ≤ left.length) : e' = e := by
  induction bound generalizing e ls with
  | nil =>
    cases h
    rfl
  | cons l bound ih =>
    obtain ⟨tightness, middle, htightness, h⟩ := run_bind_eq_ok_iff.mp h
    have hmiddle := Forward.takes_zero _ _ _ _ htightness
    split at h
    · cases h
      rfl
    · obtain ⟨next, behind, hnext, h⟩ := run_bind_eq_ok_iff.mp h
      have hbehind := Forward.takes_zero _ _ _ _ hnext
      have hleft := Forward.takes_zero _ _ _ _ h
      rw [ih h (by omega)]
      exact eq_of_continued hnext (by omega)

/-- Where nothing is taken behind an operand, it has no collation. -/
theorem eq_of_collated {e e' : Expr} (h : (collated e).run ls = .ok (e', left)) (hle : ls.length ≤ left.length) :
    e' = e := by
  obtain ⟨taken, middle, htaken, h⟩ := run_bind_eq_ok_iff.mp h
  cases taken with
  | false =>
    cases h
    rfl
  | true =>
    have hlt : middle.length + 1 ≤ ls.length := by
      rw [run_acceptKeyword] at htaken
      split at htaken
      next hkeyword =>
        cases htaken
        cases ls with
        | nil => cases hkeyword
        | cons l ls => exact Nat.le_refl _
      next => cases htaken
    have hleft := Forward.takes_zero _ _ _ _ h
    omega

/-- Where nothing is taken behind an operand, it has no path. -/
theorem eq_nil_of_path {bound : List Lexeme} {steps : List Access} (h : (path inner bound).run ls = .ok (steps, left))
    (hle : ls.length ≤ left.length) : steps = [] := by
  cases bound with
  | nil =>
    cases h
    rfl
  | cons l bound =>
    have htaken {symbol : Symbol} {rest : Reader (List Access)} [Forward rest] {here behind : List Lexeme}
        (h : (acceptSymbol symbol).run here = .ok (true, behind)) (hrest : rest.run behind = .ok (steps, left)) :
        left.length < here.length := by
      have hleft := Forward.takes_zero rest _ _ _ hrest
      rw [run_acceptSymbol] at h
      split at h
      next hsymbol =>
        cases h
        cases here with
        | nil => cases hsymbol
        | cons l here => exact Nat.lt_succ_of_le hleft
      next => cases h
    obtain ⟨star, behindStar, hstar, h⟩ := run_bind_eq_ok_iff.mp h
    have hle₁ := Forward.takes_zero _ _ _ _ hstar
    split at h
    · cases h
      rfl
    obtain ⟨period, behindPeriod, hperiod, h⟩ := run_bind_eq_ok_iff.mp h
    have hle₂ := Forward.takes_zero _ _ _ _ hperiod
    split at h
    next htrue =>
      subst htrue
      have hlt := htaken hperiod h
      omega
    obtain ⟨bracket, behindBracket, hbracket, h⟩ := run_bind_eq_ok_iff.mp h
    split at h
    next htrue =>
      subst htrue
      have hlt := htaken hbracket h
      omega
    · cases h
      rfl

/-! ## Strings side by side as a value -/

/-- The bodies of strings side by side are theirs and those of the strings that follow. -/
theorem adjacentBodies_append {strings : List Quoted} {here : List Lexeme}
    (h : here.map Lexeme.token = strings.map Quoted.token) (behind : List Lexeme) :
    adjacentBodies (here ++ behind) =
      (strings.map (·.body) ++ (adjacentBodies behind).1, (adjacentBodies behind).2) := by
  induction strings generalizing here with
  | nil =>
    rw [List.map_eq_nil_iff.mp h]
    rfl
  | cons q strings ih =>
    obtain ⟨l, here, rfl, hl, hhere⟩ := List.map_eq_cons_iff.mp h
    have htoken : l.token = .string q.kind q.body := hl
    rw [List.cons_append, adjacentBodies, htoken, ih hhere]
    obtain hkind | hkind := q.kind_eq <;> rw [hkind] <;> rfl

/-- Where no string is taken, there are no bodies. -/
theorem adjacentBodies_eq_nil (h : (adjacentBodies ls).2 = ls) : (adjacentBodies ls).1 = [] := by
  cases ls with
  | nil => rfl
  | cons l ls =>
    have hne : (adjacentBodies ls).2 ≠ l :: ls := by
      intro heq
      have hle := (adjacentBodies_suffix ls).length_le
      rw [heq, List.length_cons] at hle
      omega
    unfold adjacentBodies at h ⊢
    split at h
    · exact absurd h hne
    · exact absurd h hne
    · rfl

/-- A string is read with the strings beside it. -/
theorem run_literal_string {q : Quoted} {l : Lexeme} (hl : l.token = q.token) (ls : List Lexeme) :
    literal.run (l :: ls) =
      .ok ((Quoted.literal ⟨q.inDouble, String.join (q.body :: (adjacentBodies ls).1)⟩, l.span), (adjacentBodies ls).2) := by
  obtain ⟨inDouble, body⟩ := q
  rw [literal, run_bind_of_ok (run_next? _)]
  cases inDouble <;>
  · simp only [List.head?_cons, List.tail_cons, hl, Quoted.token, Quoted.kind]
    rfl

omit [inner.Forward] in
/-- Strings are read as one literal, with the strings behind them. -/
theorem run_bareOperand_strings {first : Quoted} {others : List Quoted} {here : List Lexeme}
    (h : here.map Lexeme.token = (first :: others).map Quoted.token) (behind : List Lexeme) :
    ∃ span, (bareOperand inner).run (here ++ behind) =
      (collated (.literal (Quoted.literal
        ⟨first.inDouble, String.join (first.body :: (others.map (·.body) ++ (adjacentBodies behind).1))⟩) span)).run
          (adjacentBodies behind).2 := by
  obtain ⟨l, here, rfl, hl, hhere⟩ := List.map_eq_cons_iff.mp h
  refine ⟨l.span, ?_⟩
  have hliteral := run_literal_string hl (here ++ behind)
  rw [adjacentBodies_append hhere] at hliteral
  have htoken : l.token = .string first.kind first.body := hl
  rw [List.cons_append, bareOperand, run_bind_of_ok (run_peek? _)]
  simp only [List.head?_cons, htoken]
  rw [run_bind_of_ok hliteral]

/-- Where nothing is taken behind strings side by side, they are the value. -/
theorem exists_of_strings {levels : Nat} {first : Quoted} {others : List Quoted} {here behind : List Lexeme}
    {value : Expr}
    (htokens : here.map Lexeme.token = (first :: others).map Quoted.token)
    (h : (Nested.upTo levels).value.run (here ++ behind) = .ok (value, behind)) :
    ∃ span, value = .literal (first.joined others).literal span := by
  cases levels with
  | zero => cases h
  | succ levels =>
    replace h : (expression (.upTo levels) 0).run (here ++ behind) = .ok (value, behind) := h
    obtain ⟨first', middle, hoperand, h⟩ := run_bind_eq_ok_iff.mp h
    obtain ⟨bound, middle', hbound, h⟩ := run_bind_eq_ok_iff.mp h
    cases hbound
    obtain ⟨root, behindRoot, hroot, hoperand⟩ := run_bind_eq_ok_iff.mp hoperand
    replace hoperand : (path (.upTo levels) behindRoot >>= fun steps => pure (joined root steps)).run behindRoot =
      .ok (first', middle) := hoperand
    obtain ⟨steps, behindSteps, hsteps, hjoined⟩ := run_bind_eq_ok_iff.mp hoperand
    cases hjoined
    obtain ⟨span, hstrings⟩ := @run_bareOperand_strings (.upTo levels) _ _ _ htokens behind
    rw [hstrings] at hroot
    -- readers go forward, so nothing is taken behind the strings
    have hle₁ := (adjacentBodies_suffix behind).length_le
    have hle₂ := Forward.takes_zero _ _ _ _ hroot
    have hle₃ := Forward.takes_zero _ _ _ _ hsteps
    have hle₄ := Forward.takes_zero _ _ _ _ h
    have hbehind : (adjacentBodies behind).2 = behind := (adjacentBodies_suffix behind).eq_of_length (by omega)
    rw [adjacentBodies_eq_nil hbehind, List.append_nil] at hroot
    refine ⟨span, ?_⟩
    rw [eq_of_climb h (by omega), eq_nil_of_path hsteps (by omega), eq_of_collated hroot (by omega)]
    rfl

end Sql.Reader

namespace Sql.Lexeme

/-- Each lexeme is one of the pieces. -/
theorem mem_of_ofPieces {placed : List (Piece × Text.Span)} {l : Lexeme} (h : l ∈ ofPieces placed) :
    .token l.token ∈ placed.map Prod.fst := by
  induction placed with
  | nil => cases h
  | cons piece placed ih =>
    obtain ⟨token | blank, span⟩ := piece
    · obtain rfl | h := List.mem_cons.mp h
      · exact List.mem_cons_self
      · exact List.mem_cons_of_mem _ (ih h)
    · exact List.mem_cons_of_mem _ (ih h)

/-- A string among the lexemes of a text stands in the text, and has a body that a string can have. -/
theorem string_of_ofText {text : String} {ls : List Lexeme} (hls : ofText text = .ok ls) {q : Quoted} {l : Lexeme}
    (hl : l ∈ ls)
    (htoken : l.token = q.token) : q.token.Whole ∧ q.text.toList <:+: text.toList := by
  cases hplaced : piecesOf text with
  | error fault =>
    rw [ofText, hplaced] at hls
    cases hls
  | ok placed =>
    rw [ofText, hplaced] at hls
    cases hls
    have hkinds : kinds none 0 text.toList = some (placed.map Prod.fst) := by
      rw [kinds_eq .start, show pieces .start none 0 text.toList = .ok placed from hplaced]
      rfl
    have hmem := mem_of_ofPieces hl
    rw [htoken] at hmem
    exact string_of_kinds hkinds q.kind_eq hmem

end Sql.Lexeme

open Sql (Expr Lexeme Nested Quoted Denotes Seamless)

/-- Where a value is read from: lexemes that stand one behind the other in a text, as which the reader of values reads
the value, and behind which it takes nothing. -/
def ReadFrom (text : String) (source : List Lexeme) (value : Expr) : Prop :=
  ∃ lexemes levels behind, Lexeme.ofText text = .ok lexemes ∧ source ++ behind <:+ lexemes ∧
    (Sql.Nested.upTo levels).value.run (source ++ behind) = .ok (value, behind)

/-- Each value of a statement is read from somewhere in the text. -/
theorem exists_readFrom {text : String} {ts : List Insert} (h : readInserts text = .ok ts) :
    ∀ t ∈ ts, ∀ value ∈ t.allValues, ∃ source, ReadFrom text source value := by
  obtain ⟨ps, hps⟩ := exists_kinds_of_readInserts h
  obtain ⟨placed, hplaced, -⟩ := exists_piecesOf hps
  obtain ⟨-, hreads⟩ := (readInserts_ok_iff hplaced).mp h
  intro t ht value hvalue
  obtain ⟨levels, here, behind, hhere, hrun⟩ := hreads.valueIn t ht value hvalue
  obtain ⟨source, rfl⟩ := (inferInstance : Sql.Reader.Forward (Sql.Nested.upTo levels).value).left_suffix hrun
  exact ⟨source, Lexeme.ofPieces placed, levels, behind, by rw [Lexeme.ofText, hplaced]; rfl, hhere, hrun⟩

/-- The literal that a value is, with its place. -/
def Sql.Expr.literal? : Expr → Option (Sql.Literal × Text.Span)
  | .literal found span => some (found, span)
  | _ => none

/-- A text whose one value is a literal, and is read from the last lexemes of the text. -/
theorem exists_readFrom_literal {text : String} {taken : Nat} {found : Sql.Literal × Text.Span} {strings : List Quoted}
    (hvalues : (readInserts text).toOption.map (List.map fun t => t.allValues.map Expr.literal?) = some [[some found]])
    (hstrings : (Lexeme.ofText text).toOption.map (fun ls => (ls.drop taken).map Lexeme.token) = some (strings.map Quoted.token))
    (hrun : (Lexeme.ofText text).toOption.bind (fun ls => ((Nested.upTo 1).value.run (ls.drop taken)).toOption.map
      fun read => (read.1.literal?, read.2)) = some (some found, [])) :
    ∃ ts, readInserts text = .ok ts ∧ ∃ t ∈ ts, ∃ value ∈ t.allValues, value = .literal found.1 found.2 ∧
      ∃ source, ReadFrom text source value ∧ source.map Lexeme.token = strings.map Quoted.token := by
  have heq {value : Expr} (h : value.literal? = some found) : value = .literal found.1 found.2 := by
    unfold Expr.literal? at h
    split at h <;> cases h
    rfl
  cases hts : readInserts text with
  | error fault =>
    rw [hts] at hvalues
    cases hvalues
  | ok ts =>
    rw [hts] at hvalues
    obtain ⟨t, rfl, ht⟩ := List.map_eq_singleton_iff.mp (Option.some.inj hvalues)
    obtain ⟨value, hvalue, hfound⟩ := List.map_eq_singleton_iff.mp ht
    refine ⟨[t], rfl, t, List.mem_singleton.mpr rfl, value, by rw [hvalue]; exact List.mem_singleton.mpr rfl,
      heq hfound, ?_⟩
    cases hls : Lexeme.ofText text with
    | error fault =>
      rw [hls] at hrun
      cases hrun
    | ok ls =>
      rw [hls] at hrun hstrings
      refine ⟨ls.drop taken, ⟨ls, 1, [], hls, ?_, ?_⟩, Option.some.inj hstrings⟩
      · rw [List.append_nil]
        exact List.drop_suffix taken ls
      · rw [List.append_nil]
        obtain ⟨⟨read, left⟩, hread, hpair⟩ := Option.map_eq_some_iff.mp hrun
        obtain ⟨hliteral, hleft⟩ := Prod.mk.inj hpair
        cases hresult : (Nested.upTo 1).value.run (ls.drop taken) with
        | error fault =>
          rw [hresult] at hread
          cases hread
        | ok result =>
          rw [hresult] at hread
          obtain rfl : result = (read, left) := Option.some.inj hread
          rw [heq hfound, ← heq hliteral, ← hleft]

/-- A value that stands in a text as strings side by side is written as one string of the first one's kind. It denotes
what the strings denote one behind the other exactly where no quote meets another at a seam, and a string alone is
written as it stands in the text. -/
theorem readInserts_strings {text : String} {ts : List Insert} (h : readInserts text = .ok ts) :
    ∀ t ∈ ts, ∀ value ∈ t.allValues, (∃ source, ReadFrom text source value) ∧
      ∀ source, ReadFrom text source value → ∀ first others,
        source.map Lexeme.token = (first :: others).map Quoted.token →
          (Denotes value.text ((first :: others).flatMap Quoted.meaning) ↔ Seamless (first :: others)) ∧
            (others = [] → value.text = first.text ∧ first.text.toList <:+: text.toList) := by
  intro t ht value hvalue
  refine ⟨exists_readFrom h t ht value hvalue, ?_⟩
  rintro source ⟨lexemes, levels, behind, hlexemes, hsource, hrun⟩ first others htokens
  obtain ⟨span, rfl⟩ := Sql.Reader.exists_of_strings htokens hrun
  have hstring : ∀ q ∈ first :: others, q.token.Whole ∧ q.text.toList <:+: text.toList := by
    intro q hq
    have hmem : q.token ∈ source.map Lexeme.token := htokens ▸ List.mem_map_of_mem hq
    obtain ⟨l, hl, htoken⟩ := List.mem_map.mp hmem
    exact Lexeme.string_of_ofText hlexemes (hsource.subset (List.mem_append_left _ hl)) htoken
  refine ⟨Sql.denotes_joined_iff fun q hq => (hstring q hq).1, ?_⟩
  rintro rfl
  have hjoined : first.joined [] = first := by
    simp [Quoted.joined]
  obtain ⟨hwhole, hinfix⟩ := hstring first List.mem_cons_self
  rw [hjoined]
  exact ⟨Quoted.text_literal_of_whole hwhole, hinfix⟩

theorem readInserts_strings_apostrophe :
    (∃ ts, readInserts "INSERT INTO t SET a = 'it' \"'s\"" = .ok ts ∧ ∃ t ∈ ts, ∃ value ∈ t.allValues,
        value.text = "'it''s'" ∧ Denotes value.text "it's".toList) ∧
      ∃ ts, readInserts "INSERT INTO t SET a = 'it\\'s'" = .ok ts ∧ ∃ t ∈ ts, ∃ value ∈ t.allValues,
        value.text = (⟨false, "it\\'s"⟩ : Quoted).text := by
  constructor
  · obtain ⟨ts, hts, t, ht, value, hvalue, hliteral, source, hsource, htokens⟩ :=
      @exists_readFrom_literal "INSERT INTO t SET a = 'it' \"'s\"" 6 (.single "it's", ⟨⟨1, 23⟩, ⟨1, 27⟩⟩)
        [⟨false, "it"⟩, ⟨true, "'s"⟩] (by decide +kernel) (by decide +kernel) (by decide +kernel)
    have hseamless : Seamless [⟨false, "it"⟩, ⟨true, "'s"⟩] := ⟨true, rfl, true, rfl, _, rfl, _, rfl, trivial⟩
    refine ⟨ts, hts, t, ht, value, hvalue, by rw [hliteral]; decide +kernel, ?_⟩
    exact (((readInserts_strings hts t ht value hvalue).2 source hsource _ _ htokens).1.mpr hseamless :)
  · obtain ⟨ts, hts, t, ht, value, hvalue, -, source, hsource, htokens⟩ :=
      @exists_readFrom_literal "INSERT INTO t SET a = 'it\\'s'" 6 (.single "it\\'s", ⟨⟨1, 23⟩, ⟨1, 30⟩⟩)
        [⟨false, "it\\'s"⟩] (by decide +kernel) (by decide +kernel) (by decide +kernel)
    exact ⟨ts, hts, t, ht, value, hvalue, (((readInserts_strings hts t ht value hvalue).2 source hsource _ _ htokens).2 rfl).1⟩

/-- Two quotes of the other kind that stand side by side in a later string are taken for one quote that is doubled. -/
theorem not_readInserts_strings :
    (readInserts "INSERT INTO t SET a = 'x' \"b''c\"").toOption.map (List.map (·.allValues.map Expr.text)) =
    some [["'xb''c'"]] ∧
      ¬ ∀ text ts, readInserts text = .ok ts → ∀ t ∈ ts, ∀ value ∈ t.allValues, ∀ source, ReadFrom text source value →
        ∀ first others, source.map Lexeme.token = (first :: others).map Quoted.token →
          Denotes value.text ((first :: others).flatMap Quoted.meaning) := by
  refine ⟨by decide +kernel, fun all => ?_⟩
  obtain ⟨ts, hts, t, ht, value, hvalue, hliteral, source, hsource, htokens⟩ :=
    @exists_readFrom_literal "INSERT INTO t SET a = 'x' \"b''c\"" 6 (.single "xb''c", ⟨⟨1, 23⟩, ⟨1, 26⟩⟩)
      [⟨false, "x"⟩, ⟨true, "b''c"⟩] (by decide +kernel) (by decide +kernel) (by decide +kernel)
  have hdenotes := all _ _ hts t ht value hvalue source hsource _ _ htokens
  have htext : value.text = (⟨false, "xb''c"⟩ : Quoted).text := by
    rw [hliteral]
    decide +kernel
  rw [htext, Sql.denotes_iff] at hdenotes
  exact absurd hdenotes (by decide +kernel)

end InsertPivot
