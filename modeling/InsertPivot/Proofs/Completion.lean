import InsertPivot.Proofs.Front
import InsertPivot.Proofs.Heading

/-!
# What completing a heading keeps

`Heading.complete` writes `INTO` behind the modifiers that it sees. A text that is read as `INSERT`s without
it is not always read as the same `INSERT`s with it: in `INSERT IGNORE$t SET a = 1` the heading sees the
modifier `IGNORE` and the reader a table `IGNORE$t`, so with `INTO` written in the rows go to `INTO$t`.

`Heading.agrees` says when the two see the same: the words that the reader takes before the table are as many
as the modifiers of the heading. This is exactly when completing the heading keeps what is read.
-/

namespace InsertPivot

open Sql (Lexeme Statement Insertion Nested unplaced)
open Sql.Lexeme (Piece bare kinds)
open Sql.Reader (keywords front withoutFront restOfInsertion)

/-! ## The first statement -/

/-- How many levels deep the data of a statement may nest. -/
def dataLevels : Nat := 49

/-- What is read behind a statement does not depend on the statement. -/
theorem statementSteps_behind {bound : Nat} {ls left rest : List Lexeme} {found : Statement} {all : List Statement}
    (hfound : Sql.Reader.statement?.run ls = .ok (some found, left))
    (h : (Sql.Reader.statementSteps (bound + 1)).run ls = .ok (all, rest)) :
    ∃ others, all = found :: others ∧ ∀ ls' found', Sql.Reader.statement?.run ls' = .ok (some found', left) →
      (Sql.Reader.statementSteps (bound + 1)).run ls' = .ok (found' :: others, rest) := by
  rw [Sql.Reader.statementSteps, Sql.Reader.run_bind_of_ok hfound] at h
  obtain ⟨more, left', hmore, h⟩ := Sql.Reader.run_bind_eq_ok_iff.mp h
  cases more with
  | true =>
    obtain ⟨others, rest', hothers, h⟩ := Sql.Reader.run_bind_eq_ok_iff.mp h
    cases h
    refine ⟨others, rfl, fun ls' found' hfound' => ?_⟩
    rw [Sql.Reader.statementSteps, Sql.Reader.run_bind_of_ok hfound', Sql.Reader.run_bind_of_ok hmore, if_pos rfl,
      Sql.Reader.run_bind_of_ok hothers]
    rfl
  | false =>
    cases h
    refine ⟨[], rfl, fun ls' found' hfound' => ?_⟩
    rw [Sql.Reader.statementSteps, Sql.Reader.run_bind_of_ok hfound', Sql.Reader.run_bind_of_ok hmore,
      if_neg Bool.false_ne_true]
    rfl

/-- Where a keyword stands, a statement starts. -/
theorem not_stop_of_keyword {word : String} {l : Lexeme} {ls : List Lexeme} (hl : l.token.keyword? = some word) :
    ¬ ((l :: ls).head?.map Lexeme.token = some (.symbol .semicolon) ∨ l :: ls = []) := by
  rintro (heq | heq)
  · have htoken : l.token = .symbol .semicolon := Option.some.inj heq
    rw [htoken] at hl
    cases hl
  · cases heq

/-- Behind the word `INSERT` a statement is read as what follows the words before its table. -/
theorem run_statement?_insert {l : Lexeme} {ls left : List Lexeme} {found : Sql.Reader.Front}
    (hl : l.token.keyword? = some "INSERT") (hfront : front.run ls = .ok (found, left)) :
    Sql.Reader.statement?.run (l :: ls) =
      ((restOfInsertion (.upTo dataLevels) l.token.wordText? false found).run left).map
        fun (statement, rest) => (some statement, rest) := by
  rw [Sql.Reader.run_statement?, if_neg (not_stop_of_keyword hl)]
  have hlead := @Sql.Reader.statement_run_lead (.upTo dataLevels) l false hl ls
  rw [Sql.Reader.insertion, Sql.Reader.run_bind_of_ok hfront] at hlead
  exact congrArg _ hlead

/-- Lexemes are read as `INSERT`s from the words before the first table on. What is read behind the first
statement does not depend on the lexemes that it was read from. -/
theorem exists_of_reads {l : Lexeme} {ls left : List Lexeme} {ts : List Insert} {found : Sql.Reader.Front}
    (hl : l.token.keyword? = some "INSERT") (hfront : front.run ls = .ok (found, left)) (h : Reads (l :: ls) ts) :
    ∃ node rest t others, ts = t :: others ∧
      (restOfInsertion (.upTo dataLevels) l.token.wordText? false found).run left = .ok (.insert node, rest) ∧
      Insert.ofInsertion node = .ok t ∧
      ∀ (l' : Lexeme) (ls' left' : List Lexeme) (found' : Sql.Reader.Front) (node' : Insertion),
        l'.token = l.token → (l' :: ls').countP Sql.Reader.isSemicolon = (l :: ls).countP Sql.Reader.isSemicolon →
        front.run ls' = .ok (found', left') →
        (restOfInsertion (.upTo dataLevels) l.token.wordText? false found').run left' = .ok (.insert node', rest) →
        Insert.ofInsertion node' = .ok t → Reads (l' :: ls') ts := by
  obtain ⟨nodes, hnodes, hts⟩ := h
  unfold Statement.ofLexemes at hnodes
  cases hsteps : (Sql.Reader.statementSteps ((l :: ls).countP Sql.Reader.isSemicolon + 1)).run (l :: ls) with
  | error fault =>
    rw [hsteps] at hnodes
    cases hnodes
  | ok all =>
    obtain ⟨all, after⟩ := all
    rw [hsteps] at hnodes
    cases hnodes
    have hfirst := run_statement?_insert hl hfront
    cases hrun : (restOfInsertion (.upTo dataLevels) l.token.wordText? false found).run left with
    | error fault =>
      rw [hrun] at hfirst
      obtain ⟨_, _, hfound, -⟩ := Sql.Reader.run_bind_eq_ok_iff.mp hsteps
      rw [hfirst] at hfound
      cases hfound
    | ok first =>
      obtain ⟨first, rest⟩ := first
      rw [hrun] at hfirst
      obtain ⟨others, hall, hbehind⟩ := statementSteps_behind hfirst hsteps
      cases nodes with
      | nil => cases hall
      | cons node nodes =>
        obtain ⟨rfl, rfl⟩ := List.cons.inj hall
        obtain ⟨t, ht, hts⟩ := Sql.except_bind_eq_ok_iff.mp ((List.mapM_cons (m := Except _)).symm.trans hts)
        obtain ⟨more, hmore, hts⟩ := Sql.except_bind_eq_ok_iff.mp hts
        cases hts
        refine ⟨node, rest, t, more, rfl, rfl, ht, ?_⟩
        intro l' ls' left' found' node' htoken hcount hfront' hrun' ht'
        refine ⟨node' :: nodes, ?_, ?_⟩
        · have hfirst' := run_statement?_insert (by rw [htoken]; exact hl) hfront'
          rw [htoken, hrun'] at hfirst'
          unfold Statement.ofLexemes
          rw [hcount, hbehind _ _ hfirst']
          rfl
        · rw [List.mapM_cons, ht', hmore]
          rfl

/-- A word that lexemes read as `INSERT`s start with is one of two. -/
theorem keyword_of_reads {word : String} {l : Lexeme} {ls : List Lexeme} {ts : List Insert}
    (hl : l.token.keyword? = some word) (h : Reads (l :: ls) ts) : word = "INSERT" ∨ word = "REPLACE" := by
  obtain ⟨nodes, hnodes, -⟩ := h
  unfold Statement.ofLexemes at hnodes
  cases hsteps : (Sql.Reader.statementSteps ((l :: ls).countP Sql.Reader.isSemicolon + 1)).run (l :: ls) with
  | error fault =>
    rw [hsteps] at hnodes
    cases hnodes
  | ok all =>
    obtain ⟨all, after⟩ := all
    rw [hsteps] at hnodes
    cases hnodes
    obtain ⟨found, left, hfound, -⟩ := Sql.Reader.run_bind_eq_ok_iff.mp hsteps
    have hrun := Sql.Reader.run_statement? (l :: ls)
    rw [if_neg (not_stop_of_keyword hl), hfound] at hrun
    cases hstatement : (Nested.upTo Sql.Reader.depthLimit).statement.run (l :: ls) with
    | error fault =>
      rw [hstatement] at hrun
      cases hrun
    | ok first =>
      obtain ⟨first, rest⟩ := first
      rw [hstatement] at hrun
      cases hrun
      obtain ⟨others, hall, -⟩ := statementSteps_behind hfound hsteps
      cases nodes with
      | nil => cases hall
      | cons node nodes =>
        obtain rfl := (List.cons.inj hall).1
        obtain ⟨_, _, replaces, heq, hlead, -⟩ := Sql.Reader.statement_run_insert hstatement
        cases heq
        rw [hl] at hlead
        cases replaces with
        | false => exact .inl (Option.some.inj hlead)
        | true => exact .inr (Option.some.inj hlead)

/-- What the table of the first statement is called by first. -/
def tableHead (ts : List Insert) : Option String :=
  ts.head?.bind fun t => t.table.head?.map Sql.NamePart.base

/-- What the first table is called does not depend on places. -/
theorem tableHead_unplaced (ts : List Insert) : tableHead (unplaced ts) = tableHead ts := by
  cases ts with
  | nil => rfl
  | cons t ts =>
    obtain ⟨keywordCase, priority, ignore, table, payload, updates⟩ := t
    match table with
    | [] => rfl
    | .ident _ :: _ | .call _ _ :: _ => rfl

/-- Equal parts of a name are called the same. -/
theorem base_eq_of_same {a b : Sql.NamePart} (h : a.same b) : a.base = b.base := by
  cases a <;> cases b <;> simp [Sql.NamePart.same, Sql.Ident.same] at h
  · exact h.1
  · exact h.1.1

/-- Equal statements call their first table the same. -/
theorem tableHead_eq_of_sameAll {ts ts' : List Insert} (h : Insert.sameAll ts ts') : tableHead ts = tableHead ts' := by
  cases ts with
  | nil =>
    cases ts' with
    | nil => rfl
    | cons t' ts' => cases h
  | cons t ts =>
    cases ts' with
    | nil => cases h
    | cons t' ts' =>
      have htable : t.table.same t'.table := by
        simp only [Insert.sameAll, Insert.same, Bool.and_eq_true] at h
        exact h.1.1.1.2
      simp only [tableHead, List.head?_cons, Option.bind_some]
      generalize t.table = table at htable
      generalize t'.table = table' at htable
      cases table with
      | nil =>
        cases table' with
        | nil => rfl
        | cons b bs => cases htable
      | cons a as =>
        cases table' with
        | nil => cases htable
        | cons b bs => exact congrArg some (base_eq_of_same (Bool.and_eq_true_iff.mp htable).1)

/-! ## Data that cannot follow -/

open Sql.Reader (AtSource sourceWords frontWords modifierWords nameText? Outcome)

/-- Where a word stands that no data starts with, no data stands. -/
theorem not_atSource {word : String} {ls : List Lexeme} (hword : word ∉ sourceWords)
    (h : ls.head?.bind (·.token.keyword?) = some word) : ¬ AtSource ls := by
  rintro (hparen | ⟨other, hmem, hother⟩)
  · cases ls with
    | nil => cases h
    | cons l ls =>
      have htoken : l.token = .symbol .leftParen := Option.some.inj hparen
      rw [List.head?_cons, Option.bind_some, htoken] at h
      cases h
  · rw [h] at hother
    cases hother
    exact hword hmem

/-- Where a keyword stands, no period stands. -/
theorem not_period {word : String} {ls : List Lexeme} (h : ls.head?.bind (·.token.keyword?) = some word) :
    ls.head?.map Lexeme.token ≠ some (.symbol .period) := by
  intro hperiod
  cases ls with
  | nil => cases h
  | cons l ls =>
    have htoken : l.token = .symbol .period := Option.some.inj hperiod
    rw [List.head?_cons, Option.bind_some, htoken] at h
    cases h

/-- The words that have a meaning where a statement or its table starts. -/
def plainWords : List String :=
  "INSERT" :: "REPLACE" :: "LOCAL" :: (frontWords ++ sourceWords)

/-- No word in front of a table starts the data. -/
theorem notMem_of_frontWords : ∀ word ∈ frontWords, word ∉ ["LOCAL", "TABLE"] ∧ word ∉ sourceWords := by
  decide

/-- The modifiers of a heading are words that may stand in front of a table. -/
theorem modifierWords_subset : modifierWords ⊆ frontWords := by
  decide

/-- The name that a keyword is folds to the keyword. -/
theorem fold_of_keyword {token : Sql.Token} {word text : String} (hword : token.keyword? = some word)
    (hname : nameText? token = some text) : Sql.fold text = word := by
  unfold Sql.Token.keyword? at hword
  split at hword
  next =>
    cases hname
    exact Option.some.inj hword
  next => cases hword

/-- Behind a name that starts no data, no data stands. -/
theorem not_atSource_of_name {text : String} {l : Lexeme} {ls : List Lexeme} (hname : nameText? l.token = some text)
    (htext : Sql.fold text ∉ sourceWords) : ¬ AtSource (l :: ls) := by
  rintro (hparen | ⟨word, hmem, hword⟩)
  · have htoken : l.token = .symbol .leftParen := Option.some.inj hparen
    rw [htoken] at hname
    cases hname
  · rw [List.head?_cons, Option.bind_some] at hword
    have hfold := fold_of_keyword hword hname
    exact htext (hfold ▸ hmem)

/-- What is left before the table starts with the table, where it starts with no word that may stand before
it. -/
theorem exists_of_restOfInsertion_cons {word : String} {l : Lexeme} {ls rest : List Lexeme} {lead : Option String}
    {replaces : Bool} {found : Sql.Reader.Front} {node : Insertion} (hl : l.token.keyword? = some word)
    (hword : word ∉ ["LOCAL", "TABLE"])
    (h : (restOfInsertion (.upTo dataLevels) lead replaces found).run (l :: ls) = .ok (.insert node, rest)) :
    ∃ name more, nameText? l.token = some name.value ∧ node.target = .table (.ofIdents (name :: more)) ∧
      (ls.head?.map Lexeme.token ≠ some (.symbol .period) →
        ∃ data after, (Sql.Reader.source (.upTo dataLevels)).run ls = .ok (data, after) ∧
          node.source = data.query) := by
  obtain ⟨skipped, l', ls', name, more, hsplit, hskipped, hname, htarget, hdata⟩ :=
    Sql.Reader.exists_of_restOfInsertion h
  cases skipped with
  | nil =>
    cases hsplit
    exact ⟨name, more, hname, htarget, hdata⟩
  | cons k skipped =>
    cases hsplit
    obtain hk | hk := hskipped l List.mem_cons_self <;> rw [hl] at hk <;> cases hk <;>
      exact (hword (by decide)).elim

/-- Behind a word that is left before the table stands no other word that cannot start the data. -/
theorem not_restOfInsertion {first word : String} {l : Lexeme} {ls rest : List Lexeme} {lead : Option String}
    {replaces : Bool} {found : Sql.Reader.Front} {node : Insertion} (hl : l.token.keyword? = some first)
    (hfirst : first ∉ ["LOCAL", "TABLE"]) (hls : ls.head?.bind (·.token.keyword?) = some word)
    (hword : word ∉ sourceWords) :
    (restOfInsertion (.upTo dataLevels) lead replaces found).run (l :: ls) ≠ .ok (.insert node, rest) := by
  intro h
  obtain ⟨_, _, -, -, hdata⟩ := exists_of_restOfInsertion_cons hl hfirst h
  obtain ⟨data, after, hsource, -⟩ := hdata (not_period hls)
  exact not_atSource hword hls (Sql.Reader.atSource_of_source hsource)

/-- A modifier that is left before the table is the table, and another modifier or a word that cannot start the
data must not follow it. -/
theorem not_restOfInsertion_of_modifiers {first : Option String} {later behind : List (Option String)} {word : String}
    {left rest : List Lexeme} {lead : Option String} {replaces : Bool} {found : Sql.Reader.Front} {node : Insertion}
    (hmodifiers : ∀ k ∈ first :: later, ∃ word ∈ modifierWords, k = some word) (hword : word ∉ sourceWords)
    (hleft : keywords left = first :: (later ++ some word :: behind)) :
    (restOfInsertion (.upTo dataLevels) lead replaces found).run left ≠ .ok (.insert node, rest) := by
  obtain ⟨a, ls, rfl, ha, hls⟩ := List.map_eq_cons_iff.mp hleft
  obtain ⟨modifier, hmodifier, rfl⟩ := hmodifiers _ List.mem_cons_self
  have hfirst := (notMem_of_frontWords _ (modifierWords_subset hmodifier)).1
  cases later with
  | nil =>
    obtain ⟨b, tail, rfl, hb, -⟩ := List.map_eq_cons_iff.mp hls
    have hhead : (b :: tail).head?.bind (·.token.keyword?) = some word := hb
    exact not_restOfInsertion ha hfirst hhead hword
  | cons second later =>
    obtain ⟨modifier', hmodifier', rfl⟩ := hmodifiers _ (List.mem_cons_of_mem _ List.mem_cons_self)
    obtain ⟨b, tail, rfl, hb, -⟩ := List.map_eq_cons_iff.mp hls
    have hhead : (b :: tail).head?.bind (·.token.keyword?) = some modifier' := hb
    exact not_restOfInsertion ha hfirst hhead (notMem_of_frontWords _ (modifierWords_subset hmodifier')).2

/-- Words before the table, and a table that is called like one of them, are no data that lists rows. -/
theorem no_rows_behind {mid skipped behind : List Lexeme} {table : Lexeme} {text : String}
    (hmid : ∀ k ∈ keywords mid, ∃ word ∈ frontWords, k = some word)
    (hskipped : ∀ l ∈ skipped, l.token.keyword? = some "LOCAL" ∨ l.token.keyword? = some "TABLE")
    (hname : nameText? table.token = some text) (htext : Sql.fold text ∉ sourceWords) :
    (mid ++ (skipped ++ table :: behind)).head?.map Lexeme.token ≠ some (.symbol .period) ∧
      ∀ data after, (Sql.Reader.source (.upTo dataLevels)).run (mid ++ (skipped ++ table :: behind)) =
        .ok (data, after) →
        ∃ query, data.query = some query ∧ ¬ Sql.Reader.IsRows query.body := by
  cases mid with
  | cons a mid =>
    obtain ⟨word, hword, ha⟩ := hmid _ List.mem_cons_self
    exact ⟨not_period ha, fun data after h =>
      absurd (Sql.Reader.atSource_of_source h) (not_atSource (notMem_of_frontWords word hword).2 ha)⟩
  | nil =>
    cases skipped with
    | cons a skipped =>
      obtain ha | ha := hskipped a List.mem_cons_self
      · exact ⟨not_period ha, fun data after h =>
          absurd (Sql.Reader.atSource_of_source h) (not_atSource (by decide) ha)⟩
      · exact ⟨not_period ha, fun data after h => Sql.Reader.source_of_table ha h⟩
    | nil =>
      refine ⟨fun hperiod => ?_, fun data after h =>
        absurd (Sql.Reader.atSource_of_source h) (not_atSource_of_name hname htext)⟩
      have htoken : table.token = .symbol .period := Option.some.inj hperiod
      rw [htoken] at hname
      cases hname

/-- A tree has the table of its node. -/
theorem tableHead_of_target {node : Insertion} {t : Insert} {others : List Insert} {name : Sql.Ident}
    {more : List Sql.Ident} (htarget : node.target = .table (.ofIdents (name :: more)))
    (ht : Insert.ofInsertion node = .ok t) : tableHead (t :: others) = some name.value := by
  have htable := ((Insert.ofInsertion_eq_ok_iff node t).mp ht).2.table
  rw [htarget] at htable
  rw [tableHead, List.head?_cons, Option.bind_some, ← Sql.Target.table.inj htable]
  rfl

/-- A node whose data is a query that lists no rows is refused. -/
theorem not_ofInsertion_of_query {node : Insertion} {query : Sql.Query} {t : Insert}
    (hsource : node.source = some query)
    (hrows : ¬ Sql.Reader.IsRows query.body) : Insert.ofInsertion node ≠ .ok t := by
  intro ht
  have hpayload := ((Insert.ofInsertion_eq_ok_iff node t).mp ht).2.payload
  cases hdata : t.payload with
  | set items =>
    rw [hdata] at hpayload
    rw [hpayload.1] at hsource
    cases hsource
  | values columns rows =>
    rw [hdata] at hpayload
    obtain ⟨-, query', short, explicit, hquery, hbody⟩ := hpayload
    rw [hquery] at hsource
    cases hsource
    exact hrows ⟨short, explicit, rows, hbody⟩

/-! ## Headings that agree -/

/-- Semicolons are counted by tokens. -/
theorem countP_isSemicolon_of_token {ls ls' : List Lexeme} (h : ls'.map Lexeme.token = ls.map Lexeme.token) :
    ls'.countP Sql.Reader.isSemicolon = ls.countP Sql.Reader.isSemicolon := by
  have hcount (ls : List Lexeme) : ls.countP Sql.Reader.isSemicolon =
      (ls.map Lexeme.token).countP fun token => decide (token = .symbol .semicolon) := by
    rw [List.countP_map]
    rfl
  rw [hcount, hcount, h]

/-- Keywords are told by tokens. -/
theorem keywords_of_token {ls ls' : List Lexeme} (h : ls'.map Lexeme.token = ls.map Lexeme.token) :
    keywords ls' = keywords ls := by
  have hkeywords (ls : List Lexeme) : keywords ls = (ls.map Lexeme.token).map Sql.Token.keyword? := by
    rw [List.map_map]
    rfl
  rw [hkeywords, hkeywords, h]

/-- A suffix is known by the number of its lexemes. -/
theorem eq_of_suffix {ls ls' rest : List Lexeme} (h : rest <:+ ls ++ ls') (hlength : rest.length = ls'.length) :
    rest = ls' :=
  (List.suffix_of_suffix_length_le h (List.suffix_append ls ls') (Nat.le_of_eq hlength)).eq_of_length hlength

theorem length_keywords (ls : List Lexeme) : (keywords ls).length = ls.length :=
  List.length_map _

theorem keywords_append (ls ls' : List Lexeme) : keywords (ls ++ ls') = keywords ls ++ keywords ls' :=
  List.map_append

/-- What a run of the reader of the words before the table leaves. -/
theorem keywords_of_front {ls left : List Lexeme} {found : Sql.Reader.Front} (h : front.run ls = .ok (found, left)) :
    left <:+ ls ∧ keywords left = withoutFront (keywords ls) := by
  obtain ⟨found', left', h', hsuffix, hleft⟩ := Sql.Reader.front_leaves ls
  rw [h] at h'
  cases h'
  exact ⟨hsuffix, hleft⟩

/-- The first modifier is no word of a conflict clause. -/
theorem modifiers_head {ks : List (Option String)} (h : ∀ k ∈ ks, ∃ word ∈ modifierWords, k = some word) :
    ∀ k ∈ ks.head?, k ≠ some "OR" ∧ k ≠ some "REPLACE" := by
  intro k hk
  obtain ⟨word, hword, rfl⟩ := h k (List.mem_of_head? hk)
  constructor <;> rintro ⟨⟩ <;> revert hword <;> decide

/-- Only the priority and `IGNORE` of the words before the table are kept. -/
theorem ofInsertion_withFront {node : Insertion} {found found' : Sql.Reader.Front}
    (hpriority : found'.priority = found.priority) (hignore : found'.ignore = found.ignore) :
    Insert.ofInsertion (Sql.Reader.withFront node found') = Insert.ofInsertion (Sql.Reader.withFront node found) := by
  obtain ⟨_, priority, ignore, _, _⟩ := found
  obtain ⟨_, _, _, _, _⟩ := found'
  subst hpriority hignore
  rfl

section Into

variable {l l' into : Lexeme} {ms ms' rest left : List Lexeme} {found : Sql.Reader.Front} {ts ts' : List Insert}

/-- Where the words before the table are the modifiers, `INTO` behind them changes nothing. -/
theorem reads_into (hl : l.token.keyword? = some "INSERT") (hl' : l'.token = l.token)
    (hms : ms'.map Lexeme.token = ms.map Lexeme.token)
    (hmodifiers : ∀ k ∈ keywords ms, ∃ word ∈ modifierWords, k = some word)
    (hinto : into.token.keyword? = some "INTO") (hfront : front.run (ms ++ rest) = .ok (found, rest))
    (h : Reads (l :: (ms ++ rest)) ts) : Reads (l' :: (ms' ++ into :: rest)) ts := by
  obtain ⟨node, after, t, others, rfl, hrun, ht, hall⟩ := exists_of_reads hl hfront h
  obtain ⟨found', left', hfront', hsuffix', hleft'⟩ := Sql.Reader.front_leaves (ms' ++ into :: rest)
  have hsplit : ms' ++ into :: rest = (ms' ++ [into]) ++ rest := List.append_cons ms' into rest
  have hkeywords : keywords (ms' ++ [into]) = keywords ms ++ [some "INTO"] := by
    rw [keywords_append, keywords_of_token hms, Sql.Reader.keywords_cons, hinto, Sql.Reader.keywords_nil]
  -- `INTO` is the last word that is taken
  obtain rfl : left' = rest := by
    have hleft := (keywords_of_front hfront).2
    rw [hsplit] at hsuffix'
    refine eq_of_suffix hsuffix' ?_
    rw [keywords_append] at hleft
    rw [hsplit, keywords_append, hkeywords, List.append_assoc] at hleft'
    rw [← length_keywords, ← length_keywords, hleft']
    cases Sql.Reader.withoutFront_modifiers hmodifiers with
    | taken more hrest _ hmore => rw [hrest, List.singleton_append, hmore]
    | left _ first others' _ hrest =>
      rw [hrest] at hleft
      have := congrArg List.length hleft
      simp only [List.length_cons, List.length_append] at this
      omega
  have hwords : found'.words = found.words ++ [some "INTO"] := by
    rw [Sql.Reader.words_of_front hfront (modifiers_head hmodifiers), ← hkeywords]
    refine Sql.Reader.words_of_front (hsplit ▸ hfront') fun k hk => ?_
    rw [hkeywords] at hk
    cases hms : keywords ms with
    | nil =>
      rw [hms] at hk
      cases hk
      decide
    | cons first others' =>
      rw [hms] at hk
      exact modifiers_head hmodifiers k (by rw [hms]; exact hk)
  obtain ⟨hpriority, hignore⟩ := Sql.Reader.Front.eq_of_words hwords
  refine hall l' _ _ found' _ hl' ?_ hfront' (Sql.Reader.restOfInsertion_withFront found' hrun) ?_
  · have hplain : Sql.Reader.isSemicolon into = false := by
      refine decide_eq_false fun htoken => ?_
      rw [htoken] at hinto
      cases hinto
    have hl' : Sql.Reader.isSemicolon l' = Sql.Reader.isSemicolon l := congrArg (fun token => decide (token = _)) hl'
    simp only [List.countP_cons, List.countP_append, countP_isSemicolon_of_token hms, hplain, hl',
      Bool.false_eq_true, if_false, Nat.add_zero]
  · have hnode : Sql.Reader.withFront node found = node := by
      have hsame := Sql.Reader.restOfInsertion_withFront found hrun
      rw [hrun] at hsame
      exact (Statement.insert.inj (congrArg Prod.fst (Except.ok.inj hsame))).symm
    rw [← hnode] at ht
    rw [← ht]
    exact ofInsertion_withFront hpriority hignore

/-- Where other words stand before the table, with `INTO` behind the modifiers another table is read. -/
theorem tableHead_ne_of_into (hl : l.token.keyword? = some "INSERT") (hl' : l'.token = l.token)
    (hms : ms'.map Lexeme.token = ms.map Lexeme.token)
    (hmodifiers : ∀ k ∈ keywords ms, ∃ word ∈ modifierWords, k = some word)
    (hinto : into.token.keyword? = some "INTO") (hfront : front.run (ms ++ rest) = .ok (found, left))
    (hleft : left.length ≠ rest.length) (h : Reads (l :: (ms ++ rest)) ts)
    (h' : Reads (l' :: (ms' ++ into :: rest)) ts') : tableHead ts ≠ tableHead ts' := by
  intro hsame
  obtain ⟨node, after, t, others, rfl, hrun, ht, -⟩ := exists_of_reads hl hfront h
  obtain ⟨found', left', hfront', hsuffix', hleft'⟩ := Sql.Reader.front_leaves (ms' ++ into :: rest)
  obtain ⟨node', after', t', others', rfl, hrun', ht', -⟩ := exists_of_reads (by rw [hl']; exact hl) hfront' h'
  have hkeywords := (keywords_of_front hfront).2
  rw [keywords_append] at hkeywords
  rw [keywords_append, keywords_of_token hms, Sql.Reader.keywords_cons, hinto] at hleft'
  cases Sql.Reader.withoutFront_modifiers hmodifiers with
  | left taken first later hks hrest =>
    rw [hrest] at hleft'
    refine not_restOfInsertion_of_modifiers (fun k hk => hmodifiers k ?_) (by decide) hleft' hrun'
    rw [hks]
    exact List.mem_append_right _ hk
  | taken more hrest hdrops hmore =>
    rw [hrest, hmore] at hleft'
    rw [hrest] at hkeywords
    obtain rfl : left' = rest := by
      rw [List.append_cons] at hsuffix'
      exact eq_of_suffix hsuffix' (by rw [← length_keywords, hleft', length_keywords])
    -- the first word behind the modifiers is the table, and what follows it cannot be data
    obtain ⟨taken, htaken, hwords⟩ := hdrops (keywords left')
    rw [← hkeywords] at htaken
    cases taken with
    | nil => exact hleft (by rw [← length_keywords, ← length_keywords left', htaken, List.nil_append])
    | cons k taken =>
      obtain ⟨word, hword, rfl⟩ := hwords k List.mem_cons_self
      obtain ⟨r, behind, rfl, hr, hbehind⟩ := List.map_eq_cons_iff.mp htaken
      replace hbehind : keywords behind = taken ++ keywords left := hbehind
      have hsuffix : left <:+ behind := by
        refine List.suffix_of_suffix_length_le (keywords_of_front hfront).1
          ((List.suffix_cons r behind).trans (List.suffix_append ms _)) ?_
        have := congrArg List.length hbehind
        rw [List.length_append, length_keywords, length_keywords] at this
        omega
      obtain ⟨mid, rfl⟩ := hsuffix
      have hmid : keywords mid = taken := List.append_cancel_right ((keywords_append mid left).symm.trans hbehind)
      obtain ⟨name', more', hname', htarget', hdata'⟩ :=
        exists_of_restOfInsertion_cons hr (notMem_of_frontWords word hword).1 hrun'
      obtain ⟨skipped, table, behind, name, more, rfl, hskipped, hname, htarget, -⟩ :=
        Sql.Reader.exists_of_restOfInsertion hrun
      rw [tableHead_of_target htarget ht, tableHead_of_target htarget' ht', Option.some.injEq] at hsame
      rw [← hsame] at hname'
      have hfold : Sql.fold name.value ∉ sourceWords := by
        rw [fold_of_keyword hr hname']
        exact (notMem_of_frontWords word hword).2
      have hmidWords : ∀ k ∈ keywords mid, ∃ word ∈ frontWords, k = some word := by
        rw [hmid]
        exact fun k hk => hwords k (List.mem_cons_of_mem _ hk)
      obtain ⟨hperiod, hquery⟩ := no_rows_behind hmidWords hskipped hname hfold
      obtain ⟨data, after, hsource, hdata⟩ := hdata' hperiod
      obtain ⟨query, hsome, hrows⟩ := hquery data after hsource
      exact not_ofInsertion_of_query (hdata.trans hsome) hrows ht'

/-- Behind modifiers a word that may not stand before the table, and cannot start the data, is the table. -/
theorem left_eq_of_word {word : String} {w : Lexeme} {lead : Option String} {replaces : Bool} {node : Insertion}
    {after : List Lexeme} (hmodifiers : ∀ k ∈ keywords ms, ∃ word ∈ modifierWords, k = some word)
    (hw : w.token.keyword? = some word) (hfrontWord : word ∉ frontWords) (hsource : word ∉ sourceWords)
    (hfront : front.run (ms ++ w :: rest) = .ok (found, left))
    (hrun : (restOfInsertion (.upTo dataLevels) lead replaces found).run left = .ok (.insert node, after)) :
    left = w :: rest := by
  obtain ⟨hsuffix, hleft⟩ := keywords_of_front hfront
  rw [keywords_append, Sql.Reader.keywords_cons, hw] at hleft
  cases Sql.Reader.withoutFront_modifiers hmodifiers with
  | left taken first later hks hrest =>
    rw [hrest] at hleft
    refine (not_restOfInsertion_of_modifiers (fun k hk => hmodifiers k ?_) hsource hleft hrun).elim
    rw [hks]
    exact List.mem_append_right _ hk
  | taken more hrest hdrops _ =>
    rw [hrest] at hleft
    obtain ⟨taken, htaken, hwords⟩ := hdrops (some word :: keywords rest)
    cases taken with
    | nil =>
      refine eq_of_suffix hsuffix ?_
      rw [← length_keywords, hleft, ← List.nil_append (more _), ← htaken, List.length_cons, List.length_cons,
        length_keywords]
    | cons k taken =>
      obtain ⟨other, hother, rfl⟩ := hwords k List.mem_cons_self
      obtain rfl : word = other := Option.some.inj (List.cons.inj htaken).1
      exact absurd hother hfrontWord

/-- Where the last modifier goes on into the text behind it, that longer word is the table, and with `INTO`
behind the modifier another word is. -/
theorem tableHead_of_longer {word : String} {w : Lexeme} (hl : l.token.keyword? = some "INSERT")
    (hmodifiers : ∀ k ∈ keywords ms, ∃ word ∈ modifierWords, k = some word)
    (hw : w.token.keyword? = some word) (hword : word ∉ plainWords)
    (hfront : front.run (ms ++ w :: rest) = .ok (found, left))
    (h : Reads (l :: (ms ++ w :: rest)) ts) : left = w :: rest ∧ tableHead ts = nameText? w.token := by
  simp only [plainWords, List.mem_cons, List.mem_append, not_or] at hword
  obtain ⟨-, -, hlocal, hfrontWord, hsource⟩ := hword
  have hfirst : word ∉ ["LOCAL", "TABLE"] := by
    simp only [List.mem_cons, List.not_mem_nil, or_false, not_or]
    exact ⟨hlocal, fun htable => hsource (htable ▸ by decide)⟩
  obtain ⟨node, after, t, others, rfl, hrun, ht, -⟩ := exists_of_reads hl hfront h
  obtain rfl := left_eq_of_word hmodifiers hw hfrontWord hsource hfront hrun
  obtain ⟨name, more, hname, htarget, -⟩ := exists_of_restOfInsertion_cons hw hfirst hrun
  exact ⟨rfl, (tableHead_of_target htarget ht).trans hname.symm⟩

end Into

/-! ## The words of a heading -/

/-- A character that raises to an ASCII one folds to it. -/
theorem foldChar_of_toUpper {c : Char} (h : c.toUpper.toNat < 0x80) : Sql.foldChar c = [c.toUpper] := by
  have hc : c.toNat < 0x80 := by
    obtain heq | halpha := Heading.toUpper_eq_or_isAlpha c
    · rwa [heq] at h
    · have hbelow {top : Char} (hle : c.val ≤ top.val) (htop : top.toNat < 0x80) : c.toNat < 0x80 :=
        Nat.lt_of_le_of_lt (UInt32.le_iff_toNat_le.mp hle) htop
      obtain hupper | hlower := Bool.or_eq_true_iff.mp halpha
      · exact @hbelow 'Z' (of_decide_eq_true hupper).2 (by decide)
      · exact @hbelow 'z' (of_decide_eq_true (Bool.and_eq_true_iff.mp hlower).2) (by decide)
  unfold Sql.foldChar
  rw [if_pos hc]

theorem foldChar_ne_nil (c : Char) : Sql.foldChar c ≠ [] := by
  unfold Sql.foldChar
  split
  · exact List.cons_ne_nil _ _
  · split <;> exact List.cons_ne_nil _ _

/-- What spells a word in ASCII folds to it, and what stands behind it is folded for itself. -/
theorem fold_append {w more word : List Char} (hw : w.map Char.toUpper = word) (hword : ∀ c ∈ word, c.toNat < 0x80) :
    Sql.fold (String.ofList (w ++ more)) = String.ofList (word ++ more.flatMap Sql.foldChar) := by
  have hfold : w.flatMap Sql.foldChar = word := by
    subst hw
    induction w with
    | nil => rfl
    | cons c w ih =>
      rw [List.flatMap_cons, ih fun c hc => hword c (List.mem_cons_of_mem _ hc),
        foldChar_of_toUpper (hword _ List.mem_cons_self)]
      rfl
  rw [Sql.fold, String.toList_ofList, List.flatMap_append, hfold]

/-- A word that goes on behind the heading is no word with a meaning there. -/
theorem fold_notMem {w more word : List Char} (hw : w.map Char.toUpper = word)
    (hword : word ∈ "INSERT".toList :: "INTO".toList :: Heading.modifiers) (hmore : more ≠ []) :
    Sql.fold (String.ofList (w ++ more)) ∉ plainWords := by
  have hascii : ∀ word ∈ "INSERT".toList :: "INTO".toList :: Heading.modifiers, ∀ c ∈ word, c.toNat < 0x80 := by
    decide +kernel
  have hnone : ∀ word ∈ "INSERT".toList :: "INTO".toList :: Heading.modifiers, ∀ plain ∈ plainWords,
      word.isPrefixOf plain.toList → plain.toList.length = word.length := by
    decide
  rw [fold_append hw (hascii word hword)]
  intro hmem
  have hlength := hnone word hword _ hmem
  rw [String.toList_ofList, List.isPrefixOf_iff_prefix] at hlength
  have hnil : more.flatMap Sql.foldChar = [] := by
    have := hlength (List.prefix_append word _)
    rw [List.length_append] at this
    exact List.eq_nil_of_length_eq_zero (by omega)
  cases more with
  | nil => exact hmore rfl
  | cons c more =>
    rw [List.flatMap_cons, List.append_eq_nil_iff] at hnil
    exact foldChar_ne_nil c hnil.1

/-- What spells a word in ASCII folds to it. -/
theorem fold_eq {w word : List Char} (hw : w.map Char.toUpper = word) (hword : ∀ c ∈ word, c.toNat < 0x80) :
    Sql.fold (String.ofList w) = String.ofList word := by
  have h := @fold_append w [] word hw hword
  rwa [List.append_nil, List.flatMap_nil, List.append_nil] at h

/-- The keywords of words that spell modifiers are modifiers. -/
theorem keywords_of_modifiers {ms : List Lexeme} {words : List (List Char)}
    (hms : ms.map Lexeme.token = words.map fun w => .word (String.ofList w) none)
    (hwords : ∀ word ∈ words, word.map Char.toUpper ∈ Heading.modifiers) :
    ∀ k ∈ keywords ms, ∃ word ∈ modifierWords, k = some word := by
  intro k hk
  have hmodifiers : ∀ m ∈ Heading.modifiers, String.ofList m ∈ modifierWords ∧ ∀ c ∈ m, c.toNat < 0x80 := by decide
  obtain ⟨l, hl, rfl⟩ := List.mem_map.mp hk
  have htoken : l.token ∈ ms.map Lexeme.token := List.mem_map_of_mem hl
  rw [hms] at htoken
  obtain ⟨w, hw, htoken⟩ := List.mem_map.mp htoken
  obtain ⟨hmem, hascii⟩ := hmodifiers _ (hwords w hw)
  refine ⟨_, hmem, ?_⟩
  rw [← htoken, ← fold_eq rfl hascii]
  rfl

section Words

variable {ls ls' rest : List Lexeme} {lead into more : List Char} {words : List (List Char)} {ts : List Insert}

/-- Words of a heading that end with it: `INTO` changes nothing, or another table is read. -/
theorem exists_front_of_words (hls : ls.map Lexeme.token = Lexeme.wordTokens (lead :: words) [])
    (hls' : ls'.map Lexeme.token = Lexeme.wordTokens (lead :: words ++ [into]) [])
    (hlead : lead.map Char.toUpper = Fragment.leadWord) (hinto : into.map Char.toUpper = "INTO".toList)
    (hwords : ∀ word ∈ words, word.map Char.toUpper ∈ Heading.modifiers) (h : Reads (ls ++ rest) ts) :
    ∃ l ms found left, ls = l :: ms ∧ ms.length = words.length ∧ front.run (ms ++ rest) = .ok (found, left) ∧
      (left.length = rest.length → Reads (ls' ++ rest) ts) ∧
      (left.length ≠ rest.length → ∀ ts', Reads (ls' ++ rest) ts' → tableHead ts ≠ tableHead ts') := by
  rw [Lexeme.wordTokens_nil] at hls hls'
  rw [List.map_append] at hls'
  obtain ⟨l, ms, rfl, hl, hms⟩ := List.map_eq_cons_iff.mp hls
  obtain ⟨l', ls', rfl, hl', hls'⟩ := List.map_eq_cons_iff.mp hls'
  obtain ⟨ms', last, rfl, hms', hlast⟩ := List.map_eq_append_iff.mp hls'
  obtain ⟨i, _, rfl, hi, hnone⟩ := List.map_eq_cons_iff.mp hlast
  obtain rfl := List.map_eq_nil_iff.mp hnone
  have hinsert : l.token.keyword? = some "INSERT" := by
    rw [hl]
    exact congrArg some (fold_eq hlead (by decide))
  have hintoWord : i.token.keyword? = some "INTO" := by
    rw [hi]
    exact congrArg some (fold_eq hinto (by decide))
  have hmodifiers := keywords_of_modifiers hms hwords
  have htokens : ms'.map Lexeme.token = ms.map Lexeme.token := hms'.trans hms.symm
  have hlength : ms.length = words.length := by
    rw [← List.length_map (f := Lexeme.token), hms, List.length_map]
  have happend : l' :: (ms' ++ [i]) ++ rest = l' :: (ms' ++ i :: rest) := by
    rw [List.cons_append, ← List.append_cons]
  rw [happend]
  obtain ⟨found, left, hfront, hsuffix, -⟩ := Sql.Reader.front_leaves (ms ++ rest)
  refine ⟨l, ms, found, left, rfl, hlength, hfront, fun heq => ?_, fun hne ts' h' => ?_⟩
  · rw [eq_of_suffix hsuffix heq] at hfront
    exact reads_into hinsert (hl'.trans hl.symm) htokens hmodifiers hintoWord hfront h
  · exact tableHead_ne_of_into hinsert (hl'.trans hl.symm) htokens hmodifiers hintoWord hfront hne h h'

/-- Words of a heading of which the last goes on into the text behind it: with `INTO` another table is read. -/
theorem exists_front_of_longer (hls : ls.map Lexeme.token = Lexeme.wordTokens (lead :: words) more)
    (hls' : ls'.map Lexeme.token = Lexeme.wordTokens (lead :: words ++ [into]) more)
    (hlead : lead.map Char.toUpper = Fragment.leadWord) (hinto : into.map Char.toUpper = "INTO".toList)
    (hwords : ∀ word ∈ words, word.map Char.toUpper ∈ Heading.modifiers) (hmore : more ≠ [])
    (h : Reads (ls ++ rest) ts) :
    ∃ l ms found left, ls = l :: ms ∧ ms.length = words.length ∧ front.run (ms ++ rest) = .ok (found, left) ∧
      left.length ≠ rest.length ∧ ∀ ts', Reads (ls' ++ rest) ts' → tableHead ts ≠ tableHead ts' := by
  obtain rfl | ⟨init, last, rfl⟩ := List.eq_nil_or_concat words
  · -- the word `INSERT` itself goes on, so no statement starts
    obtain ⟨l, _, rfl, hl, hnone⟩ := List.map_eq_cons_iff.mp hls
    obtain rfl := List.map_eq_nil_iff.mp hnone
    have hword := fold_notMem hlead List.mem_cons_self hmore
    have hkeyword : l.token.keyword? = some (Sql.fold (String.ofList (lead ++ more))) := by
      rw [hl]
      rfl
    obtain heq | heq := keyword_of_reads hkeyword h <;> rw [heq] at hword <;> exact absurd (by decide) hword
  · rw [List.concat_eq_append] at hls hls' hwords ⊢
    rw [← List.cons_append, Lexeme.wordTokens_concat] at hls
    rw [Lexeme.wordTokens_concat] at hls'
    obtain ⟨init₁, back, rfl, hinit₁, hback⟩ := List.map_eq_append_iff.mp hls
    obtain ⟨w, _, rfl, hw, hnone⟩ := List.map_eq_cons_iff.mp hback
    obtain rfl := List.map_eq_nil_iff.mp hnone
    obtain ⟨l, ms, rfl, hl, hms⟩ := List.map_eq_cons_iff.mp hinit₁
    obtain ⟨init₂, back', rfl, hinit₂, hback'⟩ := List.map_eq_append_iff.mp hls'
    obtain ⟨i, _, rfl, hi, hnone'⟩ := List.map_eq_cons_iff.mp hback'
    obtain rfl := List.map_eq_nil_iff.mp hnone'
    obtain ⟨l', ms', rfl, hl', hms'⟩ := List.map_eq_cons_iff.mp hinit₂
    have hlast : last.map Char.toUpper ∈ Heading.modifiers :=
      hwords last (List.mem_append_right _ List.mem_cons_self)
    have hinsert : l.token.keyword? = some "INSERT" := by
      rw [hl]
      exact congrArg some (fold_eq hlead (by decide))
    have hinsert' : l'.token.keyword? = some "INSERT" := by
      rw [hl', ← hl]
      exact hinsert
    have happend : l :: ms ++ [w] ++ rest = l :: (ms ++ w :: rest) := by rw [← List.append_cons, List.cons_append]
    have happend' : l' :: ms' ++ [i] ++ rest = l' :: (ms' ++ i :: rest) := by
      rw [← List.append_cons, List.cons_append]
    rw [happend] at h
    rw [happend']
    obtain ⟨found, left, hfront, -⟩ := Sql.Reader.front_leaves (ms ++ w :: rest)
    obtain ⟨hleft, htable⟩ := tableHead_of_longer hinsert
      (keywords_of_modifiers hms fun word hword => hwords word (List.mem_append_left _ hword))
      (congrArg Sql.Token.keyword? hw) (fold_notMem rfl (List.mem_cons_of_mem _ (List.mem_cons_of_mem _ hlast)) hmore)
      hfront h
    have hlength : (ms ++ [w]).length = (init ++ [last]).length := by
      rw [List.length_append, List.length_append, ← List.length_map (f := Lexeme.token), hms, List.length_map]
      rfl
    refine ⟨l, ms ++ [w], found, left, rfl, hlength, by rw [← List.append_cons]; exact hfront, ?_, fun ts' h' => ?_⟩
    · rw [hleft, List.length_cons]
      omega
    · obtain ⟨found', left', hfront', -⟩ := Sql.Reader.front_leaves (ms' ++ i :: rest)
      obtain ⟨-, htable'⟩ := tableHead_of_longer hinsert' (keywords_of_modifiers hms' hwords)
        (congrArg Sql.Token.keyword? hi) (fold_notMem hinto (List.mem_cons_of_mem _ List.mem_cons_self) hmore)
        hfront' h'
      rw [htable, htable', hw, hi]
      intro heq
      have hsizes := congrArg String.length (Option.some.inj heq)
      have hinto' := congrArg List.length hinto
      have hsizes' : ∀ m ∈ Heading.modifiers, m.length ≠ 4 := by decide
      have hne := hsizes' _ hlast
      simp only [String.length_ofList, List.length_append, List.length_map] at hsizes hinto' hne
      rw [show "INTO".toList.length = 4 from rfl] at hinto'
      omega

end Words

namespace Heading

/-- Whether the words that the reader takes between `INSERT` and the table are as many as the modifiers of the
heading. -/
def agrees (text : String) : Bool :=
  match Lexeme.ofText text with
  | .ok (_ :: ls) =>
    match front.run ls with
    | .ok (_, left) => ls.length = left.length + modifierCount (text.toList.drop 6)
    | .error _ => false
  | _ => false

/-- Heading and tokenizer agree if and only if as many lexemes are taken before the table as the heading has
modifiers. -/
theorem agrees_iff {text : String} {ps : List Piece} {l : Lexeme} {ls left : List Lexeme} {found : Sql.Reader.Front}
    (hps : kinds none 0 text.toList = some ps) (hls : bare ps = l :: ls) (hfront : front.run ls = .ok (found, left)) :
    agrees text ↔ ls.length = left.length + modifierCount (text.toList.drop 6) := by
  obtain ⟨placed, hplaced, rfl⟩ := exists_piecesOf hps
  have hplain := Lexeme.unplaced_bare (placed.map Prod.fst)
  rw [← Lexeme.unplaced_ofPieces] at hls hplain
  rw [hls] at hplain
  have htext : Lexeme.ofText text = .ok (Lexeme.ofPieces placed) := by rw [Lexeme.ofText, hplaced]; rfl
  cases hlexemes : Lexeme.ofPieces placed with
  | nil =>
    rw [hlexemes] at hls
    cases hls
  | cons l₀ ls₀ =>
    rw [hlexemes] at hls htext
    have hsame : unplaced ls₀ = unplaced ls := (List.cons.inj hls).2.trans (List.cons.inj hplain).2.symm
    obtain ⟨found', left', hrun, -, hleft⟩ := Sql.Reader.front_blind.transfer hsame hfront
    have hlength (as bs : List Lexeme) (h : unplaced as = unplaced bs) : as.length = bs.length := by
      rw [← Sql.length_unplaced as, h, Sql.length_unplaced]
    unfold agrees
    rw [htext]
    simp only [hrun, hlength _ _ hsame, hlength _ _ hleft, decide_eq_true_eq]

/-- Completing the heading of a text that is read as `INSERT`s keeps what is read exactly where nothing has to
be written in, or the words before the table are the modifiers of the heading. -/
theorem complete_same_iff {text : String} {ts : List Insert} (h : readInserts text = .ok ts) :
    (∃ ts', readInserts (complete text) = .ok ts' ∧ Insert.sameAll ts ts') ↔ complete? text = none ∨ agrees text := by
  cases hcomplete : complete? text with
  | none =>
    have htext : complete text = text := by rw [complete, hcomplete]; rfl
    rw [htext]
    exact ⟨fun _ => .inl rfl, fun _ => ⟨ts, h, Insert.sameAll_of_unplaced rfl⟩⟩
  | some completed =>
    have htext : complete text = completed := by rw [complete, hcomplete]; rfl
    rw [htext, or_iff_right (by simp)]
    obtain ⟨all, hall⟩ := exists_kinds_of_readInserts h
    obtain ⟨ps, ps', qs, lead, into, more, words, rfl, hall', hcomments, hcomments', htokens, htokens', hlead, hinto,
      hwords, hcount⟩ := exists_pieces_of_complete? hcomplete hall
    obtain ⟨ls, hls, hlsTokens⟩ := Lexeme.exists_bare_append ps qs
    obtain ⟨ls', hls', hlsTokens'⟩ := Lexeme.exists_bare_append ps' qs
    rw [htokens] at hlsTokens
    rw [htokens'] at hlsTokens'
    obtain ⟨hplain, ts₁, hreads, hts₁⟩ := reads_of_readInserts hall h
    rw [hls] at hreads
    have hplain' : (ps' ++ qs).any isExecutableComment = false := by
      rw [List.any_append] at hplain ⊢
      rw [hcomments', (Bool.or_eq_false_iff.mp hplain).2]
      rfl
    obtain ⟨l, ms, found, left, rfl, hlength, hfront, hkeeps, hchanges⟩ : ∃ l ms found left, ls = l :: ms ∧
        ms.length = words.length ∧ front.run (ms ++ bare qs) = .ok (found, left) ∧
        (left.length = (bare qs).length → Reads (ls' ++ bare qs) ts₁) ∧
        (left.length ≠ (bare qs).length → ∀ ts', Reads (ls' ++ bare qs) ts' → tableHead ts₁ ≠ tableHead ts') := by
      by_cases hmore : more = []
      · subst hmore
        exact exists_front_of_words hlsTokens hlsTokens' hlead hinto hwords hreads
      · obtain ⟨l, ms, found, left, hsplit, hlength, hfront, hne, hchanges⟩ :=
          exists_front_of_longer hlsTokens hlsTokens' hlead hinto hwords hmore hreads
        exact ⟨l, ms, found, left, hsplit, hlength, hfront, fun heq => absurd heq hne, fun _ => hchanges⟩
    replace hls : bare (ps ++ qs) = l :: (ms ++ bare qs) := hls
    have hagrees : agrees text ↔ left.length = (bare qs).length := by
      rw [agrees_iff hall hls hfront, List.length_append, hlength, hcount]
      omega
    rw [hagrees]
    constructor
    · rintro ⟨ts', h', hsame⟩
      by_contra hne
      obtain ⟨-, ts₂, hreads', hts₂⟩ := reads_of_readInserts hall' h'
      rw [hls'] at hreads'
      refine hchanges hne ts₂ hreads' ?_
      rw [← tableHead_unplaced ts₁, hts₁, tableHead_unplaced, tableHead_eq_of_sameAll hsame, ← tableHead_unplaced ts',
        ← hts₂, tableHead_unplaced]
    · intro heq
      have hreads' := hkeeps heq
      rw [← hls'] at hreads'
      obtain ⟨ts', h', hts'⟩ := readInserts_of_reads hall' hplain' hreads'
      exact ⟨ts', h', Insert.sameAll_of_unplaced (hts₁.symm.trans hts'.symm)⟩

theorem complete_keeps_ignore :
    ∃ ts ts', readInserts "INSERT IGNORE t SET a = 1" = .ok ts ∧
      readInserts (complete "INSERT IGNORE t SET a = 1") = .ok ts' ∧ Insert.sameAll ts ts' := by
  have hread : (readInserts "INSERT IGNORE t SET a = 1").toOption.isSome := by decide +kernel
  cases h : readInserts "INSERT IGNORE t SET a = 1" with
  | error fault =>
    rw [h] at hread
    cases hread
  | ok ts =>
    obtain ⟨ts', h', hsame⟩ := (complete_same_iff h).mpr (.inr (by decide +kernel))
    exact ⟨ts, ts', rfl, h', hsame⟩

/-- `INSERT IGNORE$t SET a = 1` inserts into `IGNORE$t`, and into `INTO$t` once its heading is completed. -/
theorem complete_dollar_name :
    ((readInserts "INSERT IGNORE$t SET a = 1").toOption.map tableHead,
      (readInserts (complete "INSERT IGNORE$t SET a = 1")).toOption.map tableHead) =
        (some (some "IGNORE$t"), some (some "INTO$t")) ∧
      ¬ ∀ text ts, readInserts text = .ok ts →
        ∃ ts', readInserts (complete text) = .ok ts' ∧ Insert.sameAll ts ts' := by
  have htables : ((readInserts "INSERT IGNORE$t SET a = 1").toOption.map tableHead,
      (readInserts (complete "INSERT IGNORE$t SET a = 1")).toOption.map tableHead) =
        (some (some "IGNORE$t"), some (some "INTO$t")) := by decide +kernel
  refine ⟨htables, fun all => ?_⟩
  cases h : readInserts "INSERT IGNORE$t SET a = 1" with
  | error fault =>
    rw [h] at htables
    cases (Prod.mk.inj htables).1
  | ok ts =>
    obtain ⟨ts', h', hsame⟩ := all _ ts h
    rw [h, h'] at htables
    obtain ⟨htable, htable'⟩ := Prod.mk.inj htables
    have heq := tableHead_eq_of_sameAll hsame
    rw [Option.some.inj htable, Option.some.inj htable'] at heq
    exact absurd heq (by decide)

end Heading

end InsertPivot
