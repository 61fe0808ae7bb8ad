import InsertPivot.Proofs.Places.Query

/-!
# Running the small readers

What the readers from which the grammar is put together do on lexemes: what they yield and which lexemes
they leave. The equations are simp lemmas. That a reader is blind to places is proved by its shape and not by
its run, so those proofs come before these lemmas.
-/

namespace InsertPivot.Sql

/-! ## Results -/

section Results

variable {ε α β : Type}

@[simp] theorem except_pure (a : α) : (pure a : Except ε α) = .ok a := rfl

@[simp] theorem except_throw (fault : ε) : (throw fault : Except ε α) = .error fault := rfl

@[simp] theorem except_ok_bind (a : α) (f : α → Except ε β) : (Except.ok a >>= f) = f a := rfl

@[simp] theorem except_error_bind (fault : ε) (f : α → Except ε β) :
    ((Except.error fault : Except ε α) >>= f) = .error fault := rfl

@[simp] theorem except_map_ok (f : α → β) (a : α) : (f <$> (Except.ok a : Except ε α)) = .ok (f a) := rfl

@[simp] theorem except_map_error (f : α → β) (fault : ε) :
    (f <$> (Except.error fault : Except ε α)) = .error fault := rfl

/-- A sequence succeeds when both of its parts do. -/
theorem except_bind_eq_ok_iff {x : Except ε α} {f : α → Except ε β} {b : β} :
    (x >>= f) = .ok b ↔ ∃ a, x = .ok a ∧ f a = .ok b := by
  cases x <;> simp

end Results

namespace Reader

variable {α β : Type} {ls : List Lexeme}

/-- A reader succeeds when both of its parts do, one behind the other. -/
theorem run_bind_eq_ok_iff {r : Reader α} {f : α → Reader β} {b : β} {rest : List Lexeme} :
    (r >>= f).run ls = .ok (b, rest) ↔ ∃ a left, r.run ls = .ok (a, left) ∧ (f a).run left = .ok (b, rest) := by
  simp only [StateT.run_bind, except_bind_eq_ok_iff, Prod.exists]

/-- Behind a reader that succeeds, the next one goes on with its value and its rest. -/
theorem run_bind_of_ok {r : Reader α} {f : α → Reader β} {a : α} {left : List Lexeme}
    (h : r.run ls = .ok (a, left)) : (r >>= f).run ls = (f a).run left := by
  simp only [StateT.run_bind, h, except_ok_bind]

/-- Where a reader fails, nothing behind it is read. -/
theorem run_bind_of_error {r : Reader α} {f : α → Reader β} {fault : Fault} (h : r.run ls = .error fault) :
    (r >>= f).run ls = .error fault := by
  simp only [StateT.run_bind, h, except_error_bind]

/-! ## The next lexemes -/

@[simp] theorem run_peek? (ls : List Lexeme) : peek?.run ls = .ok (ls.head?, ls) := rfl

@[simp] theorem run_peekToken? (ls : List Lexeme) : peekToken?.run ls = .ok (ls.head?.map Lexeme.token, ls) := rfl

@[simp] theorem run_peekKeyword? (ls : List Lexeme) :
    peekKeyword?.run ls = .ok (ls.head?.bind (·.token.keyword?), ls) := rfl

@[simp] theorem run_skip (ls : List Lexeme) : skip.run ls = .ok ((), ls.tail) := rfl

@[simp] theorem run_next? (ls : List Lexeme) : next?.run ls = .ok (ls.head?, ls.tail) := rfl

@[simp] theorem run_atSymbol (symbol : Symbol) (ls : List Lexeme) :
    (atSymbol symbol).run ls = .ok (decide (ls.head?.map Lexeme.token = some (.symbol symbol)), ls) := rfl

@[simp] theorem run_atKeyword (keyword : String) (ls : List Lexeme) :
    (atKeyword keyword).run ls = .ok (decide (ls.head?.bind (·.token.keyword?) = some keyword), ls) := rfl

/-- A symbol that may stand, told by the next token. -/
theorem run_acceptSymbol (symbol : Symbol) (ls : List Lexeme) :
    (acceptSymbol symbol).run ls =
      if ls.head?.map Lexeme.token = some (.symbol symbol) then .ok (true, ls.tail) else .ok (false, ls) := by
  by_cases h : ls.head?.map Lexeme.token = some (.symbol symbol) <;>
    simp only [acceptSymbol, StateT.run_bind, run_atSymbol, except_ok_bind, h, decide_true, decide_false,
      if_true, if_false, Bool.false_eq_true] <;> rfl

/-- A keyword that may stand, told by the next token. -/
theorem run_acceptKeyword (keyword : String) (ls : List Lexeme) :
    (acceptKeyword keyword).run ls =
      if ls.head?.bind (·.token.keyword?) = some keyword then .ok (true, ls.tail) else .ok (false, ls) := by
  by_cases h : ls.head?.bind (·.token.keyword?) = some keyword <;>
    simp only [acceptKeyword, StateT.run_bind, run_atKeyword, except_ok_bind, h, decide_true, decide_false,
      if_true, if_false, Bool.false_eq_true] <;> rfl

/-- Keywords that may stand are taken all or none. -/
theorem run_acceptKeywords (keywords : List String) (ls : List Lexeme) :
    (acceptKeywords keywords).run ls =
      if (ls.take keywords.length).map (·.token.keyword?) = keywords.map some then
        .ok (true, ls.drop keywords.length)
      else .ok (false, ls) := by
  by_cases h : (ls.take keywords.length).map (·.token.keyword?) = keywords.map some
  · rw [if_pos h]
    simp only [acceptKeywords, atKeywords, StateT.run_bind, StateT.run_get, StateT.run_pure, except_pure,
      except_ok_bind, h, decide_true, if_true]
    rfl
  · rw [if_neg h]
    simp only [acceptKeywords, atKeywords, StateT.run_bind, StateT.run_get, StateT.run_pure, except_pure,
      except_ok_bind, h, decide_false, Bool.false_eq_true, if_false]

/-- Where keywords are not taken, nothing is. -/
theorem left_of_acceptKeywords {keywords : List String} {left : List Lexeme}
    (h : (acceptKeywords keywords).run ls = .ok (false, left)) : left = ls := by
  rw [run_acceptKeywords] at h
  split at h
  · cases h
  · cases h
    rfl

/-- Keywords are not taken where another keyword or no keyword comes first. -/
theorem run_acceptKeywords_of_ne {keyword : String} {rest : List String}
    (h : ls.head?.bind (·.token.keyword?) ≠ some keyword) :
    (acceptKeywords (keyword :: rest)).run ls = .ok (false, ls) := by
  rw [run_acceptKeywords, if_neg]
  cases ls with
  | nil => simp
  | cons l ls =>
    intro heq
    simp only [List.length_cons, List.take_succ_cons, List.map_cons, List.cons.injEq] at heq
    exact h heq.1

/-- Where a keyword does not stand, nothing is taken. -/
theorem run_acceptKeyword_of_ne {keyword : String} (h : ls.head?.bind (·.token.keyword?) ≠ some keyword) :
    (acceptKeyword keyword).run ls = .ok (false, ls) := by
  rw [run_acceptKeyword, if_neg h]

/-- Where a keyword stands, it is taken. -/
theorem run_acceptKeyword_of_eq {keyword : String} (h : ls.head?.bind (·.token.keyword?) = some keyword) :
    (acceptKeyword keyword).run ls = .ok (true, ls.tail) := by
  rw [run_acceptKeyword, if_pos h]

@[simp] theorem run_expected (what : String) (ls : List Lexeme) :
    (expected what : Reader α).run ls =
      .error (.expected what (ls.head?.map fun l => (l.token.text, l.span.first))) := rfl

end Reader
end InsertPivot.Sql
