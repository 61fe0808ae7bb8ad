import InsertPivot.Proofs.Places
import InsertPivot.Sql.Reader.Nested

/-!
# Reading does not depend on places

A reader looks at tokens and at what directly follows them, never at places: these it only passes on. So
reading lexemes without their places yields what reading the lexemes yields, without its places.

`Blind` says so of a reader. A reader that goes on from a value that was read is compared with itself on
that value without its places, which is what `Alike` is for. Here are the readers from which the grammar is
put together; the modules beside this one go through the grammar.
-/

namespace InsertPivot.Sql

/-! ## Results -/

/-- A fault without its places. -/
@[simp] def Fault.unplaced : Fault → Fault
  | .scan fault => .scan fault
  | .tooDeep => .tooDeep
  | .expected what found => .expected what (Placed.unplaced found)
  | .notBetween symbol start => .notBetween symbol (Placed.unplaced start)
  | .noUnit start => .noUnit (Placed.unplaced start)
  | .noItem word next => .noItem word (Placed.unplaced next)
  | .invalid message start => .invalid message (Placed.unplaced start)

instance : Placed Fault := ⟨Fault.unplaced⟩

@[simp] theorem unplaced_fault (fault : Fault) : unplaced fault = fault.unplaced := rfl

instance {α : Type} [Placed α] : Placed (Except Fault α) where
  unplaced
    | .ok a => .ok (unplaced a)
    | .error fault => .error (unplaced fault)

section Results

variable {α β γ : Type}

/-- What follows a result, or its fault without places. -/
def afterUnplaced (x : Except Fault α) (f : α → Except Fault β) : Except Fault β :=
  match x with
  | .ok a => f a
  | .error fault => .error (unplaced fault)

@[simp] theorem afterUnplaced_bind (x : Except Fault α) (f : α → Except Fault β) (g : β → Except Fault γ) :
    (afterUnplaced x f >>= g) = afterUnplaced x fun a => f a >>= g := by
  cases x <;> rfl

@[simp] theorem afterUnplaced_map (x : Except Fault α) (f : α → Except Fault β) (g : β → γ) :
    g <$> afterUnplaced x f = afterUnplaced x fun a => g <$> f a := by
  cases x <;> rfl

@[simp] theorem unplaced_ite [Placed α] (c : Prop) [Decidable c] (a b : α) :
    unplaced (if c then a else b) = if c then unplaced a else unplaced b := by
  split <;> rfl

@[simp] theorem unplaced_ok [Placed α] (a : α) : unplaced (.ok a : Except Fault α) = .ok (unplaced a) := rfl

@[simp] theorem unplaced_error [Placed α] (fault : Fault) :
    unplaced (.error fault : Except Fault α) = .error (unplaced fault) := rfl

@[simp] theorem unplaced_pure [Placed α] (a : α) :
    unplaced (pure a : Except Fault α) = pure (unplaced a) := rfl

@[simp] theorem unplaced_throw [Placed α] (fault : Fault) :
    unplaced (throw fault : Except Fault α) = throw (unplaced fault) := rfl

@[simp] theorem throw_bind (fault : Fault) (f : α → Except Fault β) :
    ((throw fault : Except Fault α) >>= f) = throw fault := rfl

@[simp] theorem map_throw (fault : Fault) (f : α → β) :
    f <$> (throw fault : Except Fault α) = throw fault := rfl

@[simp] theorem afterUnplaced_throw (fault : Fault) (f : α → Except Fault β) :
    afterUnplaced (throw fault) f = throw (unplaced fault) := rfl

@[simp] theorem bind_unplaced [Placed α] (x : Except Fault α) (f : α → Except Fault β) :
    (unplaced x >>= f) = afterUnplaced x fun a => f (unplaced a) := by
  cases x <;> rfl

@[simp] theorem map_unplaced_except [Placed α] (x : Except Fault α) (f : α → β) :
    f <$> unplaced x = afterUnplaced x fun a => pure (f (unplaced a)) := by
  cases x <;> rfl

@[simp] theorem unplaced_bind [Placed β] (x : Except Fault α) (f : α → Except Fault β) :
    unplaced (x >>= f) = afterUnplaced x fun a => unplaced (f a) := by
  cases x <;> rfl

@[simp] theorem unplaced_map [Placed β] (x : Except Fault α) (f : α → β) :
    unplaced (f <$> x) = afterUnplaced x fun a => pure (unplaced (f a)) := by
  cases x <;> rfl

end Results

namespace Reader

variable {α β : Type} [Placed α] [Placed β] {inner : Nested}

/-- Two readers of which the first does on lexemes without their places what the second does on the
lexemes. -/
@[simp] abbrev Alike (r' r : Reader α) : Prop :=
  ∀ ls, r'.run (unplaced ls) = unplaced (r.run ls)

/-- A reader that does not depend on places. -/
@[simp] abbrev Blind (r : Reader α) : Prop :=
  Alike r r

omit [Placed α] in
@[simp] theorem run_ite (c : Prop) [Decidable c] (r s : Reader α) (ls : List Lexeme) :
    (if c then r else s).run ls = if c then r.run ls else s.run ls := by
  split <;> rfl

/-- Readers put together are alike if the first two are, and those behind are on what was read without its places.
Through this lemma every reader below is taken step by step. -/
theorem Alike.bind {r' r : Reader α} {f' f : α → Reader β} (hr : Alike r' r)
    (hf : ∀ a, Alike (f' (unplaced a)) (f a)) : Alike (r' >>= f') (r >>= f) := by
  simp [hr, hf]

/-! ## The next lexemes -/

theorem get_blind : Blind (get : Reader (List Lexeme)) := fun _ => rfl

@[simp] theorem peek?_blind : Blind peek? := by simp [peek?]

@[simp] theorem peekToken?_blind : Blind peekToken? := by
  simp [peekToken?]

@[simp] theorem peekKeyword?_blind : Blind peekKeyword? := by simp [peekKeyword?]

@[simp] theorem peekFurther_blind : Blind peekFurther := by simp [peekFurther]

@[simp] theorem place?_blind : Blind place? := by
  intro ls
  cases ls <;> rfl

@[simp] theorem skip_blind : Blind skip := by simp [skip]

@[simp] theorem next?_blind : Blind next? := by simp [next?]

/-! ## Faults -/

omit [Placed α] in
@[simp] theorem run_throw (fault : Fault) (ls : List Lexeme) :
    (throw fault : Reader α).run ls = throw fault := rfl

omit [Placed α] in
@[simp] theorem run_expectedAt_none (what : String) (ls : List Lexeme) :
    (expectedAt what none : Reader α).run ls = throw (.expected what none) := rfl

omit [Placed α] in
@[simp] theorem run_expectedAt_some (what : String) (l : Lexeme) (ls : List Lexeme) :
    (expectedAt what (some l) : Reader α).run ls =
      throw (.expected what (some (l.token.text, l.span.first))) := rfl

/-- What is shown in place of something wanted is shown without its place. -/
@[simp] theorem expectedAt_alike (what : String) (found : Option Lexeme) :
    Alike (expectedAt what (unplaced found) : Reader α) (expectedAt what found) := by
  intro ls
  cases found <;> rfl

@[simp] theorem expected_blind (what : String) : Blind (expected what : Reader α) := by simp [expected]

@[simp] theorem refuse_blind (message : String) : Blind (refuse message : Reader α) := by simp [refuse]

/-! ## Symbols and keywords -/

@[simp] theorem atSymbol_blind (symbol : Symbol) : Blind (atSymbol symbol) := by simp [atSymbol]

@[simp] theorem acceptSymbol_blind (symbol : Symbol) : Blind (acceptSymbol symbol) := by simp [acceptSymbol]

@[simp] theorem expectSymbol_blind (symbol : Symbol) : Blind (expectSymbol symbol) := by simp [expectSymbol]

@[simp] theorem atKeyword_blind (keyword : String) : Blind (atKeyword keyword) := by simp [atKeyword]

@[simp] theorem acceptKeyword_blind (keyword : String) : Blind (acceptKeyword keyword) := by
  simp [acceptKeyword]

@[simp] theorem atKeywords_blind (keywords : List String) : Blind (atKeywords keywords) := by
  simp [atKeywords]

@[simp] theorem acceptKeywords_blind (keywords : List String) : Blind (acceptKeywords keywords) := by
  simp [acceptKeywords]

@[simp] theorem oneOf?_blind (keywords : List String) : Blind (oneOf? keywords) := by
  refine Alike.bind peekKeyword?_blind fun found => ?_
  cases found <;> simp

@[simp] theorem acceptOneOf_blind (keywords : List String) : Blind (acceptOneOf keywords) := by
  simp [acceptOneOf]

@[simp] theorem expectKeyword_blind (keyword : String) : Blind (expectKeyword keyword) := by
  simp [expectKeyword]

@[simp] theorem expectKeywords_blind (keywords : List String) : Blind (expectKeywords keywords) := by
  induction keywords with
  | nil => simp [expectKeywords]
  | cons keyword rest ih => simp [expectKeywords, ih]

@[simp] theorem expectOneOf_blind (keywords : List String) : Blind (expectOneOf keywords) := by
  refine Alike.bind (oneOf?_blind keywords) fun found => ?_
  cases found <;> simp

@[simp] theorem atOneOf_blind (keywords : List String) : Blind (atOneOf keywords) := by simp [atOneOf]

@[simp] theorem atQuery_blind : Blind atQuery := by simp [atQuery]

/-! ## Choices and lists -/

/-- A reader that is tried fails alike, so it goes back alike. -/
@[simp] theorem attempt_blind {r : Reader α} (h : Blind r) : Blind (attempt r) := by
  intro ls
  have hls := h ls
  simp only [attempt, StateT.run] at hls ⊢
  rw [hls]
  match r ls with
  | .ok _ => rfl
  | .error fault => cases fault <;> rfl

/-- Lists with commas are read alike if their items are. -/
theorem Alike.commaSteps {item' item : Reader α} (h : Alike item' item) (bound : List Lexeme) :
    Alike (Reader.commaSteps item' (unplaced bound)) (Reader.commaSteps item bound) := by
  induction bound with
  | nil => simp [Reader.commaSteps, h]
  | cons _ bound ih => simp [Reader.commaSteps, h, ih]

theorem Alike.commaSeparated {item' item : Reader α} (h : Alike item' item) :
    Alike (Reader.commaSeparated item') (Reader.commaSeparated item) := by
  simp [Reader.commaSeparated, h.commaSteps]

@[simp] theorem commaSeparated_blind {item : Reader α} (h : Blind item) : Blind (commaSeparated item) :=
  h.commaSeparated

@[simp] theorem commaSeparatedBefore_blind (closing : Symbol) {item : Reader α} (h : Blind item) :
    Blind (commaSeparatedBefore closing item) := by
  simp [commaSeparatedBefore, h]

/-- What stands in parentheses is read alike if it is outside of them. -/
theorem Alike.inParens {r' r : Reader α} (h : Alike r' r) : Alike (Reader.inParens r') (Reader.inParens r) := by
  simp [Reader.inParens, h]

@[simp] theorem inParens_blind {r : Reader α} (h : Blind r) : Blind (inParens r) :=
  h.inParens

theorem Alike.inOptionalParens {r' r : Reader α} (h : Alike r' r) :
    Alike (Reader.inOptionalParens r') (Reader.inOptionalParens r) := by
  simp [Reader.inOptionalParens, h.inParens]

@[simp] theorem inOptionalParens_blind {r : Reader α} (h : Blind r) : Blind (inOptionalParens r) :=
  h.inOptionalParens

@[simp] theorem behindKeyword_blind (keyword : String) {r : Reader α} (h : Blind r) :
    Blind (behindKeyword keyword r) := by
  simp [behindKeyword, h]

@[simp] theorem behindKeywords_blind (keywords : List String) {r : Reader α} (h : Blind r) :
    Blind (behindKeywords keywords r) := by
  simp [behindKeywords, h]

/-- What is read repeatedly is read alike if it is once; the bound is on the number of lexemes, which have no place.
-/
theorem Alike.many {r' r : Reader (Option α)} (h : Alike r' r) (bound : List Lexeme) :
    Alike (Reader.many r' (unplaced bound)) (Reader.many r bound) := by
  induction bound with
  | nil => simp [Reader.many]
  | cons _ bound ih =>
    rw [unplaced_cons]
    refine Alike.bind h fun found => ?_
    cases found <;> simp [ih]

theorem Alike.repeated {r' r : Reader (Option α)} (h : Alike r' r) :
    Alike (Reader.repeated r') (Reader.repeated r) := by
  simp [Reader.repeated, h.many]

@[simp] theorem repeated_blind {r : Reader (Option α)} (h : Blind r) : Blind (repeated r) :=
  h.repeated

/-! ## Names -/

/-- A name is read with its place, and without it from a lexeme without its place. -/
@[simp] theorem ident_blind : Blind ident := by
  refine Alike.bind peek?_blind fun found => ?_
  obtain _ | ⟨_ | _ | ⟨_ | _⟩ | _, _, _⟩ := found <;> simp

/-- Names with periods are read alike. -/
@[simp] theorem dottedSteps_alike (bound : List Lexeme) :
    Alike (dottedSteps (unplaced bound)) (dottedSteps bound) := by
  induction bound with
  | nil => simp [dottedSteps]
  | cons _ bound ih => simp [dottedSteps, ih]

@[simp] theorem dottedName_blind : Blind dottedName := by simp [dottedName]

@[simp] theorem columnList_blind (empty : Bool) : Blind (columnList empty) := by simp [columnList]

@[simp] theorem optionalColumnList_blind (empty : Bool) : Blind (optionalColumnList empty) := by
  simp [optionalColumnList]

@[simp] theorem nameList_blind : Blind nameList := by simp [nameList]

@[simp] theorem textLiteral_blind : Blind textLiteral := by
  refine Alike.bind next?_blind fun found => ?_
  obtain _ | ⟨_ | _ | ⟨_ | _⟩ | _, _, _⟩ := found <;> simp

end Reader

/-! ## One level deeper -/

/-- Readers for what stands one level deeper that do not depend on places. -/
class Nested.Blind (inner : Nested) : Prop where
  expr_blind : ∀ least, Reader.Blind (inner.expr least)
  query_blind : Reader.Blind inner.query

namespace Nested

variable {inner : Nested} [inner.Blind]

@[simp] theorem expr_blind (least : Nat) : Reader.Blind (inner.expr least) :=
  Blind.expr_blind least

@[simp] theorem query_blind : Reader.Blind inner.query :=
  Blind.query_blind

@[simp] theorem value_blind : Reader.Blind inner.value := by simp [value]

@[simp] theorem values_blind : Reader.Blind inner.values := by simp [values]

@[simp] theorem valueList_blind : Reader.Blind inner.valueList := by simp [valueList]

end Nested
end InsertPivot.Sql
