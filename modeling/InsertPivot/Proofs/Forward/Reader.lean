import InsertPivot.Proofs.Run

/-!
# Readers go forward

A reader takes lexemes off the front of a list: what it leaves is an end of what it was given. That holds of a
reader that goes back, too, since it never goes back behind the place where it started.

`Forward` says so of a reader. Here are the readers from which the grammar is put together; the modules beside this
one go through the grammar, as far as an `INSERT` reaches into it.
-/

namespace InsertPivot.Sql

namespace Reader

variable {α β : Type} {r : Reader α}

/-- A reader that takes lexemes off the front and nowhere else. -/
class Forward (r : Reader α) : Prop where
  left_suffix : ∀ {ls a left}, r.run ls = .ok (a, left) → left <:+ ls

/-! ## Sequences and choices -/

/-- What a sequence reads goes forward where each of its parts does. -/
theorem forward_bind {f : α → Reader β} [hr : Forward r] (hf : ∀ a, Forward (f a)) : Forward (r >>= f) where
  left_suffix h := by
    obtain ⟨a, middle, hra, hfa⟩ := run_bind_eq_ok_iff.mp h
    exact ((hf a).left_suffix hfa).trans (hr.left_suffix hra)

instance {f : α → Reader β} [Forward r] [hf : ∀ a, Forward (f a)] : Forward (r >>= f) :=
  forward_bind hf

instance (a : α) : Forward (pure a : Reader α) where
  left_suffix h := by
    cases h
    exact List.suffix_refl _

instance {f : α → β} [Forward r] : Forward (f <$> r) := by
  rw [map_eq_pure_bind]
  infer_instance

instance (fault : Fault) : Forward (throw fault : Reader α) where
  left_suffix h := by cases h

instance : Forward (get : Reader (List Lexeme)) where
  left_suffix h := by
    cases h
    exact List.suffix_refl _

instance {c : Prop} [Decidable c] {s : Reader α} [Forward r] [Forward s] : Forward (if c then r else s) := by
  split <;> infer_instance

/-- A choice by what was read before it. -/
instance {condition : Reader Bool} {s : Reader α} [Forward condition] [Forward r] [Forward s] :
    Forward (do if ← condition then r else s) :=
  forward_bind fun _ => inferInstance

/-! ## Going back -/

/-- A reader that may go back to this place, and no further. -/
class Within (start : List Lexeme) (r : Reader α) : Prop where
  left_suffix : ∀ {ls a left}, ls <:+ start → r.run ls = .ok (a, left) → left <:+ start

variable {start : List Lexeme}

instance [hr : Forward r] : Within start r where
  left_suffix hls h := (hr.left_suffix h).trans hls

theorem within_bind {f : α → Reader β} [hr : Within start r]
    (hf : ∀ a, Within start (f a)) : Within start (r >>= f) where
  left_suffix hls h := by
    obtain ⟨a, middle, hra, hfa⟩ := run_bind_eq_ok_iff.mp h
    exact (hf a).left_suffix (hr.left_suffix hls hra) hfa

instance {f : α → Reader β} [Within start r] [hf : ∀ a, Within start (f a)] : Within start (r >>= f) :=
  within_bind hf

instance : Within start (set start : Reader PUnit) where
  left_suffix _ h := by
    cases h
    exact List.suffix_refl start

instance {c : Prop} [Decidable c] {s : Reader α} [Within start r] [Within start s] :
    Within start (if c then r else s) := by
  split <;> infer_instance

/-- A reader that may go back to where it starts goes forward. -/
theorem forward_of_within {f : List Lexeme → Reader α}
    (hf : ∀ start, Within start (f start)) : Forward (get >>= f) where
  left_suffix h := (hf _).left_suffix (List.suffix_refl _) h

/-! ## The next lexemes -/

instance : Forward skip where
  left_suffix h := by
    cases h
    exact List.tail_suffix _

instance (n : Nat) : Forward (modify (List.drop n) : Reader PUnit) where
  left_suffix h := by
    cases h
    exact List.drop_suffix n _

instance : Forward peek? := by
  unfold peek?
  infer_instance

instance : Forward peekToken? := by
  unfold peekToken?
  infer_instance

instance : Forward peekKeyword? := by
  unfold peekKeyword?
  infer_instance

instance : Forward peekFurther := by
  unfold peekFurther
  infer_instance

instance : Forward place? := by
  unfold place?
  infer_instance

instance : Forward next? := by
  unfold next?
  infer_instance

/-! ## Faults -/

instance (what : String) (found : Option Lexeme) : Forward (expectedAt what found : Reader α) := by
  unfold expectedAt
  infer_instance

instance (what : String) : Forward (expected what : Reader α) := by
  unfold expected
  infer_instance

instance (message : String) : Forward (refuse message : Reader α) := by
  unfold refuse
  infer_instance

/-! ## Symbols and keywords -/

instance (symbol : Symbol) : Forward (atSymbol symbol) := by
  unfold atSymbol
  infer_instance

instance (symbol : Symbol) : Forward (acceptSymbol symbol) := by
  unfold acceptSymbol
  infer_instance

instance (symbol : Symbol) : Forward (expectSymbol symbol) := by
  unfold expectSymbol
  infer_instance

instance (keyword : String) : Forward (atKeyword keyword) := by
  unfold atKeyword
  infer_instance

instance (keyword : String) : Forward (acceptKeyword keyword) := by
  unfold acceptKeyword
  infer_instance

instance (keywords : List String) : Forward (atKeywords keywords) := by
  unfold atKeywords
  infer_instance

instance (keywords : List String) : Forward (acceptKeywords keywords) := by
  unfold acceptKeywords
  infer_instance

instance (keywords : List String) : Forward (oneOf? keywords) := by
  refine forward_bind fun keyword => ?_
  cases keyword <;> infer_instance

instance (keywords : List String) : Forward (acceptOneOf keywords) := by
  unfold acceptOneOf
  infer_instance

instance (keyword : String) : Forward (expectKeyword keyword) := by
  unfold expectKeyword
  infer_instance

instance (keywords : List String) : Forward (expectKeywords keywords) := by
  induction keywords with
  | nil =>
    unfold expectKeywords
    infer_instance
  | cons keyword rest ih =>
    unfold expectKeywords
    infer_instance

instance (keywords : List String) : Forward (expectOneOf keywords) := by
  refine forward_bind fun keyword => ?_
  cases keyword <;> infer_instance

instance (keywords : List String) : Forward (atOneOf keywords) := by
  unfold atOneOf
  infer_instance

instance : Forward atQuery := by
  unfold atQuery
  infer_instance

/-! ## Choices and lists -/

/-- Where a reader is tried and fails, no lexeme is taken. -/
instance [hr : Forward r] : Forward (attempt r) where
  left_suffix h := by
    simp only [attempt, StateT.run] at h
    split at h
    next value rest hvalue =>
      cases h
      exact hr.left_suffix hvalue
    next => cases h
    next =>
      cases h
      exact List.suffix_refl _

instance [Forward r] (bound : List Lexeme) : Forward (commaSteps r bound) := by
  induction bound with
  | nil =>
    unfold commaSteps
    infer_instance
  | cons l bound ih =>
    unfold commaSteps
    infer_instance

instance [Forward r] : Forward (commaSeparated r) := by
  unfold commaSeparated
  infer_instance

instance [Forward r] (closing : Symbol) : Forward (commaSeparatedBefore closing r) := by
  unfold commaSeparatedBefore
  infer_instance

theorem Forward.inParens (h : Forward r) : Forward (inParens r) := by
  unfold Reader.inParens
  infer_instance

instance [h : Forward r] : Forward (inParens r) :=
  h.inParens

instance [Forward r] : Forward (inOptionalParens r) := by
  unfold inOptionalParens
  infer_instance

instance [Forward r] (keyword : String) : Forward (behindKeyword keyword r) := by
  unfold behindKeyword
  infer_instance

instance [Forward r] (keywords : List String) : Forward (behindKeywords keywords r) := by
  unfold behindKeywords
  infer_instance

instance {r : Reader (Option α)} [Forward r] (bound : List Lexeme) : Forward (many r bound) := by
  induction bound with
  | nil =>
    unfold many
    infer_instance
  | cons l bound ih =>
    refine forward_bind fun found => ?_
    cases found <;> infer_instance

instance {r : Reader (Option α)} [Forward r] : Forward (repeated r) := by
  unfold repeated
  infer_instance

/-! ## Names -/

instance : Forward ident := by
  refine forward_bind fun found => ?_
  split <;> infer_instance

instance (bound : List Lexeme) : Forward (dottedSteps bound) := by
  induction bound with
  | nil =>
    unfold dottedSteps
    infer_instance
  | cons l bound ih =>
    unfold dottedSteps
    infer_instance

instance : Forward dottedName := by
  unfold dottedName
  infer_instance

instance (empty : Bool) : Forward (columnList empty) := by
  unfold columnList
  infer_instance

instance (empty : Bool) : Forward (optionalColumnList empty) := by
  unfold optionalColumnList
  infer_instance

instance : Forward nameList := by
  unfold nameList
  infer_instance

instance : Forward textLiteral := by
  refine forward_bind fun found => ?_
  split
  · infer_instance
  · infer_instance
  · split <;> infer_instance
  · infer_instance

end Reader

/-! ## One level deeper -/

/-- Readers for what stands one level deeper that go forward. -/
class Nested.Forward (inner : Nested) : Prop where
  expr_forward : ∀ least, Reader.Forward (inner.expr least)
  query_forward : Reader.Forward inner.query

namespace Nested

variable {inner : Nested} [inner.Forward]

instance (least : Nat) : Reader.Forward (inner.expr least) :=
  Forward.expr_forward least

instance : Reader.Forward inner.query :=
  Forward.query_forward

instance : Reader.Forward inner.value :=
  inferInstanceAs (Reader.Forward (inner.expr 0))

instance : Reader.Forward inner.values := by
  unfold values
  infer_instance

instance : Reader.Forward inner.valueList := by
  unfold valueList
  infer_instance

end Nested
end InsertPivot.Sql
