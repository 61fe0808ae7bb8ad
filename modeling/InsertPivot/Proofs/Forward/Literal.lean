import InsertPivot.Proofs.Forward.Reader
import InsertPivot.Sql.Reader.Time

/-!
# Literals, types and units go forward

The readers of literals, of types and of units of time, in the order in which they are defined.
-/

namespace InsertPivot.Sql.Reader

/-! ## Literals -/

theorem adjacentBodies_suffix (ls : List Lexeme) : (adjacentBodies ls).2 <:+ ls := by
  fun_induction adjacentBodies ls <;> grind [List.suffix_cons_iff]

instance (body : String) : Forward (joinedBody body) where
  left_suffix h := by
    cases h
    exact adjacentBodies_suffix _

instance (sign : Symbol) (from_ : Lexeme) : Forward (boundPlaceholder sign from_) := by
  unfold boundPlaceholder
  split
  · infer_instance
  · refine forward_bind fun found => ?_
    split <;> infer_instance

instance : Forward literal := by
  refine forward_bind fun found => ?_
  split
  · infer_instance
  · split
    · infer_instance
    · split <;> infer_instance
    all_goals infer_instance

instance : Forward introducedString := by
  refine forward_bind fun found => ?_
  split <;> infer_instance

/-! ## Numbers and sizes -/

instance (bound : Nat) (label text : String) (place : Text.Position) :
    Forward (numeralBelow bound label text place) := by
  unfold numeralBelow
  split <;> infer_instance

instance : Forward wholeNumber := by
  refine forward_bind fun found => ?_
  split <;> infer_instance

instance : Forward signedNumber := by
  refine forward_bind fun negative => ?_
  cases negative
  · refine forward_bind fun plus => forward_bind fun found => ?_
    split <;> infer_instance
  · refine forward_bind fun found => ?_
    split <;> infer_instance

instance : Forward numberText := by
  refine forward_bind fun start => forward_bind fun found => ?_
  split <;> infer_instance

instance : Forward signedText := by
  unfold signedText
  infer_instance

instance : Forward optionalPrecision := by
  unfold optionalPrecision
  infer_instance

instance : Forward countSize := by
  unfold countSize
  infer_instance

instance : Forward digitSize := by
  unfold digitSize
  infer_instance

instance : Forward lengthSize := by
  unfold lengthSize
  infer_instance

instance : Forward byteSize := by
  unfold byteSize
  infer_instance

/-! ## Types -/

instance : Forward denial := by
  unfold denial
  infer_instance

instance : Forward zone := by
  refine forward_bind fun found => ?_
  cases found <;> infer_instance

instance (name : String) (shape : TypeShape) : Forward (shapedType name shape) := by
  unfold shapedType
  cases shape <;> infer_instance

instance : Forward restOfDouble := by
  unfold restOfDouble
  infer_instance

instance : Forward restOfLongTime := by
  unfold restOfLongTime
  infer_instance

instance : Forward enumMember := by
  unfold enumMember
  infer_instance

instance (bits : Option Nat) : Forward (restOfEnum bits) := by
  unfold restOfEnum
  infer_instance

instance (bound : List Lexeme) : Forward (setMembers bound) := by
  induction bound with
  | nil =>
    unfold setMembers
    infer_instance
  | cons l bound ih =>
    refine forward_bind fun found => ?_
    split
    · refine forward_bind fun next => ?_
      split <;> infer_instance
    · infer_instance

instance : Forward restOfSet := by
  unfold restOfSet
  infer_instance

instance (word : String) : Forward (restOfSigned word) := by
  unfold restOfSigned
  infer_instance

instance (bound : List Lexeme) : Forward (modifiers bound) := by
  induction bound with
  | nil =>
    unfold modifiers
    infer_instance
  | cons l bound ih =>
    refine forward_bind fun found => ?_
    split <;> infer_instance

instance : Forward customType := by
  unfold customType
  infer_instance

theorem forward_of_keywordType? {keyword : String} {r : Reader DataType} (h : keywordType? keyword = some r) :
    Forward r := by
  unfold keywordType? at h
  split at h <;> try (cases h; infer_instance)
  split at h
  · cases h
    infer_instance
  · obtain ⟨⟨shape, _⟩, -, rfl⟩ := Option.map_eq_some_iff.mp h
    infer_instance

instance (closed : Bool) : Forward (closeArray closed) := by
  unfold closeArray
  infer_instance

instance (bound : List Lexeme) : Forward (nestedType bound) := by
  induction bound with
  | nil =>
    unfold nestedType
    infer_instance
  | cons l bound ih =>
    refine forward_bind fun found => ?_
    cases found with
    | none => infer_instance
    | some found =>
      simp only
      split
      next => infer_instance
      next => infer_instance
      next => infer_instance
      next keyword =>
        split
        next r hr =>
          have := forward_of_keywordType? hr
          infer_instance
        next => infer_instance
      next => infer_instance

instance : Forward dataType := by
  refine forward_bind fun start => ?_
  refine forward_bind fun found => ?_
  split <;> infer_instance

/-! ## Units of time -/

instance : Forward timeField := by
  refine forward_bind fun found => ?_
  cases found <;> infer_instance

instance (leading : String) : Forward (restOfUnit leading) := by
  unfold restOfUnit
  split
  · infer_instance
  · refine forward_bind fun precision => forward_bind fun last => ?_
    cases last <;> infer_instance

instance (inner : Nested) [inner.Forward] : Forward (restOfInterval inner) := by
  refine forward_bind fun amount => forward_bind fun found => ?_
  cases found <;> infer_instance

end InsertPivot.Sql.Reader
