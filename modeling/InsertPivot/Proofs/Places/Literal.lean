import InsertPivot.Proofs.Places.Reader
import InsertPivot.Sql.Reader.Time

/-!
# Literals, types and units do not depend on places

The readers of literals, of types and of units of time, in the order in which they are defined.
-/

namespace InsertPivot.Sql.Reader

/-! ## Literals -/

/-- Strings side by side are told by their tokens. -/
theorem adjacentBodies_unplaced (ls : List Lexeme) :
    adjacentBodies (unplaced ls) = unplaced (adjacentBodies ls) := by
  induction ls with
  | nil => rfl
  | cons l ls ih =>
    obtain ⟨_ | _ | ⟨_ | _⟩ | _, _, _⟩ := l <;> simp [adjacentBodies, ih]

@[simp] theorem joinedBody_blind (body : String) : Blind (joinedBody body) := by
  intro ls
  simp only [joinedBody, StateT.run, adjacentBodies_unplaced, unplaced_ok, unplaced_mk, unplaced_eq,
    fst_unplaced, snd_unplaced]

/-- A placeholder is bound by what directly stands behind its sign, which `gap` tells, not its place. -/
@[simp] theorem boundPlaceholder_alike (sign : Symbol) (from_ : Lexeme) :
    Alike (boundPlaceholder sign (unplaced from_)) (boundPlaceholder sign from_) := by
  simp only [boundPlaceholder, gap_unplaced]
  split
  · simp
  · refine Alike.bind next?_blind fun found => ?_
    obtain _ | ⟨_ | ⟨_, _ | _⟩ | _ | _, _, _⟩ := found <;> simp

@[simp] theorem literal_blind : Blind literal := by
  refine Alike.bind (by simp) fun found => ?_
  cases found with
  | none => simp
  | some found =>
    simp only [unplaced_some, token_unplaced]
    cases h : found.token with
    | word _ quote =>
      cases quote with
      | some _ => simp
      | none => simp; split <;> simp
    | string kind _ => cases kind <;> simp
    | symbol s => split <;> simp_all
    | _ => simp

@[simp] theorem introducedString_blind : Blind introducedString := by
  refine Alike.bind (by simp) fun found => ?_
  obtain _ | ⟨_ | _ | ⟨_ | _⟩ | _, _, _⟩ := found <;> simp

/-! ## Numbers and sizes -/

/-- A number that is too large is refused with its place, and without it alike. -/
@[simp] theorem numeralBelow_alike (bound : Nat) (label text : String) (place : Text.Position) :
    Alike (numeralBelow bound label text ⟨0, 0⟩) (numeralBelow bound label text place) := by
  intro ls
  simp only [numeralBelow]
  split <;> simp

@[simp] theorem wholeNumber_blind : Blind wholeNumber := by
  refine Alike.bind (by simp) fun found => ?_
  obtain _ | ⟨_ | _ | _ | _, _, _⟩ := found <;> simp
  exact numeralBelow_alike _ _ _ _

/-- A number behind a sign is read alike. -/
@[simp] theorem signedNumber_blind : Blind signedNumber := by
  refine Alike.bind (acceptSymbol_blind .minus) fun negative => ?_
  cases negative
  case' false => refine Alike.bind (acceptSymbol_blind .plus) fun _ => ?_
  -- what stands behind the signs is read in the same way, whichever sign was taken
  all_goals
    refine Alike.bind peek?_blind fun found => ?_
    obtain _ | ⟨_ | ⟨text, _⟩ | _ | _, span, _⟩ := found
  case false.some.number | true.some.number =>
    refine Alike.bind skip_blind fun _ => ?_
    exact Alike.bind (numeralBelow_alike _ _ _ _) fun size => by simp
  all_goals simp

@[simp] theorem numberText_blind : Blind numberText := by
  refine Alike.bind get_blind fun start => ?_
  refine Alike.bind literal_blind fun found => ?_
  obtain ⟨_ | _ | _ | _, _⟩ := found <;> cases start <;> simp

@[simp] theorem signedText_blind : Blind signedText := by simp [signedText]

@[simp] theorem optionalPrecision_blind : Blind optionalPrecision := by simp [optionalPrecision]

@[simp] theorem countSize_blind : Blind countSize := by simp [countSize]

@[simp] theorem digitSize_blind : Blind digitSize := by simp [digitSize]

@[simp] theorem lengthSize_blind : Blind lengthSize := by simp [lengthSize]

@[simp] theorem byteSize_blind : Blind byteSize := by simp [byteSize]

/-! ## Types -/

@[simp] theorem denial_blind : Blind denial := by simp [denial]

@[simp] theorem zone_blind : Blind zone := by
  refine Alike.bind (by simp) fun found => ?_
  cases found <;> simp

@[simp] theorem shapedType_blind (name : String) (shape : TypeShape) : Blind (shapedType name shape) := by
  cases shape <;> simp [shapedType]

@[simp] theorem restOfDouble_blind : Blind restOfDouble := by simp [restOfDouble]

@[simp] theorem restOfLongTime_blind : Blind restOfLongTime := by simp [restOfLongTime]

@[simp] theorem enumMember_blind : Blind enumMember := by simp [enumMember]

@[simp] theorem restOfEnum_blind (bits : Option Nat) : Blind (restOfEnum bits) := by
  simp [restOfEnum]

@[simp] theorem setMembers_alike (bound : List Lexeme) :
    Alike (setMembers (unplaced bound)) (setMembers bound) := by
  induction bound with
  | nil => simp [setMembers]
  | cons _ bound ih =>
    rw [unplaced_cons]
    refine Alike.bind next?_blind fun found => ?_
    obtain _ | ⟨_ | _ | ⟨_ | _⟩ | _, _, _⟩ := found
    case cons.some.string.single =>
      refine Alike.bind next?_blind fun found => ?_
      obtain _ | ⟨_ | _ | _ | _ | s | _, _, _⟩ := found <;> try simp
      cases s <;> simp [ih]
    all_goals simp

@[simp] theorem restOfSet_blind : Blind restOfSet := by simp [restOfSet]

@[simp] theorem restOfSigned_blind (word : String) : Blind (restOfSigned word) := by
  simp [restOfSigned]

@[simp] theorem modifiers_alike (bound : List Lexeme) :
    Alike (modifiers (unplaced bound)) (modifiers bound) := by
  induction bound with
  | nil => simp [modifiers]
  | cons _ bound ih =>
    rw [unplaced_cons]
    refine Alike.bind next?_blind fun found => ?_
    obtain _ | ⟨_ | _ | ⟨_ | _⟩ | _ | s | _, _, _⟩ := found <;> try simp [ih]
    cases s <;> simp [ih]

@[simp] theorem customType_blind : Blind customType := by simp [customType]

/-- The type that a keyword opens is read alike. -/
theorem keywordType?_blind {keyword : String} {r : Reader DataType} (h : keywordType? keyword = some r) :
    Blind r := by
  unfold keywordType? at h
  split at h <;> try (cases h; simp)
  split at h
  · cases h
    simp
  · obtain ⟨⟨shape, _⟩, -, rfl⟩ := Option.map_eq_some_iff.mp h
    simp

@[simp] theorem closeArray_blind (closed : Bool) : Blind (closeArray closed) := by
  cases closed <;> simp [closeArray]

/-- Types nest, so the readers of elements are alike by induction on the bound. -/
@[simp] theorem nestedType_alike (bound : List Lexeme) :
    Alike (nestedType (unplaced bound)) (nestedType bound) := by
  induction bound with
  | nil => simp [nestedType]
  | cons _ bound ih =>
    have hcolumn : Alike
        (do
          let name ← ident
          (fun p => name.text ++ " " ++ p.1.text) <$> nestedType (unplaced bound))
        (do
          let name ← ident
          (fun p => name.text ++ " " ++ p.1.text) <$> nestedType bound) := by
      simp [ih]
    rw [unplaced_cons]
    refine Alike.bind peek?_blind fun found => ?_
    cases found with
    | none => simp
    | some found =>
      simp only [unplaced_some, token_unplaced]
      split
      · simp [ih]
      · simp
      · simp [hcolumn.commaSeparated.inOptionalParens]
      · split
        next r hr => simp [keywordType?_blind hr]
        next => simp
      · simp

@[simp] theorem dataType_blind : Blind dataType := by
  refine Alike.bind get_blind fun ls => ?_
  refine Alike.bind (nestedType_alike ls) fun ⟨type, closed⟩ => ?_
  cases closed <;> simp

/-! ## Units of time -/

@[simp] theorem timeField_blind : Blind timeField := by
  refine Alike.bind (by simp) fun found => ?_
  cases found <;> simp

/-- Units of time are read alike, with their precisions. -/
@[simp] theorem restOfUnit_blind (leading : String) : Blind (restOfUnit leading) := by
  unfold restOfUnit
  split
  · simp
  · refine Alike.bind optionalPrecision_blind fun precision => ?_
    refine Alike.bind (behindKeyword_blind "TO" timeField_blind) fun last => ?_
    cases last <;> simp

@[simp] theorem restOfInterval_blind (inner : Nested) [inner.Blind] : Blind (restOfInterval inner) := by
  refine Alike.bind (by simp) fun amount => ?_
  refine Alike.bind (by simp) fun leading => ?_
  cases leading <;> simp

end InsertPivot.Sql.Reader
