import Mathlib.Data.List.Nodup
import InsertPivot.Insert.Tree.Leaf

/-!
# The leaves of a statement are told by their JSON

No two names, literals, types or words between operands are written as one value. A word is told by its name
(`injective_of_find`), and a node of several kinds by the name of its kind, which `kind?` reads.

The tables of the times and the types are checked once: no two times are of one kind (`nodup_timeKinds`), and types of
one kind are times that differ in their zones (`typeKinds_told`).
-/

namespace InsertPivot.Tree

open Json (tagged ofList ofOption)

/-! ## Shapes -/

section Shapes

variable {α ι : Type} {value : ι → Json α}

/-- A tagged value is told by its tag and its value. -/
theorem tagged_inj {name other : String} {a b : Json α} : tagged name a = tagged other b ↔ name = other ∧ a = b := by
  simp only [tagged, Json.object.injEq, List.cons.injEq, Prod.mk.injEq, and_true]

/-- Objects are told member by member. -/
theorem member_inj {name other : String} {a b : Json α} {members others : List (String × Json α)} :
    Json.object ((name, a) :: members) = .object ((other, b) :: others) ↔
      name = other ∧ a = b ∧ Json.object members = .object others := by
  simp only [Json.object.injEq, List.cons.injEq, Prod.mk.injEq, and_assoc]

theorem text_injective : Function.Injective (Json.text (α := α)) :=
  fun _ _ => Json.text.inj

/-- Lists are told by their trees if their values are. -/
theorem ofList_injective (hvalue : Function.Injective value) : Function.Injective (ofList value) :=
  fun _ _ h => List.map_injective_iff.mpr hvalue (Json.array.inj h)

/-- Optional values are told by their trees if the values are and none of them is written as `null`. -/
theorem ofOption_injective (hvalue : Function.Injective value) (hnull : ∀ item, value item ≠ .null) :
    Function.Injective (ofOption value) := by
  intro a b h
  cases a with
  | none =>
    cases b with
    | none => rfl
    | some b => exact absurd h.symm (hnull b)
  | some a =>
    cases b with
    | none => exact absurd h (hnull a)
    | some b => rw [hvalue h]

/-- A list of all items in which each is the first of its name tells the items by their names. -/
theorem injective_of_find {β : Type} [DecidableEq β] {name : ι → β} (items : List ι)
    (h : ∀ item, items.find? (fun other => name other = name item) = some item) : Function.Injective name := by
  intro a b hab
  have ha := h a
  rw [hab, h b] at ha
  exact (Option.some.inj ha).symm

/-- One of two different words tells which it is. -/
theorem kindByFlag_inj {name other : String} (hne : name ≠ other) {a b : Bool} :
    ((if a then name else other) = if b then name else other) ↔ a = b := by
  cases a <;> cases b <;> simp [hne, hne.symm]

/-- The name of the kind of a value: its only member, or the value itself. -/
def kind? : Json α → Option String
  | .text kind => some kind
  | .object [(kind, _)] => some kind
  | _ => none

/-- Items that are written as one value are of one kind, when the name of the kind tells its number. -/
theorem index_eq_of_kind (number : String → Nat) (index : ι → Nat)
    (hvalue : ∀ item, (kind? (value item)).map number = some (index item)) {a b : ι} (h : value a = value b) :
    index a = index b := by
  have ha := hvalue a
  rw [h, hvalue b] at ha
  exact (Option.some.inj ha).symm

/-- Words that are the names of their kinds. -/
theorem injective_of_kind (items : List ι)
    (h : ∀ item, items.find? (fun other => kind? (value other) = kind? (value item)) = some item) :
    Function.Injective value := by
  intro a b hab
  exact injective_of_find items h (congrArg kind? hab)

end Shapes

/-! ## Names and literals -/

/-- Places are told by their trees. -/
theorem position_injective : Function.Injective position := by
  rintro ⟨_, _⟩ ⟨_, _⟩ h
  simp only [position, member_inj, Json.number.injEq, Int.natCast_inj, true_and, and_true] at h
  rw [h.1, h.2]

/-- Spans are told by their trees. -/
theorem span_injective : Function.Injective span := by
  rintro ⟨_, _⟩ ⟨_, _⟩ h
  simp only [span, member_inj, true_and, and_true] at h
  rw [position_injective h.1, position_injective h.2]

theorem quoteStyle_injective : Function.Injective (ofOption fun c : Char => (Json.text c.toString : Json Part)) :=
  ofOption_injective (fun _ _ h => String.singleton_inj.mp (Json.text.inj h)) nofun

/-- Names are told by their trees, with their quotes and their places. -/
theorem ident_injective : Function.Injective ident := by
  rintro ⟨_, _, _⟩ ⟨_, _, _⟩ h
  simp only [ident, member_inj, Json.text.injEq, true_and, and_true] at h
  rw [h.1, quoteStyle_injective h.2.1, span_injective h.2.2]

theorem idents_injective : Function.Injective (ofList ident) :=
  ofList_injective ident_injective

/-- Qualified names are told by their trees. -/
theorem identParts_injective : Function.Injective identParts :=
  ofList_injective fun _ _ h => ident_injective (tagged_inj.mp h).2

/-- What the kinds of literals are called. -/
def literalKinds : List String :=
  ["Null", "Boolean", "Number", "SingleQuotedString", "DoubleQuotedString", "HexStringLiteral",
    "SingleQuotedByteStringLiteral", "DoubleQuotedByteStringLiteral", "NationalStringLiteral", "Placeholder"]

/-- Literals are told by their trees. -/
theorem literal_injective : Function.Injective literal := by
  intro a b h
  have hkind := index_eq_of_kind literalKinds.idxOf Sql.Literal.ctorIdx (fun item => by cases item <;> rfl) h
  cases a <;> cases b <;> cases hkind
  case null.null => rfl
  case number.number =>
    simp only [literal, tagged_inj, Json.array.injEq, List.cons.injEq, Json.text.injEq, Json.boolean.injEq, true_and,
      and_true] at h
    rw [h.1, h.2]
  all_goals
    simp only [literal, tagged_inj, Json.text.injEq, Json.boolean.injEq, true_and] at h
    rw [h]

/-- A literal and its place are both told by their tree. -/
theorem placedLiteral_inj {v w : Sql.Literal} {p q : Text.Span} :
    placedLiteral v p = placedLiteral w q ↔ v = w ∧ p = q := by
  simp only [placedLiteral, member_inj, true_and, and_true, literal_injective.eq_iff, span_injective.eq_iff]

theorem literal_ne_null (value : Sql.Literal) : literal value ≠ .null := by
  cases value <;> exact nofun

/-! ## Words between operands -/

/-- Operators in front of an operand are told by their trees. -/
theorem unaryOp_injective : Function.Injective unaryOp :=
  injective_of_find [.minus, .plus, .bitwiseNot, .not] fun op => by cases op <;> rfl

/-- The operators between operands. -/
def binaryOps : List Sql.BinaryOp :=
  [.plus, .minus, .multiply, .divide, .modulo, .integerDivide, .concat, .greater, .less, .greaterEq, .lessEq,
    .spaceship, .equal, .notEqual, .assign, .and, .or, .xor, .overlaps, .bitwiseOr, .bitwiseAnd, .bitwiseXor, .arrow,
    .longArrow, .contains, .containedIn, .pathExists, .pathMatches, .pattern false false false,
    .pattern false false true, .pattern false true false, .pattern false true true, .pattern true false false,
    .pattern true false true, .pattern true true false, .pattern true true true]

/-- Operators between two operands are told by their trees. -/
theorem binaryOp_injective : Function.Injective binaryOp := by
  refine injective_of_find binaryOps fun op => ?_
  cases op with
  | pattern negated like caseless => cases negated <;> cases like <;> cases caseless <;> rfl
  | _ => rfl

/-- The tests by `IS`. -/
def truthTests : List (Bool × Sql.Truth) :=
  [(false, .null), (false, .true), (false, .false), (false, .unknown), (true, .null), (true, .true), (true, .false),
    (true, .unknown)]

/-- A test for a truth value is told by its tree, and so is whether it is denied. -/
theorem truthTest_inj {n n' : Bool} {t t' : Sql.Truth} : truthTest n t = truthTest n' t' ↔ n = n' ∧ t = t' := by
  have hinj : Function.Injective fun test : Bool × Sql.Truth => truthTest test.1 test.2 := by
    refine injective_of_find truthTests fun (negated, truth) => ?_
    cases negated <;> cases truth <;> rfl
  exact (hinj.eq_iff (a := (n, t)) (b := (n', t'))).trans Prod.ext_iff

theorem quantifier_injective : Function.Injective quantifier := by
  intro a b h
  cases a with
  | none =>
    cases b with
    | none => rfl
    | some b => cases b <;> cases h
  | some a =>
    have hsome : Function.Injective fun q => quantifier (some q) :=
      injective_of_kind [.all, .distinct] fun q => by cases q <;> rfl
    cases b with
    | none => cases a <;> cases h
    | some b => rw [hsome h]

theorem trimSide_injective : Function.Injective trimSide :=
  injective_of_kind [.both, .leading, .trailing] fun side => by cases side <;> rfl

theorem trimSide_ne_null (side : Sql.TrimSide) : trimSide side ≠ .null := by
  cases side <;> exact nofun

theorem castKind_injective : Function.Injective castKind :=
  injective_of_find [.cast, .try, .safe, .colons] fun kind => by cases kind <;> rfl

theorem nullTreatment_injective : Function.Injective nullTreatment :=
  injective_of_kind [.ignore, .respect] fun nulls => by cases nulls <;> rfl

theorem nullTreatment_ne_null (nulls : Sql.NullTreatment) : nullTreatment nulls ≠ .null := by
  cases nulls <;> exact nofun

theorem searchMode_injective : Function.Injective searchMode :=
  injective_of_kind [.natural, .naturalExpanded, .boolean, .expanded] fun mode => by cases mode <;> rfl

theorem searchMode_ne_null (mode : Sql.SearchMode) : searchMode mode ≠ .null := by
  cases mode <;> exact nofun

theorem joint_injective : Function.Injective joint :=
  injective_of_kind [.value, .arrow] fun sign => by cases sign <;> rfl

theorem likenessKind_injective : Function.Injective likenessKind :=
  injective_of_find [.like, .ilike, .similar] fun likeness => by cases likeness <;> rfl

theorem normalForm_injective : Function.Injective fun form : Sql.NormalForm => (Json.text form.text : Json Part) :=
  injective_of_kind [.nfc, .nfd, .nfkc, .nfkd] fun form => by cases form <;> rfl

theorem castFormat_injective : Function.Injective castFormat := by
  rintro ⟨format, zone⟩ ⟨format', zone'⟩ h
  cases zone with
  | none =>
    cases zone' with
    | none =>
      obtain rfl := literal_injective (tagged_inj.mp h).2
      rfl
    | some zone' => exact absurd (tagged_inj.mp h).1 (by decide)
  | some zone =>
    cases zone' with
    | none => exact absurd (tagged_inj.mp h).1 (by decide)
    | some zone' =>
      simp only [castFormat, tagged_inj, Json.array.injEq, List.cons.injEq, true_and, and_true] at h
      rw [literal_injective h.1, literal_injective h.2]

theorem castFormat_ne_null (format : Sql.CastFormat) : castFormat format ≠ .null := by
  rcases format with ⟨_, _ | _⟩ <;> exact nofun

/-! ## Times -/

/-- No two words for a part of a time have one kind, and none has the kind of the missing one. -/
theorem nodup_timeKinds : ("NoDateTime" :: timeKinds.map Prod.snd).Nodup := by
  decide

/-- A word for a part of a time is `WEEK`, has a kind of its own, or is written as it stands. -/
theorem timeField_cases (field : String) :
    field = "WEEK" ∧ timeField field = tagged "Week" .null ∨
      (∃ kind, (field, kind) ∈ timeKinds ∧ timeField field = .text kind) ∨
      timeField field = tagged "Custom" (ident ⟨field, none, .none⟩) := by
  unfold timeField
  split
  next hweek => exact .inl ⟨hweek, rfl⟩
  next =>
    split
    next kind hkind =>
      obtain ⟨before, after, htable, -⟩ := List.lookup_eq_some_iff.mp hkind
      exact .inr (.inl ⟨kind, htable ▸ List.mem_append_right before List.mem_cons_self, rfl⟩)
    next => exact .inr (.inr rfl)

/-- The words for a part of a time are told by their trees. -/
theorem timeField_injective : Function.Injective timeField := by
  intro a b h
  rcases timeField_cases a with ⟨ha, htree⟩ | ⟨kind, ha, htree⟩ | htree <;>
    rcases timeField_cases b with ⟨hb, hother⟩ | ⟨kind', hb, hother⟩ | hother <;> rw [htree, hother] at h
  · rw [ha, hb]
  · cases h
  · exact absurd (tagged_inj.mp h).1 (by decide)
  · cases h
  · have hrow := List.inj_on_of_nodup_map nodup_timeKinds.of_cons ha hb (Json.text.inj h)
    exact congrArg Prod.fst hrow
  · cases h
  · exact absurd (tagged_inj.mp h).1 (by decide)
  · cases h
  · exact congrArg Sql.Ident.value (ident_injective (tagged_inj.mp h).2)

/-- No word for a part of a time is written as the missing one. -/
theorem timeField_ne (field : String) : timeField field ≠ .text "NoDateTime" ∧ timeField field ≠ .null := by
  rcases timeField_cases field with ⟨-, htree⟩ | ⟨kind, hkind, htree⟩ | htree <;> rw [htree]
  · exact ⟨nofun, nofun⟩
  · refine ⟨fun h => nodup_timeKinds.notMem ?_, nofun⟩
    exact Json.text.inj h ▸ List.mem_map_of_mem hkind
  · exact ⟨nofun, nofun⟩

theorem rounding_injective : Function.Injective rounding := by
  intro a b h
  cases a <;> cases b
  case whole.whole => rfl
  case digits.digits => rw [literal_injective (tagged_inj.mp h).2]
  case unit.unit => rw [timeField_injective (tagged_inj.mp h).2]
  case whole.unit => exact absurd (tagged_inj.mp h).2.symm (timeField_ne _).1
  case unit.whole => exact absurd (tagged_inj.mp h).2 (timeField_ne _).1
  all_goals exact absurd (tagged_inj.mp h).1 (by decide)

theorem count_injective : Function.Injective count :=
  fun _ _ h => Int.natCast_inj.mp (Json.number.inj h)

/-- The units of an interval are told by their members. -/
theorem intervalMembers_injective : Function.Injective intervalMembers := by
  rintro ⟨_, _, _, _⟩ ⟨_, _, _, _⟩ h
  simp only [intervalMembers, List.cons.injEq, Prod.mk.injEq, true_and, and_true] at h
  obtain ⟨hleading, hprecision, hlast, hfraction⟩ := h
  rw [timeField_injective hleading, ofOption_injective count_injective nofun hprecision,
    ofOption_injective timeField_injective (fun field => (timeField_ne field).2) hlast,
    ofOption_injective count_injective nofun hfraction]

/-! ## Types -/

theorem lengthUnit_injective : Function.Injective lengthUnit :=
  injective_of_kind [.characters, .octets] fun unit => by cases unit <;> rfl

/-- The kind of a type can be read off its tree. -/
theorem kind?_write? {kind : String} {form : SizeForm} {size : Option Sql.TypeSize} {tree : Json Part}
    (h : form.write? kind size = some tree) : kind? tree = some kind := by
  unfold SizeForm.write? at h
  split at h <;> cases h <;> rfl

/-- The zone of a time, and nothing for other types. -/
def SizeForm.zone : SizeForm → String
  | time zone => zone
  | _ => ""

/-- The size and the zone that are read off a type. An array is the size of a moment or of a time, so it has to be said
of which. -/
def sized (moment : Bool) : Json Part → Option Sql.TypeSize × String
  | .object [(_, .number n)] => (some (.count n.toNat), "")
  | .object [(_, .text "Max")] => (some .unbounded, "")
  | .object [(_, .object [("Precision", .number n)])] => (some (.count n.toNat), "")
  | .object [(_, .object [(_, .array [.number precision, .number scale])])] =>
    (some (.digits precision.toNat scale), "")
  | .object [(_, .object [(_, .object [(_, .number n), (_, .text "Characters")])])] =>
    (some (.length n.toNat .characters), "")
  | .object [(_, .object [(_, .object [(_, .number n), (_, .text _)])])] => (some (.length n.toNat .octets), "")
  | .object [(_, .object [(_, .object ((_, .number n) :: _))])] => (some (.count n.toNat), "")
  | .object [(_, .array [.null, .text zone])] => (none, zone)
  | .object [(_, .array [.number n, .null])] => (some (.count n.toNat), "")
  | .object [(_, .array [.number n, .text zone])] =>
    if moment then (some (.zoned n.toNat zone), "") else (some (.count n.toNat), zone)
  | _ => (none, "")

/-- The size of a type and whether it has a zone can be read off its tree. -/
theorem sized_write? {kind : String} {form : SizeForm} {size : Option Sql.TypeSize} {tree : Json Part}
    (h : form.write? kind size = some tree) : sized (form = .moment) tree = (size, form.zone) := by
  unfold SizeForm.write? at h
  split at h <;> cases h
  case h_12 n unit => cases unit <;> rfl
  all_goals rfl

/-- The kind of a type as a number, and with it the length of its zone's name. Numbers are compared faster than
texts. -/
def rowNumber (row : TypeKind) : Nat :=
  row.kind.toByteArray.data.toList.foldl (fun n byte => 0x80 * n + byte.toNat) row.form.zone.utf8ByteSize

/-- No two rows of the table of types have one number. -/
theorem nodup_typeKinds : (typeKinds.map rowNumber).Nodup := by
  decide +kernel

/-- One kind of types writes its size as a moment. -/
theorem moment_iff : ∀ row ∈ typeKinds, row.form = .moment ↔ row.kind = "Datetime64" := by
  decide

/-- A type is told by its kind, its zone and its size. -/
theorem typeKinds_told {row other : TypeKind} (hrow : row ∈ typeKinds) (hother : other ∈ typeKinds)
    {size size' : Option Sql.TypeSize} {tree : Json Part} (h : row.form.write? row.kind size = some tree)
    (h' : other.form.write? other.kind size' = some tree) : row = other ∧ size = size' := by
  have hkind : row.kind = other.kind := Option.some.inj ((kind?_write? h).symm.trans (kind?_write? h'))
  have hmoment : (row.form = .moment) = (other.form = .moment) := by
    rw [eq_iff_iff, moment_iff row hrow, moment_iff other hother, hkind]
  have hread := sized_write? h
  simp only [hmoment, sized_write? h', Prod.mk.injEq] at hread
  have hnumber : rowNumber row = rowNumber other := by rw [rowNumber, rowNumber, hkind, hread.2]
  exact ⟨List.inj_on_of_nodup_map nodup_typeKinds hrow hother hnumber, hread.1.symm⟩

/-- A type of the language is written as a row of the table says, or is told to the encoding whole. -/
theorem standardType_cases (name : String) (size : Option Sql.TypeSize) (suffix : Option String) :
    (∃ row ∈ typeKinds, row.name = name ∧ row.suffix = suffix ∧
        row.form.write? row.kind size = some (standardType name size suffix)) ∨
      standardType name size suffix = .part (.type name size suffix) := by
  rw [standardType]
  cases hfound : (typeKinds.find? fun type => type.name = name && type.suffix = suffix).bind fun type =>
      type.form.write? type.kind size with
  | none => exact .inr rfl
  | some tree =>
    obtain ⟨row, hrow, htree⟩ := Option.bind_eq_some_iff.mp hfound
    have hnames := List.find?_some hrow
    simp only [Bool.and_eq_true, decide_eq_true_eq] at hnames
    exact .inl ⟨row, List.mem_of_find?_eq_some hrow, hnames.1, hnames.2, htree⟩

/-- What a row of the table writes is no part for the encoding. -/
theorem kindedType_ne_part {kind : String} {form : SizeForm} {size : Option Sql.TypeSize} {part : Part} :
    form.write? kind size ≠ some (.part part) :=
  fun h => nomatch kind?_write? h

/-- A type of the language is told by its tree: the kind gives the row, and the row and the tree give the size. -/
theorem standardType_inj {name name' : String} {size size' : Option Sql.TypeSize} {suffix suffix' : Option String}
    (h : standardType name size suffix = standardType name' size' suffix') :
    name = name' ∧ size = size' ∧ suffix = suffix' := by
  -- rows write no parts, so both trees are written by rows or both are left to the encoding
  rcases standardType_cases name size suffix with ⟨row, hrow, rfl, rfl, htree⟩ | htree <;>
    rcases standardType_cases name' size' suffix' with ⟨other, hother, rfl, rfl, htree'⟩ | htree'
  · obtain ⟨rfl, rfl⟩ := typeKinds_told hrow hother htree (h ▸ htree')
    exact ⟨rfl, rfl, rfl⟩
  · exact absurd (h.trans htree' ▸ htree) kindedType_ne_part
  · exact absurd (h.symm.trans htree ▸ htree') kindedType_ne_part
  · rw [htree, htree', Json.part.injEq, Part.type.injEq] at h
    exact h

theorem enumMember_injective : Function.Injective enumMember := by
  rintro ⟨body, number⟩ ⟨body', number'⟩ h
  cases number <;> cases number'
  case none.none =>
    obtain rfl := text_injective (tagged_inj.mp h).2
    rfl
  case some.some =>
    simp only [enumMember, tagged_inj, Json.array.injEq, List.cons.injEq, Json.text.injEq, true_and, and_true] at h
    rw [h.1, h.2]
  all_goals exact absurd (tagged_inj.mp h).1 (by decide)

/-- What the types that are no names of the language are called. -/
def dataTypeKinds : List String :=
  ["Enum", "Set", "Array", "Table", "Custom"]

/-- No row of the table has the kind of a type with parts. -/
theorem dataTypeKinds_disjoint : ∀ row ∈ typeKinds, row.kind ∉ dataTypeKinds := by
  decide

/-- The tree of a type of the language has none of the kinds of types with parts. -/
theorem kind?_standardType (name : String) (size : Option Sql.TypeSize) (suffix : Option String) :
    ∀ kind ∈ kind? (standardType name size suffix), kind ∉ dataTypeKinds := by
  intro kind hkind
  rcases standardType_cases name size suffix with ⟨row, hrow, -, -, htree⟩ | htree
  · obtain rfl := Option.some.inj ((kind?_write? htree).symm.trans hkind)
    exact dataTypeKinds_disjoint row hrow
  · rw [htree] at hkind
    cases hkind

/-- The number of a type is told by its kind. -/
theorem ctorIdx_dataType (type : Sql.DataType) :
    ((kind? (dataType type)).elim 5 dataTypeKinds.idxOf + 1) % 6 = type.ctorIdx := by
  cases type with
  | standard name size suffix =>
    rw [dataType]
    cases hkind : kind? (standardType name size suffix) with
    | none => rfl
    | some kind =>
      rw [Option.elim_some, List.idxOf_eq_length (kind?_standardType name size suffix kind hkind)]
      rfl
  | _ => rfl

theorem columns_injective : Function.Injective fun text : String => (Json.part (Part.columns text)) :=
  fun _ _ h => Part.columns.inj (Json.part.inj h)

/-- Types are told by their trees. -/
theorem dataType_injective : Function.Injective dataType := by
  intro a b h
  have hkind := ctorIdx_dataType a
  rw [h, ctorIdx_dataType b] at hkind
  induction a generalizing b with
  | standard name size suffix =>
    cases b <;> cases hkind
    obtain ⟨rfl, rfl, rfl⟩ := standardType_inj h
    rfl
  | enumeration bits members =>
    cases b <;> cases hkind
    simp only [dataType, tagged_inj, Json.array.injEq, List.cons.injEq, true_and, and_true] at h
    rw [ofList_injective enumMember_injective h.1, ofOption_injective count_injective nofun h.2]
  | set members =>
    cases b <;> cases hkind
    rw [ofList_injective text_injective (tagged_inj.mp h).2]
  | array element ih =>
    cases b <;> cases hkind
    next other =>
      have helement := (tagged_inj.mp (tagged_inj.mp h).2).2
      have hkind := ctorIdx_dataType element
      rw [helement, ctorIdx_dataType other] at hkind
      rw [ih helement hkind]
  | table columns =>
    cases b <;> cases hkind
    rw [ofOption_injective columns_injective nofun (tagged_inj.mp h).2]
  | custom name modifiers =>
    cases b <;> cases hkind
    simp only [dataType, tagged_inj, Json.array.injEq, List.cons.injEq, true_and, and_true] at h
    rw [identParts_injective h.1, ofList_injective text_injective h.2]

theorem dataType_ne_null (type : Sql.DataType) : dataType type ≠ .null := by
  cases type with
  | standard name size suffix =>
    rcases standardType_cases name size suffix with ⟨row, -, -, -, htree⟩ | htree
    · intro h
      rw [← dataType, h] at htree
      cases kind?_write? htree
    · rw [dataType, htree]
      exact nofun
  | _ => exact nofun

end InsertPivot.Tree
