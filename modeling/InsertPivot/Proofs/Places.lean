import InsertPivot.Sql.Fault
import InsertPivot.Sql.Statement.Text

/-!
# Trees without their places

A name, a literal and a lexeme carry the place where they were read. `unplaced` takes all places out of a
value: what is left is what two readings of one text at different places have in common.

What is written does not depend on places. Two values that are left equal without their places are the same
in the sense of `Expr.same`; the converse is not established here.
-/

namespace InsertPivot.Sql

/-- A type whose values may hold places. -/
class Placed (α : Type) where
  /-- A value without its places. -/
  unplaced : α → α

export Placed (unplaced)

/-- A type whose values hold no places. -/
class PlaceFree (α : Type) extends Placed α where
  unplaced := id
  unplaced_eq : ∀ a, unplaced a = a := by exact fun _ => rfl

@[simp] theorem unplaced_eq {α : Type} [PlaceFree α] (a : α) : unplaced a = a :=
  PlaceFree.unplaced_eq a

instance : PlaceFree Unit := {}
instance : PlaceFree Bool := {}
instance : PlaceFree Nat := {}
instance : PlaceFree Int := {}
instance : PlaceFree String := {}
instance : PlaceFree Token := {}
instance : PlaceFree Blank := {}
instance : PlaceFree Literal := {}
instance : PlaceFree TypeSize := {}
instance : PlaceFree EnumMember := {}
instance : PlaceFree CastFormat := {}
instance : PlaceFree IntervalUnit := {}
instance : PlaceFree TrimSide := {}
instance : PlaceFree NormalForm := {}
instance : PlaceFree Quantifier := {}
instance : PlaceFree NullTreatment := {}
instance : PlaceFree Joint := {}
instance : PlaceFree SearchMode := {}
instance : PlaceFree SetOp := {}
instance : PlaceFree SetMode := {}
instance : PlaceFree Fetch := {}
instance : PlaceFree LockWait := {}
instance : PlaceFree JoinKind := {}
instance : PlaceFree ConflictClause := {}
instance : PlaceFree Priority := {}

/-! ## Options, lists and pairs -/

section Containers

variable {α β : Type}

instance [Placed α] : Placed (Option α) := ⟨Option.map unplaced⟩

instance [Placed α] : Placed (List α) := ⟨List.map unplaced⟩

instance [Placed α] [Placed β] : Placed (α × β) := ⟨fun p => (unplaced p.1, unplaced p.2)⟩

instance [PlaceFree α] : PlaceFree (Option α) where
  unplaced := unplaced
  unplaced_eq o := by cases o <;> simp [unplaced]

instance [PlaceFree α] : PlaceFree (List α) where
  unplaced := unplaced
  unplaced_eq as := by
    have unplaced_id : (unplaced : α → α) = id := funext unplaced_eq
    simp [unplaced, unplaced_id]

instance [PlaceFree α] [PlaceFree β] : PlaceFree (α × β) where
  unplaced := unplaced
  unplaced_eq p := by simp [unplaced]

variable [Placed α] [Placed β]

@[simp] theorem unplaced_none : unplaced (none : Option α) = none := rfl

@[simp] theorem unplaced_some (a : α) : unplaced (some a) = some (unplaced a) := rfl

@[simp] theorem isSome_unplaced (o : Option α) : (unplaced o).isSome = o.isSome := by
  cases o <;> rfl

@[simp] theorem unplaced_nil : unplaced ([] : List α) = [] := rfl

@[simp] theorem unplaced_cons (a : α) (as : List α) : unplaced (a :: as) = unplaced a :: unplaced as := rfl

@[simp] theorem unplaced_append (as bs : List α) : unplaced (as ++ bs) = unplaced as ++ unplaced bs :=
  List.map_append

@[simp] theorem isEmpty_unplaced (as : List α) : (unplaced as).isEmpty = as.isEmpty := by
  cases as <;> rfl

@[simp] theorem length_unplaced (as : List α) : (unplaced as).length = as.length :=
  List.length_map _

@[simp] theorem getElem?_unplaced (as : List α) (i : Nat) : (unplaced as)[i]? = unplaced as[i]? :=
  List.getElem?_map

@[simp] theorem head?_unplaced (as : List α) : (unplaced as).head? = unplaced as.head? := by
  cases as <;> rfl

@[simp] theorem tail_unplaced (as : List α) : (unplaced as).tail = unplaced as.tail := by
  cases as <;> rfl

@[simp] theorem getLast?_unplaced (as : List α) : (unplaced as).getLast? = unplaced as.getLast? :=
  List.getLast?_map

@[simp] theorem dropLast_unplaced (as : List α) : (unplaced as).dropLast = unplaced as.dropLast :=
  List.map_dropLast.symm

@[simp] theorem take_unplaced (as : List α) (n : Nat) : (unplaced as).take n = unplaced (as.take n) :=
  List.map_take.symm

@[simp] theorem drop_unplaced (as : List α) (n : Nat) : (unplaced as).drop n = unplaced (as.drop n) :=
  List.map_drop.symm

@[simp] theorem unplaced_mk (a : α) (b : β) : unplaced (a, b) = (unplaced a, unplaced b) := rfl

@[simp] theorem fst_unplaced (p : α × β) : (unplaced p).1 = unplaced p.1 := rfl

@[simp] theorem snd_unplaced (p : α × β) : (unplaced p).2 = unplaced p.2 := rfl

@[simp] theorem unplaced_eq_nil (as : List α) : unplaced as = [] ↔ as = [] := by
  cases as <;> simp

@[simp] theorem getD_unplaced_nil (o : Option (List α)) : (unplaced o).getD [] = unplaced (o.getD []) := by
  cases o <;> rfl

/-! What is made of the members of a container is made of them without their places. -/

variable {γ : Type}

@[simp] theorem map_unplaced (f : α → γ) (as : List α) :
    (unplaced as).map f = as.map fun a => f (unplaced a) := by
  simp only [unplaced, List.map_map, Function.comp_def]

@[simp] theorem unplaced_map_list (f : γ → α) (cs : List γ) :
    unplaced (cs.map f) = cs.map fun c => unplaced (f c) := by
  simp only [unplaced, List.map_map, Function.comp_def]

@[simp] theorem join_unplaced (o : Option (Option α)) : (unplaced o).join = unplaced o.join := by
  cases o <;> rfl

@[simp] theorem filterMap_unplaced {f : Option α → Option α} (hf : ∀ o, f o = o) (os : List (Option α)) :
    (unplaced os).filterMap f = unplaced (os.filterMap f) := by
  obtain rfl : f = id := funext hf
  induction os with
  | nil => rfl
  | cons o _ ih =>
    cases o with
    | none => exact ih
    | some a => exact congrArg (unplaced a :: ·) ih

@[simp] theorem any_unplaced (p : α → Bool) (as : List α) :
    (unplaced as).any p = as.any fun a => p (unplaced a) := by
  simp only [unplaced, List.any_map, Function.comp_def]

@[simp] theorem optionMap_unplaced (f : α → γ) (o : Option α) :
    (unplaced o).map f = o.map fun a => f (unplaced a) := by
  cases o <;> rfl

@[simp] theorem unplaced_optionMap (f : γ → α) (o : Option γ) :
    unplaced (o.map f) = o.map fun c => unplaced (f c) := by
  cases o <;> rfl

@[simp] theorem optionBind_unplaced (f : α → Option γ) (o : Option α) :
    (unplaced o).bind f = o.bind fun a => f (unplaced a) := by
  cases o <;> rfl

@[simp] theorem unplaced_optionBind (f : γ → Option α) (o : Option γ) :
    unplaced (o.bind f) = o.bind fun c => unplaced (f c) := by
  cases o <;> rfl

end Containers

/-! ## Lexemes, names and types -/

instance : Placed Text.Position := ⟨fun _ => ⟨0, 0⟩⟩

instance : Placed Text.Span := ⟨fun _ => .none⟩

instance : Placed Lexeme := ⟨fun l => { l with span := .none }⟩

instance : Placed Ident := ⟨fun name => { name with span := .none }⟩

@[simp] theorem unplaced_position (p : Text.Position) : unplaced p = ⟨0, 0⟩ := rfl

@[simp] theorem unplaced_span (s : Text.Span) : unplaced s = .none := rfl

@[simp] theorem first_none : Text.Span.none.first = ⟨0, 0⟩ := rfl

@[simp] theorem last_none : Text.Span.none.last = ⟨0, 0⟩ := rfl

@[simp] theorem span_zero : (⟨⟨0, 0⟩, ⟨0, 0⟩⟩ : Text.Span) = .none := rfl

@[simp] theorem lexeme_span_unplaced (l : Lexeme) : (unplaced l).span = .none := rfl

@[simp] theorem unplaced_lexeme (t : Token) (s : Text.Span) (g : Option Blank) :
    unplaced (⟨t, s, g⟩ : Lexeme) = ⟨t, .none, g⟩ := rfl

@[simp] theorem token_unplaced (l : Lexeme) : (unplaced l).token = l.token := rfl

@[simp] theorem gap_unplaced (l : Lexeme) : (unplaced l).gap = l.gap := rfl

@[simp] theorem unplaced_ident (v : String) (q : Option Char) (s : Text.Span) :
    unplaced (⟨v, q, s⟩ : Ident) = ⟨v, q, .none⟩ := rfl

@[simp] theorem value_unplaced (name : Ident) : (unplaced name).value = name.value := rfl

@[simp] theorem quote_unplaced (name : Ident) : (unplaced name).quote = name.quote := rfl

@[simp] theorem span_unplaced (name : Ident) : (unplaced name).span = .none := rfl

/-- A type without its places. -/
@[simp] def DataType.unplaced : DataType → DataType
  | array element => .array element.unplaced
  | custom name modifiers => .custom (Placed.unplaced name) modifiers
  | other => other

instance : Placed DataType := ⟨DataType.unplaced⟩

instance : Placed ColumnLabel := ⟨fun column => ⟨unplaced column.name, unplaced column.type⟩⟩

instance : Placed TableLabel := ⟨fun label => ⟨label.explicit, unplaced label.name, unplaced label.columns⟩⟩

instance : Placed Lock := ⟨fun lock => ⟨lock.share, unplaced lock.table, lock.wait⟩⟩

@[simp] theorem unplaced_dataType (type : DataType) : unplaced type = type.unplaced := rfl

@[simp] theorem unplaced_columnLabel (name : Ident) (type : Option DataType) :
    unplaced (⟨name, type⟩ : ColumnLabel) = ⟨unplaced name, unplaced type⟩ := rfl

@[simp] theorem unplaced_tableLabel (explicit : Bool) (name : Ident) (columns : List ColumnLabel) :
    unplaced (⟨explicit, name, columns⟩ : TableLabel) = ⟨explicit, unplaced name, unplaced columns⟩ := rfl

@[simp] theorem unplaced_lock (share : Bool) (table : Option (List Ident)) (wait : Option LockWait) :
    unplaced (⟨share, table, wait⟩ : Lock) = ⟨share, unplaced table, wait⟩ := rfl

/-! ## Expressions and queries -/

mutual

/-- An expression without its places. -/
@[simp] def Expr.unplaced : Expr → Expr
  | .literal value _ => .literal value .none
  | .column name => .column (Placed.unplaced name)
  | .qualified parts => .qualified (Placed.unplaced parts)
  | .access root path => .access root.unplaced (unplacedPath path)
  | .array said items => .array said (unplacedExprs items)
  | .nested inner => .nested inner.unplaced
  | .tuple items => .tuple (unplacedExprs items)
  | .unary op operand => .unary op operand.unplaced
  | .binary left op right => .binary left.unplaced op right.unplaced
  | .compared left op reach right => .compared left.unplaced op reach right.unplaced
  | .is operand negated truth => .is operand.unplaced negated truth
  | .isDistinct left negated right => .isDistinct left.unplaced negated right.unplaced
  | .isNormalized operand negated form => .isNormalized operand.unplaced negated form
  | .inList operand negated items => .inList operand.unplaced negated (unplacedExprs items)
  | .inQuery operand negated query => .inQuery operand.unplaced negated query.unplaced
  | .inUnnest operand negated items => .inUnnest operand.unplaced negated items.unplaced
  | .between operand negated low high => .between operand.unplaced negated low.unplaced high.unplaced
  | .like likeness operand negated any pattern escape =>
    .like likeness operand.unplaced negated any pattern.unplaced escape
  | .regexp operand negated rlike pattern => .regexp operand.unplaced negated rlike pattern.unplaced
  | .memberOf operand items => .memberOf operand.unplaced items.unplaced
  | .atTimeZone moment zone => .atTimeZone moment.unplaced zone.unplaced
  | .collate operand collation => .collate operand.unplaced (Placed.unplaced collation)
  | .typed braced type value _ => .typed braced type.unplaced value .none
  | .introduced charset value _ => .introduced (Placed.unplaced charset) value .none
  | .call function => .call function.unplaced
  | .case operand branches otherwise =>
    .case (unplacedOption operand) (unplacedBranches branches) (unplacedOption otherwise)
  | .cast kind operand type format => .cast kind operand.unplaced type.unplaced format
  | .convert operand type charset => .convert operand.unplaced type.unplaced (Placed.unplaced charset)
  | .transcode operand charset => .transcode operand.unplaced (Placed.unplaced charset)
  | .round down operand unit => .round down operand.unplaced unit
  | .extract field operand => .extract field operand.unplaced
  | .position part whole => .position part.unplaced whole.unplaced
  | .substring style operand start length =>
    .substring style operand.unplaced (unplacedOption start) (unplacedOption length)
  | .overlay operand part start length =>
    .overlay operand.unplaced part.unplaced start.unplaced (unplacedOption length)
  | .trim side what operand => .trim side (unplacedOption what) operand.unplaced
  | .matchAgainst columns value mode => .matchAgainst (Placed.unplaced columns) value mode
  | .interval amount unit => .interval amount.unplaced unit
  | .exists negated query => .exists negated query.unplaced
  | .subquery query => .subquery query.unplaced
termination_by structural x => x

def unplacedExprs : List Expr → List Expr
  | [] => []
  | e :: es => e.unplaced :: unplacedExprs es
termination_by structural x => x

def unplacedOption : Option Expr → Option Expr
  | none => none
  | some e => some e.unplaced
termination_by structural x => x

@[simp] def Access.unplaced : Access → Access
  | .dot value => .dot value.unplaced
  | .index value => .index value.unplaced
  | .slice lower upper stride =>
    .slice (unplacedOption lower) (unplacedOption upper) (unplacedOption stride)
termination_by structural x => x

def unplacedPath : List Access → List Access
  | [] => []
  | a :: rest => a.unplaced :: unplacedPath rest
termination_by structural x => x

@[simp] def Branch.unplaced : Branch → Branch
  | ⟨condition, result⟩ => ⟨condition.unplaced, result.unplaced⟩
termination_by structural x => x

def unplacedBranches : List Branch → List Branch
  | [] => []
  | b :: rest => b.unplaced :: unplacedBranches rest
termination_by structural x => x

@[simp] def Call.unplaced : Call → Call
  | ⟨name, arguments, braced, group, nulls, window⟩ =>
    ⟨Placed.unplaced name, arguments.unplaced, braced, unplacedOrderings group, nulls, window⟩
termination_by structural x => x

@[simp] def Arguments.unplaced : Arguments → Arguments
  | .absent => .absent
  | .given quantifier items clauses => .given quantifier (unplacedArguments items) clauses
  | .rows query => .rows query.unplaced
termination_by structural x => x

@[simp] def Argument.unplaced : Argument → Argument
  | .value value => .value value.unplaced
  | .wildcard qualifier => .wildcard (Placed.unplaced qualifier)
  | .named name joint value => .named (Placed.unplaced name) joint value.unplaced
termination_by structural x => x

def unplacedArguments : List Argument → List Argument
  | [] => []
  | a :: rest => a.unplaced :: unplacedArguments rest
termination_by structural x => x

def unplacedGiven : Option (List Argument) → Option (List Argument)
  | none => none
  | some items => some (unplacedArguments items)
termination_by structural x => x

@[simp] def Query.unplaced : Query → Query
  | ⟨isRecursive, bindings, body, order, limit, fetch, locks, output⟩ =>
    ⟨isRecursive, unplacedBindings bindings, body.unplaced, unplacedOrderings order, unplacedLimit limit,
      fetch, Placed.unplaced locks, output⟩
termination_by structural x => x

@[simp] def Binding.unplaced : Binding → Binding
  | ⟨name, columns, query, source⟩ =>
    ⟨Placed.unplaced name, Placed.unplaced columns, query.unplaced, Placed.unplaced source⟩
termination_by structural x => x

def unplacedBindings : List Binding → List Binding
  | [] => []
  | b :: rest => b.unplaced :: unplacedBindings rest
termination_by structural x => x

@[simp] def Body.unplaced : Body → Body
  | .select parts => .select parts.unplaced
  | .values short explicit rows => .values short explicit (unplacedRows rows)
  | .nested query => .nested query.unplaced
  | .combined left op mode right => .combined left.unplaced op mode right.unplaced
  | .table schema name => .table schema name
  | .change text => .change text
termination_by structural x => x

@[simp] def Select.unplaced : Select → Select
  | ⟨lead, items, into, tables, views, condition, groupAll, groups, groupSets, spread, having, windows⟩ =>
    ⟨lead, unplacedItems items, into, unplacedTables tables, views, unplacedOption condition, groupAll,
      unplacedExprs groups, unplacedRows groupSets, spread, unplacedOption having, windows⟩
termination_by structural x => x

def unplacedRows : List (List Expr) → List (List Expr)
  | [] => []
  | row :: rest => unplacedExprs row :: unplacedRows rest
termination_by structural x => x

@[simp] def SelectItem.unplaced : SelectItem → SelectItem
  | .value value label => .value value.unplaced (Placed.unplaced label)
  | .wildcard qualifier => .wildcard (Placed.unplaced qualifier)
termination_by structural x => x

def unplacedItems : List SelectItem → List SelectItem
  | [] => []
  | item :: rest => item.unplaced :: unplacedItems rest
termination_by structural x => x

@[simp] def Joined.unplaced : Joined → Joined
  | ⟨table, joins⟩ => ⟨table.unplaced, unplacedJoins joins⟩
termination_by structural x => x

def unplacedTables : List Joined → List Joined
  | [] => []
  | joined :: rest => joined.unplaced :: unplacedTables rest
termination_by structural x => x

@[simp] def Join.unplaced : Join → Join
  | ⟨isGlobal, kind, table, nearest, natural, on, columns⟩ =>
    ⟨isGlobal, kind, table.unplaced, unplacedOption nearest, natural, unplacedOption on,
      Placed.unplaced columns⟩
termination_by structural x => x

def unplacedJoins : List Join → List Join
  | [] => []
  | join :: rest => join.unplaced :: unplacedJoins rest
termination_by structural x => x

@[simp] def Table.unplaced : Table → Table
  | .named name partitions arguments ordinality label hints =>
    .named (Placed.unplaced name) (Placed.unplaced partitions) (unplacedGiven arguments) ordinality
      (Placed.unplaced label) hints
  | .derived lateral query label => .derived lateral query.unplaced (Placed.unplaced label)
  | .computed name arguments label =>
    .computed (Placed.unplaced name) (unplacedArguments arguments) (Placed.unplaced label)
  | .ofExpr value label => .ofExpr value.unplaced (Placed.unplaced label)
  | .joined content label => .joined content.unplaced (Placed.unplaced label)
  | .special text label => .special text (Placed.unplaced label)
termination_by structural x => x

@[simp] def Ordering.unplaced : Ordering → Ordering
  | ⟨key, ascending, nullsFirst⟩ => ⟨key.unplaced, ascending, nullsFirst⟩
termination_by structural x => x

def unplacedOrderings : List Ordering → List Ordering
  | [] => []
  | o :: rest => o.unplaced :: unplacedOrderings rest
termination_by structural x => x

@[simp] def Limit.unplaced : Limit → Limit
  | .words count skipped unit => .words (unplacedOption count) (unplacedOption skipped) unit
  | .comma skipped count => .comma skipped.unplaced count.unplaced
termination_by structural x => x

def unplacedLimit : Option Limit → Option Limit
  | none => none
  | some limit => some limit.unplaced
termination_by structural x => x

end

/-! ### One function for all of these -/

instance : Placed Expr := ⟨Expr.unplaced⟩

instance : Placed Access := ⟨Access.unplaced⟩

instance : Placed Branch := ⟨Branch.unplaced⟩

instance : Placed Call := ⟨Call.unplaced⟩

instance : Placed Arguments := ⟨Arguments.unplaced⟩

instance : Placed Argument := ⟨Argument.unplaced⟩

instance : Placed Query := ⟨Query.unplaced⟩

instance : Placed Binding := ⟨Binding.unplaced⟩

instance : Placed Body := ⟨Body.unplaced⟩

instance : Placed Select := ⟨Select.unplaced⟩

instance : Placed SelectItem := ⟨SelectItem.unplaced⟩

instance : Placed Joined := ⟨Joined.unplaced⟩

instance : Placed Join := ⟨Join.unplaced⟩

instance : Placed Table := ⟨Table.unplaced⟩

instance : Placed Ordering := ⟨Ordering.unplaced⟩

instance : Placed Limit := ⟨Limit.unplaced⟩

@[simp] theorem unplaced_expr (e : Expr) : unplaced e = e.unplaced := rfl

@[simp] theorem unplaced_access (a : Access) : unplaced a = a.unplaced := rfl

@[simp] theorem unplaced_branch (b : Branch) : unplaced b = b.unplaced := rfl

@[simp] theorem unplaced_call (c : Call) : unplaced c = c.unplaced := rfl

@[simp] theorem unplaced_arguments (as : Arguments) : unplaced as = as.unplaced := rfl

@[simp] theorem unplaced_argument (a : Argument) : unplaced a = a.unplaced := rfl

@[simp] theorem unplaced_query (q : Query) : unplaced q = q.unplaced := rfl

@[simp] theorem unplaced_binding (b : Binding) : unplaced b = b.unplaced := rfl

@[simp] theorem unplaced_body (b : Body) : unplaced b = b.unplaced := rfl

@[simp] theorem unplaced_select (s : Select) : unplaced s = s.unplaced := rfl

@[simp] theorem unplaced_selectItem (i : SelectItem) : unplaced i = i.unplaced := rfl

@[simp] theorem unplaced_joined (j : Joined) : unplaced j = j.unplaced := rfl

@[simp] theorem unplaced_join (j : Join) : unplaced j = j.unplaced := rfl

@[simp] theorem unplaced_table (t : Table) : unplaced t = t.unplaced := rfl

@[simp] theorem unplaced_ordering (o : Ordering) : unplaced o = o.unplaced := rfl

@[simp] theorem unplaced_limit (l : Limit) : unplaced l = l.unplaced := rfl

@[simp] theorem unplacedExprs_eq (es : List Expr) : unplacedExprs es = unplaced es := by
  induction es with
  | nil => rfl
  | cons _ _ ih => simp [unplacedExprs, ih]

@[simp] theorem unplacedPath_eq (path : List Access) : unplacedPath path = unplaced path := by
  induction path with
  | nil => rfl
  | cons _ _ ih => simp [unplacedPath, ih]

@[simp] theorem unplacedBranches_eq (bs : List Branch) : unplacedBranches bs = unplaced bs := by
  induction bs with
  | nil => rfl
  | cons _ _ ih => simp [unplacedBranches, ih]

@[simp] theorem unplacedArguments_eq (as : List Argument) : unplacedArguments as = unplaced as := by
  induction as with
  | nil => rfl
  | cons _ _ ih => simp [unplacedArguments, ih]

@[simp] theorem unplacedBindings_eq (bs : List Binding) : unplacedBindings bs = unplaced bs := by
  induction bs with
  | nil => rfl
  | cons _ _ ih => simp [unplacedBindings, ih]

@[simp] theorem unplacedItems_eq (items : List SelectItem) : unplacedItems items = unplaced items := by
  induction items with
  | nil => rfl
  | cons _ _ ih => simp [unplacedItems, ih]

@[simp] theorem unplacedTables_eq (ts : List Joined) : unplacedTables ts = unplaced ts := by
  induction ts with
  | nil => rfl
  | cons _ _ ih => simp [unplacedTables, ih]

@[simp] theorem unplacedJoins_eq (js : List Join) : unplacedJoins js = unplaced js := by
  induction js with
  | nil => rfl
  | cons _ _ ih => simp [unplacedJoins, ih]

@[simp] theorem unplacedOrderings_eq (os : List Ordering) : unplacedOrderings os = unplaced os := by
  induction os with
  | nil => rfl
  | cons _ _ ih => simp [unplacedOrderings, ih]

@[simp] theorem unplacedRows_eq (rows : List (List Expr)) : unplacedRows rows = unplaced rows := by
  induction rows with
  | nil => rfl
  | cons _ _ ih => simp [unplacedRows, ih]

@[simp] theorem unplacedOption_eq (o : Option Expr) : unplacedOption o = unplaced o := by
  cases o <;> simp [unplacedOption]

@[simp] theorem unplacedGiven_eq (o : Option (List Argument)) : unplacedGiven o = unplaced o := by
  cases o <;> simp [unplacedGiven]

@[simp] theorem unplacedLimit_eq (o : Option Limit) : unplacedLimit o = unplaced o := by
  cases o <;> simp [unplacedLimit]

/-! ## What is written -/

@[simp] theorem text_unplaced_ident (name : Ident) : (unplaced name).text = name.text := rfl

/-- Names with periods are written without their places. -/
@[simp] theorem dotted_unplaced (names : List Ident) : dotted (unplaced names) = dotted names := by
  simp [dotted]

/-- What a type is written as does not show places. -/
@[simp] theorem DataType.text_unplaced (type : DataType) : type.unplaced.text = type.text := by
  induction type with
  | array element ih => simp [DataType.unplaced, DataType.text, ih]
  | custom name modifiers => cases modifiers <;> simp [DataType.unplaced, DataType.text]
  | _ => rfl

@[simp] theorem bracedTypeName_unplaced (type : DataType) : bracedTypeName type.unplaced = bracedTypeName type := by
  cases type <;> simp [DataType.unplaced, bracedTypeName]

@[simp] theorem ColumnLabel.text_unplaced (column : ColumnLabel) : (unplaced column).text = column.text := by
  obtain ⟨name, type⟩ := column
  simp [ColumnLabel.text]

@[simp] theorem columnLabelsText_unplaced (columns : List ColumnLabel) :
    columnLabelsText (unplaced columns) = columnLabelsText columns := by
  cases columns with
  | nil => rfl
  | cons column columns =>
    simp [columnLabelsText]

@[simp] theorem tableLabelText_unplaced (label : Option TableLabel) :
    tableLabelText (unplaced label) = tableLabelText label := by
  match label with
  | none => rfl
  | some ⟨_, _, _⟩ => simp [tableLabelText]

@[simp] theorem labelText_unplaced (label : Option Ident) : labelText (unplaced label) = labelText label := by
  simp [labelText]

@[simp] theorem wildcardText_unplaced (qualifier : List Ident) :
    wildcardText (unplaced qualifier) = wildcardText qualifier := by
  simp [wildcardText]

@[simp] theorem Lock.text_unplaced (lock : Lock) : (unplaced lock).text = lock.text := by
  obtain ⟨share, table, wait⟩ := lock
  simp [Lock.text]

/-- The text of a query, clause by clause. The equation that the definition comes with takes too long to
find, because the text depends on the first of the named queries. -/
theorem Query.text_mk (isRecursive : Bool) (bindings : List Binding) (body : Body) (order : List Ordering)
    (limit : Option Limit) (fetch : Option Fetch) (locks : List Lock) (output : Option String) :
    Query.text ⟨isRecursive, bindings, body, order, limit, fetch, locks, output⟩ =
      (match bindings with
        | [] => ""
        | binding :: rest =>
          "WITH " ++ wordIf isRecursive "RECURSIVE " ++ commas (bindingTexts (binding :: rest)) ++ " ") ++
      body.text ++ listText " ORDER BY " (orderingTexts order) ++
      (match limit with
        | none => ""
        | some limit => limit.text) ++
      behind " " (fetch.map Fetch.text) ++ trailing (locks.map Lock.text) ++ behind " " output := by
  cases bindings <;> cases limit <;> rfl

/-- The text of a `SELECT`, clause by clause. -/
theorem Select.text_mk (lead : List String) (items : List SelectItem) (into : Option String)
    (tables : List Joined) (views : List String) (condition : Option Expr) (groupAll : Bool)
    (groups : List Expr) (groupSets : List (List Expr)) (spread : List String) (having : Option Expr)
    (windows : List String) :
    Select.text ⟨lead, items, into, tables, views, condition, groupAll, groups, groupSets, spread, having,
        windows⟩ =
      "SELECT" ++ trailing lead ++ listText " " (itemTexts items) ++ behind " INTO " into ++
        listText " FROM " (joinedTexts tables) ++ trailing views ++ optionText " WHERE " condition ++
        wordIf groupAll " GROUP BY ALL" ++ listText " GROUP BY " (exprTexts groups) ++
        (match groupSets with
          | [] => ""
          | set :: rest => " GROUPING SETS " ++ parenthesized (commas (rowTexts "" (set :: rest)))) ++
        trailing spread ++ optionText " HAVING " having ++ trailing windows := by
  cases groupSets <;> rfl

mutual

/-- What an expression is written as does not show places. -/
@[simp] theorem Expr.text_unplaced : ∀ e : Expr, e.unplaced.text = e.text
  | .literal .. | .column _ | .qualified _ => by simp [Expr.text]
  | .access root path => by simp [Expr.text, root.text_unplaced, pathText_unplaced path]
  | .array _ items | .tuple items => by simp [Expr.text, exprTexts_unplaced items]
  | .nested e | .unary _ e | .is e .. | .isNormalized e .. | .collate e _ | .transcode e _
  | .round _ e _ | .extract _ e | .interval e _ => by
    simp [Expr.text, e.text_unplaced]
  | .binary left _ right | .isDistinct left _ right => by
    simp [Expr.text, left.text_unplaced, right.text_unplaced]
  | .compared left op reach right => by
    have hright := right.text_unplaced
    cases right with
    | subquery rows =>
      have hrows : rows.unplaced.text = rows.text := rows.text_unplaced
      simp [Expr.text, left.text_unplaced, hrows]
    | _ => simp_all [Expr.text, left.text_unplaced]
  | .inList operand _ items => by simp [Expr.text, operand.text_unplaced, exprTexts_unplaced items]
  | .inQuery operand _ query => by simp [Expr.text, operand.text_unplaced, query.text_unplaced]
  | .inUnnest operand _ items => by simp [Expr.text, operand.text_unplaced, items.text_unplaced]
  | .between operand _ low high => by
    simp [Expr.text, operand.text_unplaced, low.text_unplaced, high.text_unplaced]
  | .like _ operand _ _ pattern _ => by simp [Expr.text, operand.text_unplaced, pattern.text_unplaced]
  | .regexp operand _ _ pattern => by simp [Expr.text, operand.text_unplaced, pattern.text_unplaced]
  | .memberOf a b | .atTimeZone a b | .position a b => by
    simp [Expr.text, a.text_unplaced, b.text_unplaced]
  | .typed .. | .introduced .. | .matchAgainst .. => by simp [Expr.text]
  | .call function => by simp [Expr.text, function.text_unplaced]
  | .case operand branches otherwise => by
    simp [Expr.text, optionText_unplaced _ operand, branchTexts_unplaced branches,
      optionText_unplaced _ otherwise]
  | .cast kind operand _ _ => by cases kind <;> simp [Expr.text, operand.text_unplaced]
  | .convert operand _ _ => by simp [Expr.text, operand.text_unplaced]
  | .substring _ operand start length => by
    simp [Expr.text, operand.text_unplaced, optionText_unplaced _ start, optionText_unplaced _ length]
  | .overlay operand part start length => by
    simp [Expr.text, operand.text_unplaced, part.text_unplaced, start.text_unplaced,
      optionText_unplaced _ length]
  | .trim _ what operand => by simp [Expr.text, trimmedText_unplaced what, operand.text_unplaced]
  | .exists _ query | .subquery query => by simp [Expr.text, query.text_unplaced]
termination_by structural x => x

@[simp] theorem exprTexts_unplaced : ∀ es : List Expr, exprTexts (unplaced es) = exprTexts es
  | [] => rfl
  | e :: es => by simp [exprTexts, e.text_unplaced, exprTexts_unplaced es]
termination_by structural x => x

@[simp] theorem optionText_unplaced (lead : String) :
    ∀ o : Option Expr, optionText lead (unplaced o) = optionText lead o
  | none => rfl
  | some e => by simp [optionText, e.text_unplaced]
termination_by structural x => x

theorem trimmedText_unplaced : ∀ o : Option Expr, trimmedText (unplaced o) = trimmedText o
  | none => rfl
  | some e => by simp [trimmedText, e.text_unplaced]
termination_by structural x => x

theorem pathText_unplaced : ∀ path : List Access, pathText (unplaced path) = pathText path
  | [] => rfl
  | .dot value :: rest | .index value :: rest => by
    simp [pathText, value.text_unplaced, pathText_unplaced rest]
  | .slice lower upper stride :: rest => by
    simp [pathText, optionText_unplaced _ lower, optionText_unplaced _ upper, optionText_unplaced _ stride,
      pathText_unplaced rest]
termination_by structural x => x

theorem branchTexts_unplaced : ∀ bs : List Branch, branchTexts (unplaced bs) = branchTexts bs
  | [] => rfl
  | ⟨condition, result⟩ :: rest => by
    simp [branchTexts, condition.text_unplaced, result.text_unplaced, branchTexts_unplaced rest]
termination_by structural x => x

/-- What a call is written as does not show places. -/
@[simp] theorem Call.text_unplaced : ∀ c : Call, c.unplaced.text = c.text
  | ⟨_, arguments, _, group, _, _⟩ => by
    have hgroup := orderingTexts_unplaced group
    cases group with
    | nil => simp [Call.text, arguments.text_unplaced]
    | cons key rest =>
      rw [unplaced_cons, unplaced_ordering] at hgroup
      simp [Call.text, arguments.text_unplaced, hgroup]
termination_by structural x => x

@[simp] theorem Arguments.text_unplaced : ∀ as : Arguments, as.unplaced.text = as.text
  | .absent => rfl
  | .given _ items _ => by
    have hitems := argumentTexts_unplaced items
    cases items with
    | nil => simp [Arguments.text]
    | cons item rest =>
      rw [unplaced_cons, unplaced_argument] at hitems
      simp [Arguments.text, hitems]
  | .rows query => by simp [Arguments.text, query.text_unplaced]
termination_by structural x => x

@[simp] theorem Argument.text_unplaced : ∀ a : Argument, a.unplaced.text = a.text
  | .value value => by simp [Argument.text, value.text_unplaced]
  | .wildcard _ => by simp [Argument.text]
  | .named _ _ value => by simp [Argument.text, value.text_unplaced]
termination_by structural x => x

@[simp] theorem argumentTexts_unplaced : ∀ as : List Argument, argumentTexts (unplaced as) = argumentTexts as
  | [] => rfl
  | a :: rest => by simp [argumentTexts, a.text_unplaced, argumentTexts_unplaced rest]
termination_by structural x => x

/-- What a query is written as does not show places. -/
@[simp] theorem Query.text_unplaced : ∀ q : Query, q.unplaced.text = q.text
  | ⟨_, bindings, body, order, limit, _, _, _⟩ => by
    have hbindings := bindingTexts_unplaced bindings
    have hlimit := limit_text_unplaced limit
    rw [Query.unplaced, Query.text_mk, Query.text_mk, body.text_unplaced, unplacedOrderings_eq,
      orderingTexts_unplaced order, unplacedBindings_eq, unplacedLimit_eq]
    simp only [map_unplaced, Lock.text_unplaced]
    cases bindings with
    | nil =>
      cases limit with
      | none => rfl
      | some found => simp only [unplaced_nil, unplaced_some, unplaced_limit, hlimit found rfl]
    | cons binding rest =>
      rw [unplaced_cons] at hbindings
      cases limit with
      | none => simp only [unplaced_cons, unplaced_none, hbindings]
      | some found => simp only [unplaced_cons, unplaced_some, unplaced_limit, hbindings, hlimit found rfl]
termination_by structural x => x

theorem bindingTexts_unplaced : ∀ bs : List Binding, bindingTexts (unplaced bs) = bindingTexts bs
  | [] => rfl
  | ⟨_, _, query, _⟩ :: rest => by simp [bindingTexts, query.text_unplaced, bindingTexts_unplaced rest]
termination_by structural x => x

/-- What the body of a query is written as does not show places. -/
@[simp] theorem Body.text_unplaced : ∀ b : Body, b.unplaced.text = b.text
  | .select parts => by simp [Body.text, parts.text_unplaced]
  | .values _ explicit rows => by simp [Body.text, rowTexts_unplaced _ rows]
  | .nested query => by simp [Body.text, query.text_unplaced]
  | .combined left _ _ right => by simp [Body.text, left.text_unplaced, right.text_unplaced]
  | .table .. | .change _ => rfl
termination_by structural x => x

@[simp] theorem Select.text_unplaced : ∀ s : Select, s.unplaced.text = s.text
  | ⟨_, items, _, tables, _, condition, _, groups, groupSets, _, having, _⟩ => by
    have hsets := rowTexts_unplaced "" groupSets
    rw [Select.unplaced, Select.text_mk, Select.text_mk, unplacedItems_eq, itemTexts_unplaced items,
      unplacedTables_eq, joinedTexts_unplaced tables, unplacedOption_eq, optionText_unplaced _ condition,
      unplacedExprs_eq, exprTexts_unplaced groups, unplacedOption_eq, optionText_unplaced _ having,
      unplacedRows_eq]
    cases groupSets with
    | nil => rfl
    | cons set rest =>
      rw [unplaced_cons] at hsets
      simp only [unplaced_cons, hsets]
termination_by structural x => x

theorem rowTexts_unplaced (lead : String) : ∀ rows : List (List Expr), rowTexts lead (unplaced rows) =
    rowTexts lead rows
  | [] => rfl
  | row :: rest => by simp [rowTexts, exprTexts_unplaced row, rowTexts_unplaced lead rest]
termination_by structural x => x

@[simp] theorem SelectItem.text_unplaced : ∀ i : SelectItem, i.unplaced.text = i.text
  | .value value _ => by simp [SelectItem.text, value.text_unplaced]
  | .wildcard _ => by simp [SelectItem.text]
termination_by structural x => x

@[simp] theorem itemTexts_unplaced : ∀ items : List SelectItem, itemTexts (unplaced items) = itemTexts items
  | [] => rfl
  | item :: rest => by simp [itemTexts, item.text_unplaced, itemTexts_unplaced rest]
termination_by structural x => x

@[simp] theorem Joined.text_unplaced : ∀ j : Joined, j.unplaced.text = j.text
  | ⟨table, joins⟩ => by simp [Joined.text, table.text_unplaced, joinTexts_unplaced joins]
termination_by structural x => x

@[simp] theorem joinedTexts_unplaced : ∀ ts : List Joined, joinedTexts (unplaced ts) = joinedTexts ts
  | [] => rfl
  | joined :: rest => by simp [joinedTexts, joined.text_unplaced, joinedTexts_unplaced rest]
termination_by structural x => x

theorem joinTexts_unplaced : ∀ js : List Join, joinTexts (unplaced js) = joinTexts js
  | [] => rfl
  | ⟨_, _, table, nearest, _, on, _⟩ :: rest => by
    cases nearest with
    | none => simp [joinTexts, table.text_unplaced, optionText_unplaced _ on, joinTexts_unplaced rest]
    | some condition =>
      simp [joinTexts, condition.text_unplaced, table.text_unplaced, optionText_unplaced _ on,
        joinTexts_unplaced rest]
termination_by structural x => x

/-- What a table is written as does not show places. -/
@[simp] theorem Table.text_unplaced : ∀ t : Table, t.unplaced.text = t.text
  | .named _ _ arguments _ _ _ => by
    cases arguments with
    | none => simp [Table.text]
    | some items => simp [Table.text, argumentTexts_unplaced items]
  | .derived _ query _ => by simp [Table.text, query.text_unplaced]
  | .computed _ arguments _ => by simp [Table.text, argumentTexts_unplaced arguments]
  | .ofExpr value _ => by simp [Table.text, value.text_unplaced]
  | .joined content _ => by simp [Table.text, content.text_unplaced]
  | .special .. => by simp [Table.text]
termination_by structural x => x

@[simp] theorem orderingTexts_unplaced : ∀ os : List Ordering, orderingTexts (unplaced os) = orderingTexts os
  | [] => rfl
  | ⟨key, _, _⟩ :: rest => by simp [orderingTexts, key.text_unplaced, orderingTexts_unplaced rest]
termination_by structural x => x

@[simp] theorem Limit.text_unplaced : ∀ l : Limit, l.unplaced.text = l.text
  | .words count skipped _ => by
    simp [Limit.text, optionText_unplaced _ count, optionText_unplaced _ skipped]
  | .comma skipped count => by simp [Limit.text, skipped.text_unplaced, count.text_unplaced]
termination_by structural x => x

theorem limit_text_unplaced : ∀ l : Option Limit, ∀ found ∈ l, found.unplaced.text = found.text
  | none => by simp
  | some limit => by simp [limit.text_unplaced]
termination_by structural x => x

end

end InsertPivot.Sql
