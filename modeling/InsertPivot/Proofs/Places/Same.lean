import InsertPivot.Insert
import InsertPivot.Proofs.Places

/-!
# Values that agree without their places

Two values that are equal without their places are the same but for where they were read.
-/

namespace InsertPivot.Sql

theorem both {a b : Bool} (ha : a) (hb : b) : a && b :=
  Bool.and_eq_true_iff.mpr ⟨ha, hb⟩

/-! ## Names and types -/

/-- Names that are equal without places are the same but for places. -/
theorem Ident.same_of_unplaced : ∀ {a b : Ident}, unplaced a = unplaced b → a.same b
  | ⟨_, _, _⟩, ⟨_, _, _⟩, h => by
    injection h with hvalue hquote
    exact both (decide_eq_true hvalue) (decide_eq_true hquote)

theorem Ident.sameOption_of_unplaced : ∀ {a b : Option Ident}, unplaced a = unplaced b → sameOption a b
  | none, none, _ => rfl
  | some _, some _, h => same_of_unplaced (Option.some.inj h)

theorem Ident.sameAll_of_unplaced : ∀ {as bs : List Ident}, unplaced as = unplaced bs → sameAll as bs
  | [], [], _ => rfl
  | _ :: _, _ :: _, h => by
    injection h with ha has
    exact both (same_of_unplaced ha) (sameAll_of_unplaced has)

theorem Ident.sameName_of_unplaced : ∀ {a b : Option (List Ident)}, unplaced a = unplaced b → sameName a b
  | none, none, _ => rfl
  | some _, some _, h => sameAll_of_unplaced (Option.some.inj h)

theorem Ident.sameNames_of_unplaced : ∀ {as bs : List (List Ident)}, unplaced as = unplaced bs → sameNames as bs
  | [], [], _ => rfl
  | _ :: _, _ :: _, h => by
    injection h with ha has
    exact both (sameAll_of_unplaced ha) (sameNames_of_unplaced has)

/-- Types that are equal without places are the same but for places. -/
theorem DataType.same_of_unplaced {a b : DataType} (h : a.unplaced = b.unplaced) : a.same b := by
  induction a generalizing b with
  | standard _ _ _ =>
    cases b with
    | standard _ _ _ =>
      injection h with hname hsize hsuffix
      exact both (both (decide_eq_true hname) (decide_eq_true hsize)) (decide_eq_true hsuffix)
    | _ => cases h
  | enumeration _ _ =>
    cases b with
    | enumeration _ _ =>
      injection h with hbits hmembers
      exact both (decide_eq_true hbits) (decide_eq_true hmembers)
    | _ => cases h
  | set _ =>
    cases b with
    | set _ => exact decide_eq_true (DataType.set.inj h)
    | _ => cases h
  | array _ ih =>
    cases b with
    | array _ => exact ih (DataType.array.inj h)
    | _ => cases h
  | table _ =>
    cases b with
    | table _ => exact decide_eq_true (DataType.table.inj h)
    | _ => cases h
  | custom _ _ =>
    cases b with
    | custom _ _ =>
      injection h with hname hmodifiers
      exact both (Ident.sameAll_of_unplaced hname) (decide_eq_true hmodifiers)
    | _ => cases h

theorem DataType.sameOption_of_unplaced :
    ∀ {a b : Option DataType}, Placed.unplaced a = Placed.unplaced b → sameOption a b
  | none, none, _ => rfl
  | some _, some _, h => same_of_unplaced (Option.some.inj h)

theorem ColumnLabel.sameAll_of_unplaced : ∀ {as bs : List ColumnLabel}, unplaced as = unplaced bs → sameAll as bs
  | [], [], _ => rfl
  | ⟨_, _⟩ :: _, ⟨_, _⟩ :: _, h => by
    injection h with ha has
    injection ha with hname htype
    exact both (both (Ident.same_of_unplaced hname) (DataType.sameOption_of_unplaced htype)) (sameAll_of_unplaced has)

theorem TableLabel.sameOption_of_unplaced : ∀ {a b : Option TableLabel}, unplaced a = unplaced b → sameOption a b
  | none, none, _ => rfl
  | some ⟨_, _, _⟩, some ⟨_, _, _⟩, h => by
    injection Option.some.inj h with hexplicit hname hcolumns
    exact both (both (decide_eq_true hexplicit) (Ident.same_of_unplaced hname))
      (ColumnLabel.sameAll_of_unplaced hcolumns)

theorem Lock.sameAll_of_unplaced : ∀ {as bs : List Lock}, unplaced as = unplaced bs → sameAll as bs
  | [], [], _ => rfl
  | ⟨_, _, _⟩ :: _, ⟨_, _, _⟩ :: _, h => by
    injection h with ha has
    injection ha with hshare htable hwait
    exact both (both (both (decide_eq_true hshare) (Ident.sameName_of_unplaced htable)) (decide_eq_true hwait))
      (sameAll_of_unplaced has)

/-! ## Expressions and queries -/

/-- Taking places out does not change the kind of an expression. -/
theorem Expr.ctorIdx_unplaced (e : Expr) : e.unplaced.ctorIdx = e.ctorIdx := by
  cases e <;> rfl

/-- Expressions that are equal without places are of one kind. -/
theorem Expr.ctorIdx_eq_of_unplaced {x y : Expr} (h : x.unplaced = y.unplaced) : x.ctorIdx = y.ctorIdx := by
  rw [← ctorIdx_unplaced, h, ctorIdx_unplaced]

-- The induction is on the first value. The second is of the same kind, and its parts agree with those of the first.
mutual

/-- Expressions that are equal without places are the same but for places. All pairs of different kinds are excluded
at once, by the number of the kind. -/
theorem Expr.same_of_unplaced : ∀ (x : Expr) {y : Expr}, x.unplaced = y.unplaced → x.same y
  | .literal _ _, y, h => by
    cases y <;> cases Expr.ctorIdx_eq_of_unplaced h
    injection h with hvalue
    exact decide_eq_true hvalue
  | .column _, y, h => by
    cases y <;> cases Expr.ctorIdx_eq_of_unplaced h
    injection h with hname
    exact Ident.same_of_unplaced hname
  | .qualified _, y, h => by
    cases y <;> cases Expr.ctorIdx_eq_of_unplaced h
    injection h with hparts
    exact Ident.sameAll_of_unplaced hparts
  | .access root path, y, h => by
    cases y <;> cases Expr.ctorIdx_eq_of_unplaced h
    injection h with hroot hpath
    exact both (root.same_of_unplaced hroot) (samePaths_of_unplaced path hpath)
  | .array _ items, y, h => by
    cases y <;> cases Expr.ctorIdx_eq_of_unplaced h
    injection h with hsaid hitems
    exact both (decide_eq_true hsaid) (sameExprs_of_unplaced items hitems)
  | .nested inner, y, h | .call inner, y, h | .subquery inner, y, h => by
    cases y <;> cases Expr.ctorIdx_eq_of_unplaced h
    injection h with hinner
    exact inner.same_of_unplaced hinner
  | .tuple items, y, h => by
    cases y <;> cases Expr.ctorIdx_eq_of_unplaced h
    injection h with hitems
    exact sameExprs_of_unplaced items hitems
  | .unary _ operand, y, h | .extract _ operand, y, h | .exists _ operand, y, h => by
    cases y <;> cases Expr.ctorIdx_eq_of_unplaced h
    injection h with hop hoperand
    exact both (decide_eq_true hop) (operand.same_of_unplaced hoperand)
  | .binary left _ right, y, h | .isDistinct left _ right, y, h | .inQuery left _ right, y, h
  | .inUnnest left _ right, y, h => by
    cases y <;> cases Expr.ctorIdx_eq_of_unplaced h
    injection h with hleft hop hright
    exact both (both (left.same_of_unplaced hleft) (decide_eq_true hop)) (right.same_of_unplaced hright)
  | .compared left _ _ right, y, h | .regexp left _ _ right, y, h => by
    cases y <;> cases Expr.ctorIdx_eq_of_unplaced h
    injection h with hleft hop hreach hright
    refine both (both (both ?_ ?_) ?_) ?_
    · exact left.same_of_unplaced hleft
    · exact decide_eq_true hop
    · exact decide_eq_true hreach
    · exact right.same_of_unplaced hright
  | .is operand _ _, y, h | .isNormalized operand _ _, y, h => by
    cases y <;> cases Expr.ctorIdx_eq_of_unplaced h
    injection h with hoperand hnegated hform
    exact both (both (operand.same_of_unplaced hoperand) (decide_eq_true hnegated)) (decide_eq_true hform)
  | .inList operand _ items, y, h => by
    cases y <;> cases Expr.ctorIdx_eq_of_unplaced h
    injection h with hoperand hnegated hitems
    refine both (both ?_ ?_) ?_
    · exact operand.same_of_unplaced hoperand
    · exact decide_eq_true hnegated
    · exact sameExprs_of_unplaced items hitems
  | .between operand _ low high, y, h => by
    cases y <;> cases Expr.ctorIdx_eq_of_unplaced h
    injection h with hoperand hnegated hlow hhigh
    refine both (both (both ?_ ?_) ?_) ?_
    · exact operand.same_of_unplaced hoperand
    · exact decide_eq_true hnegated
    · exact low.same_of_unplaced hlow
    · exact high.same_of_unplaced hhigh
  | .like _ operand _ _ pattern _, y, h => by
    cases y <;> cases Expr.ctorIdx_eq_of_unplaced h
    injection h with hlikeness hoperand hnegated hany hpattern hescape
    refine both (both (both (both (both ?_ ?_) ?_) ?_) ?_) ?_
    · exact decide_eq_true hlikeness
    · exact operand.same_of_unplaced hoperand
    · exact decide_eq_true hnegated
    · exact decide_eq_true hany
    · exact pattern.same_of_unplaced hpattern
    · exact decide_eq_true hescape
  | .memberOf left right, y, h | .atTimeZone left right, y, h | .position left right, y, h => by
    cases y <;> cases Expr.ctorIdx_eq_of_unplaced h
    injection h with hleft hright
    exact both (left.same_of_unplaced hleft) (right.same_of_unplaced hright)
  | .collate operand _, y, h | .transcode operand _, y, h => by
    cases y <;> cases Expr.ctorIdx_eq_of_unplaced h
    injection h with hoperand hname
    exact both (operand.same_of_unplaced hoperand) (Ident.sameAll_of_unplaced hname)
  | .typed _ _ _ _, y, h => by
    cases y <;> cases Expr.ctorIdx_eq_of_unplaced h
    injection h with hbraced htype hvalue
    exact both (both (decide_eq_true hbraced) (DataType.same_of_unplaced htype)) (decide_eq_true hvalue)
  | .introduced _ _ _, y, h => by
    cases y <;> cases Expr.ctorIdx_eq_of_unplaced h
    injection h with hcharset hvalue
    exact both (Ident.same_of_unplaced hcharset) (decide_eq_true hvalue)
  | .case operand branches otherwise, y, h => by
    cases y <;> cases Expr.ctorIdx_eq_of_unplaced h
    injection h with hoperand hbranches hotherwise
    refine both (both ?_ ?_) ?_
    · exact sameOption_of_unplaced operand hoperand
    · exact sameBranches_of_unplaced branches hbranches
    · exact sameOption_of_unplaced otherwise hotherwise
  | .cast _ operand _ _, y, h => by
    cases y <;> cases Expr.ctorIdx_eq_of_unplaced h
    injection h with hkind hoperand htype hformat
    refine both (both (both ?_ ?_) ?_) ?_
    · exact decide_eq_true hkind
    · exact operand.same_of_unplaced hoperand
    · exact DataType.same_of_unplaced htype
    · exact decide_eq_true hformat
  | .convert operand _ _, y, h => by
    cases y <;> cases Expr.ctorIdx_eq_of_unplaced h
    injection h with hoperand htype hcharset
    refine both (both ?_ ?_) ?_
    · exact operand.same_of_unplaced hoperand
    · exact DataType.same_of_unplaced htype
    · exact Ident.sameName_of_unplaced hcharset
  | .round _ operand _, y, h => by
    cases y <;> cases Expr.ctorIdx_eq_of_unplaced h
    injection h with hdown hoperand hunit
    exact both (both (decide_eq_true hdown) (operand.same_of_unplaced hoperand)) (decide_eq_true hunit)
  | .substring _ operand start length, y, h => by
    cases y <;> cases Expr.ctorIdx_eq_of_unplaced h
    injection h with hstyle hoperand hstart hlength
    refine both (both (both ?_ ?_) ?_) ?_
    · exact decide_eq_true hstyle
    · exact operand.same_of_unplaced hoperand
    · exact sameOption_of_unplaced start hstart
    · exact sameOption_of_unplaced length hlength
  | .overlay operand part start length, y, h => by
    cases y <;> cases Expr.ctorIdx_eq_of_unplaced h
    injection h with hoperand hpart hstart hlength
    refine both (both (both ?_ ?_) ?_) ?_
    · exact operand.same_of_unplaced hoperand
    · exact part.same_of_unplaced hpart
    · exact start.same_of_unplaced hstart
    · exact sameOption_of_unplaced length hlength
  | .trim _ what operand, y, h => by
    cases y <;> cases Expr.ctorIdx_eq_of_unplaced h
    injection h with hside hwhat hoperand
    exact both (both (decide_eq_true hside) (sameOption_of_unplaced what hwhat)) (operand.same_of_unplaced hoperand)
  | .matchAgainst _ _ _, y, h => by
    cases y <;> cases Expr.ctorIdx_eq_of_unplaced h
    injection h with hcolumns hvalue hmode
    exact both (both (Ident.sameNames_of_unplaced hcolumns) (decide_eq_true hvalue)) (decide_eq_true hmode)
  | .interval amount _, y, h => by
    cases y <;> cases Expr.ctorIdx_eq_of_unplaced h
    injection h with hamount hunit
    exact both (amount.same_of_unplaced hamount) (decide_eq_true hunit)
termination_by structural x => x

theorem sameExprs_of_unplaced :
    ∀ (xs : List Expr) {ys : List Expr}, unplacedExprs xs = unplacedExprs ys → sameExprs xs ys
  | [], [], _ => rfl
  | x :: xs, y :: ys, h => by
    injection h with hx hxs
    exact both (x.same_of_unplaced hx) (sameExprs_of_unplaced xs hxs)
termination_by structural x => x

theorem sameOption_of_unplaced :
    ∀ (x : Option Expr) {y : Option Expr}, unplacedOption x = unplacedOption y → sameOption x y
  | none, none, _ => rfl
  | some x, some _, h => x.same_of_unplaced (Option.some.inj h)
termination_by structural x => x

theorem Access.same_of_unplaced : ∀ (x : Access) {y : Access}, x.unplaced = y.unplaced → x.same y
  | .dot value, y, h => by
    cases y with
    | dot _ =>
      injection h with hvalue
      exact value.same_of_unplaced hvalue
    | _ => cases h
  | .index value, y, h => by
    cases y with
    | index _ =>
      injection h with hvalue
      exact value.same_of_unplaced hvalue
    | _ => cases h
  | .slice lower upper stride, y, h => by
    cases y with
    | slice _ _ _ =>
      injection h with hlower hupper hstride
      refine both (both ?_ ?_) ?_
      · exact sameOption_of_unplaced lower hlower
      · exact sameOption_of_unplaced upper hupper
      · exact sameOption_of_unplaced stride hstride
    | _ => cases h
termination_by structural x => x

theorem samePaths_of_unplaced :
    ∀ (xs : List Access) {ys : List Access}, unplacedPath xs = unplacedPath ys → samePaths xs ys
  | [], [], _ => rfl
  | x :: xs, y :: ys, h => by
    injection h with hx hxs
    exact both (x.same_of_unplaced hx) (samePaths_of_unplaced xs hxs)
termination_by structural x => x

theorem sameBranches_of_unplaced :
    ∀ (xs : List Branch) {ys : List Branch}, unplacedBranches xs = unplacedBranches ys → sameBranches xs ys
  | [], [], _ => rfl
  | ⟨condition, result⟩ :: xs, ⟨_, _⟩ :: ys, h => by
    injection h with hx hxs
    injection hx with hcondition hresult
    refine both (both ?_ ?_) ?_
    · exact condition.same_of_unplaced hcondition
    · exact result.same_of_unplaced hresult
    · exact sameBranches_of_unplaced xs hxs
termination_by structural x => x

/-- Calls that are equal without places are the same but for places. -/
theorem Call.same_of_unplaced : ∀ (x : Call) {y : Call}, x.unplaced = y.unplaced → x.same y
  | ⟨_, applied, _, group, _, _⟩, ⟨_, _, _, _, _, _⟩, h => by
    injection h with hname happlied hbraced hgroup hnulls hwindow
    refine both (both (both (both (both ?_ ?_) ?_) ?_) ?_) ?_
    · exact Ident.sameAll_of_unplaced hname
    · exact applied.same_of_unplaced happlied
    · exact decide_eq_true hbraced
    · exact sameOrderings_of_unplaced group hgroup
    · exact decide_eq_true hnulls
    · exact decide_eq_true hwindow
termination_by structural x => x

theorem Arguments.same_of_unplaced : ∀ (x : Arguments) {y : Arguments}, x.unplaced = y.unplaced → x.same y
  | .absent, y, h => by
    cases y with
    | absent =>
      exact rfl
    | _ => cases h
  | .given _ items _, y, h => by
    cases y with
    | given _ _ _ =>
      injection h with hquantifier hitems hclauses
      exact both (both (decide_eq_true hquantifier) (sameArguments_of_unplaced items hitems)) (decide_eq_true hclauses)
    | _ => cases h
  | .rows query, y, h => by
    cases y with
    | rows _ =>
      injection h with hquery
      exact query.same_of_unplaced hquery
    | _ => cases h
termination_by structural x => x

theorem Argument.same_of_unplaced : ∀ (x : Argument) {y : Argument}, x.unplaced = y.unplaced → x.same y
  | .value value, y, h => by
    cases y with
    | value _ =>
      injection h with hvalue
      exact value.same_of_unplaced hvalue
    | _ => cases h
  | .wildcard _, y, h => by
    cases y with
    | wildcard _ =>
      injection h with hqualifier
      exact Ident.sameAll_of_unplaced hqualifier
    | _ => cases h
  | .named _ _ value, y, h => by
    cases y with
    | named _ _ _ =>
      injection h with hname hjoint hvalue
      exact both (both (Ident.same_of_unplaced hname) (decide_eq_true hjoint)) (value.same_of_unplaced hvalue)
    | _ => cases h
termination_by structural x => x

theorem sameArguments_of_unplaced :
    ∀ (xs : List Argument) {ys : List Argument}, unplacedArguments xs = unplacedArguments ys → sameArguments xs ys
  | [], [], _ => rfl
  | x :: xs, y :: ys, h => by
    injection h with hx hxs
    exact both (x.same_of_unplaced hx) (sameArguments_of_unplaced xs hxs)
termination_by structural x => x

theorem sameGiven_of_unplaced :
    ∀ (x : Option (List Argument)) {y : Option (List Argument)}, unplacedGiven x = unplacedGiven y → sameGiven x y
  | none, none, _ => rfl
  | some x, some _, h => sameArguments_of_unplaced x (Option.some.inj h)
termination_by structural x => x

/-- Queries that are equal without places are the same but for places. -/
theorem Query.same_of_unplaced : ∀ (x : Query) {y : Query}, x.unplaced = y.unplaced → x.same y
  | ⟨_, bindings, body, order, limit, _, _, _⟩, ⟨_, _, _, _, _, _, _, _⟩, h => by
    injection h with hrecursive hbindings hbody horder hlimit hfetch hlocks houtput
    refine both (both (both (both (both (both (both ?_ ?_) ?_) ?_) ?_) ?_) ?_) ?_
    · exact decide_eq_true hrecursive
    · exact sameBindings_of_unplaced bindings hbindings
    · exact body.same_of_unplaced hbody
    · exact sameOrderings_of_unplaced order horder
    · exact sameLimits_of_unplaced limit hlimit
    · exact decide_eq_true hfetch
    · exact Lock.sameAll_of_unplaced hlocks
    · exact decide_eq_true houtput
termination_by structural x => x

theorem sameBindings_of_unplaced :
    ∀ (xs : List Binding) {ys : List Binding}, unplacedBindings xs = unplacedBindings ys → sameBindings xs ys
  | [], [], _ => rfl
  | ⟨_, _, query, _⟩ :: xs, ⟨_, _, _, _⟩ :: ys, h => by
    injection h with hx hxs
    injection hx with hname hcolumns hquery hsource
    refine both (both (both (both ?_ ?_) ?_) ?_) ?_
    · exact Ident.same_of_unplaced hname
    · exact ColumnLabel.sameAll_of_unplaced hcolumns
    · exact query.same_of_unplaced hquery
    · exact Ident.sameOption_of_unplaced hsource
    · exact sameBindings_of_unplaced xs hxs
termination_by structural x => x

/-- Bodies of queries that are equal without places are the same but for places. -/
theorem Body.same_of_unplaced : ∀ (x : Body) {y : Body}, x.unplaced = y.unplaced → x.same y
  | .select parts, y, h => by
    cases y with
    | select _ =>
      injection h with hparts
      exact parts.same_of_unplaced hparts
    | _ => cases h
  | .«values» _ _ rows, y, h => by
    cases y with
    | «values» _ _ _ =>
      injection h with hshort hexplicit hrows
      exact both (both (decide_eq_true hshort) (decide_eq_true hexplicit)) (sameRows_of_unplaced rows hrows)
    | _ => cases h
  | .nested query, y, h => by
    cases y with
    | nested _ =>
      injection h with hquery
      exact query.same_of_unplaced hquery
    | _ => cases h
  | .combined left _ _ right, y, h => by
    cases y with
    | combined _ _ _ _ =>
      injection h with hleft hop hmode hright
      refine both (both (both ?_ ?_) ?_) ?_
      · exact left.same_of_unplaced hleft
      · exact decide_eq_true hop
      · exact decide_eq_true hmode
      · exact right.same_of_unplaced hright
    | _ => cases h
  | .table _ _, y, h => by
    cases y with
    | table _ _ =>
      injection h with hschema hname
      exact both (decide_eq_true hschema) (decide_eq_true hname)
    | _ => cases h
  | .change _, y, h => by
    cases y with
    | change _ =>
      injection h with htext
      exact decide_eq_true htext
    | _ => cases h
termination_by structural x => x

/-- Selections that are equal without places are the same but for places. -/
theorem Select.same_of_unplaced : ∀ (x : Select) {y : Select}, x.unplaced = y.unplaced → x.same y
  | ⟨_, items, _, tables, _, condition, _, groups, sets, _, having, _⟩,
      ⟨_, _, _, _, _, _, _, _, _, _, _, _⟩, h => by
    injection h with hlead hitems hinto htables hviews hcondition hall hgroups hsets hspread hhaving hwindows
    refine both (both (both (both (both (both (both (both (both (both (both
      ?_ ?_) ?_) ?_) ?_) ?_) ?_) ?_) ?_) ?_) ?_) ?_
    · exact decide_eq_true hlead
    · exact sameItems_of_unplaced items hitems
    · exact decide_eq_true hinto
    · exact sameJoined_of_unplaced tables htables
    · exact decide_eq_true hviews
    · exact sameOption_of_unplaced condition hcondition
    · exact decide_eq_true hall
    · exact sameExprs_of_unplaced groups hgroups
    · exact sameRows_of_unplaced sets hsets
    · exact decide_eq_true hspread
    · exact sameOption_of_unplaced having hhaving
    · exact decide_eq_true hwindows
termination_by structural x => x

theorem sameRows_of_unplaced :
    ∀ (xs : List (List Expr)) {ys : List (List Expr)}, unplacedRows xs = unplacedRows ys → sameRows xs ys
  | [], [], _ => rfl
  | x :: xs, y :: ys, h => by
    injection h with hx hxs
    exact both (sameExprs_of_unplaced x hx) (sameRows_of_unplaced xs hxs)
termination_by structural x => x

theorem sameItems_of_unplaced :
    ∀ (xs : List SelectItem) {ys : List SelectItem}, unplacedItems xs = unplacedItems ys → sameItems xs ys
  | [], [], _ => rfl
  | .value value _ :: xs, y :: ys, h => by
    injection h with hx hxs
    cases y with
    | value _ _ =>
      injection hx with hvalue hlabel
      exact both (both (value.same_of_unplaced hvalue) (Ident.sameOption_of_unplaced hlabel))
        (sameItems_of_unplaced xs hxs)
    | wildcard _ => cases hx
  | .wildcard _ :: xs, y :: ys, h => by
    injection h with hx hxs
    cases y with
    | value _ _ => cases hx
    | wildcard _ =>
      injection hx with hqualifier
      exact both (Ident.sameAll_of_unplaced hqualifier) (sameItems_of_unplaced xs hxs)
termination_by structural x => x

theorem Joined.same_of_unplaced : ∀ (x : Joined) {y : Joined}, x.unplaced = y.unplaced → x.same y
  | ⟨table, joins⟩, ⟨_, _⟩, h => by
    injection h with htable hjoins
    exact both (table.same_of_unplaced htable) (sameJoins_of_unplaced joins hjoins)
termination_by structural x => x

theorem sameJoined_of_unplaced :
    ∀ (xs : List Joined) {ys : List Joined}, unplacedTables xs = unplacedTables ys → sameJoined xs ys
  | [], [], _ => rfl
  | x :: xs, y :: ys, h => by
    injection h with hx hxs
    exact both (x.same_of_unplaced hx) (sameJoined_of_unplaced xs hxs)
termination_by structural x => x

theorem sameJoins_of_unplaced :
    ∀ (xs : List Join) {ys : List Join}, unplacedJoins xs = unplacedJoins ys → sameJoins xs ys
  | [], [], _ => rfl
  | ⟨_, _, table, nearest, _, on, _⟩ :: xs, ⟨_, _, _, _, _, _, _⟩ :: ys, h => by
    injection h with hx hxs
    injection hx with hglobal hkind htable hnearest hnatural hon hcolumns
    refine both (both (both (both (both (both (both ?_ ?_) ?_) ?_) ?_) ?_) ?_) ?_
    · exact decide_eq_true hglobal
    · exact decide_eq_true hkind
    · exact table.same_of_unplaced htable
    · exact sameOption_of_unplaced nearest hnearest
    · exact decide_eq_true hnatural
    · exact sameOption_of_unplaced on hon
    · exact Ident.sameNames_of_unplaced hcolumns
    · exact sameJoins_of_unplaced xs hxs
termination_by structural x => x

/-- Tables that are equal without places are the same but for places. -/
theorem Table.same_of_unplaced : ∀ (x : Table) {y : Table}, x.unplaced = y.unplaced → x.same y
  | .named _ _ given _ _ _, y, h => by
    cases y with
    | named _ _ _ _ _ _ =>
      injection h with hname hpartitions hgiven hordinality hlabel hhints
      refine both (both (both (both (both ?_ ?_) ?_) ?_) ?_) ?_
      · exact Ident.sameAll_of_unplaced hname
      · exact Ident.sameAll_of_unplaced hpartitions
      · exact sameGiven_of_unplaced given hgiven
      · exact decide_eq_true hordinality
      · exact TableLabel.sameOption_of_unplaced hlabel
      · exact decide_eq_true hhints
    | _ => cases h
  | .derived _ query _, y, h => by
    cases y with
    | derived _ _ _ =>
      injection h with hlateral hquery hlabel
      refine both (both ?_ ?_) ?_
      · exact decide_eq_true hlateral
      · exact query.same_of_unplaced hquery
      · exact TableLabel.sameOption_of_unplaced hlabel
    | _ => cases h
  | .computed _ given _, y, h => by
    cases y with
    | computed _ _ _ =>
      injection h with hname hgiven hlabel
      refine both (both ?_ ?_) ?_
      · exact Ident.sameAll_of_unplaced hname
      · exact sameArguments_of_unplaced given hgiven
      · exact TableLabel.sameOption_of_unplaced hlabel
    | _ => cases h
  | .ofExpr value _, y, h => by
    cases y with
    | ofExpr _ _ =>
      injection h with hvalue hlabel
      exact both (value.same_of_unplaced hvalue) (TableLabel.sameOption_of_unplaced hlabel)
    | _ => cases h
  | .joined content _, y, h => by
    cases y with
    | joined _ _ =>
      injection h with hcontent hlabel
      exact both (content.same_of_unplaced hcontent) (TableLabel.sameOption_of_unplaced hlabel)
    | _ => cases h
  | .special _ _, y, h => by
    cases y with
    | special _ _ =>
      injection h with htext hlabel
      exact both (decide_eq_true htext) (TableLabel.sameOption_of_unplaced hlabel)
    | _ => cases h
termination_by structural x => x

theorem sameOrderings_of_unplaced :
    ∀ (xs : List Ordering) {ys : List Ordering}, unplacedOrderings xs = unplacedOrderings ys → sameOrderings xs ys
  | [], [], _ => rfl
  | ⟨key, _, _⟩ :: xs, ⟨_, _, _⟩ :: ys, h => by
    injection h with hx hxs
    injection hx with hkey hascending hnulls
    refine both (both (both ?_ ?_) ?_) ?_
    · exact key.same_of_unplaced hkey
    · exact decide_eq_true hascending
    · exact decide_eq_true hnulls
    · exact sameOrderings_of_unplaced xs hxs
termination_by structural x => x

theorem Limit.same_of_unplaced : ∀ (x : Limit) {y : Limit}, x.unplaced = y.unplaced → x.same y
  | .words count skipped _, y, h => by
    cases y with
    | words _ _ _ =>
      injection h with hcount hskipped hunit
      refine both (both ?_ ?_) ?_
      · exact sameOption_of_unplaced count hcount
      · exact sameOption_of_unplaced skipped hskipped
      · exact decide_eq_true hunit
    | _ => cases h
  | .comma skipped count, y, h => by
    cases y with
    | comma _ _ =>
      injection h with hskipped hcount
      exact both (skipped.same_of_unplaced hskipped) (count.same_of_unplaced hcount)
    | _ => cases h
termination_by structural x => x

theorem sameLimits_of_unplaced :
    ∀ (x : Option Limit) {y : Option Limit}, unplacedLimit x = unplacedLimit y → sameLimits x y
  | none, none, _ => rfl
  | some x, some _, h => x.same_of_unplaced (Option.some.inj h)
termination_by structural x => x

end

end InsertPivot.Sql
