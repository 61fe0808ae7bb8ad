import InsertPivot.Insert.Tree
import InsertPivot.Proofs.Documents
import InsertPivot.Proofs.Trees.Leaf

/-!
# Statements are told by their JSON

No two lists of statements have one tree (`inserts_injective`): whatever a statement holds is shown in its tree, and
what is left to others is left to them as a whole.

The kind of a node tells the constructor of the expression that it is the tree of (`kindNumber_eq`), and then the
members of the node tell its parts. The induction is on the first of two expressions.

`Shows` says that a text is the document of some statements. The statements tell the tree, the tree and the encoding of
its parts tell the document, and the document tells the text; the first and the last step can be taken back.
-/

namespace InsertPivot.Tree

open Json (tagged ofList ofOption)

/-! ## Kinds of expressions -/

/-- What the nodes of the expressions are called, by the order of the kinds of expressions. -/
def exprKinds : List (List String) :=
  [["Value"], ["Identifier"], ["CompoundIdentifier"], ["CompoundFieldAccess"], ["Array"], ["Nested"], ["Tuple"],
    ["UnaryOp"], ["BinaryOp"], ["AllOp", "AnyOp"],
    ["IsNull", "IsNotNull", "IsTrue", "IsNotTrue", "IsFalse", "IsNotFalse", "IsUnknown", "IsNotUnknown"],
    ["IsDistinctFrom", "IsNotDistinctFrom"], ["IsNormalized"], ["InList"], ["InSubquery"], ["InUnnest"], ["Between"],
    ["Like", "ILike", "SimilarTo"], ["RLike"], ["MemberOf"], ["AtTimeZone"], ["Collate"], ["TypedString"],
    ["Prefixed"], ["Function"], [], ["Cast"], ["Convert"], [], ["Ceil", "Floor"], ["Extract"], ["Position"],
    ["Substring"], ["Overlay"], ["Trim"], ["MatchAgainst"], ["Interval"], ["Exists"], ["Subquery"]]

/-- The number of an expression's kind. Two kinds are called `Convert`, one of which names no type. -/
def kindNumber : Sql.Expr → Nat
  | .transcode _ _ => 27
  | e => e.ctorIdx

/-- The kind of a node tells the kind of the expression; a `CASE` is left to others. -/
theorem kindNumber_eq (e : Sql.Expr) :
    (kind? (expr e)).elim 25 (fun kind => exprKinds.findIdx (·.contains kind)) = kindNumber e := by
  cases e with
  -- these have a kind for each word that they may be written with
  | is operand negated truth => cases negated <;> cases truth <;> rfl
  | isDistinct left negated right => cases negated <;> rfl
  | compared left op reach right => cases reach <;> rfl
  | like likeness operand negated any pattern escape => cases likeness <;> cases any <;> rfl
  | round down operand unit => cases down <;> rfl
  | call function => cases function; rfl
  | _ => rfl

/-- Expressions with one tree are of one kind. -/
theorem kindNumber_eq_of_expr {a b : Sql.Expr} (h : expr a = expr b) : kindNumber a = kindNumber b := by
  rw [← kindNumber_eq, h, kindNumber_eq]

/-- No expression is written as the missing one. -/
theorem expr_ne_null (e : Sql.Expr) : expr e ≠ .null := by
  cases e with
  | compared left op reach right => cases reach <;> exact nofun
  | like likeness operand negated any pattern escape => cases likeness <;> cases any <;> exact nofun
  | call function => cases function; exact nofun
  | _ => exact nofun

/-! ## Expressions -/

/-- Each window has a tree of its own, because it is told to the encoding whole. -/
theorem window_injective : Function.Injective fun text : String => Json.part (Part.window text) :=
  fun _ _ h => Part.window.inj (Json.part.inj h)

theorem clause_injective : Function.Injective fun text : String => Json.part (Part.clause text) :=
  fun _ _ h => Part.clause.inj (Json.part.inj h)

theorem ordering_injective : Function.Injective fun key : Sql.Ordering => Json.part (Part.ordering key) :=
  fun _ _ h => Part.ordering.inj (Json.part.inj h)

/-- Optional literals are told by their trees. -/
theorem optionalLiteral_injective : Function.Injective (ofOption literal) :=
  ofOption_injective literal_injective literal_ne_null

/-- Queries are told by their trees. -/
theorem query_inj {q r : Sql.Query} : (Json.part (Part.query q) : Json Part) = .part (.query r) ↔ q = r := by
  rw [Json.part.injEq, Part.query.injEq]

/-- A match by `LIKE` or its like shows whether any of several patterns may match, but for a plain `SIMILAR TO`. -/
theorem expr_like {likeness : Sql.Likeness} {operand pattern : Sql.Expr} {negated any : Bool}
    {escape : Option Sql.Literal} (h : ¬ (likeness = .similar ∧ any = false)) :
    expr (.like likeness operand negated any pattern escape) =
      tagged (likenessKind likeness)
        (.object [("negated", .boolean negated), ("any", .boolean any), ("expr", expr operand),
          ("pattern", expr pattern), ("escape_char", ofOption literal escape)]) := by
  cases likeness <;> cases any
  case similar.false => exact absurd ⟨rfl, rfl⟩ h
  all_goals rfl

/-- An argument by name is written under its kind, and all others as unnamed. -/
theorem argumentItems_cons_inj {a b : Sql.Argument} {as bs : List Sql.Argument}
    (h : argumentItems (a :: as) = argumentItems (b :: bs)) :
    argumentValue a = argumentValue b ∧ argumentItems as = argumentItems bs := by
  obtain ⟨hitem, hrest⟩ := List.cons.inj h
  refine ⟨?_, hrest⟩
  cases a <;> cases b
  case named.named => exact hitem
  case named.value | named.wildcard | value.named | wildcard.named =>
    exact absurd (tagged_inj.mp hitem).1 (by decide)
  all_goals exact (tagged_inj.mp hitem).2

mutual

/-- Expressions are told by their trees. The kind of an expression is told first, so that each kind is compared with
itself alone. -/
theorem expr_inj : ∀ a b : Sql.Expr, expr a = expr b → a = b
  | .literal value place, b, h => by
    cases b with
    | literal _ _ =>
      simp only [expr, tagged_inj, placedLiteral_inj, true_and] at h
      rw [h.1, h.2]
    | _ => cases kindNumber_eq_of_expr h
  | .column name, b, h => by
    cases b with
    | column _ => rw [ident_injective (tagged_inj.mp h).2]
    | _ => cases kindNumber_eq_of_expr h
  | .qualified parts, b, h => by
    cases b with
    | qualified _ => rw [idents_injective (tagged_inj.mp h).2]
    | _ => cases kindNumber_eq_of_expr h
  | .access root path, b, h => by
    cases b with
    | access _ _ =>
      simp only [expr, tagged_inj, member_inj, Json.array.injEq, true_and, and_true] at h
      rw [expr_inj root _ h.1, accesses_inj path _ h.2]
    | _ => cases kindNumber_eq_of_expr h
  | .array said items, b, h => by
    cases b with
    | array _ _ =>
      simp only [expr, tagged_inj, member_inj, Json.array.injEq, Json.boolean.injEq, true_and, and_true] at h
      rw [exprs_inj items _ h.1, h.2]
    | _ => cases kindNumber_eq_of_expr h
  | .nested inner, b, h => by
    cases b with
    | nested _ => rw [expr_inj inner _ (tagged_inj.mp h).2]
    | _ => cases kindNumber_eq_of_expr h
  | .tuple items, b, h => by
    cases b with
    | tuple _ => rw [exprs_inj items _ (Json.array.inj (tagged_inj.mp h).2)]
    | _ => cases kindNumber_eq_of_expr h
  | .unary op operand, b, h => by
    cases b with
    | unary _ _ =>
      simp only [expr, tagged_inj, member_inj, Json.text.injEq, true_and, and_true] at h
      rw [unaryOp_injective h.1, expr_inj operand _ h.2]
    | _ => cases kindNumber_eq_of_expr h
  | .binary left op right, b, h => by
    cases b with
    | binary _ _ _ =>
      simp only [expr, tagged_inj, member_inj, Json.text.injEq, true_and, and_true] at h
      rw [expr_inj left _ h.1, binaryOp_injective h.2.1, expr_inj right _ h.2.2]
    | _ => cases kindNumber_eq_of_expr h
  | .compared left op reach right, b, h => by
    cases b with
    | compared _ _ reach' _ =>
      cases reach <;> cases reach' <;>
        simp only [expr, tagged_inj, member_inj, Json.text.injEq, Json.boolean.injEq, true_and, and_true,
          String.reduceEq, reduceCtorEq, decide_true, decide_false, Bool.false_eq_true, Bool.true_eq_false, false_and,
          and_false] at h
      all_goals rw [expr_inj left _ h.1, binaryOp_injective h.2.1, expr_inj right _ h.2.2]
    | _ => cases kindNumber_eq_of_expr h
  | .is operand negated truth, b, h => by
    cases b with
    | is _ _ _ =>
      simp only [expr, tagged_inj, truthTest_inj] at h
      rw [h.1.1, h.1.2, expr_inj operand _ h.2]
    | _ => cases kindNumber_eq_of_expr h
  | .isDistinct left negated right, b, h => by
    cases b with
    | isDistinct _ _ _ =>
      simp only [expr, tagged_inj, Json.array.injEq, List.cons.injEq, and_true] at h
      rw [expr_inj left _ h.2.1, (kindByFlag_inj (by decide)).mp h.1, expr_inj right _ h.2.2]
    | _ => cases kindNumber_eq_of_expr h
  | .isNormalized operand negated form, b, h => by
    cases b with
    | isNormalized _ _ _ =>
      simp only [expr, tagged_inj, member_inj, Json.boolean.injEq, true_and, and_true] at h
      rw [expr_inj operand _ h.1, ofOption_injective normalForm_injective nofun h.2.1, h.2.2]
    | _ => cases kindNumber_eq_of_expr h
  | .inList operand negated items, b, h => by
    cases b with
    | inList _ _ _ =>
      simp only [expr, tagged_inj, member_inj, Json.array.injEq, Json.boolean.injEq, true_and, and_true] at h
      rw [expr_inj operand _ h.1, exprs_inj items _ h.2.1, h.2.2]
    | _ => cases kindNumber_eq_of_expr h
  | .inQuery operand negated rows, b, h => by
    cases b with
    | inQuery _ _ _ =>
      simp only [expr, tagged_inj, member_inj, query_inj, Json.boolean.injEq, true_and, and_true] at h
      rw [expr_inj operand _ h.1, h.2.1, h.2.2]
    | _ => cases kindNumber_eq_of_expr h
  | .inUnnest operand negated items, b, h => by
    cases b with
    | inUnnest _ _ _ =>
      simp only [expr, tagged_inj, member_inj, Json.boolean.injEq, true_and, and_true] at h
      rw [expr_inj operand _ h.1, expr_inj items _ h.2.1, h.2.2]
    | _ => cases kindNumber_eq_of_expr h
  | .between operand negated low high, b, h => by
    cases b with
    | between _ _ _ _ =>
      simp only [expr, tagged_inj, member_inj, Json.boolean.injEq, true_and, and_true] at h
      rw [expr_inj operand _ h.1, h.2.1, expr_inj low _ h.2.2.1, expr_inj high _ h.2.2.2]
    | _ => cases kindNumber_eq_of_expr h
  | .like likeness operand negated any pattern escape, b, h => by
    cases b with
    | like likeness' _ _ any' _ _ =>
      by_cases hsimilar : likeness = .similar ∧ any = false <;> by_cases hsimilar' : likeness' = .similar ∧ any' = false
      · obtain ⟨⟨rfl, rfl⟩, rfl, rfl⟩ := And.intro hsimilar hsimilar'
        simp only [expr, tagged_inj, member_inj, Json.boolean.injEq, true_and, and_true] at h
        rw [h.1, expr_inj operand _ h.2.1, expr_inj pattern _ h.2.2.1, optionalLiteral_injective h.2.2.2]
      · obtain ⟨rfl, rfl⟩ := hsimilar
        simp only [expr, expr_like hsimilar', tagged_inj, member_inj, String.reduceEq, false_and, and_false] at h
      · obtain ⟨rfl, rfl⟩ := hsimilar'
        simp only [expr, expr_like hsimilar, tagged_inj, member_inj, String.reduceEq, false_and, and_false] at h
      · simp only [expr_like hsimilar, expr_like hsimilar', tagged_inj, member_inj, Json.boolean.injEq, true_and,
          and_true] at h
        obtain ⟨hlikeness, hnegated, hany, hoperand, hpattern, hescape⟩ := h
        rw [likenessKind_injective hlikeness, hnegated, hany, expr_inj operand _ hoperand,
          expr_inj pattern _ hpattern, optionalLiteral_injective hescape]
    | _ => cases kindNumber_eq_of_expr h
  | .regexp operand negated rlike pattern, b, h => by
    cases b with
    | regexp _ _ _ _ =>
      simp only [expr, tagged_inj, member_inj, Json.boolean.injEq, Bool.not_inj_iff, true_and, and_true] at h
      rw [h.1, expr_inj operand _ h.2.1, expr_inj pattern _ h.2.2.1, h.2.2.2]
    | _ => cases kindNumber_eq_of_expr h
  | .memberOf operand items, b, h => by
    cases b with
    | memberOf _ _ =>
      simp only [expr, tagged_inj, member_inj, true_and, and_true] at h
      rw [expr_inj operand _ h.1, expr_inj items _ h.2]
    | _ => cases kindNumber_eq_of_expr h
  | .atTimeZone moment zone, b, h => by
    cases b with
    | atTimeZone _ _ =>
      simp only [expr, tagged_inj, member_inj, true_and, and_true] at h
      rw [expr_inj moment _ h.1, expr_inj zone _ h.2]
    | _ => cases kindNumber_eq_of_expr h
  | .collate operand collation, b, h => by
    cases b with
    | collate _ _ =>
      simp only [expr, tagged_inj, member_inj, true_and, and_true] at h
      rw [expr_inj operand _ h.1, identParts_injective h.2]
    | _ => cases kindNumber_eq_of_expr h
  | .typed braced type value place, b, h => by
    cases b with
    | typed _ _ _ _ =>
      simp only [expr, tagged_inj, member_inj, placedLiteral_inj, Json.boolean.injEq, true_and, and_true] at h
      rw [h.2.2, dataType_injective h.1, h.2.1.1, h.2.1.2]
    | _ => cases kindNumber_eq_of_expr h
  | .introduced charset value place, b, h => by
    cases b with
    | introduced _ _ _ =>
      simp only [expr, tagged_inj, member_inj, placedLiteral_inj, true_and, and_true] at h
      rw [ident_injective h.1, h.2.1, h.2.2]
    | _ => cases kindNumber_eq_of_expr h
  | .call function, b, h => by
    cases b with
    | call _ =>
      rw [expr, expr] at h
      rw [call_inj function _ h]
    | _ => cases kindNumber_eq_of_expr h
  | .case operand branches otherwise, b, h => by
    cases b with
    | case _ _ _ =>
      simp only [expr, Json.part.injEq, Part.choice.injEq] at h
      rw [h.1, h.2.1, h.2.2]
    | _ => cases kindNumber_eq_of_expr h
  | .cast kind operand type format, b, h => by
    cases b with
    | cast _ _ _ _ =>
      simp only [expr, tagged_inj, member_inj, Json.text.injEq, true_and, and_true] at h
      obtain ⟨hkind, hoperand, htype, hformat⟩ := h
      rw [castKind_injective hkind, expr_inj operand _ hoperand, dataType_injective htype,
        ofOption_injective castFormat_injective castFormat_ne_null hformat]
    | _ => cases kindNumber_eq_of_expr h
  | .convert operand type charset, b, h => by
    cases b with
    | convert _ _ _ =>
      simp only [expr, tagged_inj, member_inj, true_and, and_true] at h
      rw [expr_inj operand _ h.1, dataType_injective h.2.1, ofOption_injective identParts_injective nofun h.2.2]
    | transcode _ _ =>
      simp only [expr, tagged_inj, member_inj, true_and, and_true] at h
      exact absurd h.2.1 (dataType_ne_null type)
    | _ => cases kindNumber_eq_of_expr h
  | .transcode operand charset, b, h => by
    cases b with
    | convert _ type _ =>
      simp only [expr, tagged_inj, member_inj, true_and, and_true] at h
      exact absurd h.2.1.symm (dataType_ne_null type)
    | transcode _ _ =>
      simp only [expr, tagged_inj, member_inj, true_and, and_true] at h
      rw [expr_inj operand _ h.1, identParts_injective h.2]
    | _ => cases kindNumber_eq_of_expr h
  | .round down operand unit, b, h => by
    cases b with
    | round _ _ _ =>
      simp only [expr, tagged_inj, member_inj, true_and, and_true] at h
      rw [(kindByFlag_inj (by decide)).mp h.1, expr_inj operand _ h.2.1, rounding_injective h.2.2]
    | _ => cases kindNumber_eq_of_expr h
  | .extract field operand, b, h => by
    cases b with
    | extract _ _ =>
      simp only [expr, tagged_inj, member_inj, true_and, and_true] at h
      rw [timeField_injective h.1, expr_inj operand _ h.2]
    | _ => cases kindNumber_eq_of_expr h
  | .position part whole, b, h => by
    cases b with
    | position _ _ =>
      simp only [expr, tagged_inj, member_inj, true_and, and_true] at h
      rw [expr_inj part _ h.1, expr_inj whole _ h.2]
    | _ => cases kindNumber_eq_of_expr h
  | .substring ⟨commas, short⟩ operand start length, b, h => by
    cases b with
    | substring style _ _ _ =>
      cases style
      simp only [expr, tagged_inj, member_inj, Json.boolean.injEq, true_and, and_true] at h
      obtain ⟨hoperand, hstart, hlength, hcommas, hshort⟩ := h
      rw [expr_inj operand _ hoperand, optionalExpr_inj start _ hstart, optionalExpr_inj length _ hlength, hcommas,
        hshort]
    | _ => cases kindNumber_eq_of_expr h
  | .overlay operand part start length, b, h => by
    cases b with
    | overlay _ _ _ _ =>
      simp only [expr, tagged_inj, member_inj, true_and, and_true] at h
      obtain ⟨hoperand, hpart, hstart, hlength⟩ := h
      rw [expr_inj operand _ hoperand, expr_inj part _ hpart, expr_inj start _ hstart,
        optionalExpr_inj length _ hlength]
    | _ => cases kindNumber_eq_of_expr h
  | .trim side what operand, b, h => by
    cases b with
    | trim _ _ _ =>
      simp only [expr, tagged_inj, member_inj, true_and, and_true] at h
      rw [expr_inj operand _ h.1, ofOption_injective trimSide_injective trimSide_ne_null h.2.1,
        optionalExpr_inj what _ h.2.2]
    | _ => cases kindNumber_eq_of_expr h
  | .matchAgainst columns value mode, b, h => by
    cases b with
    | matchAgainst _ _ _ =>
      simp only [expr, tagged_inj, member_inj, true_and, and_true] at h
      rw [ofList_injective identParts_injective h.1, literal_injective h.2.1,
        ofOption_injective searchMode_injective searchMode_ne_null h.2.2]
    | _ => cases kindNumber_eq_of_expr h
  | .interval amount unit, b, h => by
    cases b with
    | interval _ _ =>
      simp only [expr, tagged_inj, Json.object.injEq, List.cons.injEq, Prod.mk.injEq, true_and] at h
      rw [expr_inj amount _ h.1, intervalMembers_injective h.2]
    | _ => cases kindNumber_eq_of_expr h
  | .exists negated rows, b, h => by
    cases b with
    | «exists» _ _ =>
      simp only [expr, tagged_inj, member_inj, query_inj, Json.boolean.injEq, true_and, and_true] at h
      rw [h.1, h.2]
    | _ => cases kindNumber_eq_of_expr h
  | .subquery rows, b, h => by
    cases b with
    | subquery _ => rw [query_inj.mp (tagged_inj.mp h).2]
    | _ => cases kindNumber_eq_of_expr h
termination_by structural a => a

/-- Lists of expressions are told by their trees. -/
theorem exprs_inj : ∀ as bs : List Sql.Expr, exprs as = exprs bs → as = bs
  | [], [], _ => rfl
  | [], _ :: _, h => nomatch h
  | _ :: _, [], h => nomatch h
  | a :: as, b :: bs, h => by
    rw [exprs, exprs, List.cons.injEq] at h
    rw [expr_inj a b h.1, exprs_inj as bs h.2]
termination_by structural as => as

/-- The steps of a path are told by their trees. -/
theorem accesses_inj : ∀ as bs : List Sql.Access, accesses as = accesses bs → as = bs
  | [], [], _ => rfl
  | [], b :: _, h => by cases b <;> cases h
  | a :: _, [], h => by cases a <;> cases h
  | .dot e :: as, b :: bs, h => by
    cases b with
    | dot _ =>
      simp only [accesses, List.cons.injEq, tagged_inj, true_and] at h
      rw [expr_inj e _ h.1, accesses_inj as bs h.2]
    | _ => simp only [accesses, List.cons.injEq, tagged_inj, String.reduceEq, false_and] at h
  | .index e :: as, b :: bs, h => by
    cases b with
    | index _ =>
      simp only [accesses, List.cons.injEq, tagged_inj, member_inj, true_and, and_true] at h
      rw [expr_inj e _ h.1, accesses_inj as bs h.2]
    | _ => simp only [accesses, List.cons.injEq, tagged_inj, String.reduceEq, false_and, and_false] at h
  | .slice lower upper stride :: as, b :: bs, h => by
    cases b with
    | slice _ _ _ =>
      simp only [accesses, List.cons.injEq, tagged_inj, member_inj, true_and, and_true] at h
      obtain ⟨⟨hlower, hupper, hstride⟩, has⟩ := h
      rw [optionalExpr_inj lower _ hlower, optionalExpr_inj upper _ hupper, optionalExpr_inj stride _ hstride,
        accesses_inj as bs has]
    | _ => simp only [accesses, List.cons.injEq, tagged_inj, String.reduceEq, false_and, and_false] at h
termination_by structural as => as

/-- Optional expressions are told by their trees. -/
theorem optionalExpr_inj : ∀ a b : Option Sql.Expr, optionalExpr a = optionalExpr b → a = b
  | none, none, _ => rfl
  | none, some b, h => absurd h.symm (expr_ne_null b)
  | some a, none, h => absurd h (expr_ne_null a)
  | some a, some b, h => by
    rw [optionalExpr, optionalExpr] at h
    rw [expr_inj a b h]
termination_by structural a => a

/-- Calls are told by their trees. -/
theorem call_inj : ∀ a b : Sql.Call, call a = call b → a = b
  | ⟨name, applied, braced, group, nulls, window⟩, ⟨_, _, _, _, _, _⟩, h => by
    simp only [call, tagged_inj, member_inj, Json.boolean.injEq, true_and, and_true] at h
    obtain ⟨hname, hbraced, happlied, hnulls, hwindow, hgroup⟩ := h
    rw [identParts_injective hname, arguments_inj applied _ happlied, hbraced,
      ofList_injective ordering_injective hgroup, ofOption_injective nullTreatment_injective nullTreatment_ne_null hnulls,
      ofOption_injective window_injective nofun hwindow]
termination_by structural a => a

/-- Arguments are told by their trees, with what stands behind them in the parentheses. -/
theorem arguments_inj : ∀ a b : Sql.Arguments, arguments a = arguments b → a = b
  | .absent, b, h => by
    cases b with
    | absent => rfl
    | _ => cases h
  | .given duplicates items clauses, b, h => by
    cases b with
    | given _ _ _ =>
      simp only [arguments, tagged_inj, member_inj, Json.array.injEq, true_and, and_true] at h
      rw [quantifier_injective h.1, argumentItems_inj items _ h.2.1, ofList_injective clause_injective h.2.2]
    | absent => cases h
    | rows _ => exact absurd (tagged_inj.mp h).1 (by decide)
  | .rows rows, b, h => by
    cases b with
    | rows _ => rw [query_inj.mp (tagged_inj.mp h).2]
    | absent => cases h
    | given _ _ _ => exact absurd (tagged_inj.mp h).1 (by decide)
termination_by structural a => a

/-- One argument is told by its tree. -/
theorem argumentValue_inj : ∀ a b : Sql.Argument, argumentValue a = argumentValue b → a = b
  | .value value, b, h => by
    cases b with
    | value _ => rw [expr_inj value _ (tagged_inj.mp h).2]
    | wildcard qualifier =>
      cases qualifier with
      | nil => cases h
      | cons _ _ => exact absurd (tagged_inj.mp h).1 (by decide)
    | named _ _ _ => exact absurd (tagged_inj.mp h).1 (by decide)
  | .wildcard [], b, h => by
    cases b with
    | wildcard qualifier =>
      cases qualifier with
      | nil => rfl
      | cons _ _ => cases h
    | _ => cases h
  | .wildcard (first :: rest), b, h => by
    cases b with
    | wildcard qualifier =>
      cases qualifier with
      | nil => cases h
      | cons _ _ => rw [identParts_injective (tagged_inj.mp h).2]
    | _ => exact absurd (tagged_inj.mp h).1 (by decide)
  | .named name sign value, b, h => by
    cases b with
    | named _ _ other =>
      simp only [argumentValue, tagged_inj, member_inj, true_and, and_true] at h
      rw [ident_injective h.1, argumentValue_inj value other h.2.1, joint_injective h.2.2]
    | wildcard qualifier =>
      cases qualifier with
      | nil => cases h
      | cons _ _ => exact absurd (tagged_inj.mp h).1 (by decide)
    | value _ => exact absurd (tagged_inj.mp h).1 (by decide)
termination_by structural a => a

/-- Lists of arguments are told by their trees. -/
theorem argumentItems_inj : ∀ as bs : List Sql.Argument, argumentItems as = argumentItems bs → as = bs
  | [], [], _ => rfl
  | [], _ :: _, h => nomatch h
  | _ :: _, [], h => nomatch h
  | a :: as, b :: bs, h => by
    obtain ⟨hvalue, hrest⟩ := argumentItems_cons_inj h
    rw [argumentValue_inj a b hvalue, argumentItems_inj as bs hrest]
termination_by structural as => as

end

end InsertPivot.Tree
