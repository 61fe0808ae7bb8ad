import InsertPivot.Sql.Expr

/-!
# Comparing expressions

Two expressions are the same when they are equal but for the places where they were read: the same nodes
in the same order, names with the same quotes, literals of the same kind with the same text. `same` decides
this node by node, and any two nodes of different kinds differ.
-/

namespace InsertPivot.Sql

/-! ## Names and types -/

/-- Whether two names agree in body and quote. -/
def Ident.same (a b : Ident) : Bool :=
  a.value = b.value && a.quote = b.quote

/-- Whether two optional names agree. -/
def Ident.sameOption : Option Ident → Option Ident → Bool
  | none, none => true
  | some a, some b => a.same b
  | _, _ => false

/-- Whether two lists of names agree. -/
def Ident.sameAll : List Ident → List Ident → Bool
  | [], [] => true
  | a :: as, b :: bs => a.same b && sameAll as bs
  | _, _ => false

/-- Whether two optional dotted names agree. -/
def Ident.sameName : Option (List Ident) → Option (List Ident) → Bool
  | none, none => true
  | some a, some b => sameAll a b
  | _, _ => false

/-- Whether two lists of dotted names agree. -/
def Ident.sameNames : List (List Ident) → List (List Ident) → Bool
  | [], [] => true
  | a :: as, b :: bs => sameAll a b && sameNames as bs
  | _, _ => false

/-- Whether two types agree. -/
def DataType.same : DataType → DataType → Bool
  | standard n s x, standard n' s' x' => n = n' && s = s' && x = x'
  | enumeration b m, enumeration b' m' => b = b' && m = m'
  | set m, set m' => m = m'
  | array e, array e' => e.same e'
  | table c, table c' => c = c'
  | custom n m, custom n' m' => Ident.sameAll n n' && m = m'
  | _, _ => false

/-- Whether two optional types agree. -/
def DataType.sameOption : Option DataType → Option DataType → Bool
  | none, none => true
  | some a, some b => a.same b
  | _, _ => false

/-- Whether the columns of two labelled tables agree. -/
def ColumnLabel.sameAll : List ColumnLabel → List ColumnLabel → Bool
  | [], [] => true
  | a :: as, b :: bs => a.name.same b.name && DataType.sameOption a.type b.type && sameAll as bs
  | _, _ => false

/-- Whether two tables are called the same. -/
def TableLabel.sameOption : Option TableLabel → Option TableLabel → Bool
  | none, none => true
  | some a, some b => a.explicit = b.explicit && a.name.same b.name && ColumnLabel.sameAll a.columns b.columns
  | _, _ => false

/-- Whether two lists of locks agree. -/
def Lock.sameAll : List Lock → List Lock → Bool
  | [], [] => true
  | a :: as, b :: bs => a.share = b.share && Ident.sameName a.table b.table && a.wait = b.wait && sameAll as bs
  | _, _ => false

/-! ## Expressions and queries -/

mutual

/-- Whether two expressions agree but for where they were read. -/
def Expr.same : Expr → Expr → Bool
  | .literal v _, .literal w _ => v = w
  | .column a, .column b => a.same b
  | .qualified a, .qualified b => Ident.sameAll a b
  | .access r p, .access s q => r.same s && samePaths p q
  | .array n a, .array m b => n = m && sameExprs a b
  | .nested a, .nested b => a.same b
  | .tuple a, .tuple b => sameExprs a b
  | .unary o a, .unary p b => o = p && a.same b
  | .binary a o c, .binary b p d => a.same b && o = p && c.same d
  | .compared a o r c, .compared b p s d => a.same b && o = p && r = s && c.same d
  | .is a n t, .is b m u => a.same b && n = m && t = u
  | .isDistinct a n c, .isDistinct b m d => a.same b && n = m && c.same d
  | .isNormalized a n f, .isNormalized b m g => a.same b && n = m && f = g
  | .inList a n c, .inList b m d => a.same b && n = m && sameExprs c d
  | .inQuery a n c, .inQuery b m d => a.same b && n = m && c.same d
  | .inUnnest a n c, .inUnnest b m d => a.same b && n = m && c.same d
  | .between a n c e, .between b m d f => a.same b && n = m && c.same d && e.same f
  | .like k a n y c e, .like l b m z d f =>
    k = l && a.same b && n = m && y = z && c.same d && e = f
  | .regexp a n r c, .regexp b m s d => a.same b && n = m && r = s && c.same d
  | .memberOf a c, .memberOf b d => a.same b && c.same d
  | .atTimeZone a c, .atTimeZone b d => a.same b && c.same d
  | .collate a c, .collate b d => a.same b && Ident.sameAll c d
  | .typed k t v _, .typed l u w _ => k = l && t.same u && v = w
  | .introduced c v _, .introduced d w _ => c.same d && v = w
  | .call a, .call b => a.same b
  | .case a c e, .case b d f => sameOption a b && sameBranches c d && sameOption e f
  | .cast k a t f, .cast l b u g => k = l && a.same b && t.same u && f = g
  | .convert a t c, .convert b u d => a.same b && t.same u && Ident.sameName c d
  | .transcode a c, .transcode b d => a.same b && Ident.sameAll c d
  | .round n a c, .round m b d => n = m && a.same b && c = d
  | .extract u a, .extract v b => u = v && a.same b
  | .position a c, .position b d => a.same b && c.same d
  | .substring s a c e, .substring t b d f => s = t && a.same b && sameOption c d && sameOption e f
  | .overlay a c e g, .overlay b d f h => a.same b && c.same d && e.same f && sameOption g h
  | .trim s a c, .trim t b d => s = t && sameOption a b && c.same d
  | .matchAgainst a v m, .matchAgainst b w n => Ident.sameNames a b && v = w && m = n
  | .interval a u, .interval b v => a.same b && u = v
  | .exists n a, .exists m b => n = m && a.same b
  | .subquery a, .subquery b => a.same b
  | _, _ => false
termination_by structural x => x

/-- Whether two lists of expressions agree. -/
def sameExprs : List Expr → List Expr → Bool
  | [], [] => true
  | a :: as, b :: bs => a.same b && sameExprs as bs
  | _, _ => false
termination_by structural x => x

/-- Whether two optional expressions agree. -/
def sameOption : Option Expr → Option Expr → Bool
  | none, none => true
  | some a, some b => a.same b
  | _, _ => false
termination_by structural x => x

/-- Whether two parts of values agree. -/
def Access.same : Access → Access → Bool
  | .dot a, .dot b => a.same b
  | .index a, .index b => a.same b
  | .slice a c e, .slice b d f => sameOption a b && sameOption c d && sameOption e f
  | _, _ => false
termination_by structural x => x

/-- Whether the same is taken out of two values. -/
def samePaths : List Access → List Access → Bool
  | [], [] => true
  | a :: as, b :: bs => a.same b && samePaths as bs
  | _, _ => false
termination_by structural x => x

/-- Whether the branches of two `CASE`s agree. -/
def sameBranches : List Branch → List Branch → Bool
  | [], [] => true
  | ⟨a, c⟩ :: as, ⟨b, d⟩ :: bs => a.same b && c.same d && sameBranches as bs
  | _, _ => false
termination_by structural x => x

/-- Whether two functions agree, and what they are applied to. -/
def Call.same : Call → Call → Bool
  | ⟨n, a, k, g, u, w⟩, ⟨m, b, l, h, v, x⟩ =>
    Ident.sameAll n m && a.same b && k = l && sameOrderings g h && u = v && w = x
termination_by structural x => x

/-- Whether two functions are applied to the same. -/
def Arguments.same : Arguments → Arguments → Bool
  | .absent, .absent => true
  | .given q a c, .given r b d => q = r && sameArguments a b && c = d
  | .rows a, .rows b => a.same b
  | _, _ => false
termination_by structural x => x

/-- Whether two arguments agree. -/
def Argument.same : Argument → Argument → Bool
  | .value a, .value b => a.same b
  | .wildcard a, .wildcard b => Ident.sameAll a b
  | .named a j c, .named b k d => a.same b && j = k && c.same d
  | _, _ => false
termination_by structural x => x

/-- Whether two lists of arguments agree. -/
def sameArguments : List Argument → List Argument → Bool
  | [], [] => true
  | a :: as, b :: bs => a.same b && sameArguments as bs
  | _, _ => false
termination_by structural x => x

/-- Whether two optional lists of arguments agree. -/
def sameGiven : Option (List Argument) → Option (List Argument) → Bool
  | none, none => true
  | some a, some b => sameArguments a b
  | _, _ => false
termination_by structural x => x

/-- Whether two queries agree. -/
def Query.same : Query → Query → Bool
  | ⟨r, n, a, o, l, f, k, x⟩, ⟨s, m, b, p, i, g, j, y⟩ =>
    r = s && sameBindings n m && a.same b && sameOrderings o p && sameLimits l i && f = g &&
      Lock.sameAll k j && x = y
termination_by structural x => x

/-- Whether two lists of named queries agree. -/
def sameBindings : List Binding → List Binding → Bool
  | [], [] => true
  | ⟨a, c, q, s⟩ :: as, ⟨b, d, r, t⟩ :: bs =>
    a.same b && ColumnLabel.sameAll c d && q.same r && Ident.sameOption s t && sameBindings as bs
  | _, _ => false
termination_by structural x => x

/-- Whether the bodies of two queries agree. -/
def Body.same : Body → Body → Bool
  | .select a, .select b => a.same b
  | .values s e a, .values t f b => s = t && e = f && sameRows a b
  | .nested a, .nested b => a.same b
  | .combined a o q c, .combined b p r d => a.same b && o = p && q = r && c.same d
  | .table s a, .table t b => s = t && a = b
  | .change a, .change b => a = b
  | _, _ => false
termination_by structural x => x

/-- Whether two `SELECT`s agree. -/
def Select.same : Select → Select → Bool
  | ⟨l, i, n, t, v, c, y, g, s, p, h, w⟩, ⟨l', i', n', t', v', c', y', g', s', p', h', w'⟩ =>
    l = l' && sameItems i i' && n = n' && sameJoined t t' && v = v' && sameOption c c' && y = y' &&
      sameExprs g g' && sameRows s s' && p = p' && sameOption h h' && w = w'
termination_by structural x => x

/-- Whether two lists of rows agree. -/
def sameRows : List (List Expr) → List (List Expr) → Bool
  | [], [] => true
  | a :: as, b :: bs => sameExprs a b && sameRows as bs
  | _, _ => false
termination_by structural x => x

/-- Whether two `SELECT` lists agree. -/
def sameItems : List SelectItem → List SelectItem → Bool
  | [], [] => true
  | .value a l :: as, .value b m :: bs => a.same b && Ident.sameOption l m && sameItems as bs
  | .wildcard a :: as, .wildcard b :: bs => Ident.sameAll a b && sameItems as bs
  | _, _ => false
termination_by structural x => x

/-- Whether two tables agree, and those that are joined to them. -/
def Joined.same : Joined → Joined → Bool
  | ⟨a, j⟩, ⟨b, k⟩ => a.same b && sameJoins j k
termination_by structural x => x

/-- Whether two lists of tables agree. -/
def sameJoined : List Joined → List Joined → Bool
  | [], [] => true
  | a :: as, b :: bs => a.same b && sameJoined as bs
  | _, _ => false
termination_by structural x => x

/-- Whether two lists of joins agree. -/
def sameJoins : List Join → List Join → Bool
  | [], [] => true
  | ⟨g, k, a, n, u, o, c⟩ :: as, ⟨h, l, b, m, v, p, d⟩ :: bs =>
    g = h && k = l && a.same b && sameOption n m && u = v && sameOption o p && Ident.sameNames c d &&
      sameJoins as bs
  | _, _ => false
termination_by structural x => x

/-- Whether two tables agree. -/
def Table.same : Table → Table → Bool
  | .named a p g o l h, .named b q i r m k =>
    Ident.sameAll a b && Ident.sameAll p q && sameGiven g i && o = r && TableLabel.sameOption l m && h = k
  | .derived n a l, .derived m b k => n = m && a.same b && TableLabel.sameOption l k
  | .computed a g l, .computed b i k => Ident.sameAll a b && sameArguments g i && TableLabel.sameOption l k
  | .ofExpr a l, .ofExpr b k => a.same b && TableLabel.sameOption l k
  | .joined a l, .joined b k => a.same b && TableLabel.sameOption l k
  | .special a l, .special b k => a = b && TableLabel.sameOption l k
  | _, _ => false
termination_by structural x => x

/-- Whether two `ORDER BY` lists agree. -/
def sameOrderings : List Ordering → List Ordering → Bool
  | [], [] => true
  | ⟨a, u, n⟩ :: as, ⟨b, v, m⟩ :: bs => a.same b && u = v && n = m && sameOrderings as bs
  | _, _ => false
termination_by structural x => x

/-- Whether two limits agree. -/
def Limit.same : Limit → Limit → Bool
  | .words a c u, .words b d v => sameOption a b && sameOption c d && u = v
  | .comma a c, .comma b d => a.same b && c.same d
  | _, _ => false
termination_by structural x => x

/-- Whether two optional limits agree. -/
def sameLimits : Option Limit → Option Limit → Bool
  | none, none => true
  | some a, some b => a.same b
  | _, _ => false
termination_by structural x => x

end

end InsertPivot.Sql
