import TablelandProofs.Tableland

namespace TablelandProofs.Parsing.Ast

/-- The fields of pg_query's RangeVar that the validator reads or the binder writes;
relpersistence is 'p', 'u' or 't'. -/
structure RangeVar where
  schemaname : String
  relname : String
  relpersistence : Char
  deriving DecidableEq, Repr

mutual

/-- A node of the pg_query parse tree. The node kinds that some function of the
validator inspects have their own constructor with the fields of that kind; every
other kind (FuncCall, TypeCast, CaseExpr, ColumnRef, A_Const, WithClause,
OnConflictClause, ...) is `other`, with its kind name and all its child nodes. -/
inductive Node where
  | rangeVar (rv : RangeVar)
  | insertStmt (relation : RangeVar) (cols : List Node) (selectStmt : Option Node)
      (onConflictClause : Option Node) (returningList : List Node) (withClause : Option Node)
  | updateStmt (relation : RangeVar) (targetList : List Node) (whereClause : Option Node)
      (fromClause returningList : List Node) (withClause : Option Node)
  | deleteStmt (relation : RangeVar) (usingClause : List Node) (whereClause : Option Node)
      (returningList : List Node) (withClause : Option Node)
  | selectStmt (targetList fromClause : List Node) (whereClause : Option Node)
      (groupClause : List Node) (havingClause : Option Node) (valuesLists sortClause : List Node)
      (limitOffset limitCount : Option Node) (lockingClause : List Node)
      (withClause larg rarg : Option Node)
  | rangeSubselect (subquery : Option Node)
  | joinExpr (larg rarg quals : Option Node)
  | aExpr (lexpr rexpr : Option Node)
  | boolExpr (args : List Node)
  | subLink (testexpr subselect : Option Node)
  | resTarget (name : String) (val : Option Node)
  | list (items : List Node)
  | sqlvalueFunction (op : String)
  | string_ (str : String)
  | createStmt (relation : RangeVar) (tableElts inhRelations : List Node)
      (partbound : Option Node) (ofTypename : Option TypeName)
  | columnDef (colname : String) (typeName : Option TypeName) (constraints : List Node)
  | constraint (contype : String) (rawExpr : Option Node)
  | other (kind : String) (args : List Node)

/-- pg_query's TypeName: the qualified name parts and the array bounds. -/
inductive TypeName where
  | mk (names arrayBounds : List Node)

end

deriving instance Repr for Node

mutual

def Node.any (p : Node → Bool) : Node → Bool
  | n@(.rangeVar _) | n@(.sqlvalueFunction _) | n@(.string_ _) => p n
  | n@(.insertStmt _ cols sel oc ret w) =>
    p n || anyList p cols || anyOpt p sel || anyOpt p oc || anyList p ret || anyOpt p w
  | n@(.updateStmt _ tl wc fc ret w) =>
    p n || anyList p tl || anyOpt p wc || anyList p fc || anyList p ret || anyOpt p w
  | n@(.deleteStmt _ uc wc ret w) =>
    p n || anyList p uc || anyOpt p wc || anyList p ret || anyOpt p w
  | n@(.selectStmt tl fc wc gc hc vl sc lo lc lk w la ra) =>
    p n || anyList p tl || anyList p fc || anyOpt p wc || anyList p gc || anyOpt p hc ||
      anyList p vl || anyList p sc || anyOpt p lo || anyOpt p lc || anyList p lk ||
      anyOpt p w || anyOpt p la || anyOpt p ra
  | n@(.rangeSubselect sq) => p n || anyOpt p sq
  | n@(.joinExpr l r q) => p n || anyOpt p l || anyOpt p r || anyOpt p q
  | n@(.aExpr l r) => p n || anyOpt p l || anyOpt p r
  | n@(.boolExpr args) => p n || anyList p args
  | n@(.subLink t s) => p n || anyOpt p t || anyOpt p s
  | n@(.resTarget _ v) => p n || anyOpt p v
  | n@(.list items) => p n || anyList p items
  | n@(.createStmt _ te inh pb ot) =>
    p n || anyList p te || anyList p inh || anyOpt p pb || anyTypeOpt p ot
  | n@(.columnDef _ tn cs) => p n || anyTypeOpt p tn || anyList p cs
  | n@(.constraint _ e) => p n || anyOpt p e
  | n@(.other _ args) => p n || anyList p args

def anyList (p : Node → Bool) : List Node → Bool
  | [] => false
  | n :: ns => n.any p || anyList p ns

def anyOpt (p : Node → Bool) : Option Node → Bool
  | none => false
  | some n => n.any p

def anyTypeOpt (p : Node → Bool) : Option TypeName → Bool
  | none => false
  | some (.mk names bounds) => anyList p names || anyList p bounds

end

def RangeVar.rename (f : String → String) (rv : RangeVar) : RangeVar :=
  { rv with relname := f rv.relname }

mutual

/-- Every RangeVar of the tree, the target relations included, renamed by `f`. -/
def Node.mapRelname (f : String → String) : Node → Node
  | .rangeVar rv => .rangeVar (rv.rename f)
  | .insertStmt rel cols sel oc ret w =>
    .insertStmt (rel.rename f) (mapRelnameList f cols) (mapRelnameOpt f sel) (mapRelnameOpt f oc)
      (mapRelnameList f ret) (mapRelnameOpt f w)
  | .updateStmt rel tl wc fc ret w =>
    .updateStmt (rel.rename f) (mapRelnameList f tl) (mapRelnameOpt f wc) (mapRelnameList f fc)
      (mapRelnameList f ret) (mapRelnameOpt f w)
  | .deleteStmt rel uc wc ret w =>
    .deleteStmt (rel.rename f) (mapRelnameList f uc) (mapRelnameOpt f wc) (mapRelnameList f ret)
      (mapRelnameOpt f w)
  | .selectStmt tl fc wc gc hc vl sc lo lc lk w la ra =>
    .selectStmt (mapRelnameList f tl) (mapRelnameList f fc) (mapRelnameOpt f wc)
      (mapRelnameList f gc) (mapRelnameOpt f hc) (mapRelnameList f vl) (mapRelnameList f sc)
      (mapRelnameOpt f lo) (mapRelnameOpt f lc) (mapRelnameList f lk) (mapRelnameOpt f w)
      (mapRelnameOpt f la) (mapRelnameOpt f ra)
  | .rangeSubselect sq => .rangeSubselect (mapRelnameOpt f sq)
  | .joinExpr l r q => .joinExpr (mapRelnameOpt f l) (mapRelnameOpt f r) (mapRelnameOpt f q)
  | .aExpr l r => .aExpr (mapRelnameOpt f l) (mapRelnameOpt f r)
  | .boolExpr args => .boolExpr (mapRelnameList f args)
  | .subLink t sub => .subLink (mapRelnameOpt f t) (mapRelnameOpt f sub)
  | .resTarget name v => .resTarget name (mapRelnameOpt f v)
  | .list items => .list (mapRelnameList f items)
  | .sqlvalueFunction op => .sqlvalueFunction op
  | .string_ str => .string_ str
  | .createStmt rel te inh pb ot =>
    .createStmt (rel.rename f) (mapRelnameList f te) (mapRelnameList f inh) (mapRelnameOpt f pb)
      (mapRelnameType f ot)
  | .columnDef c tn cs => .columnDef c (mapRelnameType f tn) (mapRelnameList f cs)
  | .constraint c e => .constraint c (mapRelnameOpt f e)
  | .other kind args => .other kind (mapRelnameList f args)

def mapRelnameList (f : String → String) : List Node → List Node
  | [] => []
  | n :: ns => n.mapRelname f :: mapRelnameList f ns

def mapRelnameOpt (f : String → String) : Option Node → Option Node
  | none => none
  | some n => some (n.mapRelname f)

def mapRelnameType (f : String → String) : Option TypeName → Option TypeName
  | none => none
  | some (.mk names bounds) => some (.mk (mapRelnameList f names) (mapRelnameList f bounds))

end

@[simp] theorem length_mapRelnameList (f : String → String) (ns : List Node) :
    (mapRelnameList f ns).length = ns.length := by
  induction ns with
  | nil => rfl
  | cons n ns ih => simp [mapRelnameList, ih]

/-- The RangeVar a node holds itself: a RangeVar node, or the target relation of an
INSERT, UPDATE, DELETE or CREATE. -/
def Node.ownRelation : Node → Option RangeVar
  | .rangeVar rv | .insertStmt rv .. | .updateStmt rv .. | .deleteStmt rv ..
  | .createStmt rv .. => some rv
  | _ => none

def Node.refersToPrefix (pre : String) (n : Node) : Bool :=
  n.any fun m => m.ownRelation.any fun rv => Tableland.hasPrefix rv.relname pre

def Node.isJoinOrSubquery : Node → Bool
  | .joinExpr .. | .rangeSubselect _ | .subLink .. => true
  | _ => false

def Node.isRangeVar : Node → Bool
  | .rangeVar _ => true
  | _ => false

def Node.isSqlvalueFunction : Node → Bool
  | .sqlvalueFunction _ => true
  | _ => false

def Node.isCreateStmt : Node → Bool
  | .createStmt .. => true
  | _ => false

def Node.createRelation : Node → Option RangeVar
  | .createStmt rel .. => some rel
  | _ => none

def Node.createRelname : Node → String
  | .createStmt rel .. => rel.relname
  | _ => ""

/-- The write GetCreateStmt().Relation.Relname = name. -/
def Node.setRelname (name : String) : Node → Node
  | .createStmt rel elts inh pb ot => .createStmt { rel with relname := name } elts inh pb ot
  | n => n

@[simp] theorem Node.setRelname_setRelname (n : Node) (a b : String) :
    (n.setRelname a).setRelname b = n.setRelname b := by
  cases n <;> rfl

end TablelandProofs.Parsing.Ast
