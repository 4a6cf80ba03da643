import TablelandProofs.Parsing.WriteQuery

namespace TablelandProofs.Parsing.RunSql

open Tableland Ast Validator WriteQuery

variable {pp : QueryValidator} {parse : String → Except String (List Node)}
  {deparse : List Node → Except GoError String} {query : String}

def selectStar (rel : RangeVar) : Node :=
  .selectStmt [.resTarget "" (some (.other "ColumnRef" [.other "A_Star" []]))] [.rangeVar rel]
    none [] none [] [] none none [] none none none

/-- The read branch never calls checkNoSystemTablesReferencing: SELECT * FROM a relation
whose name begins with the system prefix is a read query. -/
theorem select_system_table_accepted (pp : QueryValidator)
    (deparse : List Node → Except GoError String) (query name : String) :
    validateRunSQL pp (fun _ => .ok [selectStar ⟨"", pp.systemTablePrefix ++ name, 'p'⟩])
        deparse query = .ok (.readQuery, []) ∧
      (selectStar ⟨"", pp.systemTablePrefix ++ name, 'p'⟩).refersToPrefix
        pp.systemTablePrefix = true := by
  refine ⟨rfl, ?_⟩
  simp [Node.refersToPrefix, selectStar, Node.any, anyList, anyOpt, Node.ownRelation]

mutual

theorem checkNoJoinOrSubqueryNode_mapRelname (f : String → String) :
    ∀ n : Node, checkNoJoinOrSubqueryNode (n.mapRelname f) = checkNoJoinOrSubqueryNode n
  | .resTarget _ v => congrArg (wrapErr _) (checkNoJoinOrSubquery_mapRelname f v)
  | .selectStmt _ _ _ _ _ vl .. =>
    congrArg (fun k => (if k = 0 then throw (GoError.typed .joinOrSubquery) else pure () :
      Except GoError Unit)) (length_mapRelnameList f vl)
  | .insertStmt _ _ sel .. => congrArg (wrapErr _) (checkNoJoinOrSubquery_mapRelname f sel)
  | .updateStmt _ _ wc fc .. =>
    congrArg₂ (fun k e => (if k ≠ 0 then throw (GoError.typed .joinOrSubquery)
      else wrapErr "where clause: %w" e : Except GoError Unit))
      (length_mapRelnameList f fc) (checkNoJoinOrSubquery_mapRelname f wc)
  | .deleteStmt _ _ wc .. => congrArg (wrapErr _) (checkNoJoinOrSubquery_mapRelname f wc)
  | .aExpr l r =>
    congrArg₂ (fun a b => do wrapErr "aexpr left: %w" a; wrapErr "aexpr right: %w" b)
      (checkNoJoinOrSubquery_mapRelname f l) (checkNoJoinOrSubquery_mapRelname f r)
  | .boolExpr args => checkNoJoinOrSubqueryList_mapRelname f args _
  | .rangeVar _ | .rangeSubselect _ | .joinExpr .. | .subLink .. | .list _
  | .sqlvalueFunction _ | .string_ _ | .createStmt .. | .columnDef .. | .constraint ..
  | .other .. => rfl

theorem checkNoJoinOrSubquery_mapRelname (f : String → String) :
    ∀ o : Option Node, checkNoJoinOrSubquery (mapRelnameOpt f o) = checkNoJoinOrSubquery o
  | none => rfl
  | some n => checkNoJoinOrSubqueryNode_mapRelname f n

theorem checkNoJoinOrSubqueryList_mapRelname (f : String → String) :
    ∀ (ns : List Node) (fmt : String),
      checkNoJoinOrSubqueryList (mapRelnameList f ns) fmt = checkNoJoinOrSubqueryList ns fmt
  | [], _ => rfl
  | n :: ns, fmt =>
    congrArg₂ (fun a b => do wrapErr fmt a; b) (checkNoJoinOrSubqueryNode_mapRelname f n)
      (checkNoJoinOrSubqueryList_mapRelname f ns fmt)

end

theorem validateReadQuery_mapRelname (f : String → String) (n : Node) :
    validateReadQuery (n.mapRelname f) = validateReadQuery n := by
  cases n with
  | selectStmt =>
    simp only [Node.mapRelname, validateReadQuery, checkNoJoinOrSubquery_mapRelname,
      checkNoJoinOrSubqueryList_mapRelname, checkNoForUpdateOrShare, length_mapRelnameList]
  | _ => rfl

section Rename

variable (f : String → String) (tl fc : List Node) (wc : Option Node) (gc : List Node)
  (hc : Option Node) (vl sc : List Node) (lo lc : Option Node) (lk : List Node)
  (w la ra : Option Node) (rest : List Node)

/-- The read branch of ValidateRunSQL reads no relation name: renaming every RangeVar of
a parse result whose first statement is a SELECT leaves the verdict as it is. -/
theorem validateRunSQL_read_mapRelname (pp : QueryValidator)
    (deparse : List Node → Except GoError String) (query : String) :
    validateRunSQL pp
        (fun _ => .ok (mapRelnameList f
          (.selectStmt tl fc wc gc hc vl sc lo lc lk w la ra :: rest)))
        deparse query =
      validateRunSQL pp (fun _ => .ok (.selectStmt tl fc wc gc hc vl sc lo lc lk w la ra :: rest))
        deparse query := by
  have h := validateReadQuery_mapRelname f (.selectStmt tl fc wc gc hc vl sc lo lc lk w la ra)
  simp only [Node.mapRelname] at h
  simp only [validateRunSQL, mapRelnameList, Node.mapRelname, length_mapRelnameList, h]

end Rename

def deleteFrom (rel : RangeVar) : Node := .deleteStmt rel [] none [] none

def otherFoo : RangeVar := ⟨"other", "foo", 'p'⟩

theorem deleteFrom_valid {rel : RangeVar} (h : hasPrefix rel.relname pp.systemTablePrefix = false) :
    validateWriteQuery pp (deleteFrom rel) = .ok rel.relname :=
  validateWriteQuery_eq_ok.2 ⟨rfl, rfl, rfl, checked_of_not_prefix h rfl, rfl, rfl⟩

theorem validateRunSQL_of_write {stmt : Node} {stmts : List Node} {t : String}
    (hp : parse query = .ok (stmt :: stmts)) (hv : validateWriteQuery pp stmt = .ok t) :
    validateRunSQL pp parse deparse query =
      (validateWriteStmts pp deparse "" (stmt :: stmts)).map (.writeQuery, ·) := by
  simp only [validateRunSQL, hp]
  split
  · simp [validateWriteQuery_eq_ok, checkTopLevelUpdateInsertDelete] at hv
  · cases validateWriteStmts pp deparse "" (stmt :: stmts) <;> rfl

theorem validateWriteStmts_cons {t r : String} {stmt : Node} {stmts : List Node}
    (ht : t ≠ "") (hv : validateWriteQuery pp stmt = .ok r) :
    validateWriteStmts pp deparse t (stmt :: stmts) =
      if t ≠ r then .error (.typed (.multiTableReference t r))
      else (do
        let wq ← formatErr "deparsing statement: %s" (deparse [stmt])
        let rest ← validateWriteStmts pp deparse t stmts
        pure (⟨wq, t⟩ :: rest)) := by
  simp only [validateWriteStmts, hv, wrapErr_ok_apply, ok_bind, ht, if_false]
  split_ifs <;> rfl

theorem validateWriteStmts_first {t : String} {stmt : Node} {stmts : List Node}
    (hv : validateWriteQuery pp stmt = .ok t) :
    validateWriteStmts pp deparse "" (stmt :: stmts) = (do
      let wq ← formatErr "deparsing statement: %s" (deparse [stmt])
      let rest ← validateWriteStmts pp deparse t stmts
      pure (⟨wq, t⟩ :: rest)) := by
  simp only [validateWriteStmts, hv, wrapErr_ok_apply, ok_bind, if_true]
  rfl

theorem emit_ok {stmt : Node} {t : String} {x : Except GoError (List WriteStmt)}
    {ws : List WriteStmt}
    (h : (do
      let wq ← formatErr "deparsing statement: %s" (deparse [stmt])
      let rest ← x
      pure ((⟨wq, t⟩ : WriteStmt) :: rest)) = .ok ws) :
    ∃ wq rest, deparse [stmt] = .ok wq ∧ x = .ok rest ∧ ws = ⟨wq, t⟩ :: rest := by
  obtain ⟨wq, hw, h⟩ := bind_eq_ok.1 h
  obtain ⟨rest, hrest, h⟩ := bind_eq_ok.1 h
  exact ⟨wq, rest, (formatErr_ok _ _ _).1 hw, hrest, (Except.ok.inj h).symm⟩

theorem validateWriteStmts_cons_ok {t : String} {stmt : Node} {stmts : List Node}
    {ws : List WriteStmt} (ht : t ≠ "")
    (h : validateWriteStmts pp deparse t (stmt :: stmts) = .ok ws) :
    ∃ wq rest, validateWriteQuery pp stmt = .ok t ∧ deparse [stmt] = .ok wq ∧
      validateWriteStmts pp deparse t stmts = .ok rest ∧ ws = ⟨wq, t⟩ :: rest := by
  obtain ⟨r, hr, -⟩ := bind_eq_ok.1 h
  rw [wrapErr_ok] at hr
  rw [validateWriteStmts_cons ht hr] at h
  rcases eq_or_ne t r with rfl | hne
  · rw [if_neg (not_not.2 rfl)] at h
    obtain ⟨wq, rest, hw, hrest, rfl⟩ := emit_ok h
    exact ⟨wq, rest, hr, hw, hrest, rfl⟩
  · rw [if_pos hne] at h
    cases h

theorem validateWriteStmts_first_ok {stmt : Node} {stmts : List Node} {ws : List WriteStmt}
    (h : validateWriteStmts pp deparse "" (stmt :: stmts) = .ok ws) :
    ∃ t wq rest, validateWriteQuery pp stmt = .ok t ∧ deparse [stmt] = .ok wq ∧
      validateWriteStmts pp deparse t stmts = .ok rest ∧ ws = ⟨wq, t⟩ :: rest := by
  obtain ⟨t, ht, -⟩ := bind_eq_ok.1 h
  rw [wrapErr_ok] at ht
  rw [validateWriteStmts_first ht] at h
  obtain ⟨wq, rest, hw, hrest, rfl⟩ := emit_ok h
  exact ⟨t, wq, rest, ht, hw, hrest, rfl⟩

/-- Once the target table `t` is set, a list the write loop returns holds the statements
in order, each passing validateWriteQuery with `t`, deparsed, and carrying `t`. -/
theorem validateWriteStmts_ok {t : String} (ht : t ≠ "") :
    ∀ {stmts : List Node} {ws : List WriteStmt},
      validateWriteStmts pp deparse t stmts = .ok ws →
        List.Forall₂ (fun n w => validateWriteQuery pp n = .ok t ∧ deparse [n] = .ok w.rawQuery ∧
          w.tableName = t) stmts ws
  | [], _, h => by cases h; exact .nil
  | _ :: _, _, h => by
    obtain ⟨wq, rest, hv, hw, hrest, rfl⟩ := validateWriteStmts_cons_ok ht h
    exact .cons ⟨hv, hw, rfl⟩ (validateWriteStmts_ok ht hrest)

theorem validateRunSQL_writeQuery {ws : List WriteStmt}
    (h : validateRunSQL pp parse deparse query = .ok (.writeQuery, ws)) :
    ∃ stmts, parse query = .ok stmts ∧ validateWriteStmts pp deparse "" stmts = .ok ws := by
  unfold validateRunSQL at h
  split at h
  · cases h
  · cases h
  · rename_i stmt stmts hp
    split at h
    · dsimp only at h
      split_ifs at h
      · cases h
      · obtain ⟨_, -, h⟩ := bind_eq_ok.1 h
        obtain ⟨_, -, h⟩ := bind_eq_ok.1 h
        cases h
    · obtain ⟨ws', h', h⟩ := bind_eq_ok.1 h
      cases h
      exact ⟨_, hp, h'⟩

/-- An accepted write query: when the first statement's relname is not empty (pg_query
gives no zero-length identifier), every statement passes validateWriteQuery with that
one table, and the list holds the deparsed statements in input order, each carrying it. -/
theorem validateRunSQL_write_batch {stmt : Node} {stmts : List Node} {ws : List WriteStmt}
    (hp : parse query = .ok (stmt :: stmts)) (h₀ : getReferencedTable stmt ≠ .ok "")
    (h : validateRunSQL pp parse deparse query = .ok (.writeQuery, ws)) :
    ∃ t, t ≠ "" ∧ List.Forall₂ (fun n w => validateWriteQuery pp n = .ok t ∧
      deparse [n] = .ok w.rawQuery ∧ w.tableName = t) (stmt :: stmts) ws := by
  obtain ⟨_, hp', h⟩ := validateRunSQL_writeQuery h
  rw [hp] at hp'
  cases hp'
  obtain ⟨t, wq, rest, ht, hw, hrest, rfl⟩ := validateWriteStmts_first_ok h
  have hne : t ≠ "" := fun e => h₀ (e ▸ (validateWriteQuery_eq_ok.1 ht).2.2.2.2.2)
  exact ⟨t, hne, .cons ⟨ht, hw, rfl⟩ (validateWriteStmts_ok hne hrest)⟩

theorem validateWriteStmts_mismatch {t t' : String} {n : Node} {post : List Node}
    (ht : t ≠ "") (hj : validateWriteQuery pp n = .ok t') (hne : t' ≠ t) :
    ∀ {pre : List Node}, (∀ m ∈ pre, validateWriteQuery pp m = .ok t ∧ ∃ w, deparse [m] = .ok w) →
      validateWriteStmts pp deparse t (pre ++ n :: post) =
        .error (.typed (.multiTableReference t t'))
  | [], _ => by rw [List.nil_append, validateWriteStmts_cons ht hj, if_pos hne.symm]
  | m :: pre, hpre => by
    obtain ⟨hm, w, hw⟩ := hpre m (List.mem_cons_self _ _)
    rw [List.cons_append, validateWriteStmts_cons ht hm, if_neg (not_not.2 rfl), hw,
      formatErr_ok_apply, ok_bind,
      validateWriteStmts_mismatch ht hj hne fun m hm => hpre m (List.mem_cons_of_mem _ hm)]
    rfl

/-- Rejection at the first disagreement: when statements 0 to j - 1 pass validateWriteQuery
with table `t` (not empty) and are deparsed, and statement j passes it with another table
`t'`, ValidateRunSQL returns MultiTableReference{Ref1: t, Ref2: t'}. -/
theorem validateRunSQL_first_mismatch {stmt n : Node} {pre post : List Node} {t t' : String}
    (hp : parse query = .ok (stmt :: pre ++ n :: post)) (ht : t ≠ "")
    (hpre : ∀ m ∈ stmt :: pre, validateWriteQuery pp m = .ok t ∧ ∃ w, deparse [m] = .ok w)
    (hj : validateWriteQuery pp n = .ok t') (hne : t' ≠ t) :
    validateRunSQL pp parse deparse query = .error (.typed (.multiTableReference t t')) := by
  obtain ⟨h₀, w, hw⟩ := hpre stmt (List.mem_cons_self _ _)
  rw [validateRunSQL_of_write hp h₀, validateWriteStmts_first h₀, hw, formatErr_ok_apply,
    ok_bind, List.append_eq,
    validateWriteStmts_mismatch ht hj hne fun m hm => hpre m (List.mem_cons_of_mem _ hm)]
  rfl

def updateFooSetA : Node :=
  .updateStmt foo [.resTarget "a" (some (.other "A_Const" []))] none [] [] none

def insertBarValues : Node :=
  .insertStmt ⟨"", "bar", 'p'⟩ []
    (some (.selectStmt [] [] none [] none [.list [.other "A_Const" []]] [] none none [] none
      none none)) none [] none

theorem update_foo_insert_bar_rejected :
    ("foo" ≠ "" ∧
      (∀ m ∈ [updateFooSetA], validateWriteQuery ⟨"system_", []⟩ m = .ok "foo" ∧
        ∃ w, (fun _ => .ok "" : List Node → Except GoError String) [m] = .ok w) ∧
      validateWriteQuery ⟨"system_", []⟩ insertBarValues = .ok "bar" ∧ "bar" ≠ "foo") ∧
    validateRunSQL ⟨"system_", []⟩ (fun _ => .ok [updateFooSetA, insertBarValues])
      (fun _ => .ok "") "UPDATE foo SET a=1; INSERT INTO bar VALUES (1);" =
        .error (.typed (.multiTableReference "foo" "bar")) :=
  ⟨⟨by decide, by simp only [List.mem_singleton, forall_eq]; exact ⟨rfl, _, rfl⟩, rfl, by decide⟩,
    @validateRunSQL_first_mismatch ⟨"system_", []⟩ (fun _ => .ok [updateFooSetA, insertBarValues])
      (fun _ => .ok "") "UPDATE foo SET a=1; INSERT INTO bar VALUES (1);" updateFooSetA
      insertBarValues [] [] "foo" "bar" rfl (by decide)
      (by simp only [List.mem_singleton, forall_eq]; exact ⟨rfl, _, rfl⟩) rfl (by decide)⟩

theorem foo_other_foo_batch_table :
    (getReferencedTable (deleteFrom foo) ≠ .ok "" ∧
      validateRunSQL ⟨"system_", []⟩ (fun _ => .ok [deleteFrom foo, deleteFrom otherFoo])
        (fun _ => .ok "") "DELETE FROM foo; DELETE FROM other.foo" =
          .ok (.writeQuery, [⟨"", "foo"⟩, ⟨"", "foo"⟩])) ∧
    ∃ t, t ≠ "" ∧ List.Forall₂ (fun (n : Node) (w : WriteStmt) =>
      validateWriteQuery ⟨"system_", []⟩ n = .ok t ∧
        (fun _ => .ok "" : List Node → Except GoError String) [n] = .ok w.rawQuery ∧
        w.tableName = t) [deleteFrom foo, deleteFrom otherFoo] [⟨"", "foo"⟩, ⟨"", "foo"⟩] :=
  ⟨⟨by decide, rfl⟩, @validateRunSQL_write_batch ⟨"system_", []⟩
    (fun _ => .ok [deleteFrom foo, deleteFrom otherFoo]) (fun _ => .ok "")
    "DELETE FROM foo; DELETE FROM other.foo" _ _ _ rfl (by decide) rfl⟩

/-- The write loop compares relnames only: DELETEs of two relations with one relname, in
any schemas, form one batch, each statement carrying that relname. -/
theorem same_relname_one_batch (pp : QueryValidator)
    (deparse : List Node → Except GoError String) (query : String) (r₁ r₂ : RangeVar)
    (hn : r₁.relname = r₂.relname) (h : hasPrefix r₁.relname pp.systemTablePrefix = false)
    (w₁ w₂ : String) (h₁ : deparse [deleteFrom r₁] = .ok w₁)
    (h₂ : deparse [deleteFrom r₂] = .ok w₂) :
    validateRunSQL pp (fun _ => .ok [deleteFrom r₁, deleteFrom r₂]) deparse query =
      .ok (.writeQuery, [⟨w₁, r₁.relname⟩, ⟨w₂, r₁.relname⟩]) := by
  have v₁ : validateWriteQuery pp (deleteFrom r₁) = .ok r₁.relname := deleteFrom_valid h
  have v₂ : validateWriteQuery pp (deleteFrom r₂) = .ok r₁.relname := by
    rw [hn] at h ⊢
    exact deleteFrom_valid h
  rw [validateRunSQL_of_write rfl v₁, validateWriteStmts_first v₁]
  simp only [validateWriteStmts, v₂, h₁, h₂, wrapErr_ok_apply, formatErr_ok_apply, ok_bind]
  split_ifs <;> trivial

theorem foo_other_foo_one_batch :
    ("foo" = otherFoo.relname ∧ hasPrefix "foo" "system_" = false ∧
      (fun _ => .ok "" : List Node → Except GoError String) [deleteFrom foo] = .ok "" ∧
      (fun _ => .ok "" : List Node → Except GoError String) [deleteFrom otherFoo] = .ok "") ∧
    validateRunSQL ⟨"system_", []⟩ (fun _ => .ok [deleteFrom foo, deleteFrom otherFoo])
      (fun _ => .ok "") "DELETE FROM foo; DELETE FROM other.foo" =
        .ok (.writeQuery, [⟨"", "foo"⟩, ⟨"", "foo"⟩]) :=
  ⟨⟨rfl, by decide, rfl, rfl⟩, same_relname_one_batch ⟨"system_", []⟩ (fun _ => .ok "")
    "DELETE FROM foo; DELETE FROM other.foo" foo otherFoo rfl (by decide) "" "" rfl rfl⟩

end TablelandProofs.Parsing.RunSql
