import TablelandProofs.Parsing.Validator

namespace TablelandProofs.Parsing.WriteQuery

open Tableland Ast Validator

variable {pp : QueryValidator} {s : Node} {t : String}

/-- validateWriteQuery accepts exactly the statements that pass its six checks in turn. -/
theorem validateWriteQuery_eq_ok :
    validateWriteQuery pp s = .ok t ↔
      checkTopLevelUpdateInsertDelete s = .ok () ∧ checkNoJoinOrSubquery (some s) = .ok () ∧
        checkNoReturningClause (some s) = .ok () ∧
        checkNoSystemTablesReferencing (some s) pp.systemTablePrefix = .ok () ∧
        checkNonDeterministicFunctions (some s) = .ok () ∧ getReferencedTable s = .ok t := by
  simp only [validateWriteQuery, bind_eq_ok, wrapErr_ok]
  exact ⟨fun ⟨_, h₁, _, h₂, _, h₃, _, h₄, _, h₅, h₆⟩ => ⟨h₁, h₂, h₃, h₄, h₅, h₆⟩,
    fun ⟨h₁, h₂, h₃, h₄, h₅, h₆⟩ => ⟨_, h₁, _, h₂, _, h₃, _, h₄, _, h₅, h₆⟩⟩

theorem checked_of_not_prefix {rel : RangeVar} {pre : String} {e : Except GoError Unit}
    (hp : hasPrefix rel.relname pre = false) (he : e = .ok ()) :
    (if hasPrefix rel.relname pre then throw (.typed .systemTableReferencing) else e) = .ok () := by
  simp [hp, he]

def foo : RangeVar := ⟨"", "foo", 'p'⟩

section Unchecked

variable (pp : QueryValidator) (rel : RangeVar)

/-- No check reads the USING list of a DELETE. -/
theorem delete_using_unchecked (h : hasPrefix rel.relname pp.systemTablePrefix = false)
    (usingClause : List Node) :
    validateWriteQuery pp (.deleteStmt rel usingClause none [] none) = .ok rel.relname :=
  validateWriteQuery_eq_ok.2 ⟨rfl, rfl, rfl, checked_of_not_prefix h rfl, rfl, rfl⟩

def deleteUsingSystemAcl : Node := .deleteStmt foo [.rangeVar ⟨"", "system_acl", 'p'⟩] none [] none

theorem delete_using_system_acl_accepted :
    (hasPrefix "foo" "system_" = false ∧
      validateWriteQuery ⟨"system_", []⟩ deleteUsingSystemAcl = .ok "foo") ∧
    deleteUsingSystemAcl.refersToPrefix "system_" = true :=
  ⟨⟨by decide, delete_using_unchecked ⟨"system_", []⟩ foo (by decide) _⟩, by decide⟩

/-- No check looks inside a sub-select that is the value of an UPDATE's SET item. -/
theorem update_set_subquery_unchecked (h : hasPrefix rel.relname pp.systemTablePrefix = false)
    (name : String) (subselect : Option Node) :
    validateWriteQuery pp
      (.updateStmt rel [.resTarget name (some (.subLink none subselect))] none [] [] none) =
        .ok rel.relname :=
  validateWriteQuery_eq_ok.2 ⟨rfl, rfl, rfl, checked_of_not_prefix h rfl, rfl, rfl⟩

def columnRef (c : String) : Node := .other "ColumnRef" [.string_ c]

def selectBFromBar : Node :=
  .selectStmt [.resTarget "" (some (columnRef "b"))] [.rangeVar ⟨"", "bar", 'p'⟩]
    none [] none [] [] none none [] none none none

def updateSetSubquery : Node :=
  .updateStmt foo [.resTarget "a" (some (.subLink none (some selectBFromBar)))] none [] [] none

theorem update_set_subquery_accepted :
    (hasPrefix "foo" "system_" = false ∧
      validateWriteQuery ⟨"system_", []⟩ updateSetSubquery = .ok "foo") ∧
    updateSetSubquery.any Node.isJoinOrSubquery = true :=
  ⟨⟨by decide, update_set_subquery_unchecked ⟨"system_", []⟩ foo (by decide) _ _⟩, by decide⟩

/-- checkNonDeterministicFunctions stops at a BoolExpr: a DELETE whose WHERE is an AND,
OR or NOT of joinless operands is accepted whatever functions they call. -/
theorem delete_where_bool_expr_unchecked (h : hasPrefix rel.relname pp.systemTablePrefix = false)
    (args : List Node) (hargs : checkNoJoinOrSubqueryList args "bool expr: %w" = .ok ()) :
    validateWriteQuery pp (.deleteStmt rel [] (some (.boolExpr args)) [] none) =
      .ok rel.relname :=
  validateWriteQuery_eq_ok.2 ⟨rfl, (wrapErr_ok _ _ _).2 hargs, rfl,
    checked_of_not_prefix h rfl, rfl, rfl⟩

def aAndNow : List Node :=
  [.aExpr (some (columnRef "a")) (some (.other "A_Const" [])),
   .aExpr (some (columnRef "b")) (some (.sqlvalueFunction "SVFOP_CURRENT_TIMESTAMP"))]

def deleteWhereAndNow : Node := .deleteStmt foo [] (some (.boolExpr aAndNow)) [] none

theorem delete_where_and_now_accepted :
    (hasPrefix "foo" "system_" = false ∧
      checkNoJoinOrSubqueryList aAndNow "bool expr: %w" = .ok () ∧
      validateWriteQuery ⟨"system_", []⟩ deleteWhereAndNow = .ok "foo") ∧
    deleteWhereAndNow.any Node.isSqlvalueFunction = true :=
  ⟨⟨by decide, by decide,
    delete_where_bool_expr_unchecked ⟨"system_", []⟩ foo (by decide) _ (by decide)⟩, by decide⟩

end Unchecked

end TablelandProofs.Parsing.WriteQuery
