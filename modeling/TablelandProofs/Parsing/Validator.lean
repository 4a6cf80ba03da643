import TablelandProofs.Parsing.Ast

namespace TablelandProofs.Parsing.Validator

open Tableland Ast

structure AcceptedType where
  names : List String

/-- QueryValidator enforces the PostgreSQL constraints of Tableland. -/
structure QueryValidator where
  systemTablePrefix : String
  acceptedTypesNames : List String

def new (acceptedTypes : List AcceptedType) (systemTablePrefix : String) : QueryValidator :=
  ⟨systemTablePrefix, acceptedTypes.flatMap (·.names)⟩

def errEmptyNode : GoError := .new "empty node"
def errUnexpectedNodeType : GoError := .new "unexpected node type"

mutual

def checkNoSystemTablesReferencing : Option Node → String → Except GoError Unit
  | none, _ => pure ()
  | some n, pre => checkNoSystemTablesReferencingNode n pre

def checkNoSystemTablesReferencingNode : Node → String → Except GoError Unit
  | .rangeVar rv, pre =>
    if hasPrefix rv.relname pre then throw (.typed .systemTableReferencing) else pure ()
  | .insertStmt rel _ sel .., pre =>
    if hasPrefix rel.relname pre then throw (.typed .systemTableReferencing)
    else checkNoSystemTablesReferencing sel pre
  | .selectStmt _ fc .., pre => checkNoSystemTablesReferencingList fc pre "from clause: %w"
  | .updateStmt rel _ _ fc .., pre =>
    if hasPrefix rel.relname pre then throw (.typed .systemTableReferencing)
    else checkNoSystemTablesReferencingList fc pre "from clause: %w"
  | .deleteStmt rel _ wc .., pre =>
    if hasPrefix rel.relname pre then throw (.typed .systemTableReferencing)
    else wrapErr "where clause: %w" (checkNoSystemTablesReferencing wc pre)
  | .rangeSubselect sq, pre => wrapErr "subquery: %w" (checkNoSystemTablesReferencing sq pre)
  | .joinExpr l r _, pre => do
    wrapErr "join left arg: %w" (checkNoSystemTablesReferencing l pre)
    wrapErr "join right arg: %w" (checkNoSystemTablesReferencing r pre)
  | _, _ => pure ()

def checkNoSystemTablesReferencingList : List Node → String → String → Except GoError Unit
  | [], _, _ => pure ()
  | n :: ns, pre, f => do
    wrapErr f (checkNoSystemTablesReferencingNode n pre)
    checkNoSystemTablesReferencingList ns pre f

end

mutual

def checkNonDeterministicFunctions : Option Node → Except GoError Unit
  | none => pure ()
  | some n => checkNonDeterministicFunctionsNode n

def checkNonDeterministicFunctionsNode : Node → Except GoError Unit
  | .sqlvalueFunction _ => throw (.typed .nonDeterministicFunction)
  | .list items => checkNonDeterministicFunctionsList items "list item: %w"
  | .insertStmt _ _ sel .. => checkNonDeterministicFunctions sel
  | .selectStmt _ fc _ _ _ vl .. => do
    checkNonDeterministicFunctionsList vl "value list: %w"
    checkNonDeterministicFunctionsList fc "from: %w"
  | .updateStmt _ tl wc fc .. => do
    checkNonDeterministicFunctionsList tl "target: %w"
    checkNonDeterministicFunctionsList fc "from clause: %w"
    wrapErr "where clause: %w" (checkNonDeterministicFunctions wc)
  | .deleteStmt _ _ wc .. => wrapErr "where clause: %w" (checkNonDeterministicFunctions wc)
  | .rangeSubselect sq => wrapErr "subquery: %w" (checkNonDeterministicFunctions sq)
  | .joinExpr l r _ => do
    wrapErr "join left tree: %w" (checkNonDeterministicFunctions l)
    wrapErr "join right tree: %w" (checkNonDeterministicFunctions r)
  | .aExpr l r => do
    wrapErr "aexpr left: %w" (checkNonDeterministicFunctions l)
    wrapErr "aexpr right: %w" (checkNonDeterministicFunctions r)
  | .resTarget _ v => wrapErr "target: %w" (checkNonDeterministicFunctions v)
  | _ => pure ()

def checkNonDeterministicFunctionsList : List Node → String → Except GoError Unit
  | [], _ => pure ()
  | n :: ns, f => do
    wrapErr f (checkNonDeterministicFunctionsNode n)
    checkNonDeterministicFunctionsList ns f

end

mutual

def checkNoJoinOrSubquery : Option Node → Except GoError Unit
  | none => pure ()
  | some n => checkNoJoinOrSubqueryNode n

def checkNoJoinOrSubqueryNode : Node → Except GoError Unit
  | .resTarget _ v => wrapErr "column sub-query: %w" (checkNoJoinOrSubquery v)
  | .selectStmt _ _ _ _ _ vl .. =>
    if vl.length = 0 then throw (.typed .joinOrSubquery) else pure ()
  | .rangeSubselect _ => throw (.typed .joinOrSubquery)
  | .joinExpr .. => throw (.typed .joinOrSubquery)
  | .insertStmt _ _ sel .. => wrapErr "insert select expr: %w" (checkNoJoinOrSubquery sel)
  | .updateStmt _ _ wc fc .. =>
    if fc.length ≠ 0 then throw (.typed .joinOrSubquery)
    else wrapErr "where clause: %w" (checkNoJoinOrSubquery wc)
  | .deleteStmt _ _ wc .. => wrapErr "where clause: %w" (checkNoJoinOrSubquery wc)
  | .aExpr l r => do
    wrapErr "aexpr left: %w" (checkNoJoinOrSubquery l)
    wrapErr "aexpr right: %w" (checkNoJoinOrSubquery r)
  | .subLink .. => throw (.typed .joinOrSubquery)
  | .boolExpr args => checkNoJoinOrSubqueryList args "bool expr: %w"
  | _ => pure ()

def checkNoJoinOrSubqueryList : List Node → String → Except GoError Unit
  | [], _ => pure ()
  | n :: ns, f => do
    wrapErr f (checkNoJoinOrSubqueryNode n)
    checkNoJoinOrSubqueryList ns f

end

def checkNoReturningClause : Option Node → Except GoError Unit
  | none => throw errEmptyNode
  | some (.updateStmt _ _ _ _ ret _) | some (.insertStmt _ _ _ _ ret _)
  | some (.deleteStmt _ _ _ ret _) =>
    if ret.length > 0 then throw (.typed .returningClause) else pure ()
  | some _ => throw errUnexpectedNodeType

def checkTopLevelUpdateInsertDelete : Node → Except GoError Unit
  | .updateStmt .. | .insertStmt .. | .deleteStmt .. => pure ()
  | _ => throw (.typed .noTopLevelUpdateInsertDelete)

def getReferencedTable : Node → Except GoError String
  | .insertStmt rel .. | .updateStmt rel .. | .deleteStmt rel .. => pure rel.relname
  | _ => throw (.new "the statement isn't an insert/update/delete")

def validateWriteQuery (pp : QueryValidator) (stmt : Node) : Except GoError String := do
  wrapErr "allowed top level stmt: %w" (checkTopLevelUpdateInsertDelete stmt)
  wrapErr "join or subquery check: %w" (checkNoJoinOrSubquery (some stmt))
  wrapErr "no returning clause check: %w" (checkNoReturningClause (some stmt))
  wrapErr "no system-table reference: %w"
    (checkNoSystemTablesReferencing (some stmt) pp.systemTablePrefix)
  wrapErr "no non-deterministic func check: %w" (checkNonDeterministicFunctions (some stmt))
  wrapErr "get referenced table: %w" (getReferencedTable stmt)

/-- The nil check of checkNoForUpdateOrShare is on the SelectStmt itself. -/
def checkNoForUpdateOrShare : Node → Except GoError Unit
  | .selectStmt _ _ _ _ _ _ _ _ _ lk .. =>
    if lk.length > 0 then throw (.typed .noForUpdateOrShare) else pure ()
  | _ => throw errEmptyNode

def nilDereference : GoError := .runtimePanic "invalid memory address or nil pointer dereference"

/-- validateReadQuery reads the fields of node.GetSelectStmt(), nil unless `node` is a
SELECT. -/
def validateReadQuery (node : Node) : Except GoError Unit :=
  match node with
  | .selectStmt tl fc wc .. => do
    wrapErr "join or subquery in where: %w" (checkNoJoinOrSubquery wc)
    checkNoJoinOrSubqueryList tl "join or subquery in cols: %w"
    checkNoJoinOrSubqueryList fc "join or subquery in from: %w"
    wrapErr "no for check: %w" (checkNoForUpdateOrShare node)
  | _ => throw nilDereference

inductive QueryType where
  | undefinedQuery | readQuery | writeQuery
  deriving DecidableEq, Repr

structure WriteStmt where
  rawQuery : String
  tableName : String
  deriving DecidableEq, Repr

/-- The loop of ValidateRunSQL over the statements of a write query, with the table
of the first statement in `targetTable`. -/
def validateWriteStmts (pp : QueryValidator) (deparse : List Node → Except GoError String) :
    String → List Node → Except GoError (List WriteStmt)
  | _, [] => pure []
  | targetTable, stmt :: stmts => do
    let refTable ← wrapErr "validating write-query: %w" (validateWriteQuery pp stmt)
    let targetTable ←
      if targetTable = "" then pure refTable
      else if targetTable ≠ refTable then
        throw (.typed (.multiTableReference targetTable refTable))
      else pure targetTable
    let wq ← formatErr "deparsing statement: %s" (deparse [stmt])
    let rest ← validateWriteStmts pp deparse targetTable stmts
    pure (⟨wq, targetTable⟩ :: rest)

/-- ValidateRunSQL, with pg_query's Parse and Deparse as parameters. -/
def validateRunSQL (pp : QueryValidator) (parse : String → Except String (List Node))
    (deparse : List Node → Except GoError String) (query : String) :
    Except GoError (QueryType × List WriteStmt) :=
  match parse query with
  | .error e => throw (.typed (.invalidSyntax e))
  | .ok [] => throw (.wrap "empty-statement check: %w" (.typed .emptyStatement))
  | .ok (stmt :: stmts) =>
    match stmt with
    | .selectStmt .. => do
      if stmts.length + 1 ≠ 1 then
        throw (.wrap "single-statement check: %w" (.typed .noSingleStatement))
      wrapErr "validating read-query: %w" (validateReadQuery stmt)
      pure (.readQuery, [])
    | _ => do
      let ws ← validateWriteStmts pp deparse "" (stmt :: stmts)
      pure (.writeQuery, ws)

end TablelandProofs.Parsing.Validator
