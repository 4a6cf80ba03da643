import TablelandProofs.Txn.Db
import TablelandProofs.Parsing.Create

namespace TablelandProofs.Txn.Processor

open Tableland Parsing.Ast Parsing.Create Db

/-- The ACL collaborator. IsOwner is asked outside the batch's transaction,
CheckPrivileges inside it. -/
structure Acl where
  isOwner : Address → TableID → Except GoError Bool
  checkPrivileges : Store → Address → TableID → Operation → Except GoError Unit

/-- The fields of TblTxnProcessor that a batch reads. -/
structure TblTxnProcessor where
  maxTableRowCount : Nat
  acl : Acl

structure SugaredGrantStmt where
  tableID : TableID
  namePrefix : String
  operation : Operation
  roles : List Address
  privileges : List String

structure SugaredWriteStmt where
  tableID : TableID
  namePrefix : String
  operation : Operation
  desugaredQuery : Except GoError String

/-- A parsing.SugaredMutatingStmt, by the cases of the type switch of ExecWriteQueries. -/
inductive SugaredMutatingStmt where
  | grant (gs : SugaredGrantStmt)
  | write (ws : SugaredWriteStmt)
  | other (tableID : TableID) (namePrefix : String)

def SugaredMutatingStmt.getTableID : SugaredMutatingStmt → TableID
  | .grant gs => gs.tableID
  | .write ws => ws.tableID
  | .other id _ => id

def SugaredMutatingStmt.getNamePrefix : SugaredMutatingStmt → String
  | .grant gs => gs.namePrefix
  | .write ws => ws.namePrefix
  | .other _ p => p

def countedRelname (tableIDString : TableID → String) (id : TableID) : String :=
  "_" ++ tableIDString id

/-- SELECT (SELECT name FROM registry where id=$1), (SELECT count(*) FROM _id): a missing
relation fails the query, a missing registry row fails the scan of a NULL name. -/
def getTableNameAndRowCountByTableID (tableIDString : TableID → String) (s : Store)
    (id : TableID) : Except GoError (String × Nat) :=
  match s.registryName id, s.rowCount (countedRelname tableIDString id) with
  | some name, some count => pure (name, count)
  | _, none => throw (.format "table name lookup: %s" (.new "ERROR: relation does not exist"))
  | none, some _ => throw (.format "table name lookup: %s" (.new "cannot scan NULL into string"))

section Batch

variable (tp : TblTxnProcessor) (execRaw : Store → String → Except GoError (Store × CommandTag))

def exec (q : String) : Tx CommandTag := fun s =>
  match execRaw s q with
  | .ok (s', tag) => (.ok tag, s')
  | .error e => (.error e, s)

/-- The loop of executeGrantStmt over the roles of the statement. The upsert and the
array_remove it runs on system_acl are taken to succeed: the errors of their tx.Exec calls
are not modelled. -/
def grantRoles (tableID : TableID) (operation : Operation) (privileges : List String) :
    List Address → Tx Unit
  | [] => pure ()
  | role :: roles => do
    match operation with
    | .opGrant => Tx.update fun s => pure (s.upsertAcl tableID role.hex privileges)
    | .opRevoke => Tx.update fun s => pure (privileges.foldl (·.removeAcl tableID role.hex) s)
    | op => Tx.throw (.new ("unknown grant stmt operation=" ++ op.toString))
    grantRoles tableID operation privileges roles

def executeGrantStmt (gs : SugaredGrantStmt) (controller : Address) : Tx Unit := do
  let isOwner ← Tx.lift (formatErr "error checking acl: %s" (tp.acl.isOwner controller gs.tableID))
  if !isOwner then Tx.throw (.new "non owner cannot execute grant stmt")
  grantRoles gs.tableID gs.operation gs.privileges gs.roles

def executeWriteStmt (ws : SugaredWriteStmt) (controller : Address) (beforeRowCount : Nat) :
    Tx Unit := do
  let s ← Tx.get
  Tx.lift (formatErr "error checking acl: %s"
    (tp.acl.checkPrivileges s controller ws.tableID ws.operation))
  let desugared ← Tx.lift (formatErr "get desugared query: %s" ws.desugaredQuery)
  let cmdTag ← Tx.mapError (GoError.formatf "exec query: %s") (exec execRaw desugared)
  if tp.maxTableRowCount > 0 && cmdTag.insert then
    let afterRowCount := beforeRowCount + cmdTag.rowsAffected
    if afterRowCount > tp.maxTableRowCount then
      Tx.throw (.typed (.rowCountExceeded beforeRowCount afterRowCount))

def isRowCountExceeded : GoError → Bool
  | .typed (.rowCountExceeded ..) => true
  | _ => false

theorem isRowCountExceeded_iff {e : GoError} :
    isRowCountExceeded e ↔ ∃ b a, e = .typed (.rowCountExceeded b a) := by
  constructor
  · intro h
    match e, h with
    | .typed (.rowCountExceeded b a), _ => exact ⟨b, a, rfl⟩
  · rintro ⟨b, a, rfl⟩
    rfl

/-- The loop of ExecWriteQueries, with the name and the row count read before it. -/
def execWriteLoop (controller : Address) (dbName : String) (beforeRowCount : Nat) :
    List SugaredMutatingStmt → Tx Unit
  | [] => pure ()
  | mq :: mqs => do
    let mqName := mq.getNamePrefix
    if mqName != "" && dbName != mqName then
      Tx.throw
        (.new ("table name prefix doesn't match (exp " ++ dbName ++ ", got " ++ mqName ++ ")"))
    match mq with
    | .grant gs =>
      Tx.mapError (GoError.formatf "executing grant stmt: %s") (executeGrantStmt tp gs controller)
    | .write ws =>
      Tx.mapError
        (fun e => if isRowCountExceeded e then e else .formatf "executing write stmt: %s" e)
        (executeWriteStmt tp execRaw ws controller beforeRowCount)
    | .other .. => Tx.throw (.new "unknown stmt type")
    execWriteLoop controller dbName beforeRowCount mqs

def execWriteQueries (tableIDString : TableID → String) (controller : Address)
    (mqueries : List SugaredMutatingStmt) : Tx Unit :=
  Tx.mapError (GoError.wrapf "running nested txn: %w") <| beginFunc <|
    match mqueries with
    | [] => pure ()
    | mq :: _ => do
      let s ← Tx.get
      let (dbName, beforeRowCount) ← Tx.lift (formatErr "table name lookup for table id: %s"
        (getTableNameAndRowCountByTableID tableIDString s mq.getTableID))
      execWriteLoop tp execRaw controller dbName beforeRowCount mqueries

def insertTable (deparse : List Node → Except GoError String) (id : TableID)
    (controller description : String) (createStmt : CreateStmt) : Tx Unit :=
  Tx.mapError (GoError.formatf "processing register table: %s") <| beginFunc do
    Tx.update fun s => formatErr "inserting new table in system-wide registry: %s"
      (s.insertRegistry ⟨id, controller, getNamePrefix createStmt, getStructureHash createStmt,
        description⟩)
    Tx.update fun s => formatErr "inserting new entry into system acl: %s"
      (s.insertAcl ⟨id, controller, ["a", "w", "d"]⟩)
    let query ← Tx.lift (formatErr "get query for table id: %s"
      (getRawQueryForTableID deparse createStmt id).1)
    let _ ← Tx.mapError (GoError.formatf "exec CREATE statement: %s") (exec execRaw query)

end Batch

section Spec

variable {tp : TblTxnProcessor} {execRaw : Store → String → Except GoError (Store × CommandTag)}
  {tableIDString : TableID → String} {caller : Address}

theorem execWriteLoop_write_cons {dbName : String} {c₀ : Nat} {ws : SugaredWriteStmt}
    {rest : List SugaredMutatingStmt} {s s' : Store} (hname : ws.namePrefix = dbName)
    (h : executeWriteStmt tp execRaw ws caller c₀ s = (.ok (), s')) :
    execWriteLoop tp execRaw caller dbName c₀ (.write ws :: rest) s =
      execWriteLoop tp execRaw caller dbName c₀ rest s' := by
  simp [execWriteLoop, Tx.bind_apply, Tx.mapError, h, hname, SugaredMutatingStmt.getNamePrefix,
    Except.mapError]

theorem execWriteQueries_cons {mq : SugaredMutatingStmt} {mqs : List SugaredMutatingStmt}
    {s : Store} {dbName : String} {c₀ : Nat}
    (h : getTableNameAndRowCountByTableID tableIDString s mq.getTableID = .ok (dbName, c₀)) :
    execWriteQueries tp execRaw tableIDString caller (mq :: mqs) s =
      Tx.mapError (GoError.wrapf "running nested txn: %w")
        (beginFunc (execWriteLoop tp execRaw caller dbName c₀ (mq :: mqs))) s := by
  simp only [execWriteQueries, Tx.mapError, beginFunc, Tx.bind_apply, Tx.get, Tx.lift, h,
    formatErr_ok_apply]

theorem preserves_exec {P : Store → Prop}
    (h : ∀ s s' q tag, P s → execRaw s q = .ok (s', tag) → P s') (q : String) :
    Tx.Preserves P (exec execRaw q) := by
  intro s hs
  simp only [exec]
  split
  · exact h _ _ _ _ hs ‹_›
  · exact hs

theorem exec_ok {q : String} {s : Store} {tag : CommandTag} (h : (exec execRaw q s).1 = .ok tag) :
    ∃ s', execRaw s q = .ok (s', tag) ∧ (exec execRaw q s).2 = s' := by
  simp only [exec] at h ⊢
  split at h
  next s' tag' hq =>
    cases h
    exact ⟨s', hq, rfl⟩
  next => cases h

theorem savepoint_error_keeps_store {f : GoError → GoError} {g : Tx Unit} {s : Store}
    {e : GoError} (h : (Tx.mapError f (beginFunc g) s).1 = .error e) :
    (Tx.mapError f (beginFunc g) s).2 = s := by
  obtain ⟨e', h'⟩ := Tx.mapError_fst_error h
  simpa using beginFunc_error h'

end Spec

/-- A failed InsertTable or ExecWriteQueries leaves registry, system_acl and every user
table as they were, whatever statement failed and whatever ran before it. -/
theorem batch_call_error_keeps_store (tp : TblTxnProcessor)
    (execRaw : Store → String → Except GoError (Store × CommandTag))
    (deparse : List Node → Except GoError String) (tableIDString : TableID → String)
    (caller : Address) (mqueries : List SugaredMutatingStmt) (id : TableID)
    (controller description : String) (createStmt : CreateStmt) (s : Store) (e : GoError) :
    ((execWriteQueries tp execRaw tableIDString caller mqueries s).1 = .error e →
      (execWriteQueries tp execRaw tableIDString caller mqueries s).2 = s) ∧
    ((insertTable execRaw deparse id controller description createStmt s).1 = .error e →
      (insertTable execRaw deparse id controller description createStmt s).2 = s) :=
  ⟨savepoint_error_keeps_store, savepoint_error_keeps_store⟩

def allowAll : Acl := ⟨fun _ _ => .ok true, fun _ _ _ _ => .ok ()⟩

def insertRows (relname : String) (k : Nat) :
    Store → String → Except GoError (Store × CommandTag) := fun s _ =>
  .ok ({ s with tables := s.tables.map fun (r, n) => if r = relname then (r, n + k) else (r, n) },
    ⟨true, k⟩)

def fooWithRows (c : Nat) : Store := ⟨[⟨1, "0x01", "foo", "", ""⟩], fun _ _ => none, [("_1", c)]⟩

def insertIntoFoo : SugaredWriteStmt := ⟨1, "foo", .opInsert, .ok "INSERT INTO _1 ..."⟩

theorem executeWriteStmt_insertRows (m k c₀ c : Nat) (caller : Address) (hk : c₀ + k ≤ m) :
    executeWriteStmt ⟨m, allowAll⟩ (insertRows "_1" k) insertIntoFoo caller c₀ (fooWithRows c) =
      (.ok (), fooWithRows (c + k)) := by
  have hnot : ¬ m < c₀ + k := by omega
  simp [executeWriteStmt, Tx.bind_apply, Tx.get, Tx.lift, Tx.mapError, exec, insertRows,
    fooWithRows, allowAll, insertIntoFoo, hnot, Except.mapError]

theorem execWriteLoop_inserts (m k c₀ : Nat) (caller : Address) (hk : c₀ + k ≤ m) (n c : Nat) :
    execWriteLoop ⟨m, allowAll⟩ (insertRows "_1" k) caller "foo" c₀
      (List.replicate n (.write insertIntoFoo)) (fooWithRows c) =
        (.ok (), fooWithRows (c + n * k)) := by
  induction n generalizing c with
  | zero => simp [execWriteLoop]
  | succ n ih =>
    rw [List.replicate_succ,
      execWriteLoop_write_cons (show insertIntoFoo.namePrefix = "foo" from rfl)
        (executeWriteStmt_insertRows m k c₀ c caller hk), ih, Nat.succ_mul]
    congr 2
    omega

/-- The cap is checked against the row count read before the first statement: for every
cap, any number of INSERTs of `k` rows each pass when one of them alone fits. -/
theorem inserts_pass_stale_cap (m k c₀ n : Nat) (caller : Address) (hk : c₀ + k ≤ m) :
    execWriteQueries ⟨m, allowAll⟩ (insertRows "_1" k) toString caller
      (List.replicate n (.write insertIntoFoo)) (fooWithRows c₀) =
        (.ok (), fooWithRows (c₀ + n * k)) := by
  cases n with
  | zero => simp; rfl
  | succ n =>
    have hlook : getTableNameAndRowCountByTableID toString (fooWithRows c₀)
        (SugaredMutatingStmt.write insertIntoFoo).getTableID = .ok ("foo", c₀) := rfl
    rw [List.replicate_succ, execWriteQueries_cons hlook, ← List.replicate_succ]
    simp [Tx.mapError, beginFunc, execWriteLoop_inserts m k c₀ caller hk, Except.mapError]

theorem two_inserts_end_above_cap :
    9 + 1 ≤ 10 ∧ execWriteQueries ⟨10, allowAll⟩ (insertRows "_1" 1) toString ⟨"0x01"⟩
      [.write insertIntoFoo, .write insertIntoFoo] (fooWithRows 9) = (.ok (), fooWithRows 11) :=
  ⟨by decide, inserts_pass_stale_cap 10 1 9 2 ⟨"0x01"⟩ (by decide)⟩

theorem boundRelname_ne_countedRelname (tableIDString : TableID → String) (id : TableID) :
    boundRelname id ≠ countedRelname tableIDString id := by
  intro h
  have := congrArg (fun s : String => s.data.head?) h
  simp [boundRelname, countedRelname] at this

/-- The CREATE that InsertTable runs is the deparse of an AST whose relation is never the
one GetTableNameAndRowCountByTableID counts. -/
theorem insertTable_creates_uncounted_relation (deparse : List Node → Except GoError String)
    (createStmt : CreateStmt) (tableIDString : TableID → String) (id : TableID) :
    ∃ n, (getRawQueryForTableID deparse createStmt id).1 =
        formatErr "deparsing statement: %s" (deparse [n]) ∧
      n.createRelname = boundRelname id ∧ n.createRelname ≠ countedRelname tableIDString id := by
  obtain ⟨n, hn, _, _⟩ := createStmt
  cases n <;> simp [Node.isCreateStmt] at hn
  exact ⟨_, rfl, rfl, boundRelname_ne_countedRelname tableIDString id⟩

end TablelandProofs.Txn.Processor
