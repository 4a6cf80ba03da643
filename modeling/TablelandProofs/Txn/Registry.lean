import TablelandProofs.Txn.SystemAcl

namespace TablelandProofs.Txn.Registry

open Tableland Parsing.Ast Parsing.Create Db Processor SystemAcl

/-- What registry and system_acl keep across every call of the processor. -/
structure RegistryInv (s : Store) : Prop where
  /-- The registry's primary key: no id is registered twice. -/
  ids_nodup : (s.registry.map (·.id)).Nodup
  /-- The controller of every registered table has a row in system_acl. -/
  acl_row : ∀ r ∈ s.registry, (s.systemAcl r.id r.controller).isSome

variable {s : Store}

theorem registryInv_setAcl {t : TableID} {c : String} {v : Option (List String)}
    (hs : RegistryInv s) (hv : (s.systemAcl t c).isSome → v.isSome) :
    RegistryInv (s.setAcl t c v) := by
  refine ⟨hs.ids_nodup, fun r hr => ?_⟩
  simp only [Store.setAcl_systemAcl]
  split_ifs with h
  · obtain ⟨rfl, rfl⟩ := h
    exact hv (hs.acl_row r hr)
  · exact hs.acl_row r hr

theorem registryInv_upsertAcl {t : TableID} {c : String} {privileges : List String}
    (hs : RegistryInv s) : RegistryInv (s.upsertAcl t c privileges) :=
  registryInv_setAcl hs fun _ => rfl

theorem registryInv_removeAcl {t : TableID} {c p : String} (hs : RegistryInv s) :
    RegistryInv (s.removeAcl t c p) :=
  registryInv_setAcl hs fun h => by simpa using h

/-- The statements the database runs for users, and the CREATEs, leave registry and
system_acl alone. -/
def LeavesSystemTables (execRaw : Store → String → Except GoError (Store × CommandTag)) : Prop :=
  ∀ s s' q tag, execRaw s q = .ok (s', tag) → s'.registry = s.registry ∧ s'.systemAcl = s.systemAcl

variable {execRaw : Store → String → Except GoError (Store × CommandTag)}

theorem registryInv_exec (hexec : LeavesSystemTables execRaw) (q : String) :
    Tx.Preserves RegistryInv (exec execRaw q) :=
  preserves_exec (fun s s' q tag hs h => by
    obtain ⟨hr, ha⟩ := hexec s s' q tag h
    exact ⟨hr ▸ hs.ids_nodup, hr ▸ ha ▸ hs.acl_row⟩) q

theorem registryInv_executeWriteStmt (hexec : LeavesSystemTables execRaw) (tp : TblTxnProcessor)
    (ws : SugaredWriteStmt) (caller : Address) (c₀ : Nat) :
    Tx.Preserves RegistryInv (executeWriteStmt tp execRaw ws caller c₀) := by
  refine Tx.preserves_bind Tx.preserves_get fun _ => Tx.preserves_bind (Tx.preserves_lift _)
    fun _ => Tx.preserves_bind (Tx.preserves_lift _) fun _ =>
      Tx.preserves_bind (Tx.preserves_mapError (registryInv_exec hexec _)) fun _ => ?_
  split
  · dsimp only
    split
    · exact Tx.preserves_throw _
    · exact Tx.preserves_pure _
  · exact Tx.preserves_pure _

theorem registryInv_execWriteLoop (hexec : LeavesSystemTables execRaw) (tp : TblTxnProcessor)
    (caller : Address) (dbName : String) (c₀ : Nat) (mqs : List SugaredMutatingStmt) :
    Tx.Preserves RegistryInv (execWriteLoop tp execRaw caller dbName c₀ mqs) := by
  induction mqs with
  | nil => exact Tx.preserves_pure _
  | cons mq mqs ih =>
    cases mq <;> simp only [execWriteLoop] <;> split <;>
      refine Tx.preserves_bind ?_ fun _ => Tx.preserves_bind ?_ fun _ => ih
    all_goals first
      | exact Tx.preserves_throw _
      | exact Tx.preserves_pure _
      | exact Tx.preserves_mapError (executeGrantStmt_preserves tp _ caller
          (fun _ _ => registryInv_upsertAcl) fun _ _ _ => registryInv_removeAcl)
      | exact Tx.preserves_mapError (registryInv_executeWriteStmt hexec tp _ caller c₀)

theorem registryInv_execWriteQueries (hexec : LeavesSystemTables execRaw) (tp : TblTxnProcessor)
    (tableIDString : TableID → String) (caller : Address) (mqueries : List SugaredMutatingStmt) :
    Tx.Preserves RegistryInv (execWriteQueries tp execRaw tableIDString caller mqueries) := by
  refine Tx.preserves_mapError (preserves_beginFunc ?_)
  cases mqueries with
  | nil => exact Tx.preserves_pure _
  | cons mq mqs =>
    exact Tx.preserves_bind Tx.preserves_get fun _ => Tx.preserves_bind (Tx.preserves_lift _)
      fun _ => registryInv_execWriteLoop hexec tp caller _ _ _

variable {deparse : List Node → Except GoError String} {id : TableID}
  {controller description : String} {createStmt : CreateStmt}

theorem insertTable_run
    (h : (insertTable execRaw deparse id controller description createStmt s).1 = .ok ()) :
    id ∉ s.registry.map (·.id) ∧ s.systemAcl id controller = none ∧
      ∃ q tag, deparse [createStmt.cNode.setRelname (boundRelname id)] = .ok q ∧
        execRaw ({ s with registry := s.registry ++ [(⟨id, controller, getNamePrefix createStmt,
            getStructureHash createStmt, description⟩ : RegistryRow)] }.setAcl id controller
              (some ["a", "w", "d"])) q =
          .ok ((insertTable execRaw deparse id controller description createStmt s).2, tag) := by
  unfold insertTable at h ⊢
  have h₀ := Tx.mapError_ok h
  rw [Tx.mapError_snd, beginFunc_snd_of_ok h₀]
  have hb := beginFunc_ok h₀
  obtain ⟨_, h₁, hb⟩ := Tx.bind_ok hb
  obtain ⟨s₁, hr, hs₁⟩ := Tx.update_ok h₁
  obtain ⟨hid, rfl⟩ := Store.insertRegistry_ok.1 ((formatErr_ok _ _ _).1 hr)
  rw [Tx.bind_of_ok h₁, hs₁]
  rw [hs₁] at hb
  obtain ⟨_, h₂, hb⟩ := Tx.bind_ok hb
  obtain ⟨s₂, ha, hs₂⟩ := Tx.update_ok h₂
  obtain ⟨hnone, rfl⟩ := Store.insertAcl_ok.1 ((formatErr_ok _ _ _).1 ha)
  rw [Tx.bind_of_ok h₂, hs₂]
  rw [hs₂] at hb
  obtain ⟨q, h₃, hb⟩ := Tx.bind_ok hb
  rw [Tx.bind_of_ok h₃]
  obtain ⟨_, h₄, -⟩ := Tx.bind_ok hb
  rw [Tx.bind_of_ok h₄]
  obtain ⟨s₃, hq, hs₃⟩ := exec_ok (Tx.mapError_ok h₄)
  simp only [Tx.lift_apply, getRawQueryForTableID, formatErr_ok] at h₃ hq hs₃
  simp only [Tx.pure_apply, Tx.mapError_snd, Tx.lift_apply, hs₃]
  exact ⟨hid, hnone, q, _, h₃, hq⟩

/-- InsertTable that returns nil registered a new id with its name prefix and structure
hash, and gave its controller the privileges a, w and d; nothing else of registry and
system_acl changed. -/
theorem insertTable_ok (hexec : LeavesSystemTables execRaw)
    (h : (insertTable execRaw deparse id controller description createStmt s).1 = .ok ()) :
    id ∉ s.registry.map (·.id) ∧
      (insertTable execRaw deparse id controller description createStmt s).2.registry =
        s.registry ++ [⟨id, controller, getNamePrefix createStmt, getStructureHash createStmt,
          description⟩] ∧
      (insertTable execRaw deparse id controller description createStmt s).2.systemAcl =
        (s.setAcl id controller (some ["a", "w", "d"])).systemAcl := by
  obtain ⟨hid, -, _, _, -, hq⟩ := insertTable_run h
  obtain ⟨hr, ha⟩ := hexec _ _ _ _ hq
  exact ⟨hid, hr, ha⟩

theorem registryInv_insertTable (hexec : LeavesSystemTables execRaw) :
    Tx.Preserves RegistryInv
      (insertTable execRaw deparse id controller description createStmt) := by
  intro s hs
  cases h : (insertTable execRaw deparse id controller description createStmt s).1 with
  | error e =>
    have hkeep : (insertTable execRaw deparse id controller description createStmt s).2 = s :=
      savepoint_error_keeps_store h
    rw [hkeep]
    exact hs
  | ok u =>
    obtain ⟨hid, hr, ha⟩ := insertTable_ok hexec h
    refine ⟨?_, fun r hmem => ?_⟩
    · rw [hr, List.map_append]
      exact List.nodup_append.2 ⟨hs.ids_nodup, List.nodup_singleton _,
        fun x hx hy => hid (by simp_all)⟩
    · rw [ha, Store.setAcl_systemAcl]
      split_ifs with he
      · rfl
      · rw [hr, List.mem_append, List.mem_singleton] at hmem
        rcases hmem with hmem | rfl
        · exact hs.acl_row r hmem
        · exact absurd ⟨rfl, rfl⟩ he

/-- The stores reachable from an empty registry and system_acl by calls of InsertTable and
ExecWriteQueries, in any order. -/
inductive Run (execRaw : Store → String → Except GoError (Store × CommandTag))
    (deparse : List Node → Except GoError String) : Store → Prop
  | init {s : Store} : s.registry = [] → (∀ t c, s.systemAcl t c = none) → Run execRaw deparse s
  | insertTable {s : Store} (id : TableID) (controller description : String)
      (createStmt : CreateStmt) : Run execRaw deparse s →
      Run execRaw deparse (insertTable execRaw deparse id controller description createStmt s).2
  | execWriteQueries {s : Store} (tp : TblTxnProcessor) (tableIDString : TableID → String)
      (caller : Address) (mqueries : List SugaredMutatingStmt) : Run execRaw deparse s →
      Run execRaw deparse (execWriteQueries tp execRaw tableIDString caller mqueries s).2

/-- In every store reachable by InsertTable and ExecWriteQueries calls whose user
statements leave registry and system_acl alone, no table id is registered twice and the
controller of every registered table has a row in system_acl. -/
theorem run_registryInv (hexec : LeavesSystemTables execRaw) (h : Run execRaw deparse s) :
    RegistryInv s := by
  induction h with
  | init h₁ _ => exact ⟨by simp [h₁], by simp [h₁]⟩
  | insertTable _ _ _ _ _ ih => exact registryInv_insertTable hexec _ ih
  | execWriteQueries tp tableIDString caller mqueries _ ih =>
    exact registryInv_execWriteQueries hexec tp tableIDString caller mqueries _ ih

def emptyWithFoo : Store := ⟨[], fun _ _ => none, [("_1", 0)]⟩

def insertFoo : Except GoError Unit × Store :=
  insertTable execNoop deparseEmpty 1 "0xowner" "" fooCreateStmt emptyWithFoo

theorem execNoop_frame : LeavesSystemTables execNoop := by
  intro s s' q tag h
  cases h
  exact ⟨rfl, rfl⟩

def insertGrantRun : Store :=
  (execWriteQueries ⟨0, allowAll⟩ execNoop toString ⟨"0xowner"⟩ [.grant grantInsertTwice]
    insertFoo.2).2

theorem insert_grant_registryInv :
    LeavesSystemTables execNoop ∧ Run execNoop deparseEmpty insertGrantRun ∧
      RegistryInv insertGrantRun := by
  have hr : Run execNoop deparseEmpty insertGrantRun :=
    .execWriteQueries _ _ _ _ (.insertTable _ _ _ _ (.init rfl fun _ _ => rfl))
  exact ⟨execNoop_frame, hr, run_registryInv execNoop_frame hr⟩

end TablelandProofs.Txn.Registry
