import TablelandProofs.Txn.Processor

namespace TablelandProofs.Txn.SystemAcl

open Tableland Parsing.Ast Parsing.Create Db Processor

variable {tp : TblTxnProcessor} {gs : SugaredGrantStmt} {owner : Address} {s s' : Store}

theorem executeGrantStmt_owner (hown : tp.acl.isOwner owner gs.tableID = .ok true) :
    executeGrantStmt tp gs owner s =
      grantRoles gs.tableID gs.operation gs.privileges gs.roles s := by
  simp [executeGrantStmt, Tx.bind_apply, Tx.lift, hown]

theorem grantRoles_grant (t : TableID) (privileges : List String) (roles : List Address)
    (s : Store) :
    grantRoles t .opGrant privileges roles s =
      (.ok (), roles.foldl (fun s r => s.upsertAcl t r.hex privileges) s) := by
  induction roles generalizing s with
  | nil => rfl
  | cons r roles ih => simp [grantRoles, Tx.bind_apply, Tx.update, ih]

def revokeRole (t : TableID) (privileges : List String) (s : Store) (r : Address) : Store :=
  privileges.foldl (·.removeAcl t r.hex) s

theorem grantRoles_revoke (t : TableID) (privileges : List String) (roles : List Address)
    (s : Store) :
    grantRoles t .opRevoke privileges roles s =
      (.ok (), roles.foldl (revokeRole t privileges) s) := by
  induction roles generalizing s with
  | nil => rfl
  | cons r roles ih => simp [grantRoles, Tx.bind_apply, Tx.update, ih, revokeRole]

theorem upsertAcl_systemAcl (t : TableID) (c : String) (privileges : List String) (s : Store)
    (t' : TableID) (c' : String) :
    (s.upsertAcl t c privileges).systemAcl t' c' =
      if t' = t ∧ c' = c then some ((s.systemAcl t c).elim privileges (·  ++ privileges |>.dedup))
      else s.systemAcl t' c' := by
  simp only [Store.upsertAcl, Store.setAcl_systemAcl]
  split_ifs <;> cases s.systemAcl t c <;> rfl

/-- An entry of system_acl as a set: an absent entry is empty. -/
def privs (s : Store) (t : TableID) (c : String) : List String := (s.systemAcl t c).getD []

theorem mem_privs_upsertAcl {t : TableID} {c : String} {privileges : List String} {t' : TableID}
    {c' : String} {x : String} :
    x ∈ privs (s.upsertAcl t c privileges) t' c' ↔
      x ∈ privs s t' c' ∨ (t' = t ∧ c' = c ∧ x ∈ privileges) := by
  simp only [privs, upsertAcl_systemAcl]
  split_ifs with h
  · obtain ⟨rfl, rfl⟩ := h
    cases s.systemAcl t' c' <;> simp
  · exact ⟨.inl, fun hx => hx.resolve_right fun ⟨h₁, h₂, _⟩ => h ⟨h₁, h₂⟩⟩

theorem upsertAcl_other {t : TableID} {c : String} {privileges : List String} {t' : TableID}
    {c' : String} (h : ¬(t' = t ∧ c' = c)) :
    (s.upsertAcl t c privileges).systemAcl t' c' = s.systemAcl t' c' := by
  simp [upsertAcl_systemAcl, h]

def execNoop : Store → String → Except GoError (Store × CommandTag) :=
  fun s _ => .ok (s, ⟨false, 0⟩)

def deparseEmpty : List Node → Except GoError String := fun _ => .ok ""

def fooCreateStmt : CreateStmt := ⟨createFoo "", rfl, "", "foo"⟩

def afterInsertTable : Store :=
  (insertTable execNoop deparseEmpty 1 "0xowner" "" fooCreateStmt ⟨[], fun _ _ => none, []⟩).2

/-- A grant by the owner: every named role of the table holds its old privileges and the
granted ones, as a set, and every other entry of system_acl is unchanged. -/
theorem grant_union (hown : tp.acl.isOwner owner gs.tableID = .ok true)
    (hop : gs.operation = .opGrant) (h : executeGrantStmt tp gs owner s = (.ok (), s')) :
    ∀ t c, (∀ x, x ∈ privs s' t c ↔
        x ∈ privs s t c ∨ (t = gs.tableID ∧ c ∈ gs.roles.map (·.hex) ∧ x ∈ gs.privileges)) ∧
      (¬(t = gs.tableID ∧ c ∈ gs.roles.map (·.hex)) → s'.systemAcl t c = s.systemAcl t c) := by
  rw [executeGrantStmt_owner hown, hop, grantRoles_grant] at h
  cases h
  intro t c
  induction gs.roles generalizing s with
  | nil => simp
  | cons r roles ih =>
    obtain ⟨ih₁, ih₂⟩ := ih (s := s.upsertAcl gs.tableID r.hex gs.privileges)
    refine ⟨fun x => ?_, fun hn => ?_⟩
    · simp only [List.foldl_cons, ih₁, mem_privs_upsertAcl, List.map_cons, List.mem_cons,
        or_assoc, or_and_right, and_or_left]
    · simp only [List.foldl_cons, List.map_cons, List.mem_cons] at hn ⊢
      rw [ih₂ fun ⟨h₁, h₂⟩ => hn ⟨h₁, .inr h₂⟩, upsertAcl_other fun ⟨h₁, h₂⟩ => hn ⟨h₁, .inl h₂⟩]

def grantInsertTwice : SugaredGrantStmt := ⟨1, "foo", .opGrant, [⟨"0xrole"⟩], ["a", "a"]⟩

def afterGrant : Store :=
  (executeGrantStmt ⟨0, allowAll⟩ grantInsertTwice ⟨"0xowner"⟩ afterInsertTable).2

theorem grant_insert_twice_union :
    (allowAll.isOwner ⟨"0xowner"⟩ grantInsertTwice.tableID = .ok true ∧
      grantInsertTwice.operation = .opGrant ∧
      executeGrantStmt ⟨0, allowAll⟩ grantInsertTwice ⟨"0xowner"⟩ afterInsertTable =
        (.ok (), afterGrant)) ∧
    "a" ∈ privs afterGrant 1 "0xrole" ∧
      afterGrant.systemAcl 1 "0xowner" = afterInsertTable.systemAcl 1 "0xowner" := by
  have h : executeGrantStmt ⟨0, allowAll⟩ grantInsertTwice ⟨"0xowner"⟩ afterInsertTable =
      (.ok (), afterGrant) := rfl
  have hu :=
    @grant_union ⟨0, allowAll⟩ grantInsertTwice ⟨"0xowner"⟩ afterInsertTable afterGrant rfl rfl h
  exact ⟨⟨rfl, rfl, h⟩, ((hu 1 "0xrole").1 "a").2 (.inr ⟨rfl, by decide, by decide⟩),
    (hu 1 "0xowner").2 (by decide)⟩

theorem mem_privs_removeAcl {t : TableID} {c p : String} {t' : TableID} {c' x : String} :
    x ∈ privs (s.removeAcl t c p) t' c' ↔ x ∈ privs s t' c' ∧ ¬(t' = t ∧ c' = c ∧ x = p) := by
  simp only [privs, Store.removeAcl, Store.setAcl_systemAcl]
  split_ifs with h
  · obtain ⟨rfl, rfl⟩ := h
    cases s.systemAcl t' c' <;> simp
  · exact ⟨fun hx => ⟨hx, fun ⟨h₁, h₂, _⟩ => h ⟨h₁, h₂⟩⟩, And.left⟩

theorem mem_privs_revokeRole {t : TableID} {privileges : List String} {r : Address}
    {t' : TableID} {c' x : String} :
    x ∈ privs (revokeRole t privileges s r) t' c' ↔
      x ∈ privs s t' c' ∧ ¬(t' = t ∧ c' = r.hex ∧ x ∈ privileges) := by
  induction privileges generalizing s with
  | nil => simp [revokeRole]
  | cons p ps ih =>
    simp only [revokeRole, List.foldl_cons] at ih ⊢
    rw [ih, mem_privs_removeAcl, List.mem_cons]
    simp only [and_assoc, not_and, not_or, imp_and]

theorem revokeRole_other {t : TableID} {privileges : List String} {r : Address} {t' : TableID}
    {c' : String} (h : ¬(t' = t ∧ c' = r.hex)) :
    (revokeRole t privileges s r).systemAcl t' c' = s.systemAcl t' c' := by
  induction privileges generalizing s with
  | nil => rfl
  | cons p ps ih =>
    simp only [revokeRole, List.foldl_cons] at ih ⊢
    rw [ih, Store.removeAcl, Store.setAcl_systemAcl, if_neg h]

/-- A revoke by the owner: every named role of the table keeps its old privileges minus
the revoked ones, as a set, and every other entry of system_acl is unchanged. -/
theorem revoke_minus (hown : tp.acl.isOwner owner gs.tableID = .ok true)
    (hop : gs.operation = .opRevoke) (h : executeGrantStmt tp gs owner s = (.ok (), s')) :
    ∀ t c, (∀ x, x ∈ privs s' t c ↔
        x ∈ privs s t c ∧ ¬(t = gs.tableID ∧ c ∈ gs.roles.map (·.hex) ∧ x ∈ gs.privileges)) ∧
      (¬(t = gs.tableID ∧ c ∈ gs.roles.map (·.hex)) → s'.systemAcl t c = s.systemAcl t c) := by
  rw [executeGrantStmt_owner hown, hop, grantRoles_revoke] at h
  cases h
  intro t c
  induction gs.roles generalizing s with
  | nil => simp
  | cons r roles ih =>
    obtain ⟨ih₁, ih₂⟩ := ih (s := revokeRole gs.tableID gs.privileges s r)
    refine ⟨fun x => ?_, fun hn => ?_⟩
    · simp only [List.foldl_cons, ih₁, mem_privs_revokeRole, List.map_cons, List.mem_cons,
        and_assoc, not_and, or_imp, imp_and]
    · simp only [List.foldl_cons, List.map_cons, List.mem_cons] at hn ⊢
      rw [ih₂ fun ⟨h₁, h₂⟩ => hn ⟨h₁, .inr h₂⟩, revokeRole_other fun ⟨h₁, h₂⟩ => hn ⟨h₁, .inl h₂⟩]

def revokeUpdate : SugaredGrantStmt := ⟨1, "foo", .opRevoke, [⟨"0xowner"⟩], ["w"]⟩

def afterRevoke : Store :=
  (executeGrantStmt ⟨0, allowAll⟩ revokeUpdate ⟨"0xowner"⟩ afterInsertTable).2

theorem revoke_update_minus :
    (allowAll.isOwner ⟨"0xowner"⟩ revokeUpdate.tableID = .ok true ∧
      revokeUpdate.operation = .opRevoke ∧
      executeGrantStmt ⟨0, allowAll⟩ revokeUpdate ⟨"0xowner"⟩ afterInsertTable =
        (.ok (), afterRevoke)) ∧
    "a" ∈ privs afterRevoke 1 "0xowner" ∧ "w" ∉ privs afterRevoke 1 "0xowner" := by
  have h : executeGrantStmt ⟨0, allowAll⟩ revokeUpdate ⟨"0xowner"⟩ afterInsertTable =
      (.ok (), afterRevoke) := rfl
  have hm :=
    @revoke_minus ⟨0, allowAll⟩ revokeUpdate ⟨"0xowner"⟩ afterInsertTable afterRevoke rfl rfl h
  exact ⟨⟨rfl, rfl, h⟩, ((hm 1 "0xowner").1 "a").2 ⟨by decide, by decide⟩,
    fun hw => (((hm 1 "0xowner").1 "w").1 hw).2 ⟨rfl, by decide, by decide⟩⟩

/-- The states of system_acl reachable from an empty one by InsertTable calls and by
grant and revoke statements that satisfy `grantOk`. -/
inductive Reachable (execRaw : Store → String → Except GoError (Store × CommandTag))
    (deparse : List Node → Except GoError String) (grantOk : SugaredGrantStmt → Prop) :
    Store → Prop
  | init {s : Store} : (∀ t c, s.systemAcl t c = none) → Reachable execRaw deparse grantOk s
  | insertTable {s : Store} (id : TableID) (controller description : String)
      (createStmt : CreateStmt) : Reachable execRaw deparse grantOk s →
      Reachable execRaw deparse grantOk (insertTable execRaw deparse id controller description
        createStmt s).2
  | grant {s : Store} (tp : TblTxnProcessor) (gs : SugaredGrantStmt) (owner : Address) :
      grantOk gs → Reachable execRaw deparse grantOk s →
      Reachable execRaw deparse grantOk (executeGrantStmt tp gs owner s).2

/-- Every privilege array of system_acl has pairwise distinct elements. -/
def AclNodup (s : Store) : Prop := ∀ t c l, s.systemAcl t c = some l → l.Nodup

/-- A grant to an entry of system_acl that is absent stores the granted list as it is. -/
theorem grant_absent_entry_verbatim (hown : tp.acl.isOwner owner gs.tableID = .ok true)
    (hop : gs.operation = .opGrant) (r : Address) (hroles : gs.roles = [r])
    (hnew : s.systemAcl gs.tableID r.hex = none) :
    executeGrantStmt tp gs owner s = (.ok (), s.setAcl gs.tableID r.hex (some gs.privileges)) := by
  rw [executeGrantStmt_owner hown, hop, grantRoles_grant, hroles]
  simp [Store.upsertAcl, hnew]

theorem repeated_grant_reachable :
    (allowAll.isOwner ⟨"0xowner"⟩ 1 = .ok true ∧ grantInsertTwice.roles = [⟨"0xrole"⟩] ∧
      afterInsertTable.systemAcl 1 "0xrole" = none ∧
      executeGrantStmt ⟨0, allowAll⟩ grantInsertTwice ⟨"0xowner"⟩ afterInsertTable =
        (.ok (), afterInsertTable.setAcl 1 "0xrole" (some ["a", "a"]))) ∧
    Reachable execNoop deparseEmpty (fun gs => ∀ p ∈ gs.privileges, p ∈ ["a", "w", "d"])
      (afterInsertTable.setAcl 1 "0xrole" (some ["a", "a"])) ∧ ¬ ["a", "a"].Nodup := by
  have h : executeGrantStmt ⟨0, allowAll⟩ grantInsertTwice ⟨"0xowner"⟩ afterInsertTable =
      (.ok (), afterInsertTable.setAcl 1 "0xrole" (some ["a", "a"])) :=
    grant_absent_entry_verbatim rfl rfl ⟨"0xrole"⟩ rfl (by decide)
  refine ⟨⟨rfl, rfl, by decide, h⟩, ?_, by decide⟩
  have hr : Reachable execNoop deparseEmpty (fun gs => ∀ p ∈ gs.privileges, p ∈ ["a", "w", "d"])
      (executeGrantStmt ⟨0, allowAll⟩ grantInsertTwice ⟨"0xowner"⟩ afterInsertTable).2 :=
    .grant _ _ _ (by decide) (.insertTable 1 "0xowner" "" fooCreateStmt (.init fun _ _ => rfl))
  rwa [h] at hr

theorem aclNodup_setAcl {t : TableID} {c : String} {v : Option (List String)} (hs : AclNodup s)
    (hv : ∀ l, v = some l → l.Nodup) : AclNodup (s.setAcl t c v) := by
  intro t' c' l
  simp only [Store.setAcl_systemAcl]
  split_ifs
  · exact hv l
  · exact hs t' c' l

theorem aclNodup_upsertAcl {t : TableID} {c : String} {privileges : List String}
    (hp : privileges.Nodup) (hs : AclNodup s) : AclNodup (s.upsertAcl t c privileges) := by
  refine aclNodup_setAcl hs fun l hl => ?_
  cases hl
  split
  · exact List.nodup_dedup _
  · exact hp

theorem aclNodup_removeAcl {t : TableID} {c p : String} (hs : AclNodup s) :
    AclNodup (s.removeAcl t c p) := by
  refine aclNodup_setAcl hs fun l hl => ?_
  obtain ⟨l', hl', rfl⟩ := Option.map_eq_some'.1 hl
  exact (hs t c l' hl').filter _

section Preserves

variable {P : Store → Prop}

theorem foldl_removeAcl_preserves {t : TableID} {c : String}
    (hrm : ∀ s p, P s → P (s.removeAcl t c p)) (ps : List String) (hs : P s) :
    P (ps.foldl (·.removeAcl t c) s) := by
  induction ps generalizing s with
  | nil => exact hs
  | cons p ps ih => exact ih (hrm s p hs)

theorem grantRoles_preserves {t : TableID} {op : Operation} {privileges : List String}
    (hup : ∀ s c, P s → P (s.upsertAcl t c privileges))
    (hrm : ∀ s c p, P s → P (s.removeAcl t c p)) (roles : List Address) :
    Tx.Preserves P (grantRoles t op privileges roles) := by
  induction roles with
  | nil => exact Tx.preserves_pure _
  | cons r roles ih =>
    cases op
    case opGrant =>
      refine Tx.preserves_bind (Tx.preserves_update fun s s' hs h => ?_) fun _ => ih
      cases h
      exact hup s _ hs
    case opRevoke =>
      refine Tx.preserves_bind (Tx.preserves_update fun s s' hs h => ?_) fun _ => ih
      cases h
      exact foldl_removeAcl_preserves (hrm · _) _ hs
    all_goals exact Tx.preserves_bind (Tx.preserves_throw _) fun _ => ih

theorem executeGrantStmt_preserves (tp : TblTxnProcessor) (gs : SugaredGrantStmt) (owner : Address)
    (hup : ∀ s c, P s → P (s.upsertAcl gs.tableID c gs.privileges))
    (hrm : ∀ s c p, P s → P (s.removeAcl gs.tableID c p)) :
    Tx.Preserves P (executeGrantStmt tp gs owner) := by
  refine Tx.preserves_bind (Tx.preserves_lift _) fun b => ?_
  dsimp only
  split
  · exact Tx.preserves_bind (Tx.preserves_throw _) fun _ => grantRoles_preserves hup hrm _
  · exact Tx.preserves_bind (Tx.preserves_pure _) fun _ => grantRoles_preserves hup hrm _

end Preserves

theorem insertTable_preserves {execRaw : Store → String → Except GoError (Store × CommandTag)}
    (hexec : ∀ s s' q tag, execRaw s q = .ok (s', tag) → s'.systemAcl = s.systemAcl)
    (deparse : List Node → Except GoError String) (id : TableID) (controller description : String)
    (createStmt : CreateStmt) :
    Tx.Preserves AclNodup (insertTable execRaw deparse id controller description createStmt) := by
  refine Tx.preserves_mapError (preserves_beginFunc ?_)
  refine Tx.preserves_bind (Tx.preserves_update fun s s' hs h => ?_) fun _ => ?_
  · simp only [formatErr_ok, Store.insertRegistry] at h
    split_ifs at h
    cases h
    exact hs
  refine Tx.preserves_bind (Tx.preserves_update fun s s' hs h => ?_) fun _ => ?_
  · simp only [formatErr_ok, Store.insertAcl] at h
    split_ifs at h
    cases h
    exact aclNodup_setAcl hs fun l hl => by cases hl; decide
  refine Tx.preserves_bind (Tx.preserves_lift _) fun q => ?_
  refine Tx.preserves_bind (Tx.preserves_mapError (preserves_exec (fun s s' q tag hs h => ?_) _))
    fun _ => Tx.preserves_pure _
  intro t c l
  rw [hexec s s' q tag h]
  exact hs t c l

/-- When no grant carries a privilege twice, and the store's CREATE statements leave
system_acl alone, every privilege array of every reachable state is duplicate-free. -/
theorem reachable_aclNodup {execRaw : Store → String → Except GoError (Store × CommandTag)}
    {deparse : List Node → Except GoError String}
    (hexec : ∀ s s' q tag, execRaw s q = .ok (s', tag) → s'.systemAcl = s.systemAcl)
    (h : Reachable execRaw deparse (·.privileges.Nodup) s) : AclNodup s := by
  induction h with
  | init h0 => intro t c l hl; simp [h0] at hl
  | insertTable id controller description createStmt _ ih =>
    exact insertTable_preserves hexec deparse id controller description createStmt _ ih
  | grant tp gs owner hgs _ ih =>
    exact executeGrantStmt_preserves tp gs owner (fun _ _ => aclNodup_upsertAcl hgs)
      (fun _ _ _ => aclNodup_removeAcl) _ ih

theorem revoke_after_insert_nodup :
    (∀ s s' q tag, execNoop s q = .ok (s', tag) → s'.systemAcl = s.systemAcl) ∧
      Reachable execNoop deparseEmpty (·.privileges.Nodup) afterRevoke ∧ AclNodup afterRevoke := by
  have hexec : ∀ s s' q tag, execNoop s q = .ok (s', tag) → s'.systemAcl = s.systemAcl := by
    intro s s' q tag h
    cases h
    rfl
  have hr : Reachable execNoop deparseEmpty (·.privileges.Nodup) afterRevoke :=
    .grant _ _ _ (by decide) (.insertTable 1 "0xowner" "" fooCreateStmt (.init fun _ _ => rfl))
  exact ⟨hexec, hr, reachable_aclNodup hexec hr⟩

end TablelandProofs.Txn.SystemAcl
