import Mathlib.Data.Finset.Basic
import TablelandProofs.Txn.WritePath
import TablelandProofs.Txn.Registry

namespace TablelandProofs.Txn.AclModel

open Tableland Parsing.Ast Parsing.Create Db Processor SystemAcl WritePath Registry

/-- system_acl as the access rules it stands for: each row's privilege array read as a set,
`none` where (table, controller) has no row. -/
def AclSets : Type := TableID → String → Option (Finset String)

namespace AclSets

def update (a : AclSets) (t : TableID) (c : String) (v : Option (Finset String)) : AclSets :=
  fun t' c' => if t' = t ∧ c' = c then v else a t' c'

def grant (t : TableID) (P : Finset String) (a : AclSets) (r : Address) : AclSets :=
  a.update t r.hex (some ((a t r.hex).getD ∅ ∪ P))

def revoke (t : TableID) (P : Finset String) (a : AclSets) (r : Address) : AclSets :=
  a.update t r.hex ((a t r.hex).map (· \ P))

/-- What one statement of a batch that passed does to the rules. -/
def stmt : SugaredMutatingStmt → AclSets → AclSets
  | .grant gs, a =>
    match gs.operation with
    | .opGrant => gs.roles.foldl (grant gs.tableID gs.privileges.toFinset) a
    | .opRevoke => gs.roles.foldl (revoke gs.tableID gs.privileges.toFinset) a
    | _ => a
  | _, a => a

/-- What a batch that passed does to the rules: its statements in order. -/
def batch (mqs : List SugaredMutatingStmt) (a : AclSets) : AclSets :=
  mqs.foldl (fun a m => stmt m a) a

@[simp] theorem update_same (a : AclSets) (t : TableID) (c : String) (v : Option (Finset String)) :
    a.update t c v t c = v := if_pos ⟨rfl, rfl⟩

@[simp] theorem update_update (a : AclSets) (t : TableID) (c : String)
    (v w : Option (Finset String)) : (a.update t c v).update t c w = a.update t c w := by
  funext t' c'
  simp only [update]
  split_ifs <;> rfl

@[simp] theorem update_self (a : AclSets) (t : TableID) (c : String) :
    a.update t c (a t c) = a := by
  funext t' c'
  simp only [update]
  split_ifs with h
  · rw [h.1, h.2]
  · rfl

end AclSets

/-- The abstraction of a store: its system_acl read as sets. -/
def absAcl (s : Store) : AclSets := fun t c => (s.systemAcl t c).map List.toFinset

theorem absAcl_eq_of_systemAcl {s s' : Store} (h : s'.systemAcl = s.systemAcl) :
    absAcl s' = absAcl s := by
  unfold absAcl
  rw [h]

theorem absAcl_setAcl (s : Store) (t : TableID) (c : String) (v : Option (List String)) :
    absAcl (s.setAcl t c v) = (absAcl s).update t c (v.map List.toFinset) := by
  funext t' c'
  simp only [absAcl, Store.setAcl_systemAcl, AclSets.update]
  split_ifs <;> rfl

theorem toFinset_dedup_append (l P : List String) :
    (l ++ P).dedup.toFinset = l.toFinset ∪ P.toFinset := by
  ext
  simp

theorem absAcl_upsertAcl (s : Store) (t : TableID) (r : Address) (P : List String) :
    absAcl (s.upsertAcl t r.hex P) = AclSets.grant t P.toFinset (absAcl s) r := by
  funext t' c'
  simp only [Store.upsertAcl, absAcl, Store.setAcl_systemAcl, AclSets.grant, AclSets.update]
  split_ifs
  · cases s.systemAcl t r.hex <;> simp [toFinset_dedup_append]
  · rfl

theorem absAcl_removeAcl (s : Store) (t : TableID) (c x : String) :
    absAcl (s.removeAcl t c x) = (absAcl s).update t c ((absAcl s t c).map (· \ {x})) := by
  funext t' c'
  simp only [Store.removeAcl, absAcl, Store.setAcl_systemAcl, AclSets.update]
  split_ifs
  · cases s.systemAcl t c <;> simp
    ext y; simp [and_comm]
  · rfl

theorem absAcl_revokeRole (t : TableID) (r : Address) :
    ∀ (P : List String) (s : Store),
      absAcl (revokeRole t P s r) = AclSets.revoke t P.toFinset (absAcl s) r
  | [], s => by simp [revokeRole, AclSets.revoke]
  | x :: P, s => by
    rw [show revokeRole t (x :: P) s r = revokeRole t P (s.removeAcl t r.hex x) r from rfl,
      absAcl_revokeRole t r P, absAcl_removeAcl]
    have hc : ((· \ P.toFinset) ∘ (· \ {x}) : Finset String → Finset String) =
        (· \ (x :: P).toFinset) := funext fun A => by ext; simp [and_assoc]
    simp only [AclSets.revoke, AclSets.update_same, AclSets.update_update, Option.map_map, hc]

theorem absAcl_foldl {f : Store → Address → Store} {g : AclSets → Address → AclSets}
    (h : ∀ s r, absAcl (f s r) = g (absAcl s) r) :
    ∀ (roles : List Address) (s : Store), absAcl (roles.foldl f s) = roles.foldl g (absAcl s)
  | [], _ => rfl
  | r :: roles, s => by rw [List.foldl_cons, List.foldl_cons, absAcl_foldl h roles, h]

variable {tp : TblTxnProcessor} {execRaw : Store → String → Except GoError (Store × CommandTag)}
  {caller : Address}

theorem executeGrantStmt_absAcl {gs : SugaredGrantStmt} {s : Store}
    (h : (executeGrantStmt tp gs caller s).1 = .ok ()) :
    absAcl (executeGrantStmt tp gs caller s).2 = AclSets.stmt (.grant gs) (absAcl s) := by
  have hown := executeGrantStmt_ok h
  rw [executeGrantStmt_owner hown] at h ⊢
  obtain ⟨t, p, op, roles, P⟩ := gs
  cases op with
  | opGrant =>
    simp only [grantRoles_grant]
    exact absAcl_foldl (fun s r => absAcl_upsertAcl s t r P) roles s
  | opRevoke =>
    simp only [grantRoles_revoke]
    exact absAcl_foldl (fun s r => absAcl_revokeRole t r P s) roles s
  | _ =>
    cases roles with
    | nil => rfl
    | cons r roles => simp [grantRoles, Tx.bind_apply, Tx.throw] at h

section Frame

variable {P : Store → Prop}

theorem executeWriteStmt_preserves (hexec : ∀ s s' q tag, P s → execRaw s q = .ok (s', tag) → P s')
    (ws : SugaredWriteStmt) (c₀ : Nat) :
    Tx.Preserves P (executeWriteStmt tp execRaw ws caller c₀) := by
  refine Tx.preserves_bind Tx.preserves_get fun _ => Tx.preserves_bind (Tx.preserves_lift _)
    fun _ => Tx.preserves_bind (Tx.preserves_lift _) fun _ =>
      Tx.preserves_bind (Tx.preserves_mapError (preserves_exec hexec _)) fun _ => ?_
  split
  · dsimp only
    split
    · exact Tx.preserves_throw _
    · exact Tx.preserves_pure _
  · exact Tx.preserves_pure _

theorem execWriteQueries_preserves (hset : ∀ s t c v, P s → P (s.setAcl t c v))
    (hexec : ∀ s s' q tag, P s → execRaw s q = .ok (s', tag) → P s')
    (tableIDString : TableID → String) (mqueries : List SugaredMutatingStmt) :
    Tx.Preserves P (execWriteQueries tp execRaw tableIDString caller mqueries) := by
  have hloop : ∀ dbName c₀ mqs, Tx.Preserves P (execWriteLoop tp execRaw caller dbName c₀ mqs) := by
    intro dbName c₀ mqs
    induction mqs with
    | nil => exact Tx.preserves_pure _
    | cons mq mqs ih =>
      cases mq <;> simp only [execWriteLoop] <;> split <;>
        refine Tx.preserves_bind ?_ fun _ => Tx.preserves_bind ?_ fun _ => ih
      all_goals first
        | exact Tx.preserves_throw _
        | exact Tx.preserves_pure _
        | exact Tx.preserves_mapError (executeGrantStmt_preserves tp _ caller
            (fun s _ hs => hset _ _ _ _ hs) fun s _ _ hs => hset _ _ _ _ hs)
        | exact Tx.preserves_mapError (executeWriteStmt_preserves hexec _ c₀)
  refine Tx.preserves_mapError (preserves_beginFunc ?_)
  cases mqueries with
  | nil => exact Tx.preserves_pure _
  | cons mq mqs =>
    exact Tx.preserves_bind Tx.preserves_get fun _ => Tx.preserves_bind (Tx.preserves_lift _)
      fun _ => hloop _ _ _

end Frame

theorem execWriteLoop_absAcl
    (hacl : ∀ s s' q tag, execRaw s q = .ok (s', tag) → s'.systemAcl = s.systemAcl)
    {dbName : String} {c₀ : Nat} :
    ∀ {mqs : List SugaredMutatingStmt} {s : Store},
      (execWriteLoop tp execRaw caller dbName c₀ mqs s).1 = .ok () →
        absAcl (execWriteLoop tp execRaw caller dbName c₀ mqs s).2 = AclSets.batch mqs (absAcl s)
  | [], _, _ => rfl
  | mq :: mqs, s, h => by
    simp only [execWriteLoop] at h ⊢
    split at h
    · obtain ⟨_, h, -⟩ := Tx.bind_ok h
      cases h
    next hp =>
      rw [if_neg hp]
      obtain ⟨_, hu, h⟩ := Tx.bind_ok h
      rw [Tx.bind_of_ok hu, Tx.pure_apply]
      rw [Tx.pure_apply] at h
      cases mq with
      | grant gs =>
        dsimp only at h ⊢
        obtain ⟨_, hg, h⟩ := Tx.bind_ok h
        rw [Tx.bind_of_ok hg, execWriteLoop_absAcl hacl h, Tx.mapError_snd,
          executeGrantStmt_absAcl (Tx.mapError_ok hg)]
        rfl
      | write ws =>
        dsimp only at h ⊢
        obtain ⟨_, hw, h⟩ := Tx.bind_ok h
        rw [Tx.bind_of_ok hw, execWriteLoop_absAcl hacl h, Tx.mapError_snd]
        have hf : (executeWriteStmt tp execRaw ws caller c₀ s).2.systemAcl = s.systemAcl :=
          executeWriteStmt_preserves (fun s s' q tag hs h => (hacl s s' q tag h).trans hs) ws c₀
            s rfl
        rw [absAcl_eq_of_systemAcl hf]
        rfl
      | other =>
        obtain ⟨_, h, -⟩ := Tx.bind_ok h
        cases h

theorem execWriteQueries_absAcl
    (hacl : ∀ s s' q tag, execRaw s q = .ok (s', tag) → s'.systemAcl = s.systemAcl)
    {tableIDString : TableID → String} {mqueries : List SugaredMutatingStmt} {s : Store}
    (h : (execWriteQueries tp execRaw tableIDString caller mqueries s).1 = .ok ()) :
    absAcl (execWriteQueries tp execRaw tableIDString caller mqueries s).2 =
      AclSets.batch mqueries (absAcl s) := by
  have hb := beginFunc_ok (Tx.mapError_ok h)
  unfold execWriteQueries
  rw [Tx.mapError_snd, beginFunc_snd_of_ok (Tx.mapError_ok h)]
  cases mqueries with
  | nil => rfl
  | cons mq mqs =>
    obtain ⟨_, hs, hb⟩ := Tx.bind_ok hb
    cases hs
    obtain ⟨⟨dbName, c₀⟩, hl, hb⟩ := Tx.bind_ok hb
    dsimp only
    rw [Tx.bind_of_ok rfl, Tx.bind_of_ok hl]
    exact execWriteLoop_absAcl hacl hb

/-- ExecWriteQueries refines the set-level batch. A call that returns nil leaves system_acl,
read as sets, as the grants and revokes of the batch make it, statement after statement
and role after role, its writes changing nothing; a call that fails leaves the whole
store as it was. -/
theorem execWriteQueries_refines (tp : TblTxnProcessor) (tableIDString : TableID → String)
    (caller : Address) (mqueries : List SugaredMutatingStmt) (s : Store)
    (hacl : ∀ s s' q tag, execRaw s q = .ok (s', tag) → s'.systemAcl = s.systemAcl) :
    ((execWriteQueries tp execRaw tableIDString caller mqueries s).1 = .ok () →
      absAcl (execWriteQueries tp execRaw tableIDString caller mqueries s).2 =
        AclSets.batch mqueries (absAcl s)) ∧
    (∀ e, (execWriteQueries tp execRaw tableIDString caller mqueries s).1 = .error e →
      (execWriteQueries tp execRaw tableIDString caller mqueries s).2 = s) :=
  ⟨execWriteQueries_absAcl hacl, fun _ h => savepoint_error_keeps_store h⟩

theorem grant_twice_refines :
    (∀ s s' q tag, execNoop s q = .ok (s', tag) → s'.systemAcl = s.systemAcl) ∧
    (execWriteQueries ⟨0, allowAll⟩ execNoop toString ⟨"0xowner"⟩ [.grant grantInsertTwice]
      insertFoo.2).1 = .ok () ∧
    absAcl (execWriteQueries ⟨0, allowAll⟩ execNoop toString ⟨"0xowner"⟩ [.grant grantInsertTwice]
      insertFoo.2).2 = AclSets.batch [.grant grantInsertTwice] (absAcl insertFoo.2) :=
  have hacl : ∀ s s' q tag, execNoop s q = .ok (s', tag) → s'.systemAcl = s.systemAcl :=
    fun _ _ _ _ h => (execNoop_frame _ _ _ _ h).2
  have hok : (execWriteQueries ⟨0, allowAll⟩ execNoop toString ⟨"0xowner"⟩
      [.grant grantInsertTwice] insertFoo.2).1 = .ok () := rfl
  ⟨hacl, hok, (execWriteQueries_refines ⟨0, allowAll⟩ toString ⟨"0xowner"⟩
    [.grant grantInsertTwice] insertFoo.2 hacl).1 hok⟩

namespace AclSets

theorem update_apply_of_ne {a : AclSets} {t t' : TableID} {c c' : String}
    {v : Option (Finset String)} (h : ¬(t' = t ∧ c' = c)) : a.update t c v t' c' = a t' c' :=
  if_neg h

theorem foldl_apply_of_frame {g : AclSets → Address → AclSets} {t : TableID} {c : String} :
    ∀ {rs : List Address} {a : AclSets}, (∀ a, ∀ r ∈ rs, g a r t c = a t c) →
      rs.foldl g a t c = a t c
  | [], _, _ => rfl
  | r :: _, a, h =>
    (foldl_apply_of_frame fun a' r' hr' => h a' r' (List.mem_cons_of_mem r hr')).trans
      (h a r (List.mem_cons_self r _))

theorem stmt_apply_of_not_named {m : SugaredMutatingStmt} {t : TableID} {c : String}
    (hn : ∀ gs, m = .grant gs → gs.tableID = t → ∀ r ∈ gs.roles, r.hex ≠ c) (a : AclSets) :
    stmt m a t c = a t c := by
  cases m with
  | grant gs =>
    have hf : ∀ r ∈ gs.roles, ¬(t = gs.tableID ∧ c = r.hex) :=
      fun r hr ⟨h₁, h₂⟩ => hn gs rfl h₁.symm r hr h₂.symm
    simp only [stmt]
    cases gs.operation <;>
      first | rfl | exact foldl_apply_of_frame fun a r hr => update_apply_of_ne (hf r hr)
  | write | other => rfl

theorem batch_apply_of_not_named {t : TableID} {c : String} :
    ∀ {mqs : List SugaredMutatingStmt}, (∀ gs, .grant gs ∈ mqs → gs.tableID = t →
      ∀ r ∈ gs.roles, r.hex ≠ c) → ∀ a : AclSets, batch mqs a t c = a t c
  | [], _, _ => rfl
  | m :: _, hn, a =>
    (batch_apply_of_not_named (fun gs hg => hn gs (List.mem_cons_of_mem m hg)) (stmt m a)).trans
      (stmt_apply_of_not_named (fun gs hm => hn gs (hm ▸ List.mem_cons_self _ _)) a)

/-- `b` keeps every rule of `a`: each row of `a` is in `b`, with at least its privileges. -/
def Keeps (b a : AclSets) : Prop :=
  ∀ t c P, a t c = some P → ∃ Q, b t c = some Q ∧ P ⊆ Q

theorem Keeps.refl (a : AclSets) : Keeps a a := fun _ _ P h => ⟨P, h, subset_rfl⟩

theorem Keeps.trans {a b d : AclSets} (h₁ : Keeps d b) (h₂ : Keeps b a) : Keeps d a :=
  fun t c P h => by
    obtain ⟨Q, hQ, hPQ⟩ := h₂ t c P h
    obtain ⟨R, hR, hQR⟩ := h₁ t c Q hQ
    exact ⟨R, hR, hPQ.trans hQR⟩

theorem keeps_grant (t : TableID) (P : Finset String) (a : AclSets) (r : Address) :
    Keeps (grant t P a r) a := fun t' c' Q h => by
  unfold grant update
  split_ifs with he
  · obtain ⟨rfl, rfl⟩ := he
    exact ⟨_, rfl, by simp [h]⟩
  · exact ⟨Q, h, subset_rfl⟩

theorem keeps_foldl_grant (t : TableID) (P : Finset String) :
    ∀ (rs : List Address) (a : AclSets), Keeps (rs.foldl (grant t P) a) a
  | [], a => Keeps.refl a
  | r :: rs, a => (keeps_foldl_grant t P rs _).trans (keeps_grant t P a r)

theorem keeps_batch :
    ∀ {mqs : List SugaredMutatingStmt}, (∀ gs, .grant gs ∈ mqs → gs.operation ≠ .opRevoke) →
      ∀ a : AclSets, Keeps (batch mqs a) a
  | [], _, a => Keeps.refl a
  | m :: _, hn, a => by
    refine (keeps_batch (fun gs hg => hn gs (List.mem_cons_of_mem m hg)) (stmt m a)).trans ?_
    cases m with
    | grant gs =>
      have hr := hn gs (List.mem_cons_self _ _)
      simp only [stmt]
      split
      · exact keeps_foldl_grant _ _ _ a
      · contradiction
      · exact Keeps.refl a
    | write | other => exact Keeps.refl a

end AclSets

/-- What a batch of ExecWriteQueries that returns nil never does to system_acl, its
privilege arrays read as sets. It leaves alone every row (table, role) that none of its
grant or revoke statements names, and a batch with no revoke takes no privilege away from
any row. -/
theorem execWriteQueries_acl_frame (tp : TblTxnProcessor) (tableIDString : TableID → String)
    (caller : Address) (mqueries : List SugaredMutatingStmt) (s : Store)
    (hacl : ∀ s s' q tag, execRaw s q = .ok (s', tag) → s'.systemAcl = s.systemAcl)
    (h : (execWriteQueries tp execRaw tableIDString caller mqueries s).1 = .ok ()) :
    (∀ t c, (∀ gs, .grant gs ∈ mqueries → gs.tableID = t → ∀ r ∈ gs.roles, r.hex ≠ c) →
      absAcl (execWriteQueries tp execRaw tableIDString caller mqueries s).2 t c =
        absAcl s t c) ∧
    ((∀ gs, .grant gs ∈ mqueries → gs.operation ≠ .opRevoke) →
      ∀ t c ps, s.systemAcl t c = some ps → ∃ ps',
        (execWriteQueries tp execRaw tableIDString caller mqueries s).2.systemAcl t c = some ps' ∧
          ∀ p ∈ ps, p ∈ ps') := by
  have he := execWriteQueries_absAcl hacl h
  refine ⟨fun t c hn => he ▸ AclSets.batch_apply_of_not_named hn _, fun hn t c ps hs => ?_⟩
  obtain ⟨Q, hQ, hsub⟩ := AclSets.keeps_batch hn (absAcl s) t c ps.toFinset (by simp [absAcl, hs])
  rw [← he] at hQ
  obtain ⟨ps', hps', rfl⟩ := Option.map_eq_some'.1 hQ
  exact ⟨ps', hps', fun p hp => List.mem_toFinset.1 (hsub (List.mem_toFinset.2 hp))⟩

theorem grant_keeps_owner_rules :
    (∀ s s' q tag, execNoop s q = .ok (s', tag) → s'.systemAcl = s.systemAcl) ∧
    (execWriteQueries ⟨0, allowAll⟩ execNoop toString ⟨"0xowner"⟩ [.grant grantInsertTwice]
      insertFoo.2).1 = .ok () ∧
    absAcl (execWriteQueries ⟨0, allowAll⟩ execNoop toString ⟨"0xowner"⟩ [.grant grantInsertTwice]
      insertFoo.2).2 1 "0xowner" = absAcl insertFoo.2 1 "0xowner" :=
  have hacl : ∀ s s' q tag, execNoop s q = .ok (s', tag) → s'.systemAcl = s.systemAcl :=
    fun _ _ _ _ h => (execNoop_frame _ _ _ _ h).2
  have hok : (execWriteQueries ⟨0, allowAll⟩ execNoop toString ⟨"0xowner"⟩
      [.grant grantInsertTwice] insertFoo.2).1 = .ok () := rfl
  ⟨hacl, hok, (execWriteQueries_acl_frame ⟨0, allowAll⟩ toString ⟨"0xowner"⟩
    [.grant grantInsertTwice] insertFoo.2 hacl hok).1 1 "0xowner"
      (by simp [grantInsertTwice])⟩

section Run

variable {deparse : List Node → Except GoError String} {id : TableID}
  {controller description : String} {createStmt : CreateStmt} {s : Store}

/-- InsertTable refines the set-level registration: a call that returns nil appends the
table's row under an id not registered before and gives its controller, who had no rules
on it, the set a, w, d; a call that fails leaves the store as it was. -/
theorem insertTable_refines (hexec : LeavesSystemTables execRaw) :
    ((insertTable execRaw deparse id controller description createStmt s).1 = .ok () →
      id ∉ s.registry.map (·.id) ∧ s.systemAcl id controller = none ∧
      (insertTable execRaw deparse id controller description createStmt s).2.registry =
        s.registry ++ [⟨id, controller, getNamePrefix createStmt, getStructureHash createStmt,
          description⟩] ∧
      absAcl (insertTable execRaw deparse id controller description createStmt s).2 =
        (absAcl s).update id controller (some {"a", "w", "d"})) ∧
    (∀ e, (insertTable execRaw deparse id controller description createStmt s).1 = .error e →
      (insertTable execRaw deparse id controller description createStmt s).2 = s) := by
  refine ⟨fun h => ?_, fun _ h => savepoint_error_keeps_store h⟩
  obtain ⟨hid, hr, ha⟩ := insertTable_ok hexec h
  refine ⟨hid, (insertTable_run h).2.1, hr, ?_⟩
  rw [absAcl_eq_of_systemAcl ha, absAcl_setAcl]
  rfl

/-- The runs of the set-level model from an empty registry: a table is registered under a
fresh id with the rules a, w, d for its controller, or a batch passes. -/
inductive AbsRun : List RegistryRow → AclSets → Prop
  | init : AbsRun [] fun _ _ => none
  | insertTable {reg : List RegistryRow} {a : AclSets} (row : RegistryRow) :
      row.id ∉ reg.map (·.id) → a row.id row.controller = none → AbsRun reg a →
      AbsRun (reg ++ [row]) (a.update row.id row.controller (some {"a", "w", "d"}))
  | batch {reg : List RegistryRow} {a : AclSets} (mqs : List SugaredMutatingStmt) :
      AbsRun reg a → AbsRun reg (AclSets.batch mqs a)

theorem execWriteQueries_registry (hexec : LeavesSystemTables execRaw) (tp : TblTxnProcessor)
    (tableIDString : TableID → String) (caller : Address) (mqueries : List SugaredMutatingStmt)
    (s : Store) : (execWriteQueries tp execRaw tableIDString caller mqueries s).2.registry =
      s.registry :=
  execWriteQueries_preserves (P := (·.registry = s.registry)) (fun _ _ _ _ h => h)
    (fun _ _ _ _ hs h => (hexec _ _ _ _ h).1.trans hs) tableIDString mqueries s rfl

/-- The processor refines the set-level model over whole runs: every store reached from an
empty registry by calls of InsertTable and ExecWriteQueries, in any order and whether they
pass or fail, has the registry and the system_acl sets of a run of the model. -/
theorem run_refines (hexec : LeavesSystemTables execRaw) (h : Run execRaw deparse s) :
    AbsRun s.registry (absAcl s) := by
  have hacl : ∀ s s' q tag, execRaw s q = .ok (s', tag) → s'.systemAcl = s.systemAcl :=
    fun s s' q tag h => (hexec s s' q tag h).2
  induction h with
  | @init s h₁ h₂ =>
    have h₀ : absAcl s = fun _ _ => none := by
      funext t c
      simp [absAcl, h₂]
    rw [h₁, h₀]
    exact .init
  | @insertTable s id controller description createStmt _ ih =>
    cases hr : (insertTable execRaw deparse id controller description createStmt s).1 with
    | error e =>
      rw [(insertTable_refines hexec).2 e hr]
      exact ih
    | ok u =>
      obtain ⟨hid, hnone, hreg, habs⟩ := (insertTable_refines hexec).1 hr
      rw [hreg, habs]
      exact .insertTable _ hid (congrArg (Option.map List.toFinset) hnone) ih
  | @execWriteQueries s tp tableIDString caller mqueries _ ih =>
    rw [execWriteQueries_registry hexec]
    cases hr : (execWriteQueries tp execRaw tableIDString caller mqueries s).1 with
    | error e =>
      have hkeep : (execWriteQueries tp execRaw tableIDString caller mqueries s).2 = s :=
        savepoint_error_keeps_store hr
      rw [hkeep]
      exact ih
    | ok u =>
      rw [execWriteQueries_absAcl hacl hr]
      exact .batch mqueries ih

theorem insert_grant_refines :
    LeavesSystemTables execNoop ∧ Run execNoop deparseEmpty insertGrantRun ∧
      AbsRun insertGrantRun.registry (absAcl insertGrantRun) :=
  have hr : Run execNoop deparseEmpty insertGrantRun :=
    .execWriteQueries _ _ _ _ (.insertTable _ _ _ _ (.init rfl fun _ _ => rfl))
  ⟨execNoop_frame, hr, run_refines execNoop_frame hr⟩

end Run

end TablelandProofs.Txn.AclModel
