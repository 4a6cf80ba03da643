import TablelandProofs.Txn.SystemAcl

namespace TablelandProofs.Txn.WritePath

open Tableland Parsing.Ast Parsing.Create Db Processor

/-- What errors.As can find in an error: nothing, or an ErrRowCountExceeded. -/
def RowCountOrUntyped (e : GoError) : Prop :=
  e.as = none ∨ ∃ before after, e.as = some (.rowCountExceeded before after)

theorem rowCountOrUntyped_write (e : GoError) :
    RowCountOrUntyped
      (if isRowCountExceeded e then e else .formatf "executing write stmt: %s" e) := by
  split
  next h =>
    obtain ⟨b, a, rfl⟩ := isRowCountExceeded_iff.1 h
    exact .inr ⟨b, a, rfl⟩
  next => exact .inl (GoError.as_formatf _ _)

variable {tp : TblTxnProcessor} {execRaw : Store → String → Except GoError (Store × CommandTag)}
  {caller : Address}

theorem execWriteLoop_failsWith (dbName : String) (c₀ : Nat) (mqs : List SugaredMutatingStmt) :
    Tx.FailsWith RowCountOrUntyped (execWriteLoop tp execRaw caller dbName c₀ mqs) := by
  induction mqs with
  | nil => exact Tx.failsWith_pure _
  | cons mq mqs ih =>
    have hgrant : ∀ gs, Tx.FailsWith RowCountOrUntyped
        (Tx.mapError (GoError.formatf "executing grant stmt: %s")
          (executeGrantStmt tp gs caller)) :=
      fun _ => Tx.failsWith_mapError (Tx.failsWith_true _) fun e _ => .inl (GoError.as_formatf _ e)
    have hwrite : ∀ ws, Tx.FailsWith RowCountOrUntyped
        (Tx.mapError
          (fun e => if isRowCountExceeded e then e else .formatf "executing write stmt: %s" e)
          (executeWriteStmt tp execRaw ws caller c₀)) :=
      fun _ => Tx.failsWith_mapError (Tx.failsWith_true _) fun e _ => rowCountOrUntyped_write e
    cases mq <;> simp only [execWriteLoop] <;> split <;>
      refine Tx.failsWith_bind ?_ fun _ => Tx.failsWith_bind ?_ fun _ => ih
    all_goals first
      | exact Tx.failsWith_throw (.inl rfl)
      | exact Tx.failsWith_pure _
      | exact hgrant _
      | exact hwrite _

/-- errors.As finds nothing but an ErrRowCountExceeded in an error of ExecWriteQueries,
and nothing at all in an error of InsertTable. -/
theorem batch_errors_as (tp : TblTxnProcessor)
    (execRaw : Store → String → Except GoError (Store × CommandTag))
    (deparse : List Node → Except GoError String) (tableIDString : TableID → String)
    (caller : Address) (mqueries : List SugaredMutatingStmt) (id : TableID)
    (controller description : String) (createStmt : CreateStmt) (s : Store) (e : GoError) :
    ((execWriteQueries tp execRaw tableIDString caller mqueries s).1 = .error e →
      RowCountOrUntyped e) ∧
    ((insertTable execRaw deparse id controller description createStmt s).1 = .error e →
      e.as = none) := by
  refine ⟨fun h => Tx.failsWith_mapError (failsWith_beginFunc (Q := RowCountOrUntyped) ?_)
    (fun e he => ?_) s e h,
    fun h => Tx.failsWith_mapError (Q := (·.as = none)) (Tx.failsWith_true _)
      (fun e _ => GoError.as_formatf _ e) s e h⟩
  · cases mqueries with
    | nil => exact Tx.failsWith_pure _
    | cons mq mqs =>
      exact Tx.failsWith_bind Tx.failsWith_get fun _ => Tx.failsWith_bind
        (Tx.failsWith_lift fun _ h => .inl (as_of_formatErr h))
        fun _ => execWriteLoop_failsWith _ _ _
  · simpa [RowCountOrUntyped] using he

theorem execWriteLoop_append (dbName : String) (c₀ : Nat) (pre rest : List SugaredMutatingStmt) :
    execWriteLoop tp execRaw caller dbName c₀ (pre ++ rest) =
      (execWriteLoop tp execRaw caller dbName c₀ pre >>= fun _ =>
        execWriteLoop tp execRaw caller dbName c₀ rest) := by
  induction pre with
  | nil => rfl
  | cons mq pre ih =>
    simp only [List.cons_append, execWriteLoop]
    split <;> cases mq <;> simp only [List.append_eq, Tx.bind_assoc, ih]

theorem execWriteLoop_append_of_ok {dbName : String} {c₀ : Nat} {pre : List SugaredMutatingStmt}
    {s : Store} (h : (execWriteLoop tp execRaw caller dbName c₀ pre s).1 = .ok ())
    (rest : List SugaredMutatingStmt) :
    execWriteLoop tp execRaw caller dbName c₀ (pre ++ rest) s =
      execWriteLoop tp execRaw caller dbName c₀ rest
        (execWriteLoop tp execRaw caller dbName c₀ pre s).2 := by
  rw [execWriteLoop_append, Tx.bind_of_ok h]

/-- The checks ExecWriteQueries makes of one statement, run on the store `s`, with
`dbName` the registry name of the table of the first one. -/
def StmtChecked (tp : TblTxnProcessor) (caller : Address) (dbName : String) (s : Store) :
    SugaredMutatingStmt → Prop
  | .grant gs =>
    (gs.namePrefix = "" ∨ gs.namePrefix = dbName) ∧ tp.acl.isOwner caller gs.tableID = .ok true
  | .write ws => (ws.namePrefix = "" ∨ ws.namePrefix = dbName) ∧
      tp.acl.checkPrivileges s caller ws.tableID ws.operation = .ok ()
  | .other .. => False

theorem prefix_empty_or_eq {p dbName : String} (h : ¬(p != "" && dbName != p) = true) :
    p = "" ∨ p = dbName := by
  by_cases hp : p = ""
  · exact .inl hp
  · refine .inr (by_contra fun hne => h ?_)
    simp [hp, Ne.symm hne]

theorem prefix_checked {p dbName : String} (h : p = "" ∨ p = dbName) :
    (p != "" && dbName != p) = false := by
  rcases h with rfl | rfl <;> simp

theorem executeGrantStmt_ok {gs : SugaredGrantStmt} {s : Store}
    (h : (executeGrantStmt tp gs caller s).1 = .ok ()) :
    tp.acl.isOwner caller gs.tableID = .ok true := by
  obtain ⟨b, hb, h⟩ := Tx.bind_ok h
  simp only [Tx.lift_apply, formatErr_ok] at hb
  cases b
  · obtain ⟨_, h, -⟩ := Tx.bind_ok h
    cases h
  · exact hb

theorem executeWriteStmt_ok {ws : SugaredWriteStmt} {c₀ : Nat} {s : Store}
    (h : (executeWriteStmt tp execRaw ws caller c₀ s).1 = .ok ()) :
    tp.acl.checkPrivileges s caller ws.tableID ws.operation = .ok () := by
  obtain ⟨_, ⟨⟩, h⟩ := Tx.bind_ok h
  obtain ⟨_, hc, -⟩ := Tx.bind_ok h
  exact (formatErr_ok _ _ _).1 hc

theorem execWriteLoop_head_checked {dbName : String} {c₀ : Nat} {m : SugaredMutatingStmt}
    {rest : List SugaredMutatingStmt} {s : Store}
    (h : (execWriteLoop tp execRaw caller dbName c₀ (m :: rest) s).1 = .ok ()) :
    StmtChecked tp caller dbName s m := by
  simp only [execWriteLoop] at h
  split at h
  · obtain ⟨_, h, -⟩ := Tx.bind_ok h
    cases h
  next hp =>
    obtain ⟨_, -, h⟩ := Tx.bind_ok h
    cases m with
    | grant gs =>
      obtain ⟨_, hg, -⟩ := Tx.bind_ok h
      exact ⟨prefix_empty_or_eq hp, executeGrantStmt_ok (Tx.mapError_ok hg)⟩
    | write ws =>
      obtain ⟨_, hw, -⟩ := Tx.bind_ok h
      exact ⟨prefix_empty_or_eq hp, executeWriteStmt_ok (Tx.mapError_ok hw)⟩
    | other =>
      obtain ⟨_, h, -⟩ := Tx.bind_ok h
      cases h

/-- A call of ExecWriteQueries that returns nil found the table of its first statement in
the registry, and every statement passed its checks against that table's name, on the
store the statements before it left. -/
theorem execWriteQueries_checked {tableIDString : TableID → String} {mq : SugaredMutatingStmt}
    {mqs : List SugaredMutatingStmt} {s : Store}
    (h : (execWriteQueries tp execRaw tableIDString caller (mq :: mqs) s).1 = .ok ()) :
    ∃ dbName c₀, getTableNameAndRowCountByTableID tableIDString s mq.getTableID = .ok (dbName, c₀) ∧
      ∀ pre m post, mq :: mqs = pre ++ m :: post →
        StmtChecked tp caller dbName (execWriteLoop tp execRaw caller dbName c₀ pre s).2 m := by
  obtain ⟨_, ⟨⟩, h⟩ := Tx.bind_ok (beginFunc_ok (Tx.mapError_ok h))
  obtain ⟨⟨dbName, c₀⟩, hl, h⟩ := Tx.bind_ok h
  refine ⟨dbName, c₀, (formatErr_ok _ _ _).1 hl, fun pre m post hb => ?_⟩
  have h : (execWriteLoop tp execRaw caller dbName c₀ (pre ++ m :: post) s).1 = .ok () := hb ▸ h
  rw [execWriteLoop_append] at h
  obtain ⟨_, -, h⟩ := Tx.bind_ok h
  exact execWriteLoop_head_checked h

theorem two_inserts_checked :
    (execWriteQueries ⟨10, allowAll⟩ (insertRows "_1" 1) toString ⟨"0x01"⟩
      [.write insertIntoFoo, .write insertIntoFoo] (fooWithRows 0)).1 = .ok () ∧
    ∃ dbName c₀, getTableNameAndRowCountByTableID toString (fooWithRows 0)
        (SugaredMutatingStmt.write insertIntoFoo).getTableID = .ok (dbName, c₀) ∧
      ∀ pre m post, [SugaredMutatingStmt.write insertIntoFoo, .write insertIntoFoo] =
          pre ++ m :: post →
        StmtChecked ⟨10, allowAll⟩ ⟨"0x01"⟩ dbName
          (execWriteLoop ⟨10, allowAll⟩ (insertRows "_1" 1) ⟨"0x01"⟩ dbName c₀ pre
            (fooWithRows 0)).2 m :=
  have h : (execWriteQueries ⟨10, allowAll⟩ (insertRows "_1" 1) toString ⟨"0x01"⟩
      [.write insertIntoFoo, .write insertIntoFoo] (fooWithRows 0)).1 = .ok () := rfl
  ⟨h, execWriteQueries_checked h⟩

theorem executeWriteStmt_over_cap {ws : SugaredWriteStmt} {c₀ k : Nat} {q : String}
    {s s' : Store} (hacl : tp.acl.checkPrivileges s caller ws.tableID ws.operation = .ok ())
    (hq : ws.desugaredQuery = .ok q) (hx : execRaw s q = .ok (s', ⟨true, k⟩))
    (hm : 0 < tp.maxTableRowCount) (hk : tp.maxTableRowCount < c₀ + k) :
    executeWriteStmt tp execRaw ws caller c₀ s =
      (.error (.typed (.rowCountExceeded c₀ (c₀ + k))), s') := by
  simp [executeWriteStmt, Tx.bind_apply, Tx.get, Tx.lift, Tx.mapError, Tx.throw, exec, hacl, hq,
    hx, hm, hk, Except.mapError]

theorem execWriteLoop_write_error {dbName : String} {c₀ : Nat} {ws : SugaredWriteStmt}
    {rest : List SugaredMutatingStmt} {s s' : Store} {e : GoError}
    (hname : ws.namePrefix = "" ∨ ws.namePrefix = dbName)
    (h : executeWriteStmt tp execRaw ws caller c₀ s = (.error e, s'))
    (he : isRowCountExceeded e = true) :
    execWriteLoop tp execRaw caller dbName c₀ (.write ws :: rest) s = (.error e, s') := by
  simp [execWriteLoop, Tx.bind_apply, Tx.mapError, h, prefix_checked hname, he,
    SugaredMutatingStmt.getNamePrefix, Except.mapError]

/-- For every positive cap, a write statement of a batch that passes its checks, on the
store the statements before it left, and whose INSERT takes the row count read before the
batch past the cap, makes ExecWriteQueries fail with ErrRowCountExceeded{before, after},
which errors.As finds through the %w wrap, and leaves the store as it was. -/
theorem insert_over_cap_fails (tableIDString : TableID → String) (mq : SugaredMutatingStmt)
    (mqs pre post : List SugaredMutatingStmt) (ws : SugaredWriteStmt) (s s'' : Store)
    (dbName q : String) (c₀ k : Nat) (hb : mq :: mqs = pre ++ .write ws :: post)
    (hlook : getTableNameAndRowCountByTableID tableIDString s mq.getTableID = .ok (dbName, c₀))
    (hpre : (execWriteLoop tp execRaw caller dbName c₀ pre s).1 = .ok ())
    (hname : ws.namePrefix = "" ∨ ws.namePrefix = dbName)
    (hacl : tp.acl.checkPrivileges (execWriteLoop tp execRaw caller dbName c₀ pre s).2 caller
      ws.tableID ws.operation = .ok ())
    (hq : ws.desugaredQuery = .ok q)
    (hx : execRaw (execWriteLoop tp execRaw caller dbName c₀ pre s).2 q = .ok (s'', ⟨true, k⟩))
    (hm : 0 < tp.maxTableRowCount) (hk : tp.maxTableRowCount < c₀ + k) :
    execWriteQueries tp execRaw tableIDString caller (mq :: mqs) s =
      (.error (.wrap "running nested txn: %w" (.typed (.rowCountExceeded c₀ (c₀ + k)))), s) := by
  have hloop : execWriteLoop tp execRaw caller dbName c₀ (mq :: mqs) s =
      (.error (.typed (.rowCountExceeded c₀ (c₀ + k))), s'') := by
    rw [hb, execWriteLoop_append_of_ok hpre]
    exact execWriteLoop_write_error hname (executeWriteStmt_over_cap hacl hq hx hm hk) rfl
  rw [execWriteQueries_cons hlook]
  simp only [Tx.mapError, beginFunc, hloop]
  rfl

theorem cap_ten_insert_two_fails :
    ((SugaredMutatingStmt.write insertIntoFoo) :: [] = [] ++ .write insertIntoFoo :: [] ∧
      getTableNameAndRowCountByTableID toString (fooWithRows 9)
        (SugaredMutatingStmt.write insertIntoFoo).getTableID = .ok ("foo", 9) ∧
      (execWriteLoop ⟨10, allowAll⟩ (insertRows "_1" 2) ⟨"0x01"⟩ "foo" 9 [] (fooWithRows 9)).1 =
        .ok () ∧
      (insertIntoFoo.namePrefix = "" ∨ insertIntoFoo.namePrefix = "foo") ∧
      allowAll.checkPrivileges
        (execWriteLoop ⟨10, allowAll⟩ (insertRows "_1" 2) ⟨"0x01"⟩ "foo" 9 [] (fooWithRows 9)).2
        ⟨"0x01"⟩ insertIntoFoo.tableID insertIntoFoo.operation = .ok () ∧
      insertIntoFoo.desugaredQuery = .ok "INSERT INTO _1 ..." ∧
      insertRows "_1" 2
        (execWriteLoop ⟨10, allowAll⟩ (insertRows "_1" 2) ⟨"0x01"⟩ "foo" 9 [] (fooWithRows 9)).2
        "INSERT INTO _1 ..." = .ok (fooWithRows 11, ⟨true, 2⟩) ∧
      0 < 10 ∧ 10 < 9 + 2) ∧
    execWriteQueries ⟨10, allowAll⟩ (insertRows "_1" 2) toString ⟨"0x01"⟩ [.write insertIntoFoo]
      (fooWithRows 9) =
        (.error (.wrap "running nested txn: %w" (.typed (.rowCountExceeded 9 (9 + 2)))),
          fooWithRows 9) :=
  ⟨⟨rfl, rfl, rfl, .inr rfl, rfl, rfl, rfl, by decide, by decide⟩,
    @insert_over_cap_fails ⟨10, allowAll⟩ (insertRows "_1" 2) ⟨"0x01"⟩ toString
      (.write insertIntoFoo) [] [] [] insertIntoFoo (fooWithRows 9) (fooWithRows 11) "foo"
      "INSERT INTO _1 ..." 9 2 rfl rfl rfl (.inr rfl) rfl rfl rfl (by decide) (by decide)⟩

section CapBound

open SystemAcl

variable {R : String}

/-- The database reports the rows it adds to `R`: a statement adds at most the rows its
command tag counts when the tag is an INSERT, and none otherwise. -/
def CountsInserts (execRaw : Store → String → Except GoError (Store × CommandTag))
    (R : String) : Prop :=
  ∀ s s' q tag c, execRaw s q = .ok (s', tag) → s.rowCount R = some c →
    ∃ c', s'.rowCount R = some c' ∧ c' ≤ c + if tag.insert then tag.rowsAffected else 0

theorem executeWriteStmt_rowCount (hm : 0 < tp.maxTableRowCount) (hdb : CountsInserts execRaw R)
    {ws : SugaredWriteStmt} {c₀ c : Nat} {s : Store} (hc : s.rowCount R = some c)
    (h : (executeWriteStmt tp execRaw ws caller c₀ s).1 = .ok ()) :
    ∃ c', (executeWriteStmt tp execRaw ws caller c₀ s).2.rowCount R = some c' ∧
      c' ≤ c + (tp.maxTableRowCount - c₀) := by
  unfold executeWriteStmt at h ⊢
  rw [Tx.bind_of_ok rfl] at h ⊢
  obtain ⟨_, ha, h⟩ := Tx.bind_ok h
  rw [Tx.bind_of_ok ha]
  obtain ⟨q, hq, h⟩ := Tx.bind_ok h
  rw [Tx.bind_of_ok hq]
  obtain ⟨tag, ht, h⟩ := Tx.bind_ok h
  rw [Tx.bind_of_ok ht]
  obtain ⟨s', hx, hs'⟩ := exec_ok (Tx.mapError_ok ht)
  simp only [Tx.lift_apply, Tx.mapError_snd] at hx hs' h ⊢
  rw [hs'] at h ⊢
  obtain ⟨c', hc', hle⟩ := hdb _ _ _ _ _ hx hc
  by_cases hi : (decide (tp.maxTableRowCount > 0) && tag.insert) = true
  · rw [if_pos hi] at h ⊢
    split at h
    · cases h
    next hcap =>
      rw [if_neg hcap]
      simp only [Bool.and_eq_true, decide_eq_true_eq] at hi
      refine ⟨c', hc', ?_⟩
      rw [if_pos hi.2] at hle
      omega
  · rw [if_neg hi]
    simp only [Bool.and_eq_true, decide_eq_true_eq, hm, true_and, Bool.not_eq_true] at hi
    refine ⟨c', hc', ?_⟩
    rw [hi] at hle
    simp at hle
    omega

def writeCount (mqs : List SugaredMutatingStmt) : Nat :=
  mqs.countP fun
    | .write _ => true
    | _ => false

theorem execWriteLoop_rowCount (hm : 0 < tp.maxTableRowCount) (hdb : CountsInserts execRaw R)
    {dbName : String} {c₀ : Nat} :
    ∀ {mqs : List SugaredMutatingStmt} {s : Store} {c : Nat}, s.rowCount R = some c →
      (execWriteLoop tp execRaw caller dbName c₀ mqs s).1 = .ok () →
      ∃ c', (execWriteLoop tp execRaw caller dbName c₀ mqs s).2.rowCount R = some c' ∧
        c' ≤ c + writeCount mqs * (tp.maxTableRowCount - c₀)
  | [], _, c, hc, _ => ⟨c, hc, by simp⟩
  | mq :: mqs, s, c, hc, h => by
    simp only [execWriteLoop] at h ⊢
    split at h
    · obtain ⟨_, h, -⟩ := Tx.bind_ok h
      cases h
    next hp =>
      rw [if_neg hp]
      obtain ⟨_, hu, h⟩ := Tx.bind_ok h
      rw [Tx.bind_of_ok hu, Tx.pure_apply]
      rw [Tx.pure_apply] at h
      cases mq with
      | grant gs =>
        dsimp only at h ⊢
        obtain ⟨_, hg, h⟩ := Tx.bind_ok h
        rw [Tx.bind_of_ok hg]
        have hkeep : (executeGrantStmt tp gs caller s).2.rowCount R = some c :=
          executeGrantStmt_preserves (P := fun s => s.rowCount R = some c) tp gs caller
            (fun _ _ h => h) (fun _ _ _ h => h) s hc
        obtain ⟨c', hc', hle⟩ := execWriteLoop_rowCount hm hdb hkeep h
        exact ⟨c', hc', by simpa [writeCount] using hle⟩
      | write ws =>
        dsimp only at h ⊢
        obtain ⟨_, hw, h⟩ := Tx.bind_ok h
        rw [Tx.bind_of_ok hw]
        obtain ⟨c₁, hc₁, hle₁⟩ := executeWriteStmt_rowCount hm hdb hc (Tx.mapError_ok hw)
        obtain ⟨c', hc', hle⟩ := execWriteLoop_rowCount hm hdb hc₁ h
        refine ⟨c', hc', ?_⟩
        simp only [writeCount, List.countP_cons, ite_true, add_one_mul] at hle ⊢
        omega
      | other =>
        obtain ⟨_, h, -⟩ := Tx.bind_ok h
        cases h

theorem rowCount_of_lookup {tableIDString : TableID → String} {s : Store} {id : TableID}
    {n : String} {c : Nat} (h : getTableNameAndRowCountByTableID tableIDString s id = .ok (n, c)) :
    s.rowCount (countedRelname tableIDString id) = some c := by
  unfold getTableNameAndRowCountByTableID at h
  split at h
  · next hc =>
    cases h
    exact hc
  all_goals cases h

/-- ExecWriteQueries checks its row cap against the row count read before the batch. So a
batch that returns nil can leave the counted relation of its first table above the cap,
but by at most the room that was left before the batch, once for each write statement. -/
theorem execWriteQueries_rowCount_bound (tableIDString : TableID → String)
    (mq : SugaredMutatingStmt) (mqs : List SugaredMutatingStmt) (s : Store)
    (hm : 0 < tp.maxTableRowCount)
    (hdb : CountsInserts execRaw (countedRelname tableIDString mq.getTableID))
    (h : (execWriteQueries tp execRaw tableIDString caller (mq :: mqs) s).1 = .ok ()) :
    ∃ c₀ c', s.rowCount (countedRelname tableIDString mq.getTableID) = some c₀ ∧
      (execWriteQueries tp execRaw tableIDString caller (mq :: mqs) s).2.rowCount
        (countedRelname tableIDString mq.getTableID) = some c' ∧
      c' ≤ c₀ + writeCount (mq :: mqs) * (tp.maxTableRowCount - c₀) := by
  obtain ⟨_, hs, hb⟩ := Tx.bind_ok (beginFunc_ok (Tx.mapError_ok h))
  cases hs
  obtain ⟨⟨dbName, c₀⟩, hl, hb⟩ := Tx.bind_ok hb
  have hc := rowCount_of_lookup ((formatErr_ok _ _ _).1 hl)
  obtain ⟨c', hc', hle⟩ := execWriteLoop_rowCount hm hdb hc hb
  refine ⟨c₀, c', hc, ?_, hle⟩
  unfold execWriteQueries
  rw [Tx.mapError_snd, beginFunc_snd_of_ok (Tx.mapError_ok h)]
  dsimp only
  rw [Tx.bind_of_ok rfl, Tx.bind_of_ok hl]
  exact hc'

end CapBound

theorem lookup_insertRows (rel : String) (k : Nat) : ∀ l : List (String × Nat),
    (l.map fun (r, n) => if r = rel then (r, n + k) else (r, n)).lookup rel =
      (l.lookup rel).map (· + k)
  | [] => rfl
  | (r, n) :: l => by
    by_cases h : r = rel
    · subst h
      rw [List.map_cons]
      dsimp only
      rw [if_pos rfl, List.lookup_cons_self, List.lookup_cons_self]
      rfl
    · rw [List.map_cons]
      dsimp only
      rw [if_neg h]
      have hb : (rel == r) = false := beq_eq_false_iff_ne.2 (Ne.symm h)
      simp only [List.lookup_cons, hb, lookup_insertRows rel k l]

theorem countsInserts_insertRows (rel : String) (k : Nat) : CountsInserts (insertRows rel k) rel := by
  intro s s' q tag c h hc
  cases h
  simp only [Store.rowCount] at hc
  exact ⟨c + k, by simp only [Store.rowCount, lookup_insertRows, hc]; rfl, by simp⟩

theorem two_inserts_at_bound :
    CountsInserts (insertRows "_1" 1)
      (countedRelname toString (SugaredMutatingStmt.write insertIntoFoo).getTableID) ∧
    (execWriteQueries ⟨10, allowAll⟩ (insertRows "_1" 1) toString ⟨"0x01"⟩
      [.write insertIntoFoo, .write insertIntoFoo] (fooWithRows 9)).1 = .ok () ∧
    ∃ c₀ c', (fooWithRows 9).rowCount
        (countedRelname toString (SugaredMutatingStmt.write insertIntoFoo).getTableID) = some c₀ ∧
      (execWriteQueries ⟨10, allowAll⟩ (insertRows "_1" 1) toString ⟨"0x01"⟩
        [.write insertIntoFoo, .write insertIntoFoo] (fooWithRows 9)).2.rowCount
          (countedRelname toString (SugaredMutatingStmt.write insertIntoFoo).getTableID) = some c' ∧
      c' ≤ c₀ + writeCount [.write insertIntoFoo, .write insertIntoFoo] * (10 - c₀) :=
  have hdb : CountsInserts (insertRows "_1" 1)
      (countedRelname toString (SugaredMutatingStmt.write insertIntoFoo).getTableID) :=
    countsInserts_insertRows "_1" 1
  have h : (execWriteQueries ⟨10, allowAll⟩ (insertRows "_1" 1) toString ⟨"0x01"⟩
      [.write insertIntoFoo, .write insertIntoFoo] (fooWithRows 9)).1 = .ok () := rfl
  ⟨hdb, h, execWriteQueries_rowCount_bound toString _ _ _ (by decide) hdb h⟩

end TablelandProofs.Txn.WritePath
