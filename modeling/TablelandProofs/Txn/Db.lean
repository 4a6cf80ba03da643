import TablelandProofs.Tableland
import Mathlib.Data.List.Dedup

namespace TablelandProofs.Txn.Db

open Tableland

structure RegistryRow where
  id : TableID
  controller : String
  name : String
  structure_ : String
  description : String
  deriving DecidableEq, Repr

/-- A row of system_acl; (tableId, controller) is its primary key. -/
structure AclRow where
  tableId : TableID
  controller : String
  privileges : List String
  deriving DecidableEq, Repr

/-- The database inside the batch's transaction: the registry, system_acl by its primary
key (table_id, controller), and the row count of every user relation. -/
structure Store where
  registry : List RegistryRow
  systemAcl : TableID → String → Option (List String)
  tables : List (String × Nat)

structure CommandTag where
  insert : Bool
  rowsAffected : Nat
  deriving DecidableEq, Repr

def uniqueViolation : GoError := .new "ERROR: duplicate key value violates unique constraint"

namespace Store

def rowCount (s : Store) (relname : String) : Option Nat := s.tables.lookup relname

def registryName (s : Store) (id : TableID) : Option String :=
  (s.registry.find? (·.id == id)).map (·.name)

def setAcl (s : Store) (tableId : TableID) (controller : String) (v : Option (List String)) :
    Store :=
  { s with systemAcl := fun t c => if t = tableId ∧ c = controller then v else s.systemAcl t c }

@[simp] theorem setAcl_systemAcl (s : Store) (tableId : TableID) (controller : String)
    (v : Option (List String)) (t : TableID) (c : String) :
    (s.setAcl tableId controller v).systemAcl t c =
      if t = tableId ∧ c = controller then v else s.systemAcl t c := rfl

@[simp] theorem setAcl_tables (s : Store) (tableId : TableID) (controller : String)
    (v : Option (List String)) : (s.setAcl tableId controller v).tables = s.tables := rfl

@[simp] theorem setAcl_registry (s : Store) (tableId : TableID) (controller : String)
    (v : Option (List String)) : (s.setAcl tableId controller v).registry = s.registry := rfl

/-- INSERT INTO registry: the primary key is id. -/
def insertRegistry (s : Store) (row : RegistryRow) : Except GoError Store :=
  if s.registry.any (·.id == row.id) then throw uniqueViolation
  else pure { s with registry := s.registry ++ [row] }

theorem insertRegistry_ok {s s' : Store} {row : RegistryRow} :
    s.insertRegistry row = .ok s' ↔
      row.id ∉ s.registry.map (·.id) ∧ s' = { s with registry := s.registry ++ [row] } := by
  have hmem : s.registry.any (·.id == row.id) ↔ row.id ∈ s.registry.map (·.id) := by
    simp
  unfold insertRegistry
  split_ifs with h
  · simp [hmem.1 h]
  · simp [← hmem, h, eq_comm]

def insertAcl (s : Store) (row : AclRow) : Except GoError Store :=
  if (s.systemAcl row.tableId row.controller).isSome then throw uniqueViolation
  else pure (s.setAcl row.tableId row.controller (some row.privileges))

theorem insertAcl_ok {s s' : Store} {row : AclRow} :
    s.insertAcl row = .ok s' ↔
      s.systemAcl row.tableId row.controller = none ∧
        s' = s.setAcl row.tableId row.controller (some row.privileges) := by
  unfold insertAcl
  cases s.systemAcl row.tableId row.controller <;> simp [eq_comm]

/-- The grant upsert: INSERT ... ON CONFLICT (table_id, controller) DO UPDATE SET
privileges = ARRAY(SELECT DISTINCT UNNEST(privileges || $3) ...). A new row takes the
array as given. SELECT DISTINCT has no order, which no result below depends on. -/
def upsertAcl (s : Store) (tableId : TableID) (controller : String)
    (privileges : List String) : Store :=
  s.setAcl tableId controller <| some <|
    match s.systemAcl tableId controller with
    | some old => (old ++ privileges).dedup
    | none => privileges

/-- UPDATE system_acl SET privileges = array_remove(privileges, $3) WHERE ...; no row
matches when the entry is absent. -/
def removeAcl (s : Store) (tableId : TableID) (controller : String) (privAbbr : String) :
    Store :=
  s.setAcl tableId controller ((s.systemAcl tableId controller).map (·.filter (· != privAbbr)))

end Store

/-- A computation inside the batch's transaction: the store is kept on error, as the
transaction keeps the effects of the statements run before the failing one. -/
def Tx (α : Type) : Type := Store → Except GoError α × Store

namespace Tx

def pure {α : Type} (a : α) : Tx α := fun s => (.ok a, s)

def bind {α β : Type} (x : Tx α) (f : α → Tx β) : Tx β := fun s =>
  match x s with
  | (.ok a, s') => f a s'
  | (.error e, s') => (.error e, s')

instance : Monad Tx where
  pure := Tx.pure
  bind := Tx.bind

def get : Tx Store := fun s => (.ok s, s)

def set (s : Store) : Tx Unit := fun _ => (.ok (), s)

def lift {α : Type} (x : Except GoError α) : Tx α := fun s => (x, s)

def throw {α : Type} (e : GoError) : Tx α := fun s => (.error e, s)

/-- Runs a statement that changes the store, or fails and leaves it as it is. -/
def update (f : Store → Except GoError Store) : Tx Unit := fun s =>
  match f s with
  | .ok s' => (.ok (), s')
  | .error e => (.error e, s)

def mapError {α : Type} (f : GoError → GoError) (x : Tx α) : Tx α := fun s =>
  ((x s).1.mapError f, (x s).2)

@[simp] theorem pure_apply {α : Type} (a : α) (s : Store) : (Pure.pure a : Tx α) s = (.ok a, s) :=
  rfl

theorem bind_apply {α β : Type} (x : Tx α) (f : α → Tx β) (s : Store) :
    (x >>= f) s = match x s with
      | (.ok a, s') => f a s'
      | (.error e, s') => (.error e, s') := rfl

theorem bind_assoc {α β γ : Type} (x : Tx α) (f : α → Tx β) (g : β → Tx γ) :
    (x >>= f >>= g) = x >>= fun a => f a >>= g := by
  funext s
  simp only [bind_apply]
  rcases x s with ⟨_ | _, _⟩ <;> rfl

@[simp] theorem mapError_snd {α : Type} (f : GoError → GoError) (x : Tx α) (s : Store) :
    (mapError f x s).2 = (x s).2 := rfl

theorem mapError_fst_error {α : Type} {f : GoError → GoError} {x : Tx α} {s : Store}
    {e : GoError} (h : (mapError f x s).1 = .error e) : ∃ e', (x s).1 = .error e' := by
  simp only [mapError] at h
  cases hx : (x s).1 <;> simp_all [Except.mapError]

@[simp] theorem lift_apply {α : Type} (x : Except GoError α) (s : Store) : lift x s = (x, s) :=
  rfl

theorem bind_ok {α β : Type} {x : Tx α} {f : α → Tx β} {s : Store} {b : β}
    (h : ((x >>= f) s).1 = .ok b) : ∃ a, (x s).1 = .ok a ∧ (f a (x s).2).1 = .ok b := by
  rw [bind_apply] at h
  split at h
  next a s' hx => exact ⟨a, by rw [hx], by rw [hx]; exact h⟩
  next => cases h

theorem bind_of_ok {α β : Type} {x : Tx α} {f : α → Tx β} {s : Store} {a : α}
    (h : (x s).1 = .ok a) : (x >>= f) s = f a (x s).2 := by
  rw [bind_apply]
  cases hx : x s with
  | mk r s' =>
    rw [hx] at h
    cases h
    rfl

theorem update_ok {f : Store → Except GoError Store} {s : Store} (h : (update f s).1 = .ok ()) :
    ∃ s', f s = .ok s' ∧ (update f s).2 = s' := by
  simp only [update] at h ⊢
  split at h
  next s' hf => exact ⟨s', hf, rfl⟩
  next => cases h

theorem mapError_ok {α : Type} {f : GoError → GoError} {x : Tx α} {s : Store} {a : α}
    (h : (mapError f x s).1 = .ok a) : (x s).1 = .ok a := by
  simp only [mapError] at h
  cases hx : (x s).1 <;> simp_all [Except.mapError]

end Tx

/-- Tx.BeginFunc: runs `f` under a savepoint, rolled back when `f` fails. -/
def beginFunc (f : Tx Unit) : Tx Unit := fun s =>
  match f s with
  | (.ok (), s') => (.ok (), s')
  | (.error e, _) => (.error e, s)

theorem beginFunc_error {f : Tx Unit} {s : Store} {e : GoError}
    (h : (beginFunc f s).1 = .error e) : (beginFunc f s).2 = s := by
  unfold beginFunc at h ⊢
  split <;> simp_all

namespace Tx

/-- Running `x` from a store where `P` holds ends in a store where `P` holds, whether `x`
succeeds or fails. -/
def Preserves {α : Type} (P : Store → Prop) (x : Tx α) : Prop := ∀ s, P s → P (x s).2

section Preserves

variable {P : Store → Prop}

theorem preserves_pure {α : Type} (a : α) : Preserves P (Pure.pure a : Tx α) := fun _ h => h

theorem preserves_bind {α β : Type} {x : Tx α} {f : α → Tx β} (hx : Preserves P x)
    (hf : ∀ a, Preserves P (f a)) : Preserves P (x >>= f) := by
  intro s hs
  rw [bind_apply]
  have := hx s hs
  split <;> simp_all [hf _ _]

theorem preserves_get : Preserves P get := fun _ h => h

theorem preserves_lift {α : Type} (x : Except GoError α) : Preserves P (lift x) := fun _ h => h

theorem preserves_throw {α : Type} (e : GoError) : Preserves P (throw e : Tx α) := fun _ h => h

theorem preserves_mapError {α : Type} {f : GoError → GoError} {x : Tx α} (hx : Preserves P x) :
    Preserves P (mapError f x) := hx

theorem preserves_update {f : Store → Except GoError Store}
    (hf : ∀ s s', P s → f s = .ok s' → P s') : Preserves P (update f) := by
  intro s hs
  simp only [update]
  split
  · exact hf _ _ hs ‹_›
  · exact hs

end Preserves

end Tx

theorem beginFunc_ok {f : Tx Unit} {s : Store} (h : (beginFunc f s).1 = .ok ()) :
    (f s).1 = .ok () := by
  unfold beginFunc at h
  split at h
  next s' hf => rw [hf]
  next => cases h

theorem beginFunc_snd_of_ok {f : Tx Unit} {s : Store} (h : (beginFunc f s).1 = .ok ()) :
    (beginFunc f s).2 = (f s).2 := by
  unfold beginFunc at h ⊢
  split at h
  next s' hf => rw [hf]
  next => cases h

namespace Tx

/-- Every error that `x` can end with satisfies `Q`. -/
def FailsWith {α : Type} (Q : GoError → Prop) (x : Tx α) : Prop :=
  ∀ s e, (x s).1 = .error e → Q e

section FailsWith

variable {Q : GoError → Prop}

theorem failsWith_true {α : Type} (x : Tx α) : FailsWith (fun _ => True) x := fun _ _ _ => trivial

theorem failsWith_pure {α : Type} (a : α) : FailsWith Q (Pure.pure a : Tx α) := by
  intro s e h
  cases h

theorem failsWith_bind {α β : Type} {x : Tx α} {f : α → Tx β} (hx : FailsWith Q x)
    (hf : ∀ a, FailsWith Q (f a)) : FailsWith Q (x >>= f) := by
  intro s e h
  rw [bind_apply] at h
  split at h
  next a s' _ => exact hf a s' e h
  next e' s' hx' =>
    cases h
    exact hx s e (by rw [hx'])

theorem failsWith_get : FailsWith Q get := by
  intro s e h
  cases h

theorem failsWith_lift {α : Type} {x : Except GoError α} (hx : ∀ e, x = .error e → Q e) :
    FailsWith Q (lift x) := fun _ e h => hx e h

theorem failsWith_throw {α : Type} {e : GoError} (he : Q e) : FailsWith Q (throw e : Tx α) := by
  intro s e' h
  cases h
  exact he

theorem failsWith_mapError {α : Type} {Q' : GoError → Prop} {f : GoError → GoError} {x : Tx α}
    (hx : FailsWith Q' x) (hf : ∀ e, Q' e → Q (f e)) : FailsWith Q (mapError f x) := by
  intro s e h
  simp only [mapError] at h
  cases hx' : (x s).1 with
  | ok a => simp [hx', Except.mapError] at h
  | error e' =>
    simp only [hx', Except.mapError, Except.error.injEq] at h
    exact h ▸ hf e' (hx s e' hx')

end FailsWith

end Tx

theorem failsWith_beginFunc {Q : GoError → Prop} {f : Tx Unit} (hf : Tx.FailsWith Q f) :
    Tx.FailsWith Q (beginFunc f) := by
  intro s e h
  simp only [beginFunc] at h
  split at h
  · cases h
  · next e' s' hf' =>
    cases h
    exact hf s e (by rw [hf'])

theorem preserves_beginFunc {P : Store → Prop} {f : Tx Unit} (hf : Tx.Preserves P f) :
    Tx.Preserves P (beginFunc f) := by
  intro s hs
  simp only [beginFunc]
  split
  · rename_i h; simpa [h] using hf s hs
  · exact hs

end TablelandProofs.Txn.Db
