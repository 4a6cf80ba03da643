import Mathlib.Data.List.Basic

namespace TablelandProofs.Tableland

/-- Results of fallible functions compare by constructor and payload, so that checks of
them can be decided. -/
instance decEqExcept {ε α : Type} [DecidableEq ε] [DecidableEq α] : DecidableEq (Except ε α)
  | .error a, .error b =>
    if h : a = b then isTrue (h ▸ rfl) else isFalse fun e => h (by injection e)
  | .ok a, .ok b => if h : a = b then isTrue (h ▸ rfl) else isFalse fun e => h (by injection e)
  | .error _, .ok _ => isFalse nofun
  | .ok _, .error _ => isFalse nofun

section Bind

variable {ε α β : Type} {x : Except ε α} {f : α → Except ε β}

@[simp] theorem pure_eq_ok (a : α) : (pure a : Except ε α) = .ok a := rfl

@[simp] theorem ok_bind (a : α) : (Except.ok a >>= f) = f a := rfl

@[simp] theorem error_bind (e : ε) : (Except.error e >>= f) = .error e := rfl

theorem bind_eq_ok {b : β} : x >>= f = .ok b ↔ ∃ a, x = .ok a ∧ f a = .ok b := by
  cases x <;> simp

end Bind

inductive ErrKind where
  | invalidSyntax (internalError : String)
  | emptyStatement
  | noSingleStatement
  | noTopLevelUpdateInsertDelete
  | noTopLevelCreate
  | joinOrSubquery
  | returningClause
  | systemTableReferencing
  | nonDeterministicFunction
  | noForUpdateOrShare
  | invalidColumnType (columnType : String)
  | multiTableReference (ref1 ref2 : String)
  | rowCountExceeded (beforeRowCount afterRowCount : Nat)
  deriving DecidableEq, Repr

/-- A Go error value. `wrap` is fmt.Errorf with a %w verb and keeps the chain;
`format` is fmt.Errorf with %s and keeps only the text. A runtime panic is no
error value: it unwinds through every caller unchanged. -/
inductive GoError where
  | typed (k : ErrKind)
  | new (msg : String)
  | wrap (format : String) (inner : GoError)
  | format (format : String) (inner : GoError)
  | runtimePanic (msg : String)
  deriving DecidableEq, Repr

namespace GoError

/-- fmt.Errorf with %w, applied as the callers on the way up do. -/
def wrapf (f : String) : GoError → GoError
  | .runtimePanic m => .runtimePanic m
  | e => .wrap f e

def formatf (f : String) : GoError → GoError
  | .runtimePanic m => .runtimePanic m
  | e => .format f e

/-- errors.As: the typed error at the end of the %w chain. -/
def as : GoError → Option ErrKind
  | .typed k => some k
  | .wrap _ e => e.as
  | _ => none

@[simp] theorem as_wrapf (f : String) (e : GoError) : (wrapf f e).as = e.as := by
  cases e <;> rfl

@[simp] theorem as_formatf (f : String) (e : GoError) : (formatf f e).as = none := by
  cases e <;> rfl

end GoError

/-- `if err := x; err != nil { return fmt.Errorf(f, err) }` with %w. -/
def wrapErr {α : Type} (f : String) (x : Except GoError α) : Except GoError α :=
  x.mapError (GoError.wrapf f)

def formatErr {α : Type} (f : String) (x : Except GoError α) : Except GoError α :=
  x.mapError (GoError.formatf f)

@[simp] theorem wrapErr_ok_apply {α : Type} (f : String) (a : α) :
    wrapErr f (.ok a : Except GoError α) = .ok a := rfl

@[simp] theorem formatErr_ok_apply {α : Type} (f : String) (a : α) :
    formatErr f (.ok a : Except GoError α) = .ok a := rfl

@[simp] theorem wrapErr_ok {α : Type} (f : String) (x : Except GoError α) (a : α) :
    wrapErr f x = .ok a ↔ x = .ok a := by
  cases x <;> simp [wrapErr, Except.mapError]

@[simp] theorem formatErr_ok {α : Type} (f : String) (x : Except GoError α) (a : α) :
    formatErr f x = .ok a ↔ x = .ok a := by
  cases x <;> simp [formatErr, Except.mapError]

theorem as_of_formatErr {α : Type} {f : String} {x : Except GoError α} {e : GoError}
    (h : formatErr f x = .error e) : e.as = none := by
  cases x <;> simp only [formatErr, Except.mapError, Except.error.injEq, reduceCtorEq] at h
  exact h ▸ GoError.as_formatf _ _

def hasPrefix (s pre : String) : Bool := pre.data.isPrefixOf s.data

@[simp] theorem hasPrefix_append (pre s : String) : hasPrefix (pre ++ s) pre = true := by
  simp [hasPrefix]

section Join

theorem intercalate_cons {α : Type} (sep z : List α) (r : List (List α)) :
    sep.intercalate (z :: r) = z ++ (r.map (sep ++ ·)).flatten := by
  induction r generalizing z with
  | nil => simp [List.intercalate]
  | cons y r ih =>
    have h := ih y
    simp only [List.intercalate, List.intersperse_cons_cons, List.flatten_cons] at h ⊢
    rw [h, List.map_cons, List.flatten_cons, List.append_assoc]

theorem intercalate_go_data (s : String) (l : List String) (acc : String) :
    (String.intercalate.go acc s l).data = acc.data ++ (l.map (s.data ++ ·.data)).flatten := by
  induction l generalizing acc with
  | nil => simp [String.intercalate.go]
  | cons a l ih => simp [String.intercalate.go, ih, List.append_assoc]

theorem intercalate_data (s : String) (l : List String) :
    (s.intercalate l).data = s.data.intercalate (l.map String.data) := by
  cases l with
  | nil => rfl
  | cons a l =>
    rw [String.intercalate, intercalate_go_data, List.map_cons, intercalate_cons, List.map_map]
    rfl

theorem splitOn_of_not_mem {α : Type} [DecidableEq α] {x : α} {l : List α} (h : x ∉ l) :
    l.splitOn x = [l] :=
  List.splitOnP_eq_single _ _ fun _ hy he => h (eq_of_beq he ▸ hy)

theorem not_mem_of_mem_splitOn {α : Type} [DecidableEq α] {x : α} :
    ∀ {l w : List α}, w ∈ l.splitOn x → x ∉ w
  | [], w, hw => by simp_all
  | y :: ys, w, hw => by
    simp only [List.splitOn, List.splitOnP_cons] at hw
    split_ifs at hw with hy
    · rcases List.mem_cons.1 hw with rfl | hw
      · exact List.not_mem_nil _
      · exact not_mem_of_mem_splitOn hw
    · obtain ⟨z, zs, hz⟩ := List.exists_cons_of_ne_nil (List.splitOnP_ne_nil (· == x) ys)
      rw [hz, List.modifyHead_cons] at hw
      rcases List.mem_cons.1 hw with rfl | hw
      · rintro (_ | ⟨_, hx⟩)
        · exact hy (beq_self_eq_true x)
        · exact not_mem_of_mem_splitOn (w := z) (hz ▸ List.mem_cons_self _ _) hx
      · exact not_mem_of_mem_splitOn (w := w) (hz ▸ List.mem_cons_of_mem _ hw)

theorem splitOn_append_cons {α : Type} [DecidableEq α] (x : α) (xs ys : List α) :
    (xs ++ x :: ys).splitOn x = xs.splitOn x ++ ys.splitOn x := by
  induction xs with
  | nil => simp [List.splitOn]
  | cons h t ih =>
    simp only [List.splitOn, List.cons_append, List.splitOnP_cons] at ih ⊢
    split_ifs
    · rw [ih, List.cons_append]
    · obtain ⟨z, zs, hz⟩ := List.exists_cons_of_ne_nil (List.splitOnP_ne_nil (· == x) t)
      rw [ih, hz]
      rfl

end Join

/-- A table id: an unbounded non-negative integer minted by the registry contract. -/
abbrev TableID := Nat

/-- An EVM address, kept as the text its Hex method prints. -/
structure Address where
  hex : String
  deriving DecidableEq, Repr

inductive Operation where
  | opSelect | opInsert | opUpdate | opDelete | opGrant | opRevoke | opCreate
  deriving DecidableEq, Repr

def Operation.toString : Operation → String
  | .opSelect => "OpSelect"
  | .opInsert => "OpInsert"
  | .opUpdate => "OpUpdate"
  | .opDelete => "OpDelete"
  | .opGrant => "OpGrant"
  | .opRevoke => "OpRevoke"
  | .opCreate => "OpCreate"

structure Privilege where
  abbreviation : String
  bitfield : Nat
  deriving DecidableEq, Repr

def privInsert : Privilege := ⟨"a", 0b001⟩
def privUpdate : Privilege := ⟨"w", 0b010⟩
def privDelete : Privilege := ⟨"d", 0b100⟩

def operationPrivilegeMap : Operation → Option Privilege
  | .opInsert => some privInsert
  | .opDelete => some privDelete
  | .opUpdate => some privUpdate
  | _ => none

/-- Privileges.CanExecute: whether the list allows the operation, and otherwise the
privilege that would allow it. -/
def canExecute (p : List Privilege) (operation : Operation) : Bool × Privilege :=
  match operationPrivilegeMap operation with
  | none => (true, ⟨"", 0⟩)
  | some needed => if p.contains needed then (true, ⟨"", 0⟩) else (false, needed)

def newPrivilegeFromSQLString (s : String) : Except GoError Privilege :=
  if s = "insert" then pure privInsert
  else if s = "update" then pure privUpdate
  else if s = "delete" then pure privDelete
  else throw (.new ("unsupported string=" ++ s))

/-- Privilege.ToSQLString: the comparison is of both fields. -/
def Privilege.toSQLString (p : Privilege) : String :=
  if p = privInsert then "insert"
  else if p = privUpdate then "update"
  else if p = privDelete then "delete"
  else "nil"

end TablelandProofs.Tableland
