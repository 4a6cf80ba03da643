import Mathlib.Data.Nat.Digits
import TablelandProofs.Parsing.Validator

namespace TablelandProofs.Parsing.Create

open Tableland Ast Validator

structure ColNameType where
  colName : String
  typeName : String
  deriving DecidableEq, Repr

def errTypeNameNode : GoError := .new "unexpected type name node: <nil>"

/-- The loop `AcceptedTypesFor` over colDef.TypeName.Names: pg_catalog is skipped and
the first other name must be accepted. It gives "" when no name is left. -/
def checkTypeNames (acceptedTypesNames : List String) : List Node → Except GoError String
  | [] => pure ""
  | .string_ s :: names =>
    if s = "pg_catalog" then checkTypeNames acceptedTypesNames names
    else if acceptedTypesNames.contains s then pure s
    else throw (.typed (.invalidColumnType s))
  | _ :: _ => throw errTypeNameNode

/-- The loop of checkCreateColTypes over TableElts. colDef.TypeName.Names reads through
a nil pointer when the ColumnDef has no TypeName. -/
def checkTableElts (acceptedTypesNames : List String) :
    List Node → Except GoError (List ColNameType)
  | [] => pure []
  | .constraint .. :: elts => checkTableElts acceptedTypesNames elts
  | .columnDef colname (some (.mk names _)) _ :: elts => do
    let typeName ← checkTypeNames acceptedTypesNames names
    let rest ← checkTableElts acceptedTypesNames elts
    pure (⟨colname, typeName⟩ :: rest)
  | .columnDef _ none _ :: _ => throw nilDereference
  | _ :: _ => throw (.new "unexpected node type in column definition")

def checkOfTypename : Option TypeName → Except GoError Unit
  | none => pure ()
  | some (.mk names _) =>
    if names.all fun n => match n with | .string_ _ => true | _ => false then pure ()
    else throw errTypeNameNode

def checkCreateColTypes (createStmt : Node) (acceptedTypesNames : List String) :
    Except GoError (List ColNameType) :=
  match createStmt with
  | .createStmt _ elts _ _ ofTypename => do
    checkOfTypename ofTypename
    checkTableElts acceptedTypesNames elts
  | _ => throw errEmptyNode

/-- The string that genCreateStmt hashes: `colName:typeName`, joined by commas. -/
def stringifiedColDef (cols : List ColNameType) : String :=
  ",".intercalate (cols.map fun c => c.colName ++ ":" ++ c.typeName)

/-- The createStmt of the validator. Its AST is a CREATE TABLE, which every
GetCreateStmt() below relies on. -/
structure CreateStmt where
  cNode : Node
  isCreate : cNode.isCreateStmt = true
  structureHash : String
  namePrefix : String

/-- genCreateStmt, with hex.EncodeToString of SHA-256 as `sha256Hex`. -/
def genCreateStmt (sha256Hex : String → String) (cNode : Node) (h : cNode.isCreateStmt = true)
    (cols : List ColNameType) : CreateStmt :=
  ⟨cNode, h, sha256Hex (stringifiedColDef cols), cNode.createRelname⟩

/-- ValidateCreateTable, with pg_query's Parse as a parameter. -/
def validateCreateTable (pp : QueryValidator) (parse : String → Except String (List Node))
    (sha256Hex : String → String) (query : String) : Except GoError CreateStmt :=
  match parse query with
  | .error e => throw (.typed (.invalidSyntax e))
  | .ok [] => throw (.wrap "empty-statement check: %w" (.typed .emptyStatement))
  | .ok (_ :: _ :: _) => throw (.wrap "single-statement check: %w" (.typed .noSingleStatement))
  | .ok [stmt] =>
    if h : stmt.isCreateStmt = true then do
      let cols ← wrapErr "disallowed column types: %w"
        (checkCreateColTypes stmt pp.acceptedTypesNames)
      pure (genCreateStmt sha256Hex stmt h cols)
    else throw (.wrap "allowed top level stmt: %w" (.typed .noTopLevelCreate))

def hex016 (id : TableID) : String :=
  let d := Nat.toDigits 16 id
  "0x" ++ String.mk (List.replicate (16 - d.length) '0' ++ d)

/-- The relname GetRawQueryForTableID writes: "t" + fmt.Sprintf("0x%016x", id). -/
def boundRelname (id : TableID) : String := "t" ++ hex016 id

theorem isCreateStmt_setRelname {n : Node} (name : String) (h : n.isCreateStmt = true) :
    (n.setRelname name).isCreateStmt = true := by
  cases n <;> simp_all [Node.setRelname, Node.isCreateStmt]

/-- GetRawQueryForTableID: overwrites the relname of the stored AST in place and
deparses it. Gives the query and the createStmt after the write. -/
def getRawQueryForTableID (deparse : List Node → Except GoError String) (cs : CreateStmt)
    (id : TableID) : Except GoError String × CreateStmt :=
  let cNode := cs.cNode.setRelname (boundRelname id)
  (formatErr "deparsing statement: %s" (deparse [cNode]),
    ⟨cNode, isCreateStmt_setRelname _ cs.isCreate, cs.structureHash, cs.namePrefix⟩)

def getStructureHash (cs : CreateStmt) : String := cs.structureHash

def getNamePrefix (cs : CreateStmt) : String := cs.namePrefix

theorem validateCreateTable_ok {pp : QueryValidator} {parse : String → Except String (List Node)}
    {sha256Hex : String → String} {query : String} {cs : CreateStmt}
    (h : validateCreateTable pp parse sha256Hex query = .ok cs) :
    ∃ stmt cols, parse query = .ok [stmt] ∧
      checkCreateColTypes stmt pp.acceptedTypesNames = .ok cols ∧ cs.cNode = stmt ∧
      cs.structureHash = sha256Hex (stringifiedColDef cols) := by
  unfold validateCreateTable at h
  split at h <;> try cases h
  rename_i stmt hp
  split at h
  · obtain ⟨cols, hc, h⟩ := bind_eq_ok.1 h
    cases h
    exact ⟨stmt, cols, hp, (wrapErr_ok _ _ _).1 hc, rfl, rfl⟩
  · cases h

theorem validateCreateTable_of_cols {pp : QueryValidator}
    {parse : String → Except String (List Node)} {sha256Hex : String → String} {query : String}
    {stmt : Node} {cols : List ColNameType} (hp : parse query = .ok [stmt])
    (h : stmt.isCreateStmt = true)
    (hc : checkCreateColTypes stmt pp.acceptedTypesNames = .ok cols) :
    validateCreateTable pp parse sha256Hex query = .ok (genCreateStmt sha256Hex stmt h cols) := by
  simp only [validateCreateTable, hp, dif_pos h, hc, wrapErr_ok_apply, ok_bind]
  rfl

def isPgCatalog : Node → Bool
  | .string_ s => s == "pg_catalog"
  | _ => false

/-- The TypeName.Names that the loop AcceptedTypesFor lets through: after the leading
pg_catalog names, either no name is left, and the column's type is "", or the first name
left is a String in acceptedTypesNames. The names after it are not read. -/
def TypeNamesAccepted (acceptedTypesNames : List String) (names : List Node) : Prop :=
  match names.dropWhile isPgCatalog with
  | [] => True
  | .string_ s :: _ => s ∈ acceptedTypesNames
  | _ :: _ => False

def EltAccepted (acceptedTypesNames : List String) : Node → Prop
  | .constraint .. => True
  | .columnDef _ (some (.mk names _)) _ => TypeNamesAccepted acceptedTypesNames names
  | _ => False

def OfTypenameAccepted : Option TypeName → Prop
  | none => True
  | some (.mk names _) => ∀ n ∈ names, ∃ s, n = .string_ s

/-- The CREATE TABLE statements that checkCreateColTypes lets through. Their relation,
INHERITS list and PARTITION OF bound, and the array bounds of their column types, are
not read. -/
def CreateAccepted (acceptedTypesNames : List String) : Node → Prop
  | .createStmt _ elts _ _ ot =>
    OfTypenameAccepted ot ∧ ∀ e ∈ elts, EltAccepted acceptedTypesNames e
  | _ => False

theorem typeNamesAccepted_cons_pos {acc : List String} {n : Node} {names : List Node}
    (h : isPgCatalog n = true) : TypeNamesAccepted acc (n :: names) = TypeNamesAccepted acc names := by
  simp only [TypeNamesAccepted, List.dropWhile_cons_of_pos h]

theorem typeNamesAccepted_cons_neg {acc : List String} {n : Node} {names : List Node}
    (h : isPgCatalog n = false) : TypeNamesAccepted acc (n :: names) ↔ ∃ s, n = .string_ s ∧ s ∈ acc := by
  simp only [TypeNamesAccepted, List.dropWhile_cons_of_neg (show ¬isPgCatalog n = true by simp [h])]
  cases n <;> simp

theorem checkTypeNames_ok_iff {acc : List String} {names : List Node} :
    (∃ t, checkTypeNames acc names = .ok t) ↔ TypeNamesAccepted acc names := by
  induction names with
  | nil => exact iff_of_true ⟨"", rfl⟩ trivial
  | cons n names ih =>
    cases n with
    | string_ s =>
      by_cases hs : s = "pg_catalog"
      · rw [typeNamesAccepted_cons_pos (by simp [isPgCatalog, hs]), ← ih]
        simp only [checkTypeNames, if_pos hs]
      · rw [typeNamesAccepted_cons_neg (by simp [isPgCatalog, hs])]
        by_cases ha : s ∈ acc <;> simp [checkTypeNames, hs, ha]
    | _ =>
      exact iff_of_false (fun ⟨_, h⟩ => nomatch h)
        fun h => by obtain ⟨_, ⟨⟩, _⟩ := (typeNamesAccepted_cons_neg (by rfl)).1 h

theorem checkTableElts_cons_ok_iff {acc : List String} {e : Node} {elts : List Node} :
    (∃ cols, checkTableElts acc (e :: elts) = .ok cols) ↔
      EltAccepted acc e ∧ ∃ cols, checkTableElts acc elts = .ok cols := by
  cases e with
  | constraint => exact ⟨fun h => ⟨trivial, h⟩, fun h => h.2⟩
  | columnDef c tn cs =>
    rcases tn with _ | ⟨names, bounds⟩
    · exact iff_of_false (fun ⟨_, h⟩ => nomatch h) (fun ⟨h, _⟩ => h)
    · simp only [checkTableElts, bind_eq_ok, EltAccepted, ← checkTypeNames_ok_iff]
      exact ⟨fun ⟨_, t, ht, rest, hr, _⟩ => ⟨⟨t, ht⟩, rest, hr⟩,
        fun ⟨⟨t, ht⟩, rest, hr⟩ => ⟨_, t, ht, rest, hr, rfl⟩⟩
  | _ => exact iff_of_false (fun ⟨_, h⟩ => nomatch h) (fun ⟨h, _⟩ => h)

theorem checkTableElts_ok_iff {acc : List String} {elts : List Node} :
    (∃ cols, checkTableElts acc elts = .ok cols) ↔ ∀ e ∈ elts, EltAccepted acc e := by
  induction elts with
  | nil => exact iff_of_true ⟨[], rfl⟩ (by simp)
  | cons e elts ih => rw [checkTableElts_cons_ok_iff, ih, List.forall_mem_cons]

theorem checkOfTypename_ok_iff (ot : Option TypeName) :
    checkOfTypename ot = .ok () ↔ OfTypenameAccepted ot := by
  rcases ot with _ | ⟨names, bounds⟩
  · exact iff_of_true rfl trivial
  · have hn : ∀ n : Node, (match n with | .string_ _ => true | _ => false) = true ↔
        ∃ s, n = .string_ s := by
      intro n
      cases n <;> simp
    simp only [checkOfTypename, OfTypenameAccepted, ← hn, ← List.all_eq_true]
    split_ifs with h <;> simp [h]

theorem checkCreateColTypes_ok_iff {acc : List String} {stmt : Node} :
    (∃ cols, checkCreateColTypes stmt acc = .ok cols) ↔ CreateAccepted acc stmt := by
  cases stmt with
  | createStmt rel elts inh pb ot =>
    simp only [checkCreateColTypes, bind_eq_ok, CreateAccepted, ← checkOfTypename_ok_iff,
      ← checkTableElts_ok_iff]
    exact ⟨fun ⟨cols, _, ho, hc⟩ => ⟨ho, cols, hc⟩, fun ⟨ho, cols, hc⟩ => ⟨cols, (), ho, hc⟩⟩
  | _ => exact iff_of_false (fun ⟨_, h⟩ => nomatch h) id

theorem isCreateStmt_of_accepted {acc : List String} {stmt : Node}
    (h : CreateAccepted acc stmt) : stmt.isCreateStmt = true := by
  cases stmt <;> first | rfl | exact h.elim

/-- What ValidateCreateTable checks. It accepts a query, with the statement `stmt` as
the AST of its result, exactly when the query parses to that one statement and the
statement is a CREATE TABLE that checkCreateColTypes lets through. -/
theorem validateCreateTable_accepts_iff (pp : QueryValidator)
    (parse : String → Except String (List Node)) (sha256Hex : String → String)
    (query : String) (stmt : Node) :
    (∃ cs, validateCreateTable pp parse sha256Hex query = .ok cs ∧ cs.cNode = stmt) ↔
      parse query = .ok [stmt] ∧ CreateAccepted pp.acceptedTypesNames stmt := by
  constructor
  · rintro ⟨cs, h, rfl⟩
    obtain ⟨stmt, cols, hp, hc, hn, -⟩ := validateCreateTable_ok h
    exact hn ▸ ⟨hp, checkCreateColTypes_ok_iff.1 ⟨cols, hc⟩⟩
  · rintro ⟨hp, ha⟩
    obtain ⟨cols, hc⟩ := checkCreateColTypes_ok_iff.2 ha
    exact ⟨_, validateCreateTable_of_cols hp (isCreateStmt_of_accepted ha) hc, rfl⟩

def int4Column : Node := .columnDef "a" (some (.mk [.string_ "pg_catalog", .string_ "int4"] [])) []

def createFoo (schema : String) : Node := .createStmt ⟨schema, "foo", 'p'⟩ [int4Column] [] none none

-- CREATE TABLE foo (a pg_catalog) passes, with type "".
example : checkCreateColTypes
    (.createStmt ⟨"", "foo", 'p'⟩ [.columnDef "a" (some (.mk [.string_ "pg_catalog"] [])) []]
      [] none none) ["int4"] = .ok [⟨"a", ""⟩] := rfl

theorem checkTableElts_append {acc : List String} {pre : List Node} {cols : List ColNameType}
    (h : checkTableElts acc pre = .ok cols) (rest : List Node) :
    checkTableElts acc (pre ++ rest) = (checkTableElts acc rest).map (cols ++ ·) := by
  induction pre generalizing cols with
  | nil =>
    cases h
    rw [List.nil_append]
    cases checkTableElts acc rest <;> rfl
  | cons e pre ih =>
    cases e with
    | constraint => exact ih h
    | columnDef colname tn cs =>
      rcases tn with _ | ⟨names, bounds⟩
      · cases h
      · obtain ⟨t, ht, h⟩ := bind_eq_ok.1 h
        obtain ⟨rest', hr, h⟩ := bind_eq_ok.1 h
        cases h
        rw [List.cons_append]
        simp only [checkTableElts, ht, ih hr, ok_bind]
        cases checkTableElts acc rest <;> rfl
    | _ => cases h

/-- A ColumnDef without a TypeName, as the column options of CREATE TABLE ... OF type and
of CREATE TABLE ... PARTITION OF give, is read through a nil pointer: once the elements
before it pass, ValidateCreateTable panics. -/
theorem typeless_column_panics (pp : QueryValidator)
    (parse : String → Except String (List Node)) (sha256Hex : String → String) (query : String)
    (rel : RangeVar) (pre rest inh : List Node) (colname : String) (constraints : List Node)
    (pb : Option Node) (ot : Option TypeName)
    (hp : parse query =
      .ok [.createStmt rel (pre ++ .columnDef colname none constraints :: rest) inh pb ot])
    (hot : checkOfTypename ot = .ok ())
    (hpre : ∃ cols, checkTableElts pp.acceptedTypesNames pre = .ok cols) :
    validateCreateTable pp parse sha256Hex query = .error nilDereference := by
  obtain ⟨cols, hc⟩ := hpre
  have hcc : checkCreateColTypes
      (.createStmt rel (pre ++ .columnDef colname none constraints :: rest) inh pb ot)
      pp.acceptedTypesNames = .error nilDereference := by
    simp only [checkCreateColTypes, hot, ok_bind, checkTableElts_append hc]
    rfl
  simp only [validateCreateTable, hp, Node.isCreateStmt, dite_true, hcc]
  rfl

def typedTableOptions : Node :=
  .createStmt ⟨"", "foo", 'p'⟩ [.columnDef "c" none [.constraint "CONSTR_NOTNULL" none]] [] none
    (some (.mk [.string_ "typ"] []))

theorem typed_table_options_panic :
    ((fun _ => .ok [typedTableOptions] : String → Except String (List Node))
        "CREATE TABLE foo OF typ (c WITH OPTIONS NOT NULL)" =
        .ok [.createStmt ⟨"", "foo", 'p'⟩
          ([] ++ .columnDef "c" none [.constraint "CONSTR_NOTNULL" none] :: []) [] none
          (some (.mk [.string_ "typ"] []))] ∧
      checkOfTypename (some (.mk [.string_ "typ"] [])) = .ok () ∧
      ∃ cols, checkTableElts ["int4"] [] = .ok cols) ∧
    validateCreateTable ⟨"system_", ["int4"]⟩ (fun _ => .ok [typedTableOptions]) id
      "CREATE TABLE foo OF typ (c WITH OPTIONS NOT NULL)" = .error nilDereference :=
  ⟨⟨rfl, rfl, _, rfl⟩, typeless_column_panics ⟨"system_", ["int4"]⟩ _ id _ _ [] [] [] "c" _ none _
    rfl rfl ⟨_, rfl⟩⟩

def inheritsSystemAcl : Node :=
  .createStmt ⟨"", "foo", 'p'⟩ [int4Column] [.rangeVar ⟨"", "system_acl", 'p'⟩] none none

theorem inherits_system_acl_accepted :
    ∃ cs : CreateStmt, validateCreateTable ⟨"system_", ["int4"]⟩
      (fun _ => .ok [inheritsSystemAcl]) id "CREATE TABLE foo (a int) INHERITS (system_acl)" =
        .ok cs ∧ cs.cNode = inheritsSystemAcl ∧ inheritsSystemAcl.any Node.isRangeVar = true :=
  ⟨_, rfl, rfl, rfl⟩

def binds (deparse : List Node → Except GoError String) (cs : CreateStmt) :
    List TableID → CreateStmt
  | [] => cs
  | id :: ids => binds deparse (getRawQueryForTableID deparse cs id).2 ids

theorem binds_cNode (deparse : List Node → Except GoError String) (cs : CreateStmt)
    (ids : List TableID) (name : String) :
    (binds deparse cs ids).cNode.setRelname name = cs.cNode.setRelname name := by
  induction ids generalizing cs with
  | nil => rfl
  | cons id ids ih => simp [binds, ih, getRawQueryForTableID]

theorem binds_structureHash (deparse : List Node → Except GoError String) (cs : CreateStmt)
    (ids : List TableID) :
    getStructureHash (binds deparse cs ids) = getStructureHash cs ∧
      getNamePrefix (binds deparse cs ids) = getNamePrefix cs := by
  induction ids generalizing cs with
  | nil => exact ⟨rfl, rfl⟩
  | cons id ids ih => exact ih _

/-- The AST GetRawQueryForTableID(id) deparses, and keeps, depends on `id` and on the
stored AST with its relname erased only, whatever binds came before; the structure hash
and the name prefix never change. -/
theorem getRawQueryForTableID_relname_only (deparse : List Node → Except GoError String)
    (c₁ c₂ : CreateStmt) (hc : c₁.cNode.setRelname "" = c₂.cNode.setRelname "")
    (ids₁ ids₂ : List TableID) (id : TableID) :
    (getRawQueryForTableID deparse (binds deparse c₁ ids₁) id).2.cNode =
        (getRawQueryForTableID deparse (binds deparse c₂ ids₂) id).2.cNode ∧
      (getRawQueryForTableID deparse (binds deparse c₁ ids₁) id).1 =
        (getRawQueryForTableID deparse (binds deparse c₂ ids₂) id).1 ∧
      getStructureHash (binds deparse c₁ ids₁) = getStructureHash c₁ ∧
      getNamePrefix (binds deparse c₁ ids₁) = getNamePrefix c₁ := by
  have key : ∀ name, c₁.cNode.setRelname name = c₂.cNode.setRelname name := fun name => by
    rw [← Node.setRelname_setRelname c₁.cNode "", hc, Node.setRelname_setRelname]
  have hn : (getRawQueryForTableID deparse (binds deparse c₁ ids₁) id).2.cNode =
      (getRawQueryForTableID deparse (binds deparse c₂ ids₂) id).2.cNode := by
    simp only [getRawQueryForTableID, binds_cNode, key]
  refine ⟨hn, ?_, binds_structureHash deparse c₁ ids₁⟩
  simp only [getRawQueryForTableID] at hn ⊢
  rw [hn]

def createBar : Node := .createStmt ⟨"", "bar", 'p'⟩ [int4Column] [] none none

theorem foo_bar_bind_alike :
    ∃ c₁ c₂ : CreateStmt,
      validateCreateTable ⟨"system_", ["int4"]⟩ (fun _ => .ok [createFoo ""]) id
        "CREATE TABLE foo (a int)" = .ok c₁ ∧
      validateCreateTable ⟨"system_", ["int4"]⟩ (fun _ => .ok [createBar]) id
        "CREATE TABLE bar (a int)" = .ok c₂ ∧
      c₁.cNode.setRelname "" = c₂.cNode.setRelname "" ∧
      (getRawQueryForTableID (fun _ => .ok "") (binds (fun _ => .ok "") c₁ [5]) 1).2.cNode =
        (getRawQueryForTableID (fun _ => .ok "") (binds (fun _ => .ok "") c₂ []) 1).2.cNode :=
  ⟨_, _, rfl, rfl, rfl, (getRawQueryForTableID_relname_only _ _ _ rfl [5] [] 1).1⟩

theorem bind_keeps_schema :
    ∃ c₁ c₂ : CreateStmt,
      validateCreateTable ⟨"system_", ["int4"]⟩ (fun _ => .ok [createFoo ""]) id
        "CREATE TABLE foo (a int)" = .ok c₁ ∧
      validateCreateTable ⟨"system_", ["int4"]⟩ (fun _ => .ok [createFoo "other"]) id
        "CREATE TABLE other.foo (a int)" = .ok c₂ ∧
      c₁.cNode = createFoo "" ∧ c₂.cNode = createFoo "other" ∧
      (getRawQueryForTableID (fun _ => .ok "") c₁ 0).2.cNode ≠
        (getRawQueryForTableID (fun _ => .ok "") c₂ 0).2.cNode :=
  ⟨_, _, rfl, rfl, rfl, rfl, fun h => absurd (congrArg Node.createRelation h) (by decide)⟩

def hexDigitVal (c : Char) : Nat :=
  if c.toNat ≤ '9'.toNat then c.toNat - '0'.toNat else c.toNat - 'a'.toNat + 10

def hexValue (acc : Nat) (cs : List Char) : Nat := cs.foldl (fun n c => 16 * n + hexDigitVal c) acc

theorem hexDigitVal_digitChar : ∀ d < 16, hexDigitVal (Nat.digitChar d) = d := by
  decide

theorem hexValue_toDigitsCore (fuel : Nat) :
    ∀ (n : Nat) (ds : List Char), n < fuel →
      hexValue 0 (Nat.toDigitsCore 16 fuel n ds) = hexValue n ds := by
  induction fuel with
  | zero => intro n _ h; omega
  | succ f ih =>
    intro n ds hf
    have hd := hexDigitVal_digitChar (n % 16) (Nat.mod_lt _ (by decide))
    simp only [Nat.toDigitsCore]
    split
    · simp only [hexValue, List.foldl_cons, hd]
      rw [show 16 * 0 + n % 16 = n by omega]
    · rw [ih (n / 16) _ (by omega)]
      simp only [hexValue, List.foldl_cons, hd]
      rw [show 16 * (n / 16) + n % 16 = n by omega]

theorem hexValue_zeros (k : Nat) (ds : List Char) :
    hexValue 0 (List.replicate k '0' ++ ds) = hexValue 0 ds := by
  induction k with
  | zero => rfl
  | succ k ih => exact ih

theorem hexValue_boundRelname (id : TableID) : hexValue 0 ((boundRelname id).data.drop 3) = id := by
  show hexValue 0 (List.replicate _ '0' ++ Nat.toDigitsCore 16 (id + 1) id []) = id
  rw [hexValue_zeros, hexValue_toDigitsCore _ _ _ (Nat.lt_succ_self id)]
  rfl

theorem createRelname_getRawQueryForTableID (deparse : List Node → Except GoError String)
    (cs : CreateStmt) (id : TableID) :
    (getRawQueryForTableID deparse cs id).2.cNode.createRelname = boundRelname id := by
  obtain ⟨n, hn, _, _⟩ := cs
  cases n <;> first | rfl | cases hn

/-- GetRawQueryForTableID never binds two table ids to one relation: the CREATE statements
it makes for ids `a` and `b`, from any two stored ASTs, name the same relation only when
`a = b`, as the relname holds the hexadecimal digits of the id. -/
theorem getRawQueryForTableID_relname_inj (deparse : List Node → Except GoError String)
    (c₁ c₂ : CreateStmt) (a b : TableID)
    (h : (getRawQueryForTableID deparse c₁ a).2.cNode.createRelname =
      (getRawQueryForTableID deparse c₂ b).2.cNode.createRelname) : a = b := by
  rw [createRelname_getRawQueryForTableID, createRelname_getRawQueryForTableID] at h
  rw [← hexValue_boundRelname a, ← hexValue_boundRelname b, h]

def fooStmt : CreateStmt := ⟨createFoo "", rfl, "", "foo"⟩

def barStmt : CreateStmt := ⟨createBar, rfl, "", "bar"⟩

theorem foo_bar_relname_one :
    (getRawQueryForTableID (fun _ => .ok "") fooStmt 1).2.cNode.createRelname =
      (getRawQueryForTableID (fun _ => .ok "") barStmt 1).2.cNode.createRelname ∧ 1 = 1 :=
  have h : (getRawQueryForTableID (fun _ => .ok "") fooStmt 1).2.cNode.createRelname =
      (getRawQueryForTableID (fun _ => .ok "") barStmt 1).2.cNode.createRelname := rfl
  ⟨h, getRawQueryForTableID_relname_inj _ _ _ 1 1 h⟩

end TablelandProofs.Parsing.Create
