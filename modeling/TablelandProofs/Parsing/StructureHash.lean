import TablelandProofs.Parsing.Create

namespace TablelandProofs.Parsing.StructureHash

open Tableland Ast Validator Create

def item (c : ColNameType) : List Char := c.colName.data ++ ':' :: c.typeName.data

theorem stringifiedColDef_data (cols : List ColNameType) :
    (stringifiedColDef cols).data = [','].intercalate (cols.map item) := by
  rw [stringifiedColDef, intercalate_data, List.map_map]
  exact congrArg _ (List.map_congr_left fun c _ => by simp [item])

theorem item_inj {a b a' b' : List Char} (hb : ':' ∉ b) (hb' : ':' ∉ b')
    (h : a ++ ':' :: b = a' ++ ':' :: b') : a = a' ∧ b = b' := by
  have hs := congrArg (·.splitOn ':') h
  simp only [splitOn_append_cons, splitOn_of_not_mem hb, splitOn_of_not_mem hb'] at hs
  obtain rfl : b = b' := (List.cons_eq_cons.1 (List.append_inj_right' hs rfl)).1
  exact ⟨List.append_cancel_right h, rfl⟩

theorem map_item_inj :
    ∀ {L₁ L₂ : List ColNameType}, (∀ c ∈ L₁, ':' ∉ c.typeName.data) →
      (∀ c ∈ L₂, ':' ∉ c.typeName.data) → L₁.map item = L₂.map item → L₁ = L₂
  | [], [], _, _, _ => rfl
  | [], _ :: _, _, _, h => nomatch h
  | _ :: _, [], _, _, h => nomatch h
  | ⟨n₁, t₁⟩ :: L₁, ⟨n₂, t₂⟩ :: L₂, h₁, h₂, h => by
    obtain ⟨hc, hL⟩ := List.cons_eq_cons.1 h
    obtain ⟨hn, ht⟩ := item_inj (h₁ _ (List.mem_cons_self _ _)) (h₂ _ (List.mem_cons_self _ _)) hc
    obtain ⟨rfl, rfl⟩ : n₁ = n₂ ∧ t₁ = t₂ := ⟨String.ext hn, String.ext ht⟩
    rw [map_item_inj (fun c hc => h₁ c (List.mem_cons_of_mem _ hc))
      (fun c hc => h₂ c (List.mem_cons_of_mem _ hc)) hL]

/-- A column whose name holds no comma, and whose type name holds no comma and no colon. -/
def Separable (c : ColNameType) : Prop :=
  ',' ∉ c.colName.data ∧ ',' ∉ c.typeName.data ∧ ':' ∉ c.typeName.data

theorem comma_not_mem_item {c : ColNameType} (hc : Separable c) : ',' ∉ item c := by
  simp only [item, List.mem_append, List.mem_cons, not_or]
  exact ⟨hc.1, by decide, hc.2.1⟩

theorem item_ne_nil (c : ColNameType) (cs : List ColNameType) :
    [','].intercalate ((c :: cs).map item) ≠ [] := by
  simp [intercalate_cons, item]

/-- The string genCreateStmt hashes is injective on separable columns. -/
theorem stringifiedColDef_inj {L₁ L₂ : List ColNameType} (h₁ : ∀ c ∈ L₁, Separable c)
    (h₂ : ∀ c ∈ L₂, Separable c) (h : stringifiedColDef L₁ = stringifiedColDef L₂) : L₁ = L₂ := by
  have hd := congrArg String.data h
  rw [stringifiedColDef_data, stringifiedColDef_data] at hd
  match L₁, L₂, hd with
  | [], [], _ => rfl
  | [], c :: cs, hd => exact absurd hd.symm (item_ne_nil c cs)
  | c :: cs, [], hd => exact absurd hd (item_ne_nil c cs)
  | c₁ :: cs₁, c₂ :: cs₂, hd =>
    have split₁ := List.splitOn_intercalate ((c₁ :: cs₁).map item) ','
      (by simpa using fun c hc => comma_not_mem_item (h₁ c hc)) (List.cons_ne_nil _ _)
    have split₂ := List.splitOn_intercalate ((c₂ :: cs₂).map item) ','
      (by simpa using fun c hc => comma_not_mem_item (h₂ c hc)) (List.cons_ne_nil _ _)
    rw [hd, split₂] at split₁
    exact map_item_inj (fun c hc => (h₁ c hc).2.2) (fun c hc => (h₂ c hc).2.2) split₁.symm

theorem checkTypeNames_type {acc : List String} {names : List Node} {t : String}
    (h : checkTypeNames acc names = .ok t) : t = "" ∨ t ∈ acc := by
  induction names with
  | nil =>
    cases h
    exact .inl rfl
  | cons n names ih =>
    cases n with
    | string_ s =>
      simp only [checkTypeNames] at h
      split_ifs at h with hs ha
      · exact ih h
      · cases h
        exact .inr (by simpa using ha)
    | _ => cases h

theorem checkTableElts_types {acc : List String} {elts : List Node} {cols : List ColNameType}
    (h : checkTableElts acc elts = .ok cols) : ∀ c ∈ cols, c.typeName = "" ∨ c.typeName ∈ acc := by
  induction elts generalizing cols with
  | nil => cases h; simp
  | cons e elts ih =>
    cases e with
    | constraint => exact ih h
    | columnDef colname tn cs =>
      rcases tn with _ | ⟨names, bounds⟩
      · cases h
      · obtain ⟨t, ht, h⟩ := bind_eq_ok.1 h
        obtain ⟨rest, hr, h⟩ := bind_eq_ok.1 h
        cases h
        rintro c (_ | ⟨_, hc⟩)
        · exact checkTypeNames_type ht
        · exact ih hr c hc
    | _ => cases h

theorem checkCreateColTypes_types {acc : List String} {n : Node} {cols : List ColNameType}
    (h : checkCreateColTypes n acc = .ok cols) :
    ∀ c ∈ cols, c.typeName = "" ∨ c.typeName ∈ acc := by
  cases n with
  | createStmt rel elts inh pb ot =>
    obtain ⟨_, -, h⟩ := bind_eq_ok.1 h
    exact checkTableElts_types h
  | _ => cases h

/-- When no accepted type name holds a comma or a colon, the string genCreateStmt hashes
tells apart the column lists of any two accepted CREATEs whose column names hold no
comma. -/
theorem colNameTypes_of_stringified {acc : List String}
    (hacc : ∀ t ∈ acc, ',' ∉ t.data ∧ ':' ∉ t.data) {n₁ n₂ : Node} {L₁ L₂ : List ColNameType}
    (h₁ : checkCreateColTypes n₁ acc = .ok L₁) (h₂ : checkCreateColTypes n₂ acc = .ok L₂)
    (hn₁ : ∀ c ∈ L₁, ',' ∉ c.colName.data) (hn₂ : ∀ c ∈ L₂, ',' ∉ c.colName.data)
    (h : stringifiedColDef L₁ = stringifiedColDef L₂) : L₁ = L₂ := by
  have sep : ∀ {n L}, checkCreateColTypes n acc = .ok L → (∀ c ∈ L, ',' ∉ c.colName.data) →
      ∀ c ∈ L, Separable c := fun hL hn c hc => by
    rcases checkCreateColTypes_types hL c hc with he | ha
    · exact ⟨hn c hc, by simp [he], by simp [he]⟩
    · exact ⟨hn c hc, hacc _ ha⟩
  exact stringifiedColDef_inj (sep h₁ hn₁) (sep h₂ hn₂) h

theorem foo_other_foo_columns :
    ((∀ t ∈ ["int4"], ',' ∉ t.data ∧ ':' ∉ t.data) ∧
      checkCreateColTypes (createFoo "") ["int4"] = .ok [⟨"a", "int4"⟩] ∧
      checkCreateColTypes (createFoo "other") ["int4"] = .ok [⟨"a", "int4"⟩] ∧
      (∀ c ∈ [(⟨"a", "int4"⟩ : ColNameType)], ',' ∉ c.colName.data) ∧
      stringifiedColDef [⟨"a", "int4"⟩] = stringifiedColDef [⟨"a", "int4"⟩]) ∧
    [(⟨"a", "int4"⟩ : ColNameType)] = [⟨"a", "int4"⟩] :=
  ⟨⟨by decide, rfl, rfl, by decide, rfl⟩,
    @colNameTypes_of_stringified ["int4"] (by decide) (createFoo "") (createFoo "other") _ _ rfl
      rfl (by decide) (by decide) rfl⟩

def typedColumn (colname t : String) : Node := .columnDef colname (some (.mk [.string_ t] [])) []

def twoColumns (rel : RangeVar) (a b t : String) : Node :=
  .createStmt rel [typedColumn a t, typedColumn b t] [] none none

/-- CREATE TABLE rel ("a:t,b" t). -/
def joinedColumn (rel : RangeVar) (a b t : String) : Node :=
  .createStmt rel [typedColumn (a ++ ":" ++ t ++ "," ++ b) t] [] none none

theorem checkTypeNames_single {acc : List String} {t : String} (ht : t ∈ acc)
    (hpg : t ≠ "pg_catalog") : checkTypeNames acc [.string_ t] = .ok t := by
  simp [checkTypeNames, hpg, ht]

/-- The name of a column may hold the separators of the hashed string: the table with the
columns a and b of type t, and the table with the one column "a:t,b" of type t, are both
accepted, with different column lists and the same structure hash, whatever the hash. -/
theorem structure_hash_collision (pp : QueryValidator) (sha256Hex : String → String)
    (q₁ q₂ : String) (rel : RangeVar) (a b t : String) (ht : t ∈ pp.acceptedTypesNames)
    (hpg : t ≠ "pg_catalog") :
    ∃ c₁ c₂ : CreateStmt,
      validateCreateTable pp (fun _ => .ok [twoColumns rel a b t]) sha256Hex q₁ = .ok c₁ ∧
      validateCreateTable pp (fun _ => .ok [joinedColumn rel a b t]) sha256Hex q₂ = .ok c₂ ∧
      checkCreateColTypes (twoColumns rel a b t) pp.acceptedTypesNames = .ok [⟨a, t⟩, ⟨b, t⟩] ∧
      checkCreateColTypes (joinedColumn rel a b t) pp.acceptedTypesNames =
        .ok [⟨a ++ ":" ++ t ++ "," ++ b, t⟩] ∧
      [(⟨a, t⟩ : ColNameType), ⟨b, t⟩] ≠ [⟨a ++ ":" ++ t ++ "," ++ b, t⟩] ∧
      getStructureHash c₁ = getStructureHash c₂ := by
  have hc₁ : checkCreateColTypes (twoColumns rel a b t) pp.acceptedTypesNames =
      .ok [⟨a, t⟩, ⟨b, t⟩] := by
    simp [checkCreateColTypes, twoColumns, typedColumn, checkOfTypename, checkTableElts,
      checkTypeNames_single ht hpg]
  have hc₂ : checkCreateColTypes (joinedColumn rel a b t) pp.acceptedTypesNames =
      .ok [⟨a ++ ":" ++ t ++ "," ++ b, t⟩] := by
    simp [checkCreateColTypes, joinedColumn, typedColumn, checkOfTypename, checkTableElts,
      checkTypeNames_single ht hpg]
  have hs : stringifiedColDef [⟨a, t⟩, ⟨b, t⟩] =
      stringifiedColDef [⟨a ++ ":" ++ t ++ "," ++ b, t⟩] :=
    String.ext (by simp [stringifiedColDef_data, intercalate_cons, item])
  exact ⟨_, _, @validateCreateTable_of_cols pp _ sha256Hex q₁ (twoColumns rel a b t) _ rfl rfl hc₁,
    @validateCreateTable_of_cols pp _ sha256Hex q₂ (joinedColumn rel a b t) _ rfl rfl hc₂,
    hc₁, hc₂, by simp, congrArg sha256Hex hs⟩

def fooRel : RangeVar := ⟨"", "foo", 'p'⟩

theorem a_b_int4_collision :
    ("int4" ∈ (⟨"system_", ["int4"]⟩ : QueryValidator).acceptedTypesNames ∧
      "int4" ≠ "pg_catalog") ∧
    ∃ c₁ c₂ : CreateStmt,
      validateCreateTable ⟨"system_", ["int4"]⟩ (fun _ => .ok [twoColumns fooRel "a" "b" "int4"])
        id "CREATE TABLE foo (a int4, b int4)" = .ok c₁ ∧
      validateCreateTable ⟨"system_", ["int4"]⟩
        (fun _ => .ok [joinedColumn fooRel "a" "b" "int4"]) id
        "CREATE TABLE foo (\"a:int4,b\" int4)" = .ok c₂ ∧
      checkCreateColTypes (twoColumns fooRel "a" "b" "int4") ["int4"] =
        .ok [⟨"a", "int4"⟩, ⟨"b", "int4"⟩] ∧
      checkCreateColTypes (joinedColumn fooRel "a" "b" "int4") ["int4"] =
        .ok [⟨"a" ++ ":" ++ "int4" ++ "," ++ "b", "int4"⟩] ∧
      [(⟨"a", "int4"⟩ : ColNameType), ⟨"b", "int4"⟩] ≠
        [⟨"a" ++ ":" ++ "int4" ++ "," ++ "b", "int4"⟩] ∧
      getStructureHash c₁ = getStructureHash c₂ :=
  ⟨⟨by decide, by decide⟩, structure_hash_collision ⟨"system_", ["int4"]⟩ id
    "CREATE TABLE foo (a int4, b int4)" "CREATE TABLE foo (\"a:int4,b\" int4)" fooRel "a" "b"
    "int4" (by decide) (by decide)⟩

end TablelandProofs.Parsing.StructureHash
