import Mathlib.Data.Nat.Digits
import TablelandProofs.Tableland

namespace TablelandProofs.TableName

open Tableland

/-- Go's int64: from -(1 << 63) to (1 << 63) - 1. -/
@[ext] structure GoInt64 where
  val : Int
  ge : -9223372036854775808 ≤ val
  lt : val < 9223372036854775808
  deriving DecidableEq

inductive NumErr where
  | errSyntax | errRange
  deriving DecidableEq, Repr

def NumErr.text : NumErr → String
  | .errSyntax => "invalid syntax"
  | .errRange => "value out of range"

/-- The *NumError of strconv.ParseInt; strconv.Quote's escapes are left out. -/
def numError (s : String) (e : NumErr) : GoError :=
  .new ("strconv.ParseInt: parsing \"" ++ s ++ "\": " ++ e.text)

/-- The digit loop of strconv.ParseUint for base 10 and bitSize 64, on an unbounded
accumulator: a byte that is no decimal digit is ErrSyntax, and a value above maxVal,
(1 << 64) - 1, is ErrRange, whichever comes first. -/
def parseUintLoop : Nat → List Char → Except NumErr Nat
  | n, [] => pure n
  | n, c :: cs =>
    if c.isDigit then
      if n * 10 + (c.toNat - '0'.toNat) > 18446744073709551615 then throw .errRange
      else parseUintLoop (n * 10 + (c.toNat - '0'.toNat)) cs
    else throw .errSyntax

def parseUint (s : List Char) : Except NumErr Nat :=
  if s = [] then throw .errSyntax else parseUintLoop 0 s

def GoInt64.ofSign (neg : Bool) (un : Nat) (h₁ : ¬(neg = false ∧ un ≥ 9223372036854775808))
    (h₂ : ¬(neg = true ∧ un > 9223372036854775808)) : GoInt64 :=
  ⟨if neg then -un else un, by cases neg <;> simp_all; omega, by cases neg <;> simp_all; omega⟩

/-- strconv.ParseInt(s, 10, 64): a sign, ParseUint, then the int64 range against the
cutoff 1 << 63. -/
def parseInt (s : String) : Except GoError GoInt64 :=
  match s.data with
  | [] => throw (numError s .errSyntax)
  | c :: cs =>
    let (neg, digits) : Bool × List Char :=
      if c = '+' then (false, cs) else if c = '-' then (true, cs) else (false, c :: cs)
    match parseUint digits with
    | .error e => throw (numError s e)
    | .ok un =>
      if h₁ : neg = false ∧ un ≥ 9223372036854775808 then throw (numError s .errRange)
      else if h₂ : neg = true ∧ un > 9223372036854775808 then throw (numError s .errRange)
      else pure (GoInt64.ofSign neg un h₁ h₂)

def formatInt (i : GoInt64) : String :=
  if i.val < 0 then "-" ++ Nat.repr i.val.natAbs else Nat.repr i.val.natAbs

theorem digitChar_digit : ∀ d < 10,
    (Nat.digitChar d).isDigit = true ∧ (Nat.digitChar d).toNat - '0'.toNat = d := by
  decide

theorem toDigitsCore_isDigit (fuel : Nat) :
    ∀ (n : Nat) (ds : List Char), (∀ x ∈ ds, x.isDigit = true) →
      ∀ x ∈ Nat.toDigitsCore 10 fuel n ds, x.isDigit = true := by
  induction fuel with
  | zero => exact fun _ _ h => h
  | succ f ih =>
    intro n ds hds
    have hd := (digitChar_digit (n % 10) (Nat.mod_lt _ (by decide))).1
    have hcons : ∀ x ∈ Nat.digitChar (n % 10) :: ds, x.isDigit = true := by
      rintro x (_ | ⟨_, hx⟩)
      · exact hd
      · exact hds x hx
    simp only [Nat.toDigitsCore]
    split
    · exact hcons
    · exact ih _ _ hcons

theorem toDigitsCore_ne_nil (fuel : Nat) :
    ∀ (n : Nat) (ds : List Char), ds ≠ [] → Nat.toDigitsCore 10 fuel n ds ≠ [] := by
  induction fuel with
  | zero => exact fun _ _ h => h
  | succ f ih =>
    intro n ds _
    simp only [Nat.toDigitsCore]
    split
    · exact List.cons_ne_nil _ _
    · exact ih _ _ (List.cons_ne_nil _ _)

theorem parseUintLoop_toDigitsCore (fuel : Nat) :
    ∀ (n : Nat) (ds : List Char), n < fuel → n ≤ 18446744073709551615 →
      parseUintLoop 0 (Nat.toDigitsCore 10 fuel n ds) = parseUintLoop n ds := by
  induction fuel with
  | zero => intro n _ h; omega
  | succ f ih =>
    intro n ds hf hn
    obtain ⟨hdig, hval⟩ := digitChar_digit (n % 10) (Nat.mod_lt _ (by decide))
    simp only [Nat.toDigitsCore]
    split
    · simp only [parseUintLoop, hdig, hval, if_true]
      rw [if_neg (by omega), show 0 * 10 + n % 10 = n by omega]
    · rw [ih (n / 10) _ (by omega) (by omega)]
      simp only [parseUintLoop, hdig, hval, if_true]
      rw [if_neg (by omega), show n / 10 * 10 + n % 10 = n by omega]

theorem repr_data_ne_nil (n : Nat) : (Nat.repr n).data ≠ [] := by
  show Nat.toDigitsCore 10 (n + 1) n [] ≠ []
  simp only [Nat.toDigitsCore]
  split
  · exact List.cons_ne_nil _ _
  · exact toDigitsCore_ne_nil _ _ _ (List.cons_ne_nil _ _)

theorem parseUint_repr {n : Nat} (h : n ≤ 18446744073709551615) :
    parseUint (Nat.repr n).data = .ok n := by
  rw [parseUint, if_neg (repr_data_ne_nil n)]
  exact parseUintLoop_toDigitsCore (n + 1) n [] (by omega) h

/-- ParseInt reads back what FormatInt writes, for every int64. -/
theorem parseInt_formatInt (i : GoInt64) : parseInt (formatInt i) = .ok i := by
  have hge := i.ge
  have hlt := i.lt
  have plus : ('-' = '+') = False := by decide
  unfold formatInt
  split_ifs with hneg
  · have hk : (i.val.natAbs : Int) = -i.val := Int.ofNat_natAbs_of_nonpos (by omega)
    have e : ("-" ++ Nat.repr i.val.natAbs).data = '-' :: (Nat.repr i.val.natAbs).data := rfl
    simp only [parseInt, e, plus, if_false, if_true, parseUint_repr (n := i.val.natAbs) (by omega),
      Bool.true_eq_false, false_and, dite_false, true_and]
    rw [dif_neg (by omega)]
    exact congrArg Except.ok (GoInt64.ext (by simp [GoInt64.ofSign, hk]))
  · have hk : (i.val.natAbs : Int) = i.val := Int.natAbs_of_nonneg (by omega)
    obtain ⟨c, cs, e⟩ := List.exists_cons_of_ne_nil (repr_data_ne_nil i.val.natAbs)
    have hc : c.isDigit = true :=
      toDigitsCore_isDigit _ _ _ (fun _ h => absurd h (List.not_mem_nil _)) c
        (show c ∈ (Nat.repr i.val.natAbs).data by simp [e])
    have hp : c ≠ '+' := fun h => by rw [h] at hc; cases hc
    have hm : c ≠ '-' := fun h => by rw [h] at hc; cases hc
    simp only [parseInt, e, hp, hm, if_false]
    rw [← e]
    simp only [parseUint_repr (n := i.val.natAbs) (by omega), true_and, Bool.false_eq_true,
      false_and, dite_false]
    rw [dif_neg (by omega)]
    exact congrArg Except.ok (GoInt64.ext (by simp [GoInt64.ofSign, hk]))

def decValue (n : Nat) (ds : List Char) : Nat := ds.foldl (fun n c => n * 10 + (c.toNat - '0'.toNat)) n

theorem le_decValue : ∀ (n : Nat) (ds : List Char), n ≤ decValue n ds
  | _, [] => le_rfl
  | n, c :: ds => (by omega : n ≤ n * 10 + (c.toNat - '0'.toNat)).trans (le_decValue _ ds)

theorem parseUintLoop_eq_ok {v : Nat} :
    ∀ {n : Nat} {cs : List Char}, n ≤ 18446744073709551615 →
      (parseUintLoop n cs = .ok v ↔
        (∀ c ∈ cs, c.isDigit = true) ∧ decValue n cs = v ∧ v ≤ 18446744073709551615)
  | n, [], hn => by
    simp only [parseUintLoop, pure_eq_ok, Except.ok.injEq, List.not_mem_nil, false_imp_iff,
      implies_true, true_and, decValue, List.foldl_nil]
    constructor
    · rintro rfl; exact ⟨rfl, hn⟩
    · exact fun h => h.1
  | n, c :: cs, hn => by
    simp only [parseUintLoop]
    split_ifs with hd hv
    · have := le_decValue (n * 10 + (c.toNat - '0'.toNat)) cs
      simp only [decValue, List.foldl_cons] at *
      constructor
      · intro h; cases h
      · rintro ⟨-, rfl, hle⟩; omega
    · rw [parseUintLoop_eq_ok (by omega)]
      simp [hd, decValue]
    · simp [hd]

theorem ofSign_eq_ok {b : Bool} {n : Nat} {h₁ : ¬(b = false ∧ n ≥ 9223372036854775808)}
    {h₂ : ¬(b = true ∧ n > 9223372036854775808)} {i : GoInt64} :
    (pure (GoInt64.ofSign b n h₁ h₂) : Except GoError GoInt64) = .ok i ↔
      i.val = if b then -(n : Int) else n := by
  rw [pure_eq_ok, Except.ok.injEq, GoInt64.ext_iff, eq_comm]
  rfl

theorem parseUint_eq_ok {ds : List Char} {v : Nat} :
    parseUint ds = .ok v ↔ ds ≠ [] ∧ (∀ c ∈ ds, c.isDigit = true) ∧ decValue 0 ds = v ∧
      v ≤ 18446744073709551615 := by
  unfold parseUint
  split_ifs with h
  · simp [h]
  · rw [parseUintLoop_eq_ok (by decide)]
    simp [h]

theorem signed_digits_iff {c : Char} {cs digits : List Char} {neg : Bool} {v : Int}
    (hsp : (if c = '+' then (false, cs) else if c = '-' then (true, cs)
      else (false, c :: cs)) = (neg, digits)) :
    (digits ≠ [] ∧ (∀ x ∈ digits, x.isDigit = true) ∧
      v = if neg then -(decValue 0 digits : Int) else decValue 0 digits) ↔
    ∃ ds : List Char, ds ≠ [] ∧ (∀ x ∈ ds, x.isDigit = true) ∧
      ((c :: cs = ds ∨ c :: cs = '+' :: ds) ∧ v = decValue 0 ds ∨
        c :: cs = '-' :: ds ∧ v = -(decValue 0 ds : Int)) := by
  by_cases hp : c = '+'
  · subst hp
    simp only [if_true, Prod.mk.injEq] at hsp
    obtain ⟨rfl, rfl⟩ := hsp
    constructor
    · rintro ⟨hne, hdig, hv⟩
      exact ⟨_, hne, hdig, .inl ⟨.inr rfl, by simpa using hv⟩⟩
    · rintro ⟨ds, hne, hdig, ⟨h | h, hv⟩ | ⟨h, hv⟩⟩
      · exact absurd (hdig '+' (h ▸ List.mem_cons_self _ _)) (by decide)
      · simp only [List.cons.injEq, true_and] at h
        subst h
        exact ⟨hne, hdig, by simpa using hv⟩
      · simp at h
  by_cases hm : c = '-'
  · subst hm
    simp only [if_true, Prod.mk.injEq, if_neg hp] at hsp
    obtain ⟨rfl, rfl⟩ := hsp
    constructor
    · rintro ⟨hne, hdig, hv⟩
      exact ⟨_, hne, hdig, .inr ⟨rfl, by simpa using hv⟩⟩
    · rintro ⟨ds, hne, hdig, ⟨h | h, hv⟩ | ⟨h, hv⟩⟩
      · exact absurd (hdig '-' (h ▸ List.mem_cons_self _ _)) (by decide)
      · simp at h
      · simp only [List.cons.injEq, true_and] at h
        subst h
        exact ⟨hne, hdig, by simpa using hv⟩
  · simp only [if_neg hp, if_neg hm, Prod.mk.injEq] at hsp
    obtain ⟨rfl, rfl⟩ := hsp
    constructor
    · rintro ⟨hne, hdig, hv⟩
      exact ⟨_, hne, hdig, .inl ⟨.inl rfl, by simpa using hv⟩⟩
    · rintro ⟨ds, hne, hdig, ⟨h | h, hv⟩ | ⟨h, hv⟩⟩
      · subst h
        exact ⟨hne, hdig, by simpa using hv⟩
      · exact absurd (List.cons.inj h).1 hp
      · exact absurd (List.cons.inj h).1 hm

theorem parseInt_eq_ok (s : String) (i : GoInt64) :
    parseInt s = .ok i ↔ ∃ ds : List Char, ds ≠ [] ∧ (∀ c ∈ ds, c.isDigit = true) ∧
      ((s.data = ds ∨ s.data = '+' :: ds) ∧ i.val = decValue 0 ds ∨
        s.data = '-' :: ds ∧ i.val = -(decValue 0 ds : Int)) := by
  have hge := i.ge
  have hlt := i.lt
  unfold parseInt
  split
  · next hs =>
    refine ⟨fun h => (by cases h), ?_⟩
    rintro ⟨ds, hne, -, ⟨h | h, -⟩ | ⟨h, -⟩⟩ <;> rw [hs] at h
    · exact absurd h.symm hne
    all_goals cases h
  · next c cs hs =>
    dsimp only
    generalize hsp : (if c = '+' then (false, cs) else if c = '-' then (true, cs)
      else (false, c :: cs)) = p
    obtain ⟨neg, digits⟩ := p
    dsimp only
    rw [hs, ← signed_digits_iff hsp]
    cases hu : parseUint digits with
    | error e =>
      simp only [hu]
      constructor
      · intro h
        cases h
      · rintro ⟨hne, hdig, hv⟩
        have h := parseUint_eq_ok.2 ⟨hne, hdig, rfl, by cases neg <;> simp at hv <;> omega⟩
        rw [hu] at h
        cases h
    | ok un =>
      obtain ⟨hne, hdig, rfl, hle⟩ := parseUint_eq_ok.1 hu
      simp only [hu]
      by_cases h₁ : neg = false ∧ decValue 0 digits ≥ 9223372036854775808
      · rw [dif_pos h₁]
        obtain ⟨rfl, hd⟩ := h₁
        exact ⟨fun h => (by cases h), fun ⟨_, _, hv⟩ => by simp at hv; omega⟩
      rw [dif_neg h₁]
      by_cases h₂ : neg = true ∧ decValue 0 digits > 9223372036854775808
      · rw [dif_pos h₂]
        obtain ⟨rfl, hd⟩ := h₂
        exact ⟨fun h => (by cases h), fun ⟨_, _, hv⟩ => by simp at hv; omega⟩
      rw [dif_neg h₂, ofSign_eq_ok]
      exact ⟨fun hv => ⟨hne, hdig, hv⟩, fun h => h.2.2⟩

theorem parseInt_error_numError {s : String} {e : GoError} (h : parseInt s = .error e) :
    ∃ k, e = numError s k := by
  unfold parseInt at h
  split at h
  · exact ⟨_, (Except.error.inj h).symm⟩
  · next c cs _ =>
    generalize (if c = '+' then (false, cs) else if c = '-' then (true, cs)
      else (false, c :: cs)) = p at h
    obtain ⟨neg, digits⟩ := p
    dsimp only at h
    split at h
    · exact ⟨_, (Except.error.inj h).symm⟩
    · split_ifs at h <;> first | exact ⟨_, (Except.error.inj h).symm⟩ | cases h

/-- ParseInt(s, 10, 64) succeeds exactly on an optional sign and a non-empty run of decimal
digits whose signed value is an int64, returns that value, and otherwise fails with a
*NumError that quotes s. -/
theorem parseInt_spec (s : String) :
    (∀ i : GoInt64, parseInt s = .ok i ↔ ∃ ds : List Char, ds ≠ [] ∧
      (∀ c ∈ ds, c.isDigit = true) ∧ ((s.data = ds ∨ s.data = '+' :: ds) ∧ i.val = decValue 0 ds ∨
        s.data = '-' :: ds ∧ i.val = -(decValue 0 ds : Int))) ∧
    (∀ e, parseInt s = .error e → ∃ k, e = numError s k) :=
  ⟨parseInt_eq_ok s, fun _ => parseInt_error_numError⟩

abbrev ChainID := GoInt64

/-- A database table: its id, the name prefix its creator chose (the Go field prefix), and
its chain. -/
structure Table where
  id : TableID
  namePrefix : String
  chainID : ChainID
  deriving DecidableEq

def split (s : String) (sep : Char) : List String := (s.data.splitOn sep).map String.mk

/-- NewTableFromName, with tables.NewTableID as a parameter. -/
def newTableFromName (newTableID : String → Except GoError TableID) (name : String) :
    Except GoError Table :=
  let parts := split name '_'
  if h : parts.length < 2 then throw (.new "table name has invalid format")
  else do
    let tableID ← formatErr "new table id: %s" (newTableID parts[parts.length - 1])
    let i ← formatErr "parse chain id: %s" (parseInt parts[parts.length - 2])
    pure ⟨tableID, "_".intercalate (parts.take (parts.length - 2)), i⟩

theorem underscore_not_mem_formatInt (i : GoInt64) : '_' ∉ (formatInt i).data := by
  have hd : ∀ x ∈ (Nat.repr i.val.natAbs).data, x.isDigit = true :=
    toDigitsCore_isDigit _ _ _ (fun _ h => absurd h (List.not_mem_nil _))
  intro h
  unfold formatInt at h
  split_ifs at h
  · have h' : '_' ∈ (Nat.repr i.val.natAbs).data := by simpa using h
    exact absurd (hd _ h') (by decide)
  · exact absurd (hd _ h) (by decide)

theorem split_pair (cs s : String) (hcs : '_' ∉ cs.data) (hs : '_' ∉ s.data) :
    split (cs ++ "_" ++ s) '_' = [cs, s] := by
  have e : (cs ++ "_" ++ s).data = cs.data ++ '_' :: s.data := by simp
  simp only [split, e, splitOn_append_cons, splitOn_of_not_mem hs, splitOn_of_not_mem hcs]
  rfl

theorem split_parts (p cs s : String) (hcs : '_' ∉ cs.data) (hs : '_' ∉ s.data) :
    split (p ++ "_" ++ cs ++ "_" ++ s) '_' = split p '_' ++ [cs, s] := by
  have e : (p ++ "_" ++ cs ++ "_" ++ s).data = p.data ++ '_' :: (cs ++ "_" ++ s).data := by
    simp
  rw [← split_pair cs s hcs hs]
  simp only [split, e, splitOn_append_cons, List.map_append]

theorem split_name (p s : String) (c : GoInt64) (hs : '_' ∉ s.data) :
    split (p ++ "_" ++ formatInt c ++ "_" ++ s) '_' = split p '_' ++ [formatInt c, s] :=
  split_parts p (formatInt c) s (underscore_not_mem_formatInt c) hs

theorem join_split (p : String) : "_".intercalate (split p '_') = p :=
  String.ext (by
    rw [intercalate_data, split, List.map_map, show String.data ∘ String.mk = id from rfl,
      List.map_id]
    exact List.intercalate_splitOn p.data '_')

theorem not_mem_of_mem_split {s a : String} {sep : Char} (h : a ∈ split s sep) :
    sep ∉ a.data := by
  obtain ⟨w, hw, rfl⟩ := List.mem_map.1 h
  exact not_mem_of_mem_splitOn hw

theorem exists_eq_append_pair {α : Type} {l : List α} (h : ¬l.length < 2) :
    ∃ init a b, l = init ++ [a, b] := by
  obtain ⟨a, b, hab⟩ := (@List.length_eq_two _ (l.drop (l.length - 2))).1 (by simp; omega)
  exact ⟨l.take (l.length - 2), a, b, by rw [← hab, List.take_append_drop]⟩

theorem intercalate_append_pair (x : String) (xs : List String) (a b : String) :
    "_".intercalate (x :: xs ++ [a, b]) = "_".intercalate (x :: xs) ++ "_" ++ a ++ "_" ++ b :=
  String.ext (by simp [intercalate_data, intercalate_cons, List.append_assoc])

theorem newTableFromName_of_split {newTableID : String → Except GoError TableID} {name : String}
    {init : List String} {a b : String} (h : split name '_' = init ++ [a, b]) :
    newTableFromName newTableID name = (do
      let tableID ← formatErr "new table id: %s" (newTableID b)
      let i ← formatErr "parse chain id: %s" (parseInt a)
      pure ⟨tableID, "_".intercalate init, i⟩) := by
  unfold newTableFromName
  simp only [h]
  rw [dif_neg (by simp)]
  simp [List.getElem_append_right]

/-- NewTableFromName reads back the name made of any prefix (empty, or holding
underscores), the decimal form of any int64 chain id, and an id string without an
underscore that tables.NewTableID accepts. -/
theorem newTableFromName_name (newTableID : String → Except GoError TableID) (p : String)
    (c : ChainID) (s : String) (hs : '_' ∉ s.data) (id : TableID) (hid : newTableID s = .ok id) :
    newTableFromName newTableID (p ++ "_" ++ formatInt c ++ "_" ++ s) = .ok ⟨id, p, c⟩ := by
  rw [newTableFromName_of_split (split_name p s c hs)]
  simp [hid, parseInt_formatInt, join_split]

def minusSeven : ChainID := ⟨-7, by decide, by decide⟩

theorem my_table_minus_seven_name :
    ('_' ∉ "42".data ∧ (fun _ => .ok 42 : String → Except GoError TableID) "42" = .ok 42) ∧
    newTableFromName (fun _ => .ok 42) ("my_table" ++ "_" ++ formatInt minusSeven ++ "_" ++ "42") =
      .ok ⟨42, "my_table", minusSeven⟩ :=
  ⟨⟨by decide, rfl⟩, newTableFromName_name _ "my_table" minusSeven "42" (by decide) 42 rfl⟩

/-- What NewTableFromName accepts is well formed: the name is a chain-id part that ParseInt
reads as the chain id and an id part that tables.NewTableID accepts, joined by an
underscore, after the prefix it returns and an underscore, or after nothing when the
prefix is empty. -/
theorem newTableFromName_ok {newTableID : String → Except GoError TableID} {name : String}
    {t : Table} (h : newTableFromName newTableID name = .ok t) :
    ∃ cs ids : String, '_' ∉ cs.data ∧ '_' ∉ ids.data ∧
      parseInt cs = .ok t.chainID ∧ newTableID ids = .ok t.id ∧
      (name = cs ++ "_" ++ ids ∧ t.namePrefix = "" ∨
        name = t.namePrefix ++ "_" ++ cs ++ "_" ++ ids) := by
  have hl : ¬(split name '_').length < 2 := fun hl => by
    simp only [newTableFromName, hl, dite_true] at h
    cases h
  obtain ⟨init, a, b, hp⟩ := exists_eq_append_pair hl
  have ha : a ∈ split name '_' := hp ▸ by simp
  have hb : b ∈ split name '_' := hp ▸ by simp
  have hn := join_split name
  rw [newTableFromName_of_split hp] at h
  rw [hp] at hn
  obtain ⟨id, hid, h⟩ := bind_eq_ok.1 h
  obtain ⟨c, hc, h⟩ := bind_eq_ok.1 h
  cases h
  refine ⟨a, b, not_mem_of_mem_split ha, not_mem_of_mem_split hb, (formatErr_ok _ _ _).1 hc,
    (formatErr_ok _ _ _).1 hid, ?_⟩
  cases init with
  | nil => exact .inl ⟨hn.symm, rfl⟩
  | cons x xs => exact .inr (by rw [← hn, intercalate_append_pair])

theorem minus_seven_42_parts :
    newTableFromName (fun _ => .ok 42) "-7_42" = .ok ⟨42, "", minusSeven⟩ ∧
    ∃ cs ids : String, '_' ∉ cs.data ∧ '_' ∉ ids.data ∧
      parseInt cs = .ok minusSeven ∧
      (fun _ => .ok 42 : String → Except GoError TableID) ids = .ok 42 ∧
      ("-7_42" = cs ++ "_" ++ ids ∧ "" = "" ∨ "-7_42" = "" ++ "_" ++ cs ++ "_" ++ ids) :=
  ⟨by decide, @newTableFromName_ok (fun _ => .ok 42) "-7_42" ⟨42, "", minusSeven⟩ (by decide)⟩

/-- NewTableFromName accepts every well-formed name: a chain-id part that ParseInt reads and
an id part that tables.NewTableID reads, neither holding an underscore, joined by an
underscore, alone or after any prefix and an underscore. -/
theorem newTableFromName_of_parts {newTableID : String → Except GoError TableID}
    {cs ids : String} {c : ChainID} {id : TableID} (hcs : '_' ∉ cs.data) (hids : '_' ∉ ids.data)
    (hc : parseInt cs = .ok c) (hid : newTableID ids = .ok id) :
    newTableFromName newTableID (cs ++ "_" ++ ids) = .ok ⟨id, "", c⟩ ∧
      ∀ p, newTableFromName newTableID (p ++ "_" ++ cs ++ "_" ++ ids) = .ok ⟨id, p, c⟩ := by
  refine ⟨?_, fun p => ?_⟩
  · rw [newTableFromName_of_split (show split (cs ++ "_" ++ ids) '_' = [] ++ [cs, ids] from
      split_pair cs ids hcs hids)]
    simp [hid, hc]
    rfl
  · rw [newTableFromName_of_split (split_parts p cs ids hcs hids)]
    simp [hid, hc, join_split]

theorem minus_zero_seven_parts :
    ('_' ∉ "-07".data ∧ '_' ∉ "42".data ∧ parseInt "-07" = .ok minusSeven ∧
      (fun _ => .ok 42 : String → Except GoError TableID) "42" = .ok 42) ∧
    newTableFromName (fun _ => .ok 42) ("-07" ++ "_" ++ "42") = .ok ⟨42, "", minusSeven⟩ ∧
      ∀ p, newTableFromName (fun _ => .ok 42) (p ++ "_" ++ "-07" ++ "_" ++ "42") =
        .ok ⟨42, p, minusSeven⟩ :=
  have hc : parseInt "-07" = .ok minusSeven := by decide
  ⟨⟨by decide, by decide, hc, rfl⟩, newTableFromName_of_parts (by decide) (by decide) hc rfl⟩

end TablelandProofs.TableName
