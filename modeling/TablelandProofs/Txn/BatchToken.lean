import Mathlib.Data.List.Basic

namespace TablelandProofs.Txn.BatchToken

inductive BatchState where
  | opened | committed | closed
  deriving DecidableEq, Repr

/-- The processor's chBatch (capacity 1), whether its Close has returned nil, and every
batch handle it gave out, in order. -/
structure ProcState where
  chBatch : Nat
  closed : Bool
  batches : List BatchState
  deriving DecidableEq, Repr

def newTxnProcessor : ProcState := ⟨1, false, []⟩

inductive Action where
  | openBatch (beginTxOk : Bool)
  | commit (h : Nat)
  | close (h : Nat)
  | closeProcessor (ctxDone : Bool)
  deriving DecidableEq, Repr

/-- The effect of one call; `none` when it blocks on chBatch or names no handle. -/
def step (s : ProcState) : Action → Option ProcState
  | .openBatch beginTxOk =>
    if s.chBatch = 0 then none
    else if beginTxOk then
      some { s with chBatch := s.chBatch - 1, batches := s.batches ++ [.opened] }
    else some s
  | .commit h =>
    match s.batches[h]? with
    | some .opened => some { s with batches := s.batches.set h .committed }
    | some _ => some s
    | none => none
  | .close h =>
    if h < s.batches.length then
      if s.chBatch < 1 then
        some { s with chBatch := s.chBatch + 1, batches := s.batches.set h .closed }
      else none
    else none
  | .closeProcessor ctxDone =>
    if ctxDone then some s
    else if s.chBatch = 0 then none
    else some { s with chBatch := s.chBatch - 1, closed := true }

inductive Reachable (allowed : ProcState → Action → Prop) : ProcState → Prop
  | init : Reachable allowed newTxnProcessor
  | step {s s' : ProcState} (a : Action) :
      Reachable allowed s → allowed s a → step s a = some s' → Reachable allowed s'

def anyCall : ProcState → Action → Prop := fun _ _ => True

def openCount (bs : List BatchState) : Nat := bs.countP (· != .closed)

/-- The conservation law of the batch token. -/
def TokenInv (s : ProcState) : Prop := openCount s.batches + s.chBatch + s.closed.toNat = 1

theorem double_close_reaches (k : Nat) :
    Reachable anyCall ⟨1, false, .closed :: List.replicate k .opened⟩ := by
  induction k with
  | zero =>
    have h₁ : Reachable anyCall ⟨0, false, [.opened]⟩ := .step (.openBatch true) .init trivial rfl
    exact .step (.close 0) h₁ trivial rfl
  | succ k ih =>
    have h₁ : Reachable anyCall ⟨0, false, .closed :: List.replicate (k + 1) .opened⟩ := by
      refine .step (.openBatch true) ih trivial ?_
      simp [step, List.replicate_succ']
    exact .step (.close 0) h₁ trivial (by simp [step])

theorem openCount_double_close (k : Nat) :
    openCount (.closed :: List.replicate k .opened) = k := by
  simp [openCount, List.countP_replicate]

theorem open_after_processor_close :
    Reachable anyCall ⟨1, true, [.closed]⟩ ∧
      step ⟨1, true, [.closed]⟩ (.openBatch true) = some ⟨0, true, [.closed, .opened]⟩ := by
  have h₁ : Reachable anyCall ⟨0, false, [.opened]⟩ := .step (.openBatch true) .init trivial rfl
  have h₂ : Reachable anyCall ⟨1, false, [.closed]⟩ := .step (.close 0) h₁ trivial rfl
  have h₃ : Reachable anyCall ⟨0, true, [.closed]⟩ := .step (.closeProcessor false) h₂ trivial rfl
  exact ⟨.step (.close 0) h₃ trivial rfl, rfl⟩

/-- The token invariant fails: for every `k`, a reachable state holds `k` open batches and
a token, and OpenBatch can succeed after the processor's Close returned nil. -/
theorem double_close_breaks_token (k : Nat) :
    (∃ s, Reachable anyCall s ∧ openCount s.batches = k ∧ s.chBatch = 1 ∧ s.closed = false) ∧
    (∃ s s', Reachable anyCall s ∧ s.closed = true ∧ step s (.openBatch true) = some s') :=
  ⟨⟨_, double_close_reaches k, openCount_double_close k, rfl, rfl⟩,
    ⟨_, _, open_after_processor_close.1, rfl, open_after_processor_close.2⟩⟩

section SingleClose

/-- Each handle is closed at most once. -/
def closeOnce (s : ProcState) : Action → Prop
  | .close h => s.batches[h]? ≠ some .closed
  | _ => True

theorem openCount_append (bs : List BatchState) :
    openCount (bs ++ [.opened]) = openCount bs + 1 := by
  simp [openCount]

theorem openCount_set {bs : List BatchState} {h : Nat} (hh : h < bs.length) (b : BatchState) :
    openCount (bs.set h b) + (if bs[h] = .closed then 0 else 1) =
      openCount bs + (if b = .closed then 0 else 1) := by
  have hpos : (if bs[h] = .closed then 0 else 1) ≤ openCount bs := by
    split_ifs with hc
    · exact Nat.zero_le _
    · exact List.countP_pos_iff.2 ⟨_, List.getElem_mem hh, by simpa using hc⟩
  simp only [openCount, List.countP_set _ _ _ _ hh, bne_iff_ne, ne_eq] at hpos ⊢
  split_ifs at hpos ⊢ <;> simp_all

theorem tokenInv_step {s s' : ProcState} {a : Action} (hinv : TokenInv s) (ha : closeOnce s a)
    (hs : step s a = some s') : TokenInv s' := by
  unfold TokenInv at hinv ⊢
  cases a with
  | openBatch ok =>
    simp only [step] at hs
    split_ifs at hs with h0 hok <;> cases hs
    · simp only [openCount_append]; omega
    · exact hinv
  | commit h =>
    simp only [step] at hs
    split at hs <;> cases hs
    next hb =>
      obtain ⟨hh, he⟩ := List.getElem?_eq_some_iff.1 hb
      have := openCount_set hh .committed
      simp only [he, reduceCtorEq, if_false] at this
      simp only; omega
    next => exact hinv
  | close h =>
    simp only [step] at hs
    split_ifs at hs with hh h0
    cases hs
    have hne : s.batches[h] ≠ .closed := fun he => ha (List.getElem?_eq_some_iff.2 ⟨hh, he⟩)
    have := openCount_set hh .closed
    simp only [hne, if_false, if_true] at this
    simp only; omega
  | closeProcessor done =>
    simp only [step] at hs
    split_ifs at hs with hd h0 <;> cases hs
    · exact hinv
    · simp only [Bool.toNat_true]; omega

theorem tokenInv_reachable {s : ProcState} (h : Reachable closeOnce s) : TokenInv s := by
  induction h with
  | init => rfl
  | step a _ ha hs ih => exact tokenInv_step ih ha hs

/-- When every handle is closed once, every reachable state keeps the token law: at most
one batch is open, and OpenBatch blocks for good once the processor's Close has returned nil. -/
theorem closeOnce_token_law {s : ProcState} (h : Reachable closeOnce s) :
    TokenInv s ∧ openCount s.batches ≤ 1 ∧
      (s.closed = true → ∀ ok, step s (.openBatch ok) = none) := by
  have hinv := tokenInv_reachable h
  refine ⟨hinv, by unfold TokenInv at hinv; omega, fun hc ok => ?_⟩
  simp only [TokenInv, hc, Bool.toNat_true] at hinv
  simp [step, show s.chBatch = 0 by omega]

def shutDown : ProcState := ⟨0, true, [.closed]⟩

theorem commit_close_shutdown :
    Reachable closeOnce shutDown ∧ TokenInv shutDown ∧ openCount shutDown.batches ≤ 1 ∧
      (shutDown.closed = true → ∀ ok, step shutDown (.openBatch ok) = none) := by
  have h₁ : Reachable closeOnce ⟨0, false, [.opened]⟩ := .step (.openBatch true) .init trivial rfl
  have h₂ : Reachable closeOnce ⟨0, false, [.committed]⟩ := .step (.commit 0) h₁ trivial rfl
  have h₃ : Reachable closeOnce ⟨1, false, [.closed]⟩ :=
    .step (.close 0) h₂ (by simp [closeOnce]) rfl
  have h₄ : Reachable closeOnce shutDown := .step (.closeProcessor false) h₃ trivial rfl
  exact ⟨h₄, closeOnce_token_law h₄⟩

end SingleClose

end TablelandProofs.Txn.BatchToken
