import Mathlib.Tactic

/-!
# Checked computations and their runs

Programs that can fail are computations in `Except ε`.  This file collects the
rules by which the rest of the development takes such computations apart.

* `ensure`, `fromOption`: a guard, and a partial value with its error;
* the inversion rules `bind_eq_ok`, `map_eq_ok`, `ensure_eq_ok`, `fromOption_eq_ok`;
* `runAll`: a list of steps executed in order, with `runAll_preserves` (an
  invariant), `runAll_measure` (a quantity that every step moves by a known amount)
  and `runAll_congr` (two lists of steps that agree).
-/

namespace Checked

universe u v

variable {ε : Type u} {α β : Type v}

/-! ### Guards and inversion -/

/-- Continue when `p` holds, fail with `e` otherwise. -/
def ensure (p : Prop) [Decidable p] (e : ε) : Except ε Unit :=
  if p then .ok () else .error e

/-- The value of an option, or the error `e`. -/
def fromOption (e : ε) : Option α → Except ε α
  | some a => .ok a
  | none => .error e

theorem bind_eq_ok {x : Except ε α} {f : α → Except ε β} {b : β} :
    x >>= f = .ok b ↔ ∃ a, x = .ok a ∧ f a = .ok b := by
  cases x with
  | error e => simp [bind, Except.bind]
  | ok a => simp [bind, Except.bind]

@[simp] theorem ok_bind (a : α) (f : α → Except ε β) : (Except.ok a >>= f) = f a := rfl

@[simp] theorem error_bind (e : ε) (f : α → Except ε β) :
    (Except.error e >>= f) = .error e := rfl

@[simp] theorem pure_eq (a : α) : (pure a : Except ε α) = .ok a := rfl

theorem map_eq_ok {x : Except ε α} {f : α → β} {b : β} :
    f <$> x = .ok b ↔ ∃ a, x = .ok a ∧ f a = b := by
  cases x with
  | error e => simp [Functor.map, Except.map]
  | ok a => simp [Functor.map, Except.map]

@[simp] theorem ensure_eq_ok {p : Prop} [Decidable p] {e : ε} {u : Unit} :
    ensure p e = .ok u ↔ p := by
  unfold ensure; split_ifs with h <;> simp [h]

theorem ensure_of {p : Prop} [Decidable p] (h : p) (e : ε) : ensure p e = .ok () := if_pos h

theorem ensure_of_not {p : Prop} [Decidable p] (h : ¬p) (e : ε) : ensure p e = .error e :=
  if_neg h

@[simp] theorem fromOption_some (e : ε) (a : α) : fromOption e (some a) = .ok a := rfl

@[simp] theorem fromOption_none (e : ε) : fromOption e (none : Option α) = .error e := rfl

@[simp] theorem fromOption_eq_ok {e : ε} {o : Option α} {a : α} :
    fromOption e o = .ok a ↔ o = some a := by
  cases o <;> simp

/-- The computation succeeds, with a value that passes a check. -/
def succeeds (p : α → Bool) : Except ε α → Bool
  | .ok a => p a
  | .error _ => false

theorem exists_of_succeeds {x : Except ε α} {p : α → Bool} (h : succeeds p x = true) :
    ∃ a, x = .ok a ∧ p a = true := by
  cases x with
  | ok a => exact ⟨a, rfl, h⟩
  | error e => cases h

/-! ### Runs -/

variable {σ : Type v}

/-- Execute the steps of a list in order; the first failure is the result. -/
def runAll (step : σ → α → Except ε σ) (s : σ) (l : List α) : Except ε σ := l.foldlM step s

variable {step : σ → α → Except ε σ} {s s' : σ} {l : List α}

@[simp] theorem runAll_nil : runAll step s [] = .ok s := rfl

@[simp] theorem runAll_cons {a : α} :
    runAll step s (a :: l) = step s a >>= fun t => runAll step t l := rfl

theorem runAll_append {m : List α} :
    runAll step s (l ++ m) = runAll step s l >>= fun t => runAll step t m :=
  List.foldlM_append

/-- The state is the one in which a run comes to a step. -/
def ReachedAt (step : σ → α → Except ε σ) (s : σ) (l : List α) (a : α) (t : σ) : Prop :=
  ∃ before after, l = before ++ a :: after ∧ runAll step s before = .ok t

theorem reachedAt_head {a : α} : ReachedAt step s (a :: l) a s := ⟨[], l, rfl, rfl⟩

theorem ReachedAt.cons {a b : α} {t u : σ} (h : ReachedAt step t l b u) (ht : step s a = .ok t) :
    ReachedAt step s (a :: l) b u := by
  obtain ⟨before, after, rfl, hrun⟩ := h
  exact ⟨a :: before, after, rfl, bind_eq_ok.mpr ⟨t, ht, hrun⟩⟩

theorem ReachedAt.mem {a : α} {t : σ} (h : ReachedAt step s l a t) : a ∈ l := by
  obtain ⟨before, after, rfl, -⟩ := h
  simp

/-- Every step of a successful run was successful in the state in which the run came to it. -/
theorem runAll_step_ok (h : runAll step s l = .ok s') {a : α} (ha : a ∈ l) :
    ∃ t t', ReachedAt step s l a t ∧ step t a = .ok t' := by
  induction l generalizing s with
  | nil => cases ha
  | cons b l ih =>
    obtain ⟨t, ht, hrun⟩ := bind_eq_ok.mp h
    rcases List.mem_cons.mp ha with rfl | ha
    · exact ⟨s, t, reachedAt_head, ht⟩
    · obtain ⟨u, u', hat, hu⟩ := ih hrun ha
      exact ⟨u, u', hat.cons ht, hu⟩

/-- An invariant that every successful step keeps is kept by every successful run. -/
theorem runAll_preserves (P : σ → Prop)
    (hstep : ∀ t a t', a ∈ l → step t a = .ok t' → P t → P t')
    (h : runAll step s l = .ok s') (hs : P s) : P s' := by
  induction l generalizing s with
  | nil => cases h; exact hs
  | cons a l ih =>
    obtain ⟨t, ht, hrun⟩ := bind_eq_ok.mp h
    have hP : P t := hstep s a t (by simp) ht hs
    exact ih (fun u b u' hb => hstep u b u' (List.mem_cons_of_mem a hb)) hrun hP

/-- A quantity that each step moves by `gain a` is moved by the sum of the gains. -/
theorem runAll_measure {G : Type*} [AddCommMonoid G] (m : σ → G) (gain : α → G)
    (hstep : ∀ t a t', ReachedAt step s l a t → step t a = .ok t' → m t' = m t + gain a)
    (h : runAll step s l = .ok s') : m s' = m s + (l.map gain).sum := by
  induction l generalizing s with
  | nil => cases h; simp
  | cons a l ih =>
    obtain ⟨t, ht, hrun⟩ := bind_eq_ok.mp h
    have hl := ih (fun u b u' hat => hstep u b u' (hat.cons ht)) hrun
    rw [hl, hstep s a t reachedAt_head ht, List.map_cons, List.sum_cons, add_assoc]

/-- Two lists whose steps agree pairwise are executed alike. -/
theorem runAll_congr {step' : σ → β → Except ε σ} {m : List β}
    (h : List.Forall₂ (fun a b => ∀ t, step t a = step' t b) l m) :
    runAll step s l = runAll step' s m := by
  induction h generalizing s with
  | nil => rfl
  | cons hstep _ ih =>
    rw [runAll_cons, runAll_cons, hstep s]
    exact congrArg _ (funext fun t => ih)

end Checked
