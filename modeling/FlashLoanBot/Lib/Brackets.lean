import FlashLoanBot.Lib.Checked

/-!
# Brackets in a list of instructions

Instructions are executed by their index, and an instruction can see the whole list it stands
in.  Something is opened for a key only when the list has an instruction further on that
closes it for that key.

* `Bracketed`: which instructions open and which close, and what executing one does;
* `Promised`: what is open will be closed by an instruction that is still to come;
* `Bracketed.none_open`: behind the last instruction nothing is open;
* `Bracketed.opened_before`, `Bracketed.closed_behind`: what is open somewhere in between was
  opened by an earlier instruction, and is closed by a later one that finds it open.
-/

namespace Brackets

open Checked

universe u

variable {ε : Type u} {σ : Type} {κ : Type*}

/-- Executing the instruction at an index opens keys only where it says so and only when they
are closed further on, and closes exactly the keys that it says. -/
structure Bracketed (step : σ → ℕ → Except ε σ) (isOpen : σ → κ → Prop)
    (opens closes : ℕ → κ → Prop) : Prop where
  opened {i : ℕ} {s t : σ} {k : κ} : step s i = .ok t → isOpen t k →
    isOpen s k ∨ opens i k ∧ ∃ j, i < j ∧ closes j k
  closed {i : ℕ} {s t : σ} {k : κ} : step s i = .ok t → closes i k → ¬isOpen t k
  kept {i : ℕ} {s t : σ} {k : κ} : step s i = .ok t → isOpen s k → ¬closes i k → isOpen t k

/-- Everything open is closed by an instruction from the given index on. -/
def Promised (isOpen : σ → κ → Prop) (closes : ℕ → κ → Prop) (i : ℕ) (s : σ) : Prop :=
  ∀ k, isOpen s k → ∃ j, i ≤ j ∧ closes j k

theorem promised_of_none {isOpen : σ → κ → Prop} {closes : ℕ → κ → Prop} {i : ℕ} {s : σ}
    (h : ∀ k, ¬isOpen s k) : Promised isOpen closes i s :=
  fun k hk => absurd hk (h k)

section Runs

variable {step : σ → ℕ → Except ε σ} {isOpen : σ → κ → Prop} {opens closes : ℕ → κ → Prop}
  {i n : ℕ} {s t u : σ} {k : κ}

/-- A run over the first instructions and the rest of it. -/
theorem run_split (h : runAll step s (List.range n) = .ok u) (hi : i ≤ n) :
    ∃ t, runAll step s (List.range i) = .ok t ∧
      runAll step t (List.range' i (n - i)) = .ok u := by
  obtain ⟨m, rfl⟩ := Nat.exists_eq_add_of_le hi
  rw [List.range_eq_range', ← List.range'_append_1, runAll_append, bind_eq_ok] at h
  obtain ⟨t, ht, hu⟩ := h
  refine ⟨t, ?_, ?_⟩
  · rw [List.range_eq_range']
    exact ht
  · simpa using hu

theorem Bracketed.promised_step (h : Bracketed step isOpen opens closes)
    (hs : Promised isOpen closes i s) (hstep : step s i = .ok t) :
    Promised isOpen closes (i + 1) t := by
  intro k hk
  rcases h.opened hstep hk with hopen | ⟨-, j, hij, hj⟩
  · obtain ⟨j, hij, hj⟩ := hs k hopen
    have hne : i ≠ j := by
      rintro rfl
      exact h.closed hstep hj hk
    exact ⟨j, by omega, hj⟩
  · exact ⟨j, hij, hj⟩

/-- Every run keeps its promises. -/
theorem Bracketed.promised_run (h : Bracketed step isOpen opens closes) {m : ℕ}
    (hs : Promised isOpen closes i s) (hrun : runAll step s (List.range' i m) = .ok t) :
    Promised isOpen closes (i + m) t := by
  induction m generalizing i s with
  | zero =>
    cases hrun
    exact hs
  | succ m ih =>
    obtain ⟨v, hv, hrest⟩ := bind_eq_ok.mp hrun
    have hlast := ih (h.promised_step hs hv) hrest
    rwa [Nat.add_assoc, Nat.add_comm 1 m] at hlast

/-- **Behind the last instruction nothing is open**, when nothing was open before the first. -/
theorem Bracketed.none_open (h : Bracketed step isOpen opens closes)
    (hbound : ∀ j k, closes j k → j < n) (hs : ∀ k, ¬isOpen s k)
    (hrun : runAll step s (List.range n) = .ok t) (k : κ) : ¬isOpen t k := by
  intro hk
  rw [List.range_eq_range'] at hrun
  obtain ⟨j, hj, hclose⟩ := h.promised_run (promised_of_none hs) hrun k hk
  have hlt := hbound j k hclose
  omega

/-- What is open was opened by an instruction before. -/
theorem Bracketed.opened_before (h : Bracketed step isOpen opens closes)
    (hs : ∀ k, ¬isOpen s k) (hrun : runAll step s (List.range i) = .ok t) (hk : isOpen t k) :
    ∃ j, j < i ∧ opens j k := by
  induction i generalizing t with
  | zero =>
    cases hrun
    exact absurd hk (hs k)
  | succ i ih =>
    rw [List.range_succ, runAll_append, bind_eq_ok] at hrun
    obtain ⟨v, hv, hrest⟩ := hrun
    obtain ⟨w, hw, hdone⟩ := bind_eq_ok.mp hrest
    cases hdone
    rcases h.opened hw hk with hopen | ⟨hopens, -⟩
    · obtain ⟨j, hj, hjk⟩ := ih hv hopen
      exact ⟨j, by omega, hjk⟩
    · exact ⟨i, by omega, hopens⟩

/-- An open key stays open up to an instruction that closes it. -/
theorem Bracketed.closed_from (h : Bracketed step isOpen opens closes) {m : ℕ}
    (hrun : runAll step s (List.range' i m) = .ok u) (hopen : isOpen s k) (hclosed : ¬isOpen u k) :
    ∃ j t v, i ≤ j ∧ j < i + m ∧ closes j k ∧ isOpen t k ∧
      runAll step s (List.range' i (j - i)) = .ok t ∧ step t j = .ok v := by
  induction m generalizing i s with
  | zero =>
    cases hrun
    exact absurd hopen hclosed
  | succ m ih =>
    obtain ⟨v, hv, hrest⟩ := bind_eq_ok.mp hrun
    by_cases hi : closes i k
    · exact ⟨i, s, v, le_rfl, by omega, hi, hopen, by simp, hv⟩
    · obtain ⟨j, t, w, hij, hj, hclose, ht, hbetween, hw⟩ := ih hrest (h.kept hv hopen hi)
      refine ⟨j, t, w, by omega, by omega, hclose, ht, ?_, hw⟩
      have hlen : j - i = (j - (i + 1)) + 1 := by omega
      rw [hlen, List.range'_succ, runAll_cons, hv]
      exact hbetween

/-- **What is open before some instruction is closed by a later one**, which finds it open. -/
theorem Bracketed.closed_behind (h : Bracketed step isOpen opens closes)
    (hbound : ∀ j k, closes j k → j < n) (hs : ∀ k, ¬isOpen s k)
    (hrun : runAll step s (List.range n) = .ok u) (hi : i ≤ n)
    (hpre : runAll step s (List.range i) = .ok t) (hk : isOpen t k) :
    ∃ j v w, i ≤ j ∧ j < n ∧ closes j k ∧ isOpen v k ∧
      runAll step s (List.range j) = .ok v ∧ step v j = .ok w := by
  have hclosed := h.none_open hbound hs hrun k
  obtain ⟨t', ht', hrest⟩ := run_split hrun hi
  obtain rfl : t = t' := Except.ok.inj (hpre.symm.trans ht')
  obtain ⟨j, v, w, hij, hj, hclose, hv, hbetween, hw⟩ := h.closed_from hrest hk hclosed
  refine ⟨j, v, w, hij, by omega, hclose, hv, ?_, hw⟩
  obtain ⟨m, rfl⟩ := Nat.exists_eq_add_of_le hij
  rw [List.range_eq_range', ← List.range'_append_1, ← List.range_eq_range', runAll_append,
    hpre]
  simpa using hbetween

end Runs

end Brackets
