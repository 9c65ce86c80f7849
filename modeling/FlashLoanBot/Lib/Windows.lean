import Mathlib.Tactic

/-!
# Limits on what is used in a window of time

A counter that starts again when a window of time has passed since it last did, and a limit on
what it may show.  The windows are not aligned with anything, so what the limit is worth is not
obvious: within any stretch of time as long as a window, at most twice the limit is used.

* `Counter`, `Counter.record`: what has been used since the counter last started;
* `spent`: what was used in a stretch of time, by a log of all uses;
* `Run`: uses that were recorded one after the other, none beyond the limit;
* `Kept`: what the counter says about the log;
* `Run.spent_le`: the bound.
-/

namespace Windows

/-- What has been used, and since when it has been counted. -/
@[ext] structure Counter where
  used : ℕ
  since : ℤ

/-- Record a use; after a window of time the counter starts again. -/
def Counter.record (w : ℤ) (c : Counter) (now : ℤ) (amount : ℕ) : Counter :=
  if w ≤ now - c.since then ⟨amount, now⟩ else ⟨c.used + amount, c.since⟩

/-- What was used at the times of which a predicate holds. -/
def total (p : ℤ → Bool) (log : List (ℤ × ℕ)) : ℕ := ((log.filter fun e => p e.1).map Prod.snd).sum

/-- What was used from a time on and before another one. -/
def spent (log : List (ℤ × ℕ)) (a b : ℤ) : ℕ := total (fun t => a ≤ t ∧ t < b) log

/-- The uses so far, the last one first, the time, and the counter. -/
inductive Run (w : ℤ) (limit : ℕ) : List (ℤ × ℕ) → ℤ → Counter → Prop
  | init (now since : ℤ) : Run w limit [] now ⟨0, since⟩
  | wait {log : List (ℤ × ℕ)} {before now : ℤ} {c : Counter} : Run w limit log before c →
      before ≤ now → Run w limit log now c
  | record {log : List (ℤ × ℕ)} {now : ℤ} {c : Counter} {amount : ℕ} : Run w limit log now c →
      (c.record w now amount).used ≤ limit →
      Run w limit ((now, amount) :: log) now (c.record w now amount)

section Total

variable {p q : ℤ → Bool} {log log' : List (ℤ × ℕ)}

@[simp] theorem total_nil : total p [] = 0 := rfl

theorem total_cons (e : ℤ × ℕ) :
    total p (e :: log) = (if p e.1 then e.2 else 0) + total p log := by
  unfold total
  by_cases h : p e.1 = true <;> simp [h]

theorem total_append : total p (log ++ log') = total p log + total p log' := by
  simp [total]

theorem total_mono (h : ∀ e ∈ log, p e.1 = true → q e.1 = true) : total p log ≤ total q log := by
  induction log with
  | nil => rfl
  | cons e log ih =>
    have hrest := ih fun x hx => h x (List.mem_cons_of_mem e hx)
    rw [total_cons, total_cons]
    by_cases hp : p e.1 = true
    · rw [if_pos hp, if_pos (h e List.mem_cons_self hp)]
      omega
    · rw [if_neg hp]
      omega

theorem total_eq_zero (h : ∀ e ∈ log, p e.1 = false) : total p log = 0 := by
  have hnone : log.filter (fun e => p e.1) = [] :=
    List.filter_eq_nil_iff.mpr fun e he => by simp [h e he]
  simp [total, hnone]

end Total

/-! ### What the counter says about the log -/

/-- The log has a recent part, which the counter shows, and an old part, of which at most the limit
lies within a window before the counter last started. -/
structure Kept (w : ℤ) (limit : ℕ) (log : List (ℤ × ℕ)) (now : ℤ) (c : Counter) : Prop where
  parts : ∃ recent old, log = recent ++ old ∧ total (fun _ => true) recent = c.used ∧
    (∀ e ∈ old, e.1 ≤ c.since) ∧ (old = [] ∨ c.since ≤ now) ∧
    total (fun t => c.since - w < t) old ≤ limit
  used_le : c.used ≤ limit
  past : ∀ e ∈ log, e.1 ≤ now
  spent_le : ∀ a, spent log a (a + w) ≤ 2 * limit

variable {w : ℤ} {limit amount : ℕ} {log : List (ℤ × ℕ)} {now : ℤ} {c : Counter}

/-- What was used within a window up to the present. -/
theorem Kept.total_le (h : Kept w limit log now c) {a : ℤ} (ha : now < a + w) :
    total (fun t => a ≤ t ∧ t < a + w) log ≤ c.used + limit := by
  obtain ⟨recent, old, rfl, hrecent, -, hsince, hold⟩ := h.parts
  rw [total_append, ← hrecent]
  refine add_le_add (total_mono fun _ _ _ => rfl) ?_
  rcases hsince with rfl | hsince
  · simp
  · refine (total_mono fun e _ he => ?_).trans hold
    simp only [decide_eq_true_eq] at he ⊢
    omega

theorem Kept.record (h : Kept w limit log now c) (hlimit : (c.record w now amount).used ≤ limit) :
    Kept w limit ((now, amount) :: log) now (c.record w now amount) := by
  have hpast : ∀ e ∈ (now, amount) :: log, e.1 ≤ now := by
    intro e he
    rcases List.mem_cons.mp he with rfl | he
    · exact le_rfl
    · exact h.past e he
  unfold Counter.record at *
  by_cases hreset : w ≤ now - c.since
  · -- the counter starts again: the recent part becomes old, and the old part too old to matter
    simp only [if_pos hreset] at hlimit ⊢
    have hold : total (fun t => now - w < t) log ≤ limit := by
      obtain ⟨recent, old, rfl, hrecent, hbefore, -⟩ := h.parts
      have hzero : total (fun t => now - w < t) old = 0 := by
        refine total_eq_zero fun e he => ?_
        have := hbefore e he
        simp only [decide_eq_false_iff_not]
        omega
      have hmono : total (fun t => now - w < t) recent ≤ total (fun _ => true) recent :=
        total_mono fun _ _ _ => rfl
      have hused := h.used_le
      rw [total_append]
      omega
    refine ⟨⟨[(now, amount)], log, rfl, by simp [total], h.past, .inr le_rfl, hold⟩, hlimit, hpast,
      fun a => ?_⟩
    have hlog := h.spent_le a
    unfold spent at *
    rw [total_cons]
    by_cases hin : a ≤ now ∧ now < a + w
    · have hmono : total (fun t => a ≤ t ∧ t < a + w) log ≤ total (fun t => now - w < t) log := by
        refine total_mono fun e _ he => ?_
        simp only [decide_eq_true_eq] at he ⊢
        omega
      rw [if_pos (by simpa using hin)]
      omega
    · rw [if_neg (by simpa using hin)]
      omega
  · simp only [if_neg hreset] at hlimit ⊢
    obtain ⟨recent, old, hlog, hrecent, hbefore, hsince, hold⟩ := h.parts
    refine ⟨⟨(now, amount) :: recent, old, by rw [hlog]; rfl, ?_, hbefore, hsince, hold⟩, hlimit,
      hpast, fun a => ?_⟩
    · rw [total_cons, hrecent, if_pos rfl, add_comm]
    · have hspent := h.spent_le a
      unfold spent at *
      rw [total_cons]
      by_cases hin : a ≤ now ∧ now < a + w
      · have hwindow := h.total_le hin.2
        rw [if_pos (by simpa using hin)]
        omega
      · rw [if_neg (by simpa using hin)]
        omega

/-- Every run is kept track of. -/
theorem Run.kept (h : Run w limit log now c) : Kept w limit log now c := by
  induction h with
  | init now since =>
    exact ⟨⟨[], [], rfl, rfl, by simp, .inl rfl, by simp⟩, by simp, by simp,
      fun a => by simp [spent]⟩
  | wait _ hle ih =>
    obtain ⟨recent, old, hlog, hrecent, hbefore, hsince, hold⟩ := ih.parts
    exact ⟨⟨recent, old, hlog, hrecent, hbefore, hsince.imp_right hle.trans', hold⟩, ih.used_le,
      fun e he => (ih.past e he).trans hle, ih.spent_le⟩
  | record _ hlimit ih => exact ih.record hlimit

/-- **At most twice the limit is used in any stretch of time as long as a window.** -/
theorem Run.spent_le (h : Run w limit log now c) (a : ℤ) : spent log a (a + w) ≤ 2 * limit :=
  h.kept.spent_le a

end Windows
