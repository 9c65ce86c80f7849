import Mathlib.Tactic

/-!
# Books of shares

Holders have shares in funds, and every fund that is open keeps a record of how many shares it has
issued. The record may be too high, when shares are lost, but never too low.

* `Book`, `Book.Covered`: positions and totals, and what makes them consistent;
* `Book.Posts`: one holder's positions change, by no more than the records do;
* `Book.Renames`: holders exchange their names;
* `Book.Relists`: funds are closed, and others opened in which nobody has shares;
* `Book.Step`, `Book.covered_of_run`: consistency is kept by every run of such steps.
-/

namespace Shares

variable {ι κ : Type*}

/-- The shares that every holder has in every fund, the number each fund has on record, and the
funds that are open. -/
@[ext] structure Book (ι κ : Type*) where
  position : ι → κ → ℤ
  total : κ → ℤ
  funds : Set κ

namespace Book

variable {b b' : Book ι κ}

/-- No group of holders has more shares in an open fund than are on record. -/
def Covered (b : Book ι κ) : Prop :=
  ∀ (s : Finset ι), ∀ k ∈ b.funds, ∑ i ∈ s, b.position i k ≤ b.total k

/-- No record is negative. -/
theorem Covered.total_nonneg (h : b.Covered) {k : κ} (hk : k ∈ b.funds) : 0 ≤ b.total k := by
  simpa using h ∅ k hk

/-! ### Postings -/

/-- The positions of one holder change, and grow by no more than the records do. -/
structure Posts (i : ι) (b b' : Book ι κ) : Prop where
  others : ∀ j, j ≠ i → b'.position j = b.position j
  nonneg : ∀ k, 0 ≤ b'.position i k
  covered : ∀ k, b'.position i k - b.position i k ≤ b'.total k - b.total k
  funds : b'.funds = b.funds

theorem Posts.keeps_covered {i : ι} (h : b.Posts i b') (hb : b.Covered) : b'.Covered := by
  classical
  intro s k hk
  rw [h.funds] at hk
  have hothers : ∑ j ∈ s.erase i, b'.position j k = ∑ j ∈ s.erase i, b.position j k := by
    refine Finset.sum_congr rfl fun j hj => ?_
    rw [h.others j (Finset.ne_of_mem_erase hj)]
  -- with the holder, whether or not the group is asked about
  have hwith : ∑ j ∈ insert i (s.erase i), b.position j k =
      b.position i k + ∑ j ∈ s.erase i, b.position j k :=
    Finset.sum_insert (Finset.notMem_erase i s)
  have hbefore := hb (insert i (s.erase i)) k hk
  have hgrow := h.covered k
  have hpos := h.nonneg k
  by_cases hi : i ∈ s
  · rw [← Finset.add_sum_erase s _ hi]
    linarith
  · rw [Finset.erase_eq_of_notMem hi] at hothers hwith hbefore
    linarith

/-! ### Renaming -/

/-- Holders exchange their names. -/
structure Renames (e : Equiv.Perm ι) (b b' : Book ι κ) : Prop where
  position : ∀ i, b'.position i = b.position (e i)
  total : b'.total = b.total
  funds : b'.funds = b.funds

theorem Renames.keeps_covered {e : Equiv.Perm ι} (h : b.Renames e b') (hb : b.Covered) :
    b'.Covered := by
  intro s k hk
  rw [h.funds] at hk
  have hsum : ∑ i ∈ s, b'.position i k = ∑ i ∈ s.map e.toEmbedding, b.position i k := by
    rw [Finset.sum_map]
    refine Finset.sum_congr rfl fun i _ => ?_
    rw [h.position]
    rfl
  rw [hsum, h.total]
  exact hb _ k hk

/-! ### Opening and closing -/

/-- A fund that is open was open before, with the same record, or nobody has shares in it. -/
structure Relists (b b' : Book ι κ) : Prop where
  position : b'.position = b.position
  listed : ∀ k ∈ b'.funds, (k ∈ b.funds ∧ b'.total k = b.total k) ∨
    (∀ i, b.position i k = 0) ∧ 0 ≤ b'.total k

theorem Relists.keeps_covered (h : b.Relists b') (hb : b.Covered) : b'.Covered := by
  intro s k hk
  rw [h.position]
  rcases h.listed k hk with ⟨hold, htotal⟩ | ⟨hnone, htotal⟩
  · rw [htotal]
    exact hb s k hold
  · rwa [Finset.sum_eq_zero fun i _ => hnone i]

/-! ### Runs -/

/-- What can happen to a book. -/
inductive Step : Book ι κ → Book ι κ → Prop
  | post {i : ι} {b b' : Book ι κ} : b.Posts i b' → Step b b'
  | rename {e : Equiv.Perm ι} {b b' : Book ι κ} : b.Renames e b' → Step b b'
  | relist {b b' : Book ι κ} : b.Relists b' → Step b b'

theorem Step.keeps_covered (h : Step b b') (hb : b.Covered) : b'.Covered := by
  cases h with
  | post h => exact h.keeps_covered hb
  | rename h => exact h.keeps_covered hb
  | relist h => exact h.keeps_covered hb

/-- **Whatever happens to a consistent book, it stays consistent.** -/
theorem covered_of_run (h : Relation.ReflTransGen Step b b') (hb : b.Covered) : b'.Covered := by
  induction h with
  | refl => exact hb
  | tail _ hstep ih => exact hstep.keeps_covered ih

end Book

end Shares
