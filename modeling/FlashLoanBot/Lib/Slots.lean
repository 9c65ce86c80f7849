import Mathlib.Tactic

/-!
# Slot tables

A table is a list of slots, each of which is empty or holds an entry for one key.  What
matters about a table is the multiset of keys it holds, and an operation on it acquires a
key, uses a key that is held, or releases it.

* `held`: the keys of a table, with the effect of writing one slot and of reordering;
* `Op`, `Op.Step`: the three operations on the multiset of held keys;
* `Run`: a list of operations, and `Run.nodup`: no key is ever held twice;
* `Run.mem_iff`: a key is held at the end exactly when the last operation on it was not a
  release (or when there was none and it was held before).
-/

namespace Slots

variable {β κ : Type*}

/-! ### Tables -/

/-- The keys held by a table, where `key` reads the key of a slot that is not empty. -/
def held (key : β → Option κ) (l : List β) : Multiset κ := ↑(l.filterMap key)

theorem held_perm (key : β → Option κ) {l m : List β} (h : l.Perm m) :
    held key l = held key m :=
  Multiset.coe_eq_coe.mpr (h.filterMap key)

theorem held_cons (key : β → Option κ) (b : β) (l : List β) :
    held key (b :: l) = ((key b).toList : Multiset κ) + held key l := by
  cases h : key b with
  | none => simp [held, h]
  | some k => simp [held, h]

/-- Writing a slot exchanges the key it held for the key it holds now. -/
theorem held_set (key : β → Option κ) {l : List β} {i : ℕ} {b : β} (h : l[i]? = some b) (c : β) :
    ((key b).toList : Multiset κ) + held key (l.set i c) =
      ((key c).toList : Multiset κ) + held key l := by
  induction l generalizing i with
  | nil => simp at h
  | cons a l ih =>
    cases i with
    | zero =>
      obtain rfl : a = b := by simpa using h
      rw [List.set_cons_zero, held_cons, held_cons, add_left_comm]
    | succ i =>
      have hl := ih (by simpa using h)
      rw [List.set_cons_succ, held_cons, held_cons, add_left_comm, hl, add_left_comm]

/-- Writing a slot without changing its key changes nothing. -/
theorem held_set_of_eq {key : β → Option κ} {l : List β} {i : ℕ} {b c : β} (h : l[i]? = some b)
    (hkey : key c = key b) : held key (l.set i c) = held key l := by
  have hset := held_set key h c
  rw [hkey] at hset
  exact add_left_cancel hset

/-- Writing an entry into an empty slot adds its key. -/
theorem held_set_of_none {key : β → Option κ} {l : List β} {i : ℕ} {b c : β} {k : κ}
    (h : l[i]? = some b) (hb : key b = none) (hc : key c = some k) :
    held key (l.set i c) = k ::ₘ held key l := by
  have hset := held_set key h c
  simpa [hb, hc] using hset

/-- Emptying a slot takes its key away. -/
theorem held_of_set_none {key : β → Option κ} {l : List β} {i : ℕ} {b c : β} {k : κ}
    (h : l[i]? = some b) (hb : key b = some k) (hc : key c = none) :
    held key l = k ::ₘ held key (l.set i c) := by
  have hset := held_set key h c
  simpa [hb, hc] using hset.symm

/-- Writing a slot exchanges its part of a sum over the table. -/
theorem sum_map_set {M : Type*} [AddCommGroup M] (weight : β → M) {l : List β} {i : ℕ} {b : β}
    (h : l[i]? = some b) (c : β) :
    ((l.set i c).map weight).sum = (l.map weight).sum - weight b + weight c := by
  induction l generalizing i with
  | nil => simp at h
  | cons a l ih =>
    cases i with
    | zero =>
      obtain rfl : a = b := by simpa using h
      rw [List.set_cons_zero, List.map_cons, List.map_cons, List.sum_cons, List.sum_cons]
      abel
    | succ i =>
      have hl := ih (by simpa using h)
      rw [List.set_cons_succ, List.map_cons, List.map_cons, List.sum_cons, List.sum_cons, hl]
      abel

theorem mem_held {key : β → Option κ} {l : List β} {k : κ} :
    k ∈ held key l ↔ ∃ b ∈ l, key b = some k := by
  simp [held]

/-! ### Operations -/

/-- What is done with a key. -/
inductive Op (κ : Type*)
  | acquire (k : κ)
  | use (k : κ)
  | release (k : κ)
  deriving DecidableEq

namespace Op

/-- The key an operation is about. -/
def key : Op κ → κ
  | acquire k => k
  | use k => k
  | release k => k

/-- The effect of an operation on the held keys: acquiring a held key does nothing, and only
held keys can be used or released. -/
inductive Step : Op κ → Multiset κ → Multiset κ → Prop
  | acquire_held {k : κ} {s : Multiset κ} : k ∈ s → Step (.acquire k) s s
  | acquire_new {k : κ} {s : Multiset κ} : k ∉ s → Step (.acquire k) s (k ::ₘ s)
  | use {k : κ} {s : Multiset κ} : k ∈ s → Step (.use k) s s
  | release {k : κ} {s : Multiset κ} : Step (.release k) (k ::ₘ s) s

theorem Step.nodup {o : Op κ} {s t : Multiset κ} (h : o.Step s t) (hs : s.Nodup) : t.Nodup := by
  cases h with
  | acquire_held _ => exact hs
  | acquire_new hk => exact Multiset.nodup_cons.mpr ⟨hk, hs⟩
  | use _ => exact hs
  | release => exact (Multiset.nodup_cons.mp hs).2

/-- What was acquired is held. -/
theorem Step.mem_of_acquire {k : κ} {s t : Multiset κ} (h : (acquire k).Step s t) : k ∈ t := by
  cases h with
  | acquire_held hk => exact hk
  | acquire_new _ => exact Multiset.mem_cons_self _ _

/-- An operation moves no key but its own. -/
theorem Step.mem_iff_of_ne {o : Op κ} {s t : Multiset κ} (h : o.Step s t) {j : κ}
    (hj : j ≠ o.key) : j ∈ t ↔ j ∈ s := by
  cases h with
  | acquire_held _ => rfl
  | acquire_new _ => exact Multiset.mem_cons.trans (or_iff_right hj)
  | use _ => rfl
  | release => exact (Multiset.mem_cons.trans (or_iff_right hj)).symm

/-- After an operation its key is held, unless it was released. -/
theorem Step.key_mem_iff {o : Op κ} {s t : Multiset κ} (h : o.Step s t) (hs : s.Nodup) :
    o.key ∈ t ↔ o ≠ .release o.key := by
  cases h with
  | acquire_held hk => exact ⟨fun _ => nofun, fun _ => hk⟩
  | acquire_new _ => exact ⟨fun _ => nofun, fun _ => Multiset.mem_cons_self _ _⟩
  | use hk => exact ⟨fun _ => nofun, fun _ => hk⟩
  | release => exact ⟨fun hmem => absurd hmem (Multiset.nodup_cons.mp hs).1, fun h => absurd rfl h⟩

end Op

/-! ### Runs -/

/-- A list of operations, each of them possible when its turn comes. -/
inductive Run : List (Op κ) → Multiset κ → Multiset κ → Prop
  | nil {s : Multiset κ} : Run [] s s
  | cons {o : Op κ} {ops : List (Op κ)} {s t u : Multiset κ} :
      o.Step s t → Run ops t u → Run (o :: ops) s u

/-- No key is ever held twice. -/
theorem Run.nodup {ops : List (Op κ)} {s t : Multiset κ} (h : Run ops s t) (hs : s.Nodup) :
    t.Nodup := by
  induction h with
  | nil => exact hs
  | cons hstep _ ih => exact ih (hstep.nodup hs)

theorem Run.append {ops ops' : List (Op κ)} {s t u : Multiset κ} (h : Run ops s t)
    (h' : Run ops' t u) : Run (ops ++ ops') s u := by
  induction h with
  | nil => exact h'
  | cons hstep _ ih => exact .cons hstep (ih h')

variable [DecidableEq κ]

/-- The last operation on a key. -/
def lastOn (k : κ) (ops : List (Op κ)) : Option (Op κ) :=
  (ops.filter fun o => o.key = k).getLast?

theorem lastOn_cons (k : κ) (o : Op κ) (ops : List (Op κ)) :
    lastOn k (o :: ops) = (lastOn k ops).or (if o.key = k then some o else none) := by
  unfold lastOn
  by_cases h : o.key = k
  · cases hl : ops.filter fun o => o.key = k with
    | nil => simp [h, hl]
    | cons b l => simp [h, hl, List.getLast?_cons]
  · simp [h]

/-- In a list of things some of which are operations, the last operation on a key belongs to
a thing behind which no other is about that key. -/
theorem of_lastOn_filterMap {α : Type*} {op : α → Option (Op κ)} {l : List α} {k : κ} {o : Op κ}
    (h : lastOn k (l.filterMap op) = some o) :
    ∃ before a after, l = before ++ a :: after ∧ op a = some o ∧
      ∀ b ∈ after, (op b).map Op.key ≠ some k := by
  unfold lastOn at h
  rw [List.filter_filterMap] at h
  obtain ⟨ys, hys⟩ := List.getLast?_eq_some_iff.mp h
  obtain ⟨l₁, l₂, rfl, -, hl₂⟩ := List.filterMap_eq_append_iff.mp hys
  obtain ⟨l₃, a, after, rfl, -, ha, hafter⟩ := List.filterMap_eq_cons_iff.mp hl₂
  refine ⟨l₁ ++ l₃, a, after, by simp, ?_, ?_⟩
  · exact (Option.filter_eq_some_iff.mp ha).1
  · intro b hb heq
    obtain ⟨p, hp, hkey⟩ := Option.map_eq_some_iff.mp heq
    have hnone := List.filterMap_eq_nil_iff.mp hafter b hb
    simp [hp, hkey] at hnone

/-- **What is held at the end of a run is decided by the last operation on each key.** -/
theorem Run.mem_iff {ops : List (Op κ)} {s t : Multiset κ} (h : Run ops s t) (hs : s.Nodup)
    (k : κ) : k ∈ t ↔ (lastOn k ops).elim (k ∈ s) (· ≠ .release k) := by
  induction h with
  | nil => rfl
  | @cons o ops s t u hstep hrun ih =>
    rw [ih (hstep.nodup hs), lastOn_cons]
    cases hlast : lastOn k ops with
    | some p => rfl
    | none =>
      by_cases hk : o.key = k
      · subst hk
        simpa using hstep.key_mem_iff hs
      · simpa [hk] using hstep.mem_iff_of_ne (Ne.symm hk)

/-- A run that ends with nothing held ended with a release of every key it was about. -/
theorem Run.lastOn_of_empty {ops : List (Op κ)} {s : Multiset κ} (h : Run ops s 0)
    (hs : s.Nodup) {o : Op κ} (ho : o ∈ ops) : lastOn o.key ops = some (.release o.key) := by
  have hmem := (h.mem_iff hs o.key).not.mp (Multiset.notMem_zero _)
  cases hlast : lastOn o.key ops with
  | none =>
    have hnil := List.getLast?_eq_none_iff.mp hlast
    have hin : o ∈ ops.filter fun p => p.key = o.key := List.mem_filter.mpr ⟨ho, by simp⟩
    simp [hnil] at hin
  | some p =>
    rw [hlast] at hmem
    simpa using hmem

end Slots
