import FlashLoanBot.Marginfi.Runs

/-!
# marginfi: pauses of the groups

The groups do not read the panic state but copies of it, which anyone can refresh.  What a copy says
goes back to a pause all the same.

* `Market.Timeline`: what happens in the course of time, with the times of all pauses;
* `Timeline.panicHistory`: it contains a history of the panic state;
* `Timeline.paused_since`: a group is never paused for an hour without another pause;
* `Timeline.pauses_per_day`: there are at most six pauses in a day.
-/

namespace Marginfi

open Solana Checked

/-! ### The course of time -/

/-- The times at which an instruction pauses: now, if it does. -/
def Operation.pausesAt (op : Operation) (now : ℤ) : List ℤ :=
  if op.panicEvent = some .pause then [now] else []

/-- The pauses so far, the last one first, the time, and the state.  It begins without groups and
with the panic state of a new fee state; whatever else happens changes nothing about pauses. -/
inductive Market.Timeline {τ : Type} : List ℤ → ℤ → Market τ → Prop
  | init {s : Market τ} (now : ℤ) : (∀ key, s.groups key = none) →
      s.feeState.panicState = .zeroed → Timeline [] now s
  | wait {pauses : List ℤ} {before now : ℤ} {s : Market τ} : Timeline pauses before s →
      before ≤ now → Timeline pauses now s
  | operation {pauses : List ℤ} {s s' : Market τ} (env : PoolEnv τ) (op : Operation) :
      Timeline pauses env.clock.unixTimestamp.toInt s → op.run env s = .ok s' →
      Timeline (op.pausesAt env.clock.unixTimestamp.toInt ++ pauses)
        env.clock.unixTimestamp.toInt s'
  | other {pauses : List ℤ} {now : ℤ} {s s' : Market τ} : Timeline pauses now s →
      (∀ key, (s'.groups key).map MarginfiGroup.pause = (s.groups key).map MarginfiGroup.pause) →
      s'.feeState.panicState = s.feeState.panicState → Timeline pauses now s'

namespace Market.Timeline

variable {τ : Type} {pauses : List ℤ} {now : ℤ} {s : Market τ}

theorem past (h : Timeline pauses now s) : ∀ p ∈ pauses, p ≤ now := by
  induction h with
  | init now => simp
  | wait _ hle ih => exact fun p hp => (ih p hp).trans hle
  | operation env op _ _ ih =>
    intro p hp
    rcases List.mem_append.mp hp with hnew | hold
    · unfold Operation.pausesAt at hnew
      split_ifs at hnew
      · exact (List.mem_singleton.mp hnew).le
      · cases hnew
    · exact ih p hold
  | other _ _ _ ih => exact ih

/-- The panic state has a history of its own, with the same pauses. -/
theorem panicHistory (h : Timeline pauses now s) :
    PanicState.History pauses now s.feeState.panicState := by
  induction h with
  | init now _ hpanic =>
    rw [hpanic]
    exact .init now
  | wait _ hle ih => exact ih.wait hle
  | @operation pauses s s' env op _ hrun ih =>
    have hstate := Operation.panicState_of_run hrun
    unfold Operation.pausesAt
    cases hevent : op.panicEvent with
    | none =>
      rw [hevent] at hstate
      rw [if_neg (by simp), hstate]
      exact ih
    | some e =>
      rw [hevent] at hstate
      by_cases hpause : e = .pause
      · subst hpause
        rw [if_pos rfl]
        exact ih.pause hstate
      · rw [if_neg (by simpa using hpause)]
        exact ih.other hpause hstate
  | other _ _ hsame ih =>
    rw [hsame]
    exact ih

/-- What is said about a pause goes back to a pause, or to one that was extended. -/
def Recorded (pauses : List ℤ) (said : UInt8 × Int64) : Prop :=
  said.1 &&& 1 ≠ 0 → ∃ p ∈ pauses, said.2.toInt ≤ p + pauseDurationSeconds

theorem Recorded.append {said : UInt8 × Int64} (h : Recorded pauses said) (new : List ℤ) :
    Recorded (new ++ pauses) said := by
  intro hflag
  obtain ⟨p, hp, hle⟩ := h hflag
  exact ⟨p, List.mem_append_right new hp, hle⟩

theorem recorded_of_history {state : PanicState} (h : PanicState.History pauses now state) :
    Recorded pauses state.paused := by
  intro hflag
  have htracked := h.tracked
  unfold PanicState.Tracked at htracked
  have hpaused : state.isPausedFlag = true := decide_eq_true hflag
  rw [if_pos hpaused] at htracked
  rcases htracked with ⟨-, p, older, rfl, hp⟩ | ⟨-, q, p, older, rfl, hp⟩
  · refine ⟨p, List.mem_cons_self, ?_⟩
    rw [← hp]
    exact Int.le_add_of_nonneg_right (by decide)
  · exact ⟨p, by simp, hp⟩

/-- The copies of the groups go back to pauses as well. -/
theorem recorded (h : Timeline pauses now s) {key : Pubkey} {group : MarginfiGroup}
    (hgroup : s.groups key = some group) : Recorded pauses group.pause := by
  induction h generalizing key group with
  | init now hnone _ =>
    rw [hnone key] at hgroup
    cases hgroup
  | wait _ _ ih => exact ih hgroup
  | @operation pauses s s' env op hbefore hrun ih =>
    refine Recorded.append ?_ _
    rcases Operation.groups_of_run hrun hgroup with hold | ⟨-, hnone | hcopied⟩
    · exact ih hold
    · rw [hnone]
      exact fun hflag => absurd rfl hflag
    · rw [hcopied]
      exact recorded_of_history hbefore.panicHistory
  | @other pauses now s s' _ hsame _ ih =>
    have hpause := hsame key
    rw [hgroup] at hpause
    obtain ⟨old, hold, heq⟩ := Option.map_eq_some_iff.mp hpause.symm
    rw [← heq]
    exact ih hold

/-- **A pause ends**: while a group is paused, there has been a pause less than an hour ago.
Neither the copy in the group, which may be out of date, nor an extension prolongs one
beyond that. -/
theorem paused_since (h : Timeline pauses now s) {key : Pubkey} {group : MarginfiGroup}
    (hgroup : s.groups key = some group) {clock : Clock}
    (hpaused : group.isProtocolPaused clock = .ok true) :
    ∃ p ∈ pauses, p ≤ now ∧ clock.unixTimestamp.toInt < p + 3600 := by
  unfold MarginfiGroup.isProtocolPaused at hpaused
  by_cases hflag : group.pauseFlags &&& 1 = 0
  · rw [if_pos hflag] at hpaused
    cases hpaused
  rw [if_neg hflag] at hpaused
  obtain ⟨p, hp, hle⟩ := h.recorded hgroup hflag
  have hstart : group.pauseStartTimestamp.toInt ≤ p + 1800 := hle
  refine ⟨p, hp, h.past p hp, ?_⟩
  by_cases hfuture : clock.unixTimestamp < group.pauseStartTimestamp
  · have hlt := Int64.lt_iff_toInt_lt.mp hfuture
    omega
  · rw [if_neg hfuture] at hpaused
    simp only [Bank.timeDelta, bind_eq_ok, ensure_eq_ok] at hpaused
    obtain ⟨elapsed, ⟨_, ⟨h0, h1⟩, helapsed⟩, hshort⟩ := hpaused
    cases helapsed
    have hlt := UInt64.lt_iff_toNat_lt.mp (of_decide_eq_true (Except.ok.inj hshort))
    rw [UInt64.toNat_ofNat_of_lt' (by show _ < 2 ^ 64; omega)] at hlt
    have hshort' : (clock.unixTimestamp.toInt - group.pauseStartTimestamp.toInt).toNat < 1800 := hlt
    omega

/-- Instructions that are executed at once. -/
theorem of_runAll {env : PoolEnv τ} {ops : List Operation} {s' : Market τ}
    (h : Timeline pauses env.clock.unixTimestamp.toInt s)
    (hrun : runAll (Operation.run env) s ops = .ok s') :
    Timeline ((ops.reverse.flatMap fun op => op.pausesAt env.clock.unixTimestamp.toInt) ++ pauses)
      env.clock.unixTimestamp.toInt s' := by
  induction ops generalizing s pauses with
  | nil =>
    cases hrun
    exact h
  | cons op ops ih =>
    obtain ⟨t, ht, hrun⟩ := bind_eq_ok.mp hrun
    simpa using ih (h.operation env op ht) hrun

/-- Instructions at a time. -/
def sampleBlock (s : Market (Pubkey → ℕ)) (block : Int64 × List Operation) :
    Result (Market (Pubkey → ℕ)) :=
  runAll (Operation.run { sampleEnv with clock := ⟨block.1, 500⟩ }) s block.2

/-- The group `3` is opened, and all groups are paused; the pause is extended, and ended before its
time, but the group does not learn of the end. -/
def samplePauses : List (Int64 × List Operation) :=
  [(1700000000, [.initializeGroup ⟨3, 9⟩, .panicPause ⟨9⟩, .propagateFee 3]),
    (1700001000, [.panicPause ⟨9⟩, .propagateFee 3]),
    (1700002000, [.panicUnpause ⟨9⟩])]

theorem samplePauses_timeline {s' : Market (Pubkey → ℕ)}
    (h : runAll sampleBlock sampleGenesis samplePauses = .ok s') :
    Timeline [1700001000, 1700000000] 1700002000 s' := by
  obtain ⟨s₁, h₁, h⟩ := bind_eq_ok.mp h
  obtain ⟨s₂, h₂, h⟩ := bind_eq_ok.mp h
  obtain ⟨s₃, h₃, h⟩ := bind_eq_ok.mp h
  cases h
  have t₁ : Timeline [1700000000] 1700000000 s₁ := of_runAll (.init _ (fun _ => rfl) rfl) h₁
  have t₂ : Timeline [1700001000, 1700000000] 1700001000 s₂ := of_runAll (t₁.wait (by decide)) h₂
  exact of_runAll (t₂.wait (by decide)) h₃

theorem paused_since_sample : ∃ (s' : Market (Pubkey → ℕ)) (group : MarginfiGroup),
    s'.groups 3 = some group ∧ s'.feeState.panicState.isPausedFlag = false ∧
    group.isProtocolPaused ⟨1700003000, 500⟩ = .ok true ∧
    ∃ p ∈ [1700001000, 1700000000], p ≤ 1700002000 ∧ (1700003000 : ℤ) < p + 3600 := by
  obtain ⟨s', hrun, hcheck⟩ : ∃ s' : Market (Pubkey → ℕ),
      runAll sampleBlock sampleGenesis samplePauses = .ok s' ∧
      ((s'.groups 3).elim false fun group => !s'.feeState.panicState.isPausedFlag &&
        succeeds id (group.isProtocolPaused ⟨1700003000, 500⟩)) = true :=
    exists_of_succeeds (by decide +kernel)
  cases hgroup : s'.groups 3 with
  | none =>
    rw [hgroup] at hcheck
    cases hcheck
  | some group =>
    rw [hgroup] at hcheck
    obtain ⟨hended, hcheck⟩ := Bool.and_eq_true_iff.mp hcheck
    obtain ⟨_, hpaused, rfl⟩ := exists_of_succeeds hcheck
    exact ⟨s', group, hgroup, by simpa using hended, hpaused,
      paused_since (samplePauses_timeline hrun) hgroup hpaused⟩

/-- **At most six pauses in any day.** -/
theorem pauses_per_day (h : Timeline pauses now s) (a : ℤ) :
    (pauses.filter fun p => a ≤ p ∧ p < a + 86400).length ≤ 6 :=
  h.panicHistory.per_day a

theorem pauses_per_day_sample : ∃ (s s' : Market (Pubkey → ℕ)),
    runAll sampleBlock sampleGenesis samplePauses = .ok s ∧
    sampleBlock s (1700010000, [.panicPause ⟨9⟩]) = .ok s' ∧
    ([1700010000, 1700001000, 1700000000].filter fun p : ℤ =>
      1700000000 ≤ p ∧ p < 1700000000 + 86400).length ≤ 6 := by
  obtain ⟨s, hrun, hcheck⟩ : ∃ s : Market (Pubkey → ℕ),
      runAll sampleBlock sampleGenesis samplePauses = .ok s ∧
      succeeds (fun _ => true) (sampleBlock s (1700010000, [.panicPause ⟨9⟩])) = true :=
    exists_of_succeeds (by decide +kernel)
  obtain ⟨s', hpause, -⟩ := exists_of_succeeds hcheck
  have htimeline : Timeline [1700010000, 1700001000, 1700000000] 1700010000 s' :=
    of_runAll ((samplePauses_timeline hrun).wait (by decide)) hpause
  exact ⟨s, s', hrun, hpause, pauses_per_day htimeline 1700000000⟩

end Market.Timeline

end Marginfi
