import FlashLoanBot.Lib.Windows
import FlashLoanBot.Marginfi.Bank
import FlashLoanBot.Marginfi.Errors

/-!
# marginfi: emergency pauses

The global admin can pause all groups at once.  How long a pause lasts and how often it can be
repeated is limited, and anyone can end one that has run out.

* `PanicState`, `pause`, `unpause`, `unpauseIfExpired`: the state and its methods;
* `PanicEvent`, `PanicState.apply`: the three instructions that change it;
* `PanicState.History`: what can have happened to it, with the times of all pauses;
* `PanicState.Tracked`: what the counters of the state say about these times;
* `History.ends_within`, `History.per_day`: a pause ends within an hour of the call that began it,
  and there are at most six calls in a day.
-/

namespace Marginfi

open Solana Checked

/-- `DAILY_RESET_INTERVAL` -/
def dailyResetInterval : ℤ := 86400

/-- `PAUSE_DURATION_SECONDS` -/
def pauseDurationSeconds : ℤ := 1800

/-- A saturating `u8` step up. -/
def saturatingSuccU8 (n : UInt8) : UInt8 := if n = 255 then n else n + 1

/-- A saturating `i64` sum. -/
def saturatingAddI64 (a : Int64) (b : ℤ) : Int64 :=
  .ofInt (max (-2 ^ 63) (min (2 ^ 63 - 1) (a.toInt + b)))

/-- A difference of timestamps, which aborts when it overflows. -/
def subI64 (a b : Int64) : Result ℤ := do
  let d := a.toInt - b.toInt
  ensure (-2 ^ 63 ≤ d ∧ d < 2 ^ 63) .panicked
  .ok d

/-- `PanicState` -/
structure PanicState where
  pauseFlags : UInt8
  dailyPauseCount : UInt8
  consecutivePauseCount : UInt8
  pauseStartTimestamp : Int64
  lastDailyResetTimestamp : Int64
  deriving DecidableEq

namespace PanicState

/-- The state in a new fee state. -/
def zeroed : PanicState := ⟨0, 0, 0, 0, 0⟩

/-- `is_paused_flag` -/
def isPausedFlag (s : PanicState) : Bool := s.pauseFlags &&& 1 ≠ 0

/-- `can_pause` -/
def canPause (s : PanicState) (currentTimestamp : Int64) : Result Bool := do
  let sinceReset ← subI64 currentTimestamp s.lastDailyResetTimestamp
  let dailyCount := if dailyResetInterval ≤ sinceReset then 0 else s.dailyPauseCount
  .ok (s.consecutivePauseCount < 2 ∧ dailyCount < 3)

/-- `is_expired` -/
def isExpired (s : PanicState) (currentTimestamp : Int64) : Result Bool :=
  if s.isPausedFlag = false then .ok true
  else if currentTimestamp < s.pauseStartTimestamp then .ok false
  else do
    let elapsed ← subI64 currentTimestamp s.pauseStartTimestamp
    .ok (pauseDurationSeconds ≤ elapsed)

/-- `unpause` -/
def unpause (s : PanicState) : PanicState :=
  { s with
    pauseFlags := s.pauseFlags &&& ~~~1
    pauseStartTimestamp := 0
    consecutivePauseCount := 0 }

/-- `unpause_if_expired` -/
def unpauseIfExpired (s : PanicState) (currentTimestamp : Int64) : Result PanicState := do
  let expired ← s.isExpired currentTimestamp
  .ok (if s.isPausedFlag && expired then s.unpause else s)

/-- A day after the last reset the pauses are counted anew. -/
def resetDaily (s : PanicState) (currentTimestamp : Int64) : PanicState :=
  -- the difference saturates, which this comparison does not see
  if dailyResetInterval ≤ currentTimestamp.toInt - s.lastDailyResetTimestamp.toInt then
    { s with dailyPauseCount := 0, lastDailyResetTimestamp := currentTimestamp }
  else s

/-- `pause` -/
def pause (s : PanicState) (currentTimestamp : Int64) : Result PanicState := do
  let s ← s.unpauseIfExpired currentTimestamp
  let s := s.resetDaily currentTimestamp
  let allowed ← s.canPause currentTimestamp
  checkLending (allowed = true) .pauseLimitExceeded
  let expired ← s.isExpired currentTimestamp
  .ok { s with
    -- a pause that still lasts is extended
    pauseStartTimestamp :=
      if s.isPausedFlag && !expired then
        saturatingAddI64 s.pauseStartTimestamp pauseDurationSeconds
      else currentTimestamp
    pauseFlags := s.pauseFlags ||| 1
    dailyPauseCount := saturatingSuccU8 s.dailyPauseCount
    consecutivePauseCount := saturatingSuccU8 s.consecutivePauseCount }

end PanicState

/-! ### The instructions -/

/-- The instructions that change the state. -/
inductive PanicEvent
  | pause
  | unpause
  | unpausePermissionless
  deriving DecidableEq

namespace PanicState

/-- `panic_pause`, `panic_unpause`, `panic_unpause_permissionless` -/
def apply (s : PanicState) (now : Int64) : PanicEvent → Result PanicState
  | .pause => do
      let s ← s.unpauseIfExpired now
      s.pause now
  | .unpause => do
      checkLending (s.isPausedFlag = true) .protocolNotPaused
      let s ← s.unpauseIfExpired now
      .ok (if s.isPausedFlag then s.unpause else s)
  | .unpausePermissionless => do
      checkLending (s.isPausedFlag = true) .protocolNotPaused
      let expired ← s.isExpired now
      checkLending (expired = true) .pauseLimitExceeded
      .ok s.unpause

/-- The pauses so far, the time, and the state: instructions are executed one after the other, at
times that do not decrease. -/
inductive History : List ℤ → ℤ → PanicState → Prop
  | init (now : ℤ) : History [] now zeroed
  | wait {pauses : List ℤ} {before now : ℤ} {s : PanicState} : History pauses before s →
      before ≤ now → History pauses now s
  | pause {pauses : List ℤ} {s s' : PanicState} {now : Int64} : History pauses now.toInt s →
      s.apply now .pause = .ok s' → History (now.toInt :: pauses) now.toInt s'
  | other {pauses : List ℤ} {s s' : PanicState} {now : Int64} {e : PanicEvent} :
      History pauses now.toInt s → e ≠ .pause → s.apply now e = .ok s' →
      History pauses now.toInt s'

/-! ### The methods -/

section Methods

variable {s t s' : PanicState} {now : Int64}

@[simp] theorem isPausedFlag_unpause (s : PanicState) : s.unpause.isPausedFlag = false := by
  simp [isPausedFlag, unpause, UInt8.and_assoc]

theorem and_one_of_or (flags : UInt8) : (flags ||| 1) &&& 1 = 1 := by
  apply UInt8.toBitVec_inj.mp
  ext i hi
  simp +contextual

theorem subI64_eq_ok {a b : Int64} {d : ℤ} (h : subI64 a b = .ok d) : d = a.toInt - b.toInt := by
  simp only [subI64, bind_eq_ok] at h
  obtain ⟨_, -, h⟩ := h
  cases h
  rfl

theorem saturatingAddI64_toInt {a : Int64} {b : ℤ} (hb : 0 ≤ b) :
    (saturatingAddI64 a b).toInt ≤ a.toInt + b := by
  have hlow := a.le_toInt
  have hhigh := a.toInt_lt
  rw [saturatingAddI64, Int64.toInt_ofInt_of_le (by omega) (by omega)]
  omega

/-- A pause that has not run out began less than its duration ago. -/
theorem lt_of_isExpired (h : s.isExpired now = .ok false) :
    s.isPausedFlag = true ∧ now.toInt < s.pauseStartTimestamp.toInt + pauseDurationSeconds := by
  unfold isExpired at h
  by_cases hflag : s.isPausedFlag = false
  · simp [hflag] at h
  rw [if_neg hflag] at h
  refine ⟨by simpa using hflag, ?_⟩
  by_cases hfuture : now < s.pauseStartTimestamp
  · have hlt := Int64.lt_iff_toInt_lt.mp hfuture
    unfold pauseDurationSeconds
    omega
  · rw [if_neg hfuture] at h
    obtain ⟨d, hd, h⟩ := bind_eq_ok.mp h
    have hlast : ¬pauseDurationSeconds ≤ d := by simpa using h
    rw [subI64_eq_ok hd] at hlast
    omega

/-- Afterwards the state is not paused, or its pause has not run out. -/
theorem unpauseIfExpired_inv (h : s.unpauseIfExpired now = .ok t) :
    (t = s ∨ t = s.unpause) ∧ (t.isPausedFlag = true → t.isExpired now = .ok false) := by
  obtain ⟨expired, hexpired, h⟩ := bind_eq_ok.mp h
  cases h
  cases expired with
  | false => simp [hexpired]
  | true =>
    by_cases hflag : s.isPausedFlag = true
    · simp [hflag]
    · simp [hflag]

theorem unpauseIfExpired_of (h : t.isPausedFlag = true → t.isExpired now = .ok false) :
    t.unpauseIfExpired now = .ok t := by
  unfold unpauseIfExpired
  by_cases hflag : t.isPausedFlag = true
  · rw [h hflag]
    simp
  · have hexpired : t.isExpired now = .ok true := by simp [isExpired, hflag]
    rw [hexpired]
    simp [hflag]

/-- What is counted of the pauses. -/
def counter (s : PanicState) : Windows.Counter :=
  ⟨s.dailyPauseCount.toNat, s.lastDailyResetTimestamp.toInt⟩

theorem saturatingSuccU8_of_lt {n : UInt8} (h : n < 3) : saturatingSuccU8 n = n + 1 := by
  refine if_neg ?_
  rintro rfl
  exact absurd h (by decide)

theorem toNat_succ_of_lt {n : UInt8} (h : n < 3) : (n + 1).toNat = n.toNat + 1 := by
  have hn : n.toNat < 3 := UInt8.lt_iff_toNat_lt.mp h
  rw [UInt8.toNat_add]
  exact Nat.mod_eq_of_lt (by simpa using by omega)

/-- The daily count after a pause. -/
theorem counter_resetDaily (s : PanicState) (now : Int64) :
    Windows.Counter.record dailyResetInterval s.counter now.toInt 1 =
      ⟨(s.resetDaily now).dailyPauseCount.toNat + 1,
        (s.resetDaily now).lastDailyResetTimestamp.toInt⟩ := by
  unfold Windows.Counter.record resetDaily counter
  split_ifs <;> rfl

/-- After a reset, less than a day has passed since the last one. -/
theorem lt_of_resetDaily (s : PanicState) (now : Int64) :
    ¬dailyResetInterval ≤ now.toInt - (s.resetDaily now).lastDailyResetTimestamp.toInt := by
  unfold resetDaily
  by_cases h : dailyResetInterval ≤ now.toInt - s.lastDailyResetTimestamp.toInt
  · rw [if_pos h, sub_self]
    decide
  · rwa [if_neg h]

/-- **A pause** is the third one of its day at most, and begins anew or extends the one that lasts,
which has not been extended before. -/
theorem pause_inv (h : s.apply now .pause = .ok s') :
    ∃ t, s.unpauseIfExpired now = .ok t ∧
      s'.counter = t.counter.record dailyResetInterval now.toInt 1 ∧ s'.counter.used ≤ 3 ∧
      s'.isPausedFlag = true ∧ t.consecutivePauseCount < 2 ∧
      s'.consecutivePauseCount = t.consecutivePauseCount + 1 ∧
      s'.pauseStartTimestamp = (if t.isPausedFlag then
        saturatingAddI64 t.pauseStartTimestamp pauseDurationSeconds else now) := by
  obtain ⟨t, ht, h⟩ := bind_eq_ok.mp h
  have hlasts := (unpauseIfExpired_inv ht).2
  simp only [pause, unpauseIfExpired_of hlasts, ok_bind, bind_eq_ok, checkLending_eq_ok] at h
  obtain ⟨allowed, hallowed, _, hyes, expired, hexpired, h⟩ := h
  cases h
  subst hyes
  -- starting the count anew does not touch the pause
  have hflag : (t.resetDaily now).isPausedFlag = t.isPausedFlag := by
    unfold resetDaily
    split_ifs <;> rfl
  have hcount : (t.resetDaily now).consecutivePauseCount = t.consecutivePauseCount := by
    unfold resetDaily
    split_ifs <;> rfl
  have hstart : (t.resetDaily now).pauseStartTimestamp = t.pauseStartTimestamp := by
    unfold resetDaily
    split_ifs <;> rfl
  obtain ⟨sinceReset, hsince, hallowed⟩ := bind_eq_ok.mp hallowed
  have hlimits : t.consecutivePauseCount < 2 ∧ (t.resetDaily now).dailyPauseCount < 3 := by
    rw [subI64_eq_ok hsince, if_neg (lt_of_resetDaily t now), hcount] at hallowed
    simpa using hallowed
  have hconsecutive : saturatingSuccU8 t.consecutivePauseCount = t.consecutivePauseCount + 1 :=
    saturatingSuccU8_of_lt (UInt8.lt_trans hlimits.1 (by decide))
  have hdaily := saturatingSuccU8_of_lt hlimits.2
  have hused : (saturatingSuccU8 (t.resetDaily now).dailyPauseCount).toNat =
      (t.resetDaily now).dailyPauseCount.toNat + 1 := by
    rw [hdaily, toNat_succ_of_lt hlimits.2]
  refine ⟨t, ht, ?_, ?_, ?_, hlimits.1, by rw [← hconsecutive, ← hcount], ?_⟩
  · rw [counter_resetDaily, ← hused]
    rfl
  · have hlt := UInt8.lt_iff_toNat_lt.mp hlimits.2
    show (saturatingSuccU8 (t.resetDaily now).dailyPauseCount).toNat ≤ 3
    rw [hused]
    exact hlt
  · simp [isPausedFlag, and_one_of_or]
  · show (if _ then _ else _) = _
    rw [hflag, hstart]
    by_cases hpaused : t.isPausedFlag = true
    · have hstill : (t.resetDaily now).isExpired now = t.isExpired now := by
        simp only [isExpired, hflag, hstart]
      rw [hstill, hlasts hpaused] at hexpired
      cases hexpired
      simp
    · simp [hpaused]

end Methods

/-! ### Histories -/

/-- What the state says about the last pauses: while it is paused, that began with the last pause,
or with the last but one, which the last one has extended. -/
def Tracked (pauses : List ℤ) (s : PanicState) : Prop :=
  if s.isPausedFlag then
    s.consecutivePauseCount = 1 ∧ (∃ p older, pauses = p :: older ∧
      s.pauseStartTimestamp.toInt = p) ∨
    s.consecutivePauseCount = 2 ∧ ∃ q p older, pauses = q :: p :: older ∧
      s.pauseStartTimestamp.toInt ≤ p + pauseDurationSeconds
  else s.consecutivePauseCount = 0

section Histories

variable {pauses : List ℤ} {s s' : PanicState} {now : ℤ}

theorem tracked_unpause (s : PanicState) : Tracked pauses s.unpause := by
  unfold Tracked
  rw [isPausedFlag_unpause, if_neg Bool.false_ne_true]
  rfl

theorem tracked_unpauseIfExpired {t : PanicState} {time : Int64} (hs : Tracked pauses s)
    (h : s.unpauseIfExpired time = .ok t) : Tracked pauses t := by
  rcases (unpauseIfExpired_inv h).1 with rfl | rfl
  · exact hs
  · exact tracked_unpause s

theorem tracked_pause {time : Int64} (hs : Tracked pauses s) (h : s.apply time .pause = .ok s') :
    Tracked (time.toInt :: pauses) s' := by
  obtain ⟨t, ht, -, -, hflag, hlt, hcount, hstart⟩ := pause_inv h
  have htracked := tracked_unpauseIfExpired hs ht
  unfold Tracked at htracked ⊢
  rw [if_pos hflag, hcount, hstart]
  by_cases hpaused : t.isPausedFlag = true
  · rw [if_pos hpaused] at htracked ⊢
    rcases htracked with ⟨hone, p, older, rfl, hp⟩ | ⟨htwo, -⟩
    · refine .inr ⟨by rw [hone]; rfl, _, p, older, rfl, ?_⟩
      rw [← hp]
      exact saturatingAddI64_toInt (by decide)
    · exact absurd hlt (by rw [htwo]; decide)
  · rw [if_neg hpaused] at htracked ⊢
    exact .inl ⟨by rw [htracked]; rfl, _, pauses, rfl, rfl⟩

theorem History.tracked (h : History pauses now s) : Tracked pauses s := by
  induction h with
  | init => simp [Tracked, isPausedFlag, zeroed]
  | wait _ _ ih => exact ih
  | pause _ happly ih => exact tracked_pause ih happly
  | @other pauses s s' now e _ hne happly ih =>
    cases e with
    | pause => exact absurd rfl hne
    | unpause =>
      simp only [apply, bind_eq_ok] at happly
      obtain ⟨_, -, t, ht, happly⟩ := happly
      cases happly
      split_ifs
      · exact tracked_unpause t
      · exact tracked_unpauseIfExpired ih ht
    | unpausePermissionless =>
      simp only [apply, bind_eq_ok] at happly
      obtain ⟨_, -, _, -, _, -, happly⟩ := happly
      cases happly
      exact tracked_unpause s

/-- **A pause ends by itself**: while one lasts, the call that began it, which is the last one or
the one before, was made less than an hour ago. -/
theorem History.ends_within (h : History pauses now s) {time : Int64}
    (hlasts : s.isExpired time = .ok false) : ∃ p ∈ pauses.take 2, time.toInt < p + 3600 := by
  obtain ⟨hflag, hlt⟩ := lt_of_isExpired hlasts
  have htracked := h.tracked
  unfold Tracked at htracked
  rw [if_pos hflag] at htracked
  unfold pauseDurationSeconds at *
  rcases htracked with ⟨-, p, older, rfl, hp⟩ | ⟨-, q, p, older, rfl, hp⟩
  · exact ⟨p, by simp, by omega⟩
  · exact ⟨p, by simp, by omega⟩

/-- The pauses are recorded uses of a daily limit of three. -/
theorem History.windows (h : History pauses now s) :
    Windows.Run dailyResetInterval 3 (pauses.map fun p => (p, 1)) now s.counter := by
  induction h with
  | init now => exact .init now 0
  | wait _ hle ih => exact .wait ih hle
  | @pause pauses s s' now _ happly ih =>
    obtain ⟨t, ht, hcounter, hused, -⟩ := pause_inv happly
    have hsame : t.counter = s.counter := by
      rcases (unpauseIfExpired_inv ht).1 with rfl | rfl
      · rfl
      · rfl
    rw [hsame] at hcounter
    rw [hcounter] at hused ⊢
    exact .record ih hused
  | @other pauses s s' now e _ hne happly ih =>
    have hsame : s'.counter = s.counter := by
      cases e with
      | pause => exact absurd rfl hne
      | unpause =>
        simp only [apply, bind_eq_ok] at happly
        obtain ⟨_, -, t, ht, happly⟩ := happly
        cases happly
        rcases (unpauseIfExpired_inv ht).1 with rfl | rfl
        · split_ifs <;> rfl
        · split_ifs <;> rfl
      | unpausePermissionless =>
        simp only [apply, bind_eq_ok] at happly
        obtain ⟨_, -, _, -, _, -, happly⟩ := happly
        cases happly
        rfl
    rwa [hsame]

/-- **At most six pauses in any day.** -/
theorem History.per_day (h : History pauses now s) (a : ℤ) :
    (pauses.filter fun p => a ≤ p ∧ p < a + dailyResetInterval).length ≤ 6 := by
  have hspent := h.windows.spent_le a
  unfold Windows.spent Windows.total at hspent
  rw [List.filter_map, List.map_map] at hspent
  simpa [Function.comp_def] using hspent

end Histories

end PanicState

end Marginfi
