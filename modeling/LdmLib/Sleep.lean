import LdmLib.Run
import Mathlib.Algebra.Order.Group.Unbundled.Int

namespace LDM
set_option autoImplicit true

/-- A `struct timeval` as the clock gives it: normalised, and in 32 bits. -/
structure Timeval where
  tvSec : Int
  tvUsec : Int
  sec_range : 0 ≤ tvSec ∧ tvSec < 2 ^ 31
  usec_range : 0 ≤ tvUsec ∧ tvUsec < 1000000

namespace Timeval

def zero : Timeval := ⟨0, 0, by decide, by decide⟩

def micros (t : Timeval) : Int := t.tvSec * 1000000 + t.tvUsec

@[simp] theorem zero_tvSec : zero.tvSec = 0 := rfl

@[simp] theorem zero_tvUsec : zero.tvUsec = 0 := rfl

end Timeval

/-- The result of a signed operation of 32 bits, unless it overflows. -/
def checked (x : Int) : Option Int := if -2 ^ 31 ≤ x ∧ x < 2 ^ 31 then some x else none

theorem checked_eq_some : checked x = some y ↔ (-2 ^ 31 ≤ x ∧ x < 2 ^ 31) ∧ x = y := by
  unfold checked
  split
  · rename_i h
    rw [Option.some.injEq]
    exact (and_iff_right h).symm
  · rename_i h
    exact iff_of_false (fun hn => by cases hn) fun hn => h hn.1

inductive WakeupCause where
  | undefined
  | ext0
  | ext1
  | timer
  | touchpad
  | ulp
  | gpio
  | uart
  | other
  deriving DecidableEq, Repr

/-- The class `Sleep`: the time in RTC memory, which a deep sleep keeps, and the sleeps asked for,
in microseconds, newest first. -/
structure Sleep where
  sleepEnterTime : Timeval
  sleeps : List UInt64

namespace Sleep

/-- At power-on the RTC memory holds the initial value of the static. -/
def construct : Sleep := ⟨.zero, []⟩

def sleepTimeMs (now enter : Timeval) : Option Int := do
  let sec ← checked (now.tvSec - enter.tvSec)
  let ms ← checked (sec * 1000)
  let usec ← checked (now.tvUsec - enter.tvUsec)
  checked (ms + usec.tdiv 1000)

def message (cause : WakeupCause) (sleepTimeMs : Int) : String :=
  match cause with
  | .undefined => "Wakeup was not caused by exit from deep sleep"
  | .ext0 => "Wakeup caused by external signal using RTC_IO"
  | .ext1 => "Wakeup caused by external signal using RTC_CNTL"
  | .timer => s!"Wakeup caused by timer. Time spent in deep sleep: {sleepTimeMs}ms"
  | .touchpad => "Wakeup caused by touchpad"
  | .ulp => "Wakup caused by ULP program"
  | .gpio => "Wakeup caused by GPIO (light sleep only)"
  | .uart => "Wakeup caused by UART (light sleep only)"
  | .other => "Not a deep sleep reset"

/-- The cause, and the line that is logged, unless the time overflows. -/
def getWakeupCause (s : Sleep) (now : Timeval) (cause : WakeupCause) :
    Option (WakeupCause × String) := do
  let ms ← sleepTimeMs now s.sleepEnterTime
  return (cause, message cause ms)

def enterDeepSleepUsec (s : Sleep) (timeMicrosec : UInt64) : Sleep :=
  { s with sleeps := timeMicrosec :: s.sleeps }

/-- `times1E6` is the product `timeSec * 1E6`, which is made in floating point. -/
def enterDeepSleepSec (times1E6 : UInt64 → UInt64) (s : Sleep) (timeSec : UInt64) : Sleep :=
  s.enterDeepSleepUsec (times1E6 timeSec)

inductive Op where
  | enterDeepSleepUsec (timeMicrosec : UInt64) (now : Timeval)
  | enterDeepSleepSec (timeSec : UInt64) (now : Timeval)
  | getWakeupCause (cause : WakeupCause) (now : Timeval)

def step (times1E6 : UInt64 → UInt64) (s : Sleep) : Op → Sleep
  | .enterDeepSleepUsec timeMicrosec _ => s.enterDeepSleepUsec timeMicrosec
  | .enterDeepSleepSec timeSec _ => s.enterDeepSleepSec times1E6 timeSec
  | .getWakeupCause _ _ => s

def entered (e : Option Timeval) (_ : Sleep) : Op → Option Timeval
  | .enterDeepSleepUsec _ now => some now
  | .enterDeepSleepSec _ now => some now
  | .getWakeupCause _ _ => e

/-- No operation overflows, and the time is less than a millisecond off. -/
def Accurate (now remembered enter : Timeval) : Prop :=
  ∃ ms, sleepTimeMs now remembered = some ms ∧
    |1000 * ms - (now.micros - enter.micros)| < 1000

/-- The sleep is over by now, and was shorter than `2 ^ 31 - 1` milliseconds. -/
def InRange (now enter : Timeval) : Prop :=
  0 ≤ now.micros - enter.micros ∧ now.micros - enter.micros < (2 ^ 31 - 1) * 1000

def MeasuresSleep (p : Sleep × Option Timeval) (op : Op) : Prop :=
  ∀ cause now enter, op = .getWakeupCause cause now → p.2 = some enter → InRange now enter →
    Accurate now p.1.sleepEnterTime enter

def EntersAtEpoch (p : Sleep × Option Timeval) (op : Op) : Prop :=
  ∀ cause now enter, op = .getWakeupCause cause now → p.2 = some enter → InRange now enter →
    enter.micros < 1000 + now.micros % 1000

theorem sleepTimeMs_eq_some {now enter : Timeval} : sleepTimeMs now enter = some ms ↔
    (now.tvSec - enter.tvSec) * 1000 < 2 ^ 31 ∧ -2 ^ 31 ≤ (now.tvSec - enter.tvSec) * 1000 ∧
      -2 ^ 31 ≤ ms ∧ ms < 2 ^ 31 ∧
      ms = (now.tvSec - enter.tvSec) * 1000 + (now.tvUsec - enter.tvUsec).tdiv 1000 := by
  have h1 := now.sec_range
  have h2 := enter.sec_range
  have h3 := now.usec_range
  have h4 := enter.usec_range
  have hsec : checked (now.tvSec - enter.tvSec) = some (now.tvSec - enter.tvSec) :=
    checked_eq_some.2 ⟨by omega, rfl⟩
  have husec : checked (now.tvUsec - enter.tvUsec) = some (now.tvUsec - enter.tvUsec) :=
    checked_eq_some.2 ⟨by omega, rfl⟩
  simp only [sleepTimeMs, hsec, husec, Option.bind_eq_bind, Option.bind_some,
    Option.bind_eq_some_iff, checked_eq_some]
  apply Iff.intro
  · rintro ⟨x, ⟨hx, rfl⟩, hy, rfl⟩
    exact ⟨hx.2, hx.1, hy.1, hy.2, rfl⟩
  · rintro ⟨hx, hx', hy, hy', rfl⟩
    exact ⟨_, ⟨⟨hx', hx⟩, rfl⟩, ⟨hy, hy'⟩, rfl⟩

theorem tdiv_bounds (x : Int) : |1000 * x.tdiv 1000 - x| < 1000 := by
  have h := Int.tdiv_mul_add_tmod x 1000
  have h1 := Int.lt_tmod_of_pos x (show (0 : Int) < 1000 by decide)
  have h2 := Int.tmod_lt_of_pos x (show (0 : Int) < 1000 by decide)
  rw [abs_lt]
  omega

/-- With the time of entry at hand the computation is accurate, unless the whole seconds alone
overflow: the microseconds may be negative. -/
theorem accurate_remembered_iff {now enter : Timeval} (h : InRange now enter) :
    Accurate now enter enter ↔ (now.tvSec - enter.tvSec) * 1000 < 2 ^ 31 := by
  obtain ⟨h0, hmax⟩ := h
  have hb := tdiv_bounds (now.tvUsec - enter.tvUsec)
  have h3 := now.usec_range
  have h4 := enter.usec_range
  rw [abs_lt] at hb
  unfold Timeval.micros at h0 hmax
  apply Iff.intro
  · rintro ⟨ms, hms, -⟩
    exact (sleepTimeMs_eq_some.1 hms).1
  · intro hlt
    refine ⟨_, sleepTimeMs_eq_some.2 ⟨hlt, ?_, ?_, ?_, rfl⟩, ?_⟩
    · omega
    · omega
    · omega
    · rw [abs_lt]
      unfold Timeval.micros
      omega

theorem accurate_zero_iff {now enter : Timeval} (h : InRange now enter) :
    Accurate now .zero enter ↔ enter.micros < 1000 + now.micros % 1000 := by
  obtain ⟨h0, hmax⟩ := h
  have h1 := now.sec_range
  have h2 := enter.sec_range
  have h3 := now.usec_range
  have h4 := enter.usec_range
  have hdiv : (now.tvUsec - 0).tdiv 1000 = now.tvUsec / 1000 := by
    rw [Int.sub_zero, Int.tdiv_eq_ediv_of_nonneg h3.1]
  unfold Timeval.micros at h0 hmax ⊢
  apply Iff.intro
  · rintro ⟨ms, hms, hlt⟩
    obtain ⟨-, -, -, -, rfl⟩ := sleepTimeMs_eq_some.1 hms
    rw [Timeval.zero_tvSec, Timeval.zero_tvUsec, hdiv, abs_lt] at hlt
    unfold Timeval.micros at hlt
    omega
  · intro hlt
    refine ⟨now.tvSec * 1000 + now.tvUsec / 1000, sleepTimeMs_eq_some.2 ?_, ?_⟩
    · rw [Timeval.zero_tvSec, Timeval.zero_tvUsec, hdiv, Int.sub_zero]
      omega
    · rw [abs_lt]
      unfold Timeval.micros
      omega

theorem step_sleepEnterTime (times1E6 : UInt64 → UInt64) (s : Sleep) (op : Op) :
    (s.step times1E6 op).sleepEnterTime = s.sleepEnterTime := by
  cases op with
  | _ => rfl

def NeverStored (p : Sleep × Option Timeval) : Prop := p.1.sleepEnterTime = .zero

/-- The time reported is that of the sleep exactly when the sleep began with the epoch, since the
time of entry is never stored. -/
theorem sleep_measured_iff (times1E6 : UInt64 → UInt64) (ops : List Op) :
    Run.Guarded (Run.watch (step times1E6) entered) MeasuresSleep (construct, none) ops ↔
      Run.Guarded (Run.watch (step times1E6) entered) EntersAtEpoch (construct, none) ops := by
  have h0 : NeverStored (construct, none) := rfl
  apply Run.Guarded.congr_invariant h0
  · intro p op h
    exact (step_sleepEnterTime times1E6 p.1 op).trans h
  · intro p op h
    have hz : p.1.sleepEnterTime = .zero := h
    unfold MeasuresSleep EntersAtEpoch
    rw [hz]
    exact forall₃_congr fun _ _ _ => forall₃_congr fun _ _ hr => accurate_zero_iff hr

theorem sleep_not_measured :
    ¬ Run.Guarded (Run.watch (step id) entered) MeasuresSleep (construct, none)
      [.enterDeepSleepUsec 1000000 ⟨1000, 0, by decide, by decide⟩,
        .getWakeupCause .timer ⟨1001, 0, by decide, by decide⟩] := by
  intro h
  have hm := h [.enterDeepSleepUsec 1000000 ⟨1000, 0, by decide, by decide⟩]
    (.getWakeupCause .timer ⟨1001, 0, by decide, by decide⟩) List.prefix_rfl
    .timer ⟨1001, 0, by decide, by decide⟩ ⟨1000, 0, by decide, by decide⟩ rfl rfl
    ⟨by decide, by decide⟩
  obtain ⟨ms, hms, hlt⟩ := hm
  cases hms
  revert hlt
  decide

end Sleep

end LDM
