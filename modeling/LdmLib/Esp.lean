import Mathlib.Logic.Basic

namespace LDM
set_option autoImplicit true

/-- `esp_err_t`, a 32-bit integer that is zero on success. -/
structure EspErr where
  code : BitVec 32
  deriving DecidableEq, Repr

namespace EspErr

def ok : EspErr := ⟨0⟩
def fail : EspErr := ⟨-1⟩
def errInvalidArg : EspErr := ⟨0x102⟩
def errInvalidState : EspErr := ⟨0x103⟩
def errNotFound : EspErr := ⟨0x105⟩
def errNvsNotInitialized : EspErr := ⟨0x1101⟩
def errNvsNotFound : EspErr := ⟨0x1102⟩
def errNvsReadOnly : EspErr := ⟨0x1104⟩
def errNvsInvalidHandle : EspErr := ⟨0x1107⟩
def errNvsNoFreePages : EspErr := ⟨0x110d⟩
def errNvsNewVersionFound : EspErr := ⟨0x1110⟩
def errWifiNotInit : EspErr := ⟨0x3001⟩
def errWifiState : EspErr := ⟨0x3006⟩

instance : OrOp EspErr := ⟨fun a b => ⟨a.code ||| b.code⟩⟩

/-- `err |= call()` keeps `ESP_OK` exactly when neither side failed. -/
theorem or_eq_ok {a b : EspErr} : a ||| b = ok ↔ a = ok ∧ b = ok := by
  cases a with
  | mk a =>
    cases b with
    | mk b =>
      change EspErr.mk (a ||| b) = ⟨0⟩ ↔ EspErr.mk a = ⟨0⟩ ∧ EspErr.mk b = ⟨0⟩
      simp only [EspErr.mk.injEq]
      exact BitVec.or_eq_zero_iff

@[simp] theorem ok_or (a : EspErr) : ok ||| a = a := by
  cases a with
  | mk a => exact congrArg EspErr.mk BitVec.zero_or

@[simp] theorem or_ok (a : EspErr) : a ||| ok = a := by
  cases a with
  | mk a => exact congrArg EspErr.mk BitVec.or_zero

@[simp] theorem errInvalidArg_ne_ok : errInvalidArg ≠ ok := by decide
@[simp] theorem errInvalidState_ne_ok : errInvalidState ≠ ok := by decide
@[simp] theorem errNotFound_ne_ok : errNotFound ≠ ok := by decide
@[simp] theorem errNvsNotInitialized_ne_ok : errNvsNotInitialized ≠ ok := by decide
@[simp] theorem errNvsReadOnly_ne_ok : errNvsReadOnly ≠ ok := by decide
@[simp] theorem errNvsInvalidHandle_ne_ok : errNvsInvalidHandle ≠ ok := by decide
@[simp] theorem errWifiNotInit_ne_ok : errWifiNotInit ≠ ok := by decide
@[simp] theorem errWifiState_ne_ok : errWifiState ≠ ok := by decide
@[simp] theorem fail_ne_ok : fail ≠ ok := by decide

end EspErr

/-- `err |= call(); ERR_CHECK(err)`: an error is returned at once, else the function goes on. Since
`err` is `ESP_OK` before the call, what is returned is the call's own error. -/
def errCheck (r : σ × EspErr) (k : σ → σ × EspErr) : σ × EspErr :=
  if r.2 = .ok then k r.1 else r

@[simp] theorem errCheck_ok (s : σ) (k : σ → σ × EspErr) : errCheck (s, .ok) k = k s :=
  if_pos rfl

theorem errCheck_fail (he : e ≠ EspErr.ok) (s : σ) (k : σ → σ × EspErr) :
    errCheck (s, e) k = (s, e) :=
  if_neg he

/-- Both parts keep it, so the check keeps it on every path. -/
theorem errCheck_keeps {P : σ → Prop} (hr : P r.1) (hk : ∀ s, P s → P (k s).1) :
    P (errCheck r k).1 := by
  unfold errCheck
  split
  · exact hk _ hr
  · exact hr

/-- Nothing was returned early from a function that succeeds. -/
theorem errCheck_eq_of_ok (h : (errCheck r k).2 = EspErr.ok) :
    r.2 = .ok ∧ errCheck r k = k r.1 := by
  by_cases he : r.2 = .ok
  · exact ⟨he, if_pos he⟩
  · rw [errCheck, if_neg he] at h
    exact absurd h he

@[simp] theorem errCheck_pure (r : σ × EspErr) : errCheck r (fun s => (s, .ok)) = r := by
  cases r with
  | mk s e =>
    by_cases he : e = .ok
    · rw [he, errCheck_ok]
    · rw [errCheck_fail he]

end LDM
