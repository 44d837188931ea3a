import LdmLib.DeviceRun

namespace LDM.Ble
set_option autoImplicit true

open Bytes Prog

inductive Credential where
  | staSsid
  | staPasswd
  | softapSsid
  | softapPasswd
  deriving DecidableEq, Repr

namespace Credential

def event (payload : Mem) (len : Nat) : Credential → BlufiEvent
  | .staSsid => .recvStaSsid payload len
  | .staPasswd => .recvStaPasswd payload len
  | .softapSsid => .recvSoftapSsid payload len
  | .softapPasswd => .recvSoftapPasswd payload len

def interface : Credential → WifiInterface
  | .staSsid => .sta
  | .staPasswd => .sta
  | .softapSsid => .ap
  | .softapPasswd => .ap

def field : Credential → Field
  | .staSsid => Sta.ssid
  | .staPasswd => Sta.password
  | .softapSsid => Ap.ssid
  | .softapPasswd => Ap.password

/-- Where the message may store, next to the field it is for. -/
def Beside : Credential → Nat → Prop
  | .softapSsid, a => Ap.ssidLen.Has a
  | _, _ => False

instance : (c : Credential) → (a : Nat) → Decidable (c.Beside a)
  | .softapSsid, a => inferInstanceAs (Decidable (Ap.ssidLen.Has a))
  | .staSsid, _ => inferInstanceAs (Decidable False)
  | .staPasswd, _ => inferInstanceAs (Decidable False)
  | .softapPasswd, _ => inferInstanceAs (Decidable False)

end Credential

theorem copyString_eq (f : Field) (src : Mem) (len : Nat) :
    copyString f src len = writes f.off (strncpyBytes src 0 false len ++ [0]) := by
  rw [writes_append, length_strncpyBytes]
  rfl

/-- The string and its terminator fit in a field exactly when the string is shorter. -/
theorem covers_copyString (f : Field) (src : Mem) (len : Nat) :
    f.Covers (copyString f src len) ↔ len < f.width := by
  rw [copyString_eq, f.covers_writes, List.length_append, length_strncpyBytes]
  exact Iff.rfl

variable {d : Device} {e : BlufiEvent}

theorem recv_fst (i : WifiInterface) (ss : List Store) (err : EspErr) (d : Device) :
    (recv i ss err d).1 =
      { d with ble := d.ble.setConfig ((d.ble.config i).stores ss) i }.record
        (.wifiSetConfig i (toConfig ((d.ble.setConfig ((d.ble.config i).stores ss) i).config i)))
        err :=
  rfl

theorem recv_config (i : WifiInterface) (ss : List Store) (err : EspErr) (d : Device) :
    (recv i ss err d).1.ble.config i = (d.ble.config i).stores ss := by
  rw [recv_fst, Device.record_ble, config_setConfig]

theorem recv_config_ne (h : i ≠ j) (ss : List Store) (err : EspErr) (d : Device) :
    (recv i ss err d).1.ble.config j = d.ble.config j := by
  rw [recv_fst, Device.record_ble, config_setConfig_ne _ _ h]

/-- Whatever the two static configurations held, the message changes no byte of them outside the
field it is for. -/
def Contained (c : Credential) (payload : Mem) (len : Nat) (env : CallbackEnv) : Prop :=
  ∀ (d : Device) (i : WifiInterface) (a : Nat),
    ¬ (i = c.interface ∧ (c.field.Has a ∨ c.Beside a)) →
      (defaultBlufiCallback (c.event payload len) env d).1.ble.config i a = d.ble.config i a

theorem Credential.stores_event (c : Credential) (payload : Mem) (len : Nat) :
    ∃ ss, (c.event payload len).stores = some (c.interface, copyString c.field payload len ++ ss) ∧
      ∀ s ∈ ss, c.Beside s.addr := by
  cases c with
  | staSsid => exact ⟨[], by rw [List.append_nil]; rfl, fun s hs => by cases hs⟩
  | staPasswd => exact ⟨[], by rw [List.append_nil]; rfl, fun s hs => by cases hs⟩
  | softapSsid =>
    refine ⟨_, rfl, fun s hs => ?_⟩
    rw [List.mem_singleton.1 hs]
    exact ⟨Nat.le_refl _, Nat.lt_succ_self _⟩
  | softapPasswd => exact ⟨[], by rw [List.append_nil]; rfl, fun s hs => by cases hs⟩

theorem credential_frame (c : Credential) (h : len < c.field.width) (payload : Mem)
    (env : CallbackEnv) (d : Device) (ha : ¬ (i = c.interface ∧ (c.field.Has a ∨ c.Beside a))) :
    (defaultBlufiCallback (c.event payload len) env d).1.ble.config i a = d.ble.config i a := by
  obtain ⟨ss, hs, hb⟩ := c.stores_event payload len
  rw [callback_recv hs]
  by_cases hi : i = c.interface
  · subst hi
    have hout : ¬ c.field.Has a ∧ ¬ c.Beside a := not_or.1 fun ho => ha ⟨rfl, ho⟩
    have hbeside : ∀ s ∈ ss, s.addr ≠ a := by
      intro s hs he
      exact hout.2 (he ▸ hb s hs)
    rw [recv_config, stores_append, stores_frame hbeside]
    exact ((covers_copyString c.field payload len).2 h).frame hout.1
  · rw [recv_config_ne (Ne.symm hi)]

/-- The byte after the field is none that the message may store to. -/
theorem Credential.end_outside (c : Credential) :
    ¬ (c.field.Has (c.field.off + c.field.width) ∨ c.Beside (c.field.off + c.field.width)) := by
  cases c <;> decide

/-- Behind the field, a string that does not fit leaves the same byte whatever was there. -/
theorem credential_spills (c : Credential) (h : c.field.width ≤ len) (payload : Mem)
    (env : CallbackEnv) (d d' : Device) :
    (defaultBlufiCallback (c.event payload len) env d).1.ble.config c.interface
        (c.field.off + c.field.width) =
      (defaultBlufiCallback (c.event payload len) env d').1.ble.config c.interface
        (c.field.off + c.field.width) := by
  obtain ⟨ss, hs, _⟩ := c.stores_event payload len
  rw [callback_recv hs, recv_config, recv_config]
  have hreach : ∃ s ∈ copyString c.field payload len, s.addr = c.field.off + c.field.width := by
    rw [copyString_eq, mem_writes_addr, List.length_append, length_strncpyBytes,
      List.length_singleton]
    omega
  obtain ⟨s, hm, ha⟩ := hreach
  exact stores_overwritten ⟨s, List.mem_append_left ss hm, ha⟩ _ _

/-- A string message stays inside its field exactly when the string is shorter than the field. -/
theorem credential_contained_iff (c : Credential) (payload : Mem) (len : Nat)
    (env : CallbackEnv) : Contained c payload len env ↔ len < c.field.width := by
  apply Iff.intro
  · intro h
    by_contra hlt
    -- two devices that differ in the byte after the field no longer do after the message
    let filled (b : UInt8) : Device :=
      { Device.boot Kconfig.defaults ⟨fun _ => 0, fun _ => 0⟩ with
        ble := construct.setConfig (fun _ => b) c.interface }
    have hkept (b : UInt8) :
        (defaultBlufiCallback (c.event payload len) env (filled b)).1.ble.config c.interface
          (c.field.off + c.field.width) = b := by
      rw [h (filled b) c.interface _ fun ha => c.end_outside ha.2]
      exact congrFun (config_setConfig construct (fun _ => b) c.interface) _
    have hsame := credential_spills c (Nat.le_of_not_lt hlt) payload env (filled 0) (filled 1)
    rw [hkept 0, hkept 1] at hsame
    exact absurd hsame (by decide)
  · intro h d i a ha
    exact credential_frame c h payload env d ha

def passwordSet : Device :=
  (defaultBlufiCallback (.recvStaPasswd (fun _ => 0x70) 1) callbackOk
    (Device.boot Kconfig.defaults ⟨fun _ => 0, fun _ => 0⟩)).1

/-- An SSID of 32 bytes erases the first byte of the password. -/
theorem ssid_erases_password : ¬ Contained .staSsid (fun _ => 0x73) 32 callbackOk := by
  intro h
  have hb := h passwordSet .sta 32 (by decide)
  revert hb
  decide

end LDM.Ble
