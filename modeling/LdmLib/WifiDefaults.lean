import LdmLib.Wifi

namespace LDM
set_option autoImplicit true

open Bytes

/-- A string that a field holds without a terminator at most. -/
def Fits (f : Field) (s : List UInt8) : Prop := 0 ∉ s ∧ s.length ≤ f.width

instance (f : Field) (s : List UInt8) : Decidable (Fits f s) := inferInstanceAs (Decidable (_ ∧ _))

/-- The field holds the string and zeros after it. -/
def Padded (m : Mem) (f : Field) (s : List UInt8) : Prop :=
  m.field f = zeroPad f.width s

theorem padded_writes {m : Mem} (h : s.length ≤ f.width) (hz : ∀ a, f.Has a → m a = 0) :
    Padded (m.stores (writes f.off s)) f s := by
  have hzero : m.field f = List.replicate f.width 0 := by
    apply List.eq_replicate_iff.2
    apply And.intro
    · exact length_field m f
    · intro b hb
      obtain ⟨i, hi, rfl⟩ := List.mem_map.1 hb
      have hi := List.mem_range.1 hi
      exact hz _ ⟨by omega, by omega⟩
  rw [Padded, field_writes f s h, hzero, List.drop_replicate]
  rfl

namespace Kconfig

/-- Each string copy ends on a zero byte: nothing but strings has been stored before. -/
theorem strings_eq (hs : Fits Sta.ssid ssid) (hp : Fits Sta.password password) :
    (Mem.zero.stores (strcpy Sta.ssid.off ssid)).stores (strcpy Sta.password.off password) =
      (Mem.zero.stores (writes Sta.ssid.off ssid)).stores (writes Sta.password.off password) := by
  have hlen : ssid.length ≤ 32 := hs.2
  have hout : ¬ (Sta.ssid.off ≤ Sta.password.off + password.length ∧
      Sta.password.off + password.length < Sta.ssid.off + ssid.length) := by
    change ¬ (0 ≤ 32 + password.length ∧ 32 + password.length < 0 + ssid.length)
    omega
  rw [stores_strcpy hs.1 rfl, stores_strcpy hp.1]
  rw [writes_frame hout]
  rfl

/-- Both configurations after the two string copies. -/
structure Strings (ssid password : List UInt8) (m : Mem) : Prop where
  ssid : Padded m Sta.ssid ssid
  password : Padded m Sta.password password
  rest : ∀ a, ¬ Sta.ssid.Has a → ¬ Sta.password.Has a → m a = 0

theorem strings_copied (hs : Fits Sta.ssid ssid) (hp : Fits Sta.password password) :
    Strings ssid password
      ((Mem.zero.stores (strcpy Sta.ssid.off ssid)).stores (strcpy Sta.password.off password)) := by
  have hcs := (Sta.ssid.covers_writes ssid).2 hs.2
  have hcp := (Sta.password.covers_writes password).2 hp.2
  have hapart : Sta.ssid.Apart Sta.password := by decide
  rw [strings_eq hs hp]
  constructor
  case ssid =>
    rw [Padded, hcp.field_frame hapart]
    exact padded_writes hs.2 fun a ha => rfl
  case password =>
    apply padded_writes hp.2
    intro a ha
    exact hcs.frame (hapart.symm.not_has ha)
  case rest =>
    intro a has hap
    rw [hcp.frame hap, hcs.frame has]
    rfl

/-- What the constructor assigns to the access point's configuration after the strings. -/
def apAssigns (k : Kconfig) : List (Field × List UInt8) :=
  [(Ap.ssidLen, [UInt8.ofNat (strlen k.apSsid)]), (Ap.authmode, [k.apAuthMode.code, 0, 0, 0]),
    (Ap.maxConnection, [k.apMaxConnections]), (Ap.channel, [k.apChannel])] ++
    if k.apHidden then [(Ap.ssidHidden, [1])] else []

theorem apConfig_eq (k : Kconfig) : k.apConfig =
    ((Mem.zero.stores (strcpy Ap.ssid.off k.apSsid)).stores
      (strcpy Ap.password.off k.apPassword)).stores (assigns k.apAssigns) := by
  rw [apConfig, apAssigns]
  cases k.apHidden with
  | true => rfl
  | false => rfl

theorem apAssigns_length (k : Kconfig) : ∀ p ∈ k.apAssigns, p.2.length = p.1.width := by
  rw [apAssigns]
  cases k.apHidden with
  | true =>
    simp [Ap.ssidLen, Ap.authmode, Ap.maxConnection, Ap.channel, Ap.ssidHidden]
  | false => simp [Ap.ssidLen, Ap.authmode, Ap.maxConnection, Ap.channel]

def apAssigned : List Field :=
  [Ap.ssidLen, Ap.authmode, Ap.maxConnection, Ap.channel, Ap.ssidHidden]

theorem apAssigns_fst (k : Kconfig) : (k.apAssigns.map Prod.fst).Sublist apAssigned := by
  rw [apAssigns]
  cases k.apHidden with
  | true => exact .refl _
  | false => exact List.sublist_append_left _ [Ap.ssidHidden]

theorem apAssigns_apart (k : Kconfig) : k.apAssigns.Pairwise fun p q => p.1.Apart q.1 := by
  have hall : apAssigned.Pairwise Field.Apart := by decide
  exact List.pairwise_map.1 (hall.sublist k.apAssigns_fst)

theorem apAssigns_mem (k : Kconfig) (hp : p ∈ k.apAssigns) : p.1 ∈ apAssigned :=
  k.apAssigns_fst.subset (List.mem_map_of_mem hp)

theorem apConfig_field (k : Kconfig) (hp : p ∈ k.apAssigns) : k.apConfig.field p.1 = p.2 := by
  rw [apConfig_eq]
  exact assigns_field k.apAssigns_length k.apAssigns_apart hp _

theorem apConfig_byte (k : Kconfig) (hp : (f, [b]) ∈ k.apAssigns) : k.apConfig f.off = b := by
  have hf : k.apConfig.field f = [b] := k.apConfig_field hp
  have hw : 1 = f.width := k.apAssigns_length (f, [b]) hp
  rw [Mem.field, ← hw] at hf
  exact List.head_eq_of_cons_eq hf

end Kconfig

/-- The access point's configuration as configured; `hidden` is what hides the SSID. -/
structure ApDefaults (k : Kconfig) (hidden : UInt8) (m : Mem) : Prop where
  ssid : Padded m Ap.ssid k.apSsid
  password : Padded m Ap.password k.apPassword
  ssidLen : (m Ap.ssidLen.off).toNat = k.apSsid.length
  authmode : m.field Ap.authmode = [k.apAuthMode.code, 0, 0, 0]
  maxConnection : m Ap.maxConnection.off = k.apMaxConnections
  channel : m Ap.channel.off = k.apChannel
  ssidHidden : m Ap.ssidHidden.off = hidden
  rest : ∀ a, ¬ Ap.ssid.Has a → ¬ Ap.password.Has a →
    (∀ f ∈ Kconfig.apAssigned, ¬ f.Has a) → m a = 0

/-- The strings are at most as long as 802.11 has them. -/
structure WithinLimits (k : Kconfig) : Prop where
  staSsid : Fits Sta.ssid k.staSsid
  staPassword : Fits Sta.password k.staPassword
  apSsid : Fits Ap.ssid k.apSsid
  apPassword : Fits Ap.password k.apPassword

namespace Kconfig

theorem strlen_fits (hs : Fits Ap.ssid s) : (UInt8.ofNat (strlen s)).toNat = s.length := by
  have hsize : Ap.ssid.width < UInt8.size := by decide
  rw [strlen, takeWhile_nulFree hs.1]
  exact UInt8.toNat_ofNat_of_lt (Nat.lt_of_le_of_lt hs.2 hsize)

theorem apConfig_defaults {k : Kconfig} (hs : Fits Ap.ssid k.apSsid)
    (hp : Fits Ap.password k.apPassword) :
    ApDefaults k (if k.apHidden then 1 else 0) k.apConfig := by
  have hstr := strings_copied hs hp
  have hstay (f : Field) (hf : ∀ g ∈ apAssigned, f.Apart g) (m : Mem) :
      (m.stores (assigns k.apAssigns)).field f = m.field f :=
    assigns_field_frame k.apAssigns_length (fun p hp => hf p.1 (k.apAssigns_mem hp)) m
  constructor
  case ssid =>
    rw [Padded, apConfig_eq, hstay Ap.ssid (by decide)]
    exact hstr.ssid
  case password =>
    rw [Padded, apConfig_eq, hstay Ap.password (by decide)]
    exact hstr.password
  case ssidLen =>
    have hb : k.apConfig Ap.ssidLen.off = UInt8.ofNat (strlen k.apSsid) :=
      k.apConfig_byte (by simp [apAssigns])
    rw [hb, strlen_fits hs]
  case authmode => exact k.apConfig_field (p := (Ap.authmode, _)) (by simp [apAssigns])
  case maxConnection => exact k.apConfig_byte (by simp [apAssigns])
  case channel => exact k.apConfig_byte (by simp [apAssigns])
  case ssidHidden =>
    by_cases hh : k.apHidden = true
    · rw [if_pos hh]
      exact k.apConfig_byte (by simp [apAssigns, hh])
    · have hout : ∀ p ∈ k.apAssigns, ¬ p.1.Has Ap.ssidHidden.off := by
        simp [apAssigns, hh, Field.Has, Ap.ssidLen, Ap.authmode, Ap.maxConnection, Ap.channel,
          Ap.ssidHidden]
      rw [if_neg hh, apConfig_eq, assigns_frame k.apAssigns_length hout]
      exact hstr.rest _ (by decide) (by decide)
  case rest =>
    intro a has hap ha
    rw [apConfig_eq, assigns_frame k.apAssigns_length fun p hp => ha p.1 (k.apAssigns_mem hp)]
    exact hstr.rest a has hap

end Kconfig

/-- The configurations after the constructor. -/
theorem WiFi.construct_defaults (h : WithinLimits k) :
    Kconfig.Strings k.staSsid k.staPassword (construct k).staConfig ∧
      ApDefaults k (if k.apHidden then 1 else 0) (construct k).apConfig :=
  ⟨Kconfig.strings_copied h.staSsid h.staPassword,
    Kconfig.apConfig_defaults h.apSsid h.apPassword⟩

/-- The longest strings, whose terminators fall into the fields after them. -/
def longest : Kconfig :=
  { Kconfig.defaults with
    staSsid := List.replicate 32 0x61, staPassword := List.replicate 64 0x62
    apSsid := List.replicate 32 0x63, apPassword := List.replicate 64 0x64 }

theorem longest_withinLimits : WithinLimits longest :=
  ⟨by decide, by decide, by decide, by decide⟩

theorem WiFi.construct_longest :
    Kconfig.Strings longest.staSsid longest.staPassword (construct longest).staConfig ∧
      ApDefaults longest 0 (construct longest).apConfig :=
  WiFi.construct_defaults longest_withinLimits

/-- A build that hides the SSID sets one byte more. -/
theorem WiFi.construct_hidden :
    WithinLimits { Kconfig.defaults with apHidden := true } ∧
      ¬ ApDefaults { Kconfig.defaults with apHidden := true } 0
        (construct { Kconfig.defaults with apHidden := true }).apConfig := by
  apply And.intro
  · exact ⟨by decide, by decide, by decide, by decide⟩
  · intro h
    have hb := h.ssidHidden
    revert hb
    decide

end LDM
