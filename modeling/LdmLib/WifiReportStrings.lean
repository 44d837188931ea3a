import LdmLib.WifiDefaults
import LdmLib.WifiReportSections

namespace LDM.WiFi
set_option autoImplicit true

open Bytes Text JsonHeap KeyedTree

/-- The configuration holds two strings, zero-padded to the widths of their fields. -/
structure Stores (c : WifiConfig) (ssid password : List UInt8) : Prop where
  ssidFits : Fits Sta.ssid ssid
  passwordFits : Fits Sta.password password
  ssidField : c.field Sta.ssid = zeroPad Sta.ssid.width ssid
  passwordField : c.field Sta.password = zeroPad Sta.password.width password

def Emits (j : Json) (i : WifiInterface) (ssid password : List UInt8) : Prop :=
  ∃ o, j.valuesOf (Section.config i).key = [o] ∧
    o.valuesOf "ssid" = [.node (.string ssid) []] ∧
    o.valuesOf "password" = [.node (.string password) []]

/-- The byte after the password: of `scan_method`, or `ssid_len`. -/
def afterPassword (c : WifiConfig) : UInt8 := c ⟨96, by decide⟩

variable {c : WifiConfig} {r : Inputs}

theorem drop_password (c : WifiConfig) :
    (List.ofFn c).drop Sta.password.off =
      c.field Sta.password ++ afterPassword c :: (List.ofFn c).drop 97 := by
  have hlen : 96 < (List.ofFn c).length := by
    rw [List.length_ofFn]
    decide
  have hcons : (List.ofFn c).drop 96 = afterPassword c :: (List.ofFn c).drop 97 := by
    rw [List.drop_eq_getElem_cons hlen, List.getElem_ofFn]
    rfl
  rw [← hcons, WifiConfig.field]
  have hsplit := List.take_append_drop Sta.password.width ((List.ofFn c).drop Sta.password.off)
  rw [List.drop_drop] at hsplit
  exact hsplit.symm

theorem drop_ssid (c : WifiConfig) :
    (List.ofFn c).drop Sta.ssid.off =
      c.field Sta.ssid ++ (List.ofFn c).drop Sta.password.off := by
  have hsplit := List.take_append_drop Sta.ssid.width ((List.ofFn c).drop Sta.ssid.off)
  rw [List.drop_drop] at hsplit
  exact hsplit.symm

theorem cstring_cons_eq_nil (b : UInt8) (bs : List UInt8) (beyond : CString) :
    cstring (b :: bs) beyond = [] ↔ b = 0 := by
  apply Iff.intro
  · intro h
    by_contra hb
    have hout : 0 ∉ [b] := fun h0 => hb (List.mem_singleton.1 h0).symm
    have hc := cstring_append hout bs beyond
    rw [List.singleton_append, h] at hc
    cases hc
  · intro hb
    rw [hb, cstring_zero]

/-- A zero-padded string is read exactly if a zero pads it, or if nothing is read after it. -/
theorem cstring_padded_iff (h : 0 ∉ s) (hs : s.length ≤ w) (rest : List UInt8)
    (beyond : CString) :
    cstring (zeroPad w s ++ rest) beyond = s ↔ s.length < w ∨ cstring rest beyond = [] := by
  rw [zeroPad, List.append_assoc, cstring_append h, List.append_right_eq_self]
  by_cases hlt : s.length < w
  · have hn : w - s.length = (w - s.length - 1) + 1 := by omega
    rw [hn, List.replicate_succ, List.cons_append, cstring_zero]
    exact iff_of_true rfl (.inl hlt)
  · have hn : w - s.length = 0 := by omega
    rw [hn]
    exact (or_iff_right hlt).symm

theorem Stores.password_iff (h : Stores c ssid password) (beyond : CString) :
    c.string Sta.password beyond = password ↔
      password.length < Sta.password.width ∨ afterPassword c = 0 := by
  rw [WifiConfig.string, drop_password, h.passwordField,
    cstring_padded_iff h.passwordFits.1 h.passwordFits.2, cstring_cons_eq_nil]

theorem Stores.ssid_iff (h : Stores c ssid password) (beyond : CString) :
    c.string Sta.ssid beyond = ssid ↔ ssid.length < Sta.ssid.width ∨ password = [] := by
  have hnext : cstring ((List.ofFn c).drop Sta.password.off) beyond = [] ↔ password = [] := by
    rw [drop_password, h.passwordField]
    cases password with
    | nil => exact iff_of_true rfl rfl
    | cons b bs =>
      have hb : b ≠ 0 := fun h0 => h.passwordFits.1 (h0 ▸ List.mem_cons_self)
      exact (cstring_cons_eq_nil b _ beyond).trans (iff_of_false hb (List.cons_ne_nil b bs))
  rw [WifiConfig.string, drop_ssid, h.ssidField, cstring_padded_iff h.ssidFits.1 h.ssidFits.2,
    hnext]

theorem valuesOf_config (r : Inputs) (i : WifiInterface) :
    (KeyedTree.node Kind.object r.report).valuesOf (Section.config i).key =
      [r.value (.config i)] := by
  have hsplit : r.report = [Section.mode, .configStaMode, .configApMode, .country, .staBandwidth,
      .apBandwidth, .powerSave].map r.item ++ [r.item .connectedAp, r.item .ipAddress] := rfl
  have hkey : r.key (.config i) = (Section.config i).key := by
    cases i with
    | sta => rfl
    | ap => rfl
  have hback : (Section.config i).key ∉ keys [r.item .connectedAp, r.item .ipAddress] := by
    change (Section.config i).key ∉ ["connected_ap", if r.wifi.connected then "connected_ap" else
      "ip_address"]
    cases r.wifi.connected <;> cases i <;> decide
  rw [hsplit, valuesOf_node_append, valuesOf_eq_nil hback, List.append_nil, ← hkey]
  apply valuesOf_of_nodup
  · change ["mode", "config_sta_mode", "config_ap_mode", "country", "sta_bandwidth", "ap_bandwidth",
      "power_save"].Nodup
    decide
  · apply List.mem_map_of_mem (f := r.item)
    cases i <;> decide

theorem emits_iff (hc : r.queries.config i = some c) (ssid password : List UInt8) :
    (∃ j, returned (buildJson r) = some j ∧ Emits j i ssid password) ↔
      c.string Sta.ssid (r.leftover.beyond i) = ssid ∧
        c.string Sta.password (r.leftover.beyond i) = password := by
  have hvalue : r.value (.config i) =
      .node .object ((configLeaves i c (r.leftover.beyond i)).map leaf) := by
    rw [value_config, hc]
    rfl
  have hkeys : (keys ((configLeaves i c (r.leftover.beyond i)).map leaf)).Nodup := by
    cases i with
    | sta => exact (distinct_node.1 (distinct_staConfig c _)).1
    | ap => exact (distinct_node.1 (distinct_apConfig c _)).1
  have hssid := valuesOf_of_nodup (l := Kind.object) hkeys
    (List.mem_map_of_mem (List.mem_of_getElem? (configLeaves_ssid i c (r.leftover.beyond i))))
  have hpassword := valuesOf_of_nodup (l := Kind.object) hkeys
    (List.mem_map_of_mem (List.mem_of_getElem? (configLeaves_password i c (r.leftover.beyond i))))
  have hinj (s t : List UInt8) :
      [KeyedTree.node (Kind.string s) []] = [KeyedTree.node (Kind.string t) []] ↔ s = t := by simp
  apply Iff.intro
  · intro h
    obtain ⟨j, hj, o, ho, hs, hp⟩ := h
    rw [buildJson_returned, Option.some.injEq] at hj
    subst hj
    rw [valuesOf_config, hvalue] at ho
    cases ho
    exact ⟨(hinj _ _).1 (hssid.symm.trans hs), (hinj _ _).1 (hpassword.symm.trans hp)⟩
  · intro h
    obtain ⟨hs, hp⟩ := h
    rw [hs] at hssid
    rw [hp] at hpassword
    have ho := valuesOf_config r i
    rw [hvalue] at ho
    exact ⟨_, buildJson_returned r, _, ho, hssid, hpassword⟩

/-- Both strings are reported exactly when each ends before the field does or a zero follows it:
the password's first byte after the SSID, the byte after the field after the password. -/
theorem strings_exact_iff (hc : r.queries.config i = some c) (hs : Stores c ssid password) :
    (∃ j, returned (buildJson r) = some j ∧ Emits j i ssid password) ↔
      (ssid.length < Sta.ssid.width ∨ password = []) ∧
        (password.length < Sta.password.width ∨ afterPassword c = 0) := by
  rw [emits_iff hc, hs.ssid_iff, hs.password_iff]

def fullSsid : WifiConfig :=
  toConfig { Kconfig.defaults with staSsid := List.replicate 32 0x73 }.staConfig

def configured (c : WifiConfig) : Inputs :=
  { unanswered with queries := { unanswered.queries with config := fun _ => some c } }

theorem defaults_exact :
    ∃ j, returned (buildJson (configured (toConfig Kconfig.defaults.staConfig))) = some j ∧
      Emits j .sta Kconfig.defaults.staSsid Kconfig.defaults.staPassword := by
  have hs : Stores (toConfig Kconfig.defaults.staConfig) Kconfig.defaults.staSsid
      Kconfig.defaults.staPassword := ⟨by decide, by decide, by decide, by decide⟩
  exact (strings_exact_iff rfl hs).2 ⟨.inl (by decide), .inl (by decide)⟩

theorem ssid_not_exact :
    Stores fullSsid (List.replicate 32 0x73) Kconfig.defaults.staPassword ∧
      ¬ ∃ j, returned (buildJson (configured fullSsid)) = some j ∧
        Emits j .sta (List.replicate 32 0x73) Kconfig.defaults.staPassword := by
  apply And.intro
  · exact ⟨by decide, by decide, by decide, by decide⟩
  · intro h
    have hssid := ((emits_iff rfl _ _).1 h).1
    revert hssid
    decide

end LDM.WiFi
