import LdmLib.BlufiCredentials

namespace LDM.Ble
set_option autoImplicit true

open Bytes Prog

/-- The access point's SSID as the driver reads it: `ap.ssid_len` bytes of `ap.ssid`. -/
def networkName (c : WifiConfig) : List UInt8 :=
  (c.field Ap.ssid).take (c ⟨Ap.ssidLen.off, by decide⟩).toNat

/-- The access point's configuration that the newest call has handed to the driver. -/
def handed (d : Device) : Option WifiConfig :=
  match d.log with
  | (.wifiSetConfig .ap config, _) :: _ => some config
  | _ => none

theorem networkName_toConfig (m : Mem) :
    networkName (toConfig m) = (m.field Ap.ssid).take (m Ap.ssidLen.off).toNat := by
  rw [networkName, field_toConfig (by decide)]
  rfl

theorem handed_recv (ss : List Store) (err : EspErr) (d : Device) :
    handed (recv .ap ss err d).1 = some (toConfig (d.ble.apConfig.stores ss)) :=
  rfl

theorem ssidLen_toNat (h : len < Ap.ssid.width) : (UInt8.ofNat len).toNat = len := by
  have hsize : Ap.ssid.width ≤ UInt8.size := by decide
  exact UInt8.toNat_ofNat_of_lt (Nat.lt_of_lt_of_le h hsize)

theorem networkName_stores (h : len < Ap.ssid.width) (payload m : Mem) :
    networkName (toConfig (m.stores
      (copyString Ap.ssid payload len ++ assign Ap.ssidLen (UInt8.ofNat len)))) =
      strncpyBytes payload 0 false len := by
  have hlen : (strncpyBytes payload 0 false len ++ [0]).length ≤ Ap.ssid.width := by
    rw [List.length_append, length_strncpyBytes]
    exact h
  have hcov : Ap.ssidLen.Covers (assign Ap.ssidLen (UInt8.ofNat len)) :=
    covers_assign Ap.ssidLen _ (by decide)
  have hapart : Ap.ssid.Apart Ap.ssidLen := by decide
  have hbyte (m : Mem) : m.stores (assign Ap.ssidLen (UInt8.ofNat len)) Ap.ssidLen.off =
      UInt8.ofNat len :=
    stores_writes m Ap.ssidLen.off [UInt8.ofNat len] 0 Nat.one_pos
  rw [networkName_toConfig, stores_append, hbyte, ssidLen_toNat h, hcov.field_frame hapart,
    copyString_eq, field_writes Ap.ssid _ hlen, List.append_assoc]
  exact List.take_left' (length_strncpyBytes payload 0 false len)

theorem handed_softap_ssid (h : len < Ap.ssid.width) (payload : Mem) (env : CallbackEnv)
    (d : Device) :
    (handed (defaultBlufiCallback (.recvSoftapSsid payload len) env d).1).map networkName =
      some (strncpyBytes payload 0 false len) := by
  have hs : (BlufiEvent.recvSoftapSsid payload len).stores =
      some (.ap, copyString Ap.ssid payload len ++ assign Ap.ssidLen (UInt8.ofNat len)) := rfl
  rw [callback_recv hs, handed_recv, Option.map_some, networkName_stores h]

/-- The network is named by the octets received exactly when no octet but zeros follows a zero. -/
theorem softap_name_iff (h : len < Ap.ssid.width) (payload : Mem) (env : CallbackEnv)
    (d : Device) :
    (handed (defaultBlufiCallback (.recvSoftapSsid payload len) env d).1).map networkName =
      some (payload.read len) ↔
      ∀ j k, j < k → k < len → payload j = 0 → payload k = 0 := by
  rw [handed_softap_ssid h, Option.some.injEq, Mem.read, List.range_eq_range',
    strncpyBytes_eq_iff]
  apply Iff.intro
  · intro hz j k hj hk
    exact hz j k (Nat.zero_le j) hj (by omega)
  · intro hz j k _ hj hk
    exact hz j k hj (by omega)

/-- Two SSIDs of one length name the same network when they agree up to their first zeros. -/
theorem softap_same_name_iff (h : len < Ap.ssid.width) (payload payload' : Mem)
    (env : CallbackEnv) (d : Device) :
    (handed (defaultBlufiCallback (.recvSoftapSsid payload len) env d).1).map networkName =
      (handed (defaultBlufiCallback (.recvSoftapSsid payload' len) env d).1).map networkName ↔
      (payload.read len).takeWhile (· ≠ 0) = (payload'.read len).takeWhile (· ≠ 0) := by
  rw [handed_softap_ssid h, handed_softap_ssid h, Option.some.injEq, Mem.read, Mem.read,
    List.range_eq_range']
  apply Iff.intro
  · intro he
    rw [← takeWhile_strncpyBytes, ← takeWhile_strncpyBytes, he]
  · intro he
    rw [strncpyBytes_pad, strncpyBytes_pad, he]

def octets (bs : List UInt8) : Mem := fun i => bs.getD i 0

theorem softap_name_ab :
    (handed (defaultBlufiCallback (.recvSoftapSsid (octets [0x61, 0x62]) 2) callbackOk
      passwordSet).1).map networkName = some ((octets [0x61, 0x62]).read 2) := by
  apply (softap_name_iff (by decide) _ callbackOk passwordSet).2
  intro j k hj hk h0
  have hj0 : j = 0 := by omega
  subst hj0
  exact absurd h0 (by decide)

theorem softap_name_loses_octet :
    ¬ (handed (defaultBlufiCallback (.recvSoftapSsid (octets [0x61, 0, 0x62]) 3) callbackOk
      passwordSet).1).map networkName = some ((octets [0x61, 0, 0x62]).read 3) := by
  decide

end LDM.Ble
