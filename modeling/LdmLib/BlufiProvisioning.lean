import LdmLib.BlufiFrame
import LdmLib.LastWriter

namespace LDM.Ble
set_option autoImplicit true

open Bytes Prog LastWriter

/-- The configuration messages of a peer that keeps to the lengths of strings. -/
inductive ConfigMessage where
  | staBssid (bssid : Mem)
  | staSsid (ssid : Mem) (ssidLen : Fin Sta.ssid.width)
  | staPasswd (passwd : Mem) (passwdLen : Fin Sta.password.width)
  | softapSsid (ssid : Mem) (ssidLen : Fin Ap.ssid.width)
  | softapPasswd (passwd : Mem) (passwdLen : Fin Ap.password.width)
  | softapMaxConnNum (maxConnNum : UInt8)
  | softapAuthMode (authMode : UInt8)
  | softapChannel (channel : UInt8)

inductive MessageKind where
  | staBssid
  | staSsid
  | staPasswd
  | softapSsid
  | softapPasswd
  | softapMaxConnNum
  | softapAuthMode
  | softapChannel
  deriving DecidableEq, Repr

/-- What is kept of a string: its bytes up to the first NUL. -/
def cut (src : Mem) (len : Nat) : List UInt8 := (src.read len).takeWhile (· ≠ 0)

namespace ConfigMessage

def kind : ConfigMessage → MessageKind
  | .staBssid _ => .staBssid
  | .staSsid _ _ => .staSsid
  | .staPasswd _ _ => .staPasswd
  | .softapSsid _ _ => .softapSsid
  | .softapPasswd _ _ => .softapPasswd
  | .softapMaxConnNum _ => .softapMaxConnNum
  | .softapAuthMode _ => .softapAuthMode
  | .softapChannel _ => .softapChannel

def event : ConfigMessage → BlufiEvent
  | .staBssid bssid => .recvStaBssid bssid
  | .staSsid ssid ssidLen => .recvStaSsid ssid ssidLen
  | .staPasswd passwd passwdLen => .recvStaPasswd passwd passwdLen
  | .softapSsid ssid ssidLen => .recvSoftapSsid ssid ssidLen
  | .softapPasswd passwd passwdLen => .recvSoftapPasswd passwd passwdLen
  | .softapMaxConnNum n => .recvSoftapMaxConnNum n
  | .softapAuthMode m => .recvSoftapAuthMode m
  | .softapChannel c => .recvSoftapChannel c

/-- A number that is out of range. -/
def Rejected : ConfigMessage → Prop
  | .softapMaxConnNum n => n > 4
  | .softapAuthMode m => m ≥ wifiAuthMax
  | .softapChannel c => c > 13
  | _ => False

def staSsid? : ConfigMessage → Option (List UInt8)
  | .staSsid ssid ssidLen => some (cut ssid ssidLen)
  | _ => none

def staPassword? : ConfigMessage → Option (List UInt8)
  | .staPasswd passwd passwdLen => some (cut passwd passwdLen)
  | _ => none

def staBssid? : ConfigMessage → Option (List UInt8)
  | .staBssid bssid => some (bssid.read 6)
  | _ => none

def staBssidSet? : ConfigMessage → Option UInt8
  | .staBssid _ => some 1
  | _ => none

def apSsid? : ConfigMessage → Option (List UInt8)
  | .softapSsid ssid ssidLen => some (cut ssid ssidLen)
  | _ => none

def apSsidLen? : ConfigMessage → Option UInt8
  | .softapSsid _ ssidLen => some (UInt8.ofNat ssidLen)
  | _ => none

def apPassword? : ConfigMessage → Option (List UInt8)
  | .softapPasswd passwd passwdLen => some (cut passwd passwdLen)
  | _ => none

def apMaxConnection? : ConfigMessage → Option UInt8
  | .softapMaxConnNum n => if n > 4 then none else some n
  | _ => none

def apAuthmode? : ConfigMessage → Option Nat
  | .softapAuthMode m => if m ≥ wifiAuthMax then none else some m.toNat
  | _ => none

def apChannel? : ConfigMessage → Option UInt8
  | .softapChannel c => if c > 13 then none else some c
  | _ => none

end ConfigMessage

@[ext] structure StaRecord where
  ssid : List UInt8
  password : List UInt8
  bssid : List UInt8
  bssidSet : UInt8
  deriving DecidableEq, Repr

@[ext] structure ApRecord where
  ssid : List UInt8
  ssidLen : UInt8
  password : List UInt8
  maxConnection : UInt8
  authmode : Nat
  channel : UInt8
  deriving DecidableEq, Repr

def littleEndian (bs : List UInt8) : Nat := bs.foldr (fun b n => b.toNat + 256 * n) 0

def staRecord (m : Mem) : StaRecord where
  ssid := m.cstring Sta.ssid
  password := m.cstring Sta.password
  bssid := m.field Sta.bssid
  bssidSet := m Sta.bssidSet.off

def apRecord (m : Mem) : ApRecord where
  ssid := m.cstring Ap.ssid
  ssidLen := m Ap.ssidLen.off
  password := m.cstring Ap.password
  maxConnection := m Ap.maxConnection.off
  authmode := littleEndian (m.field Ap.authmode)
  channel := m Ap.channel.off

def StaRecord.write (r : StaRecord) (m : ConfigMessage) : StaRecord where
  ssid := m.staSsid?.getD r.ssid
  password := m.staPassword?.getD r.password
  bssid := m.staBssid?.getD r.bssid
  bssidSet := m.staBssidSet?.getD r.bssidSet

def ApRecord.write (r : ApRecord) (m : ConfigMessage) : ApRecord where
  ssid := m.apSsid?.getD r.ssid
  ssidLen := m.apSsidLen?.getD r.ssidLen
  password := m.apPassword?.getD r.password
  maxConnection := m.apMaxConnection?.getD r.maxConnection
  authmode := m.apAuthmode?.getD r.authmode
  channel := m.apChannel?.getD r.channel

/-- The record of the last writer of each field, over an empty one. -/
def StaRecord.last (ms : List ConfigMessage) : StaRecord where
  ssid := LastWriter.last ConfigMessage.staSsid? [] ms
  password := LastWriter.last ConfigMessage.staPassword? [] ms
  bssid := LastWriter.last ConfigMessage.staBssid? (List.replicate 6 0) ms
  bssidSet := LastWriter.last ConfigMessage.staBssidSet? 0 ms

def ApRecord.last (ms : List ConfigMessage) : ApRecord where
  ssid := LastWriter.last ConfigMessage.apSsid? [] ms
  ssidLen := LastWriter.last ConfigMessage.apSsidLen? 0 ms
  password := LastWriter.last ConfigMessage.apPassword? [] ms
  maxConnection := LastWriter.last ConfigMessage.apMaxConnection? 0 ms
  authmode := LastWriter.last ConfigMessage.apAuthmode? 0 ms
  channel := LastWriter.last ConfigMessage.apChannel? 0 ms

theorem StaRecord.run_write (ms : List ConfigMessage) :
    Run.run StaRecord.write (StaRecord.last []) ms = StaRecord.last ms := by
  induction ms using List.reverseRecOn with
  | nil => rfl
  | append_singleton ms m ih =>
    rw [Run.run_concat, ih]
    simp [StaRecord.write, StaRecord.last]

theorem ApRecord.run_write (ms : List ConfigMessage) :
    Run.run ApRecord.write (ApRecord.last []) ms = ApRecord.last ms := by
  induction ms using List.reverseRecOn with
  | nil => rfl
  | append_singleton ms m ih =>
    rw [Run.run_concat, ih]
    simp [ApRecord.write, ApRecord.last]

theorem StaRecord.write_comm (h : m.kind ≠ m'.kind) (r : StaRecord) :
    (r.write m).write m' = (r.write m').write m := by
  cases m <;> cases m' <;> first | rfl | exact (h rfl).elim

theorem ApRecord.write_comm (h : m.kind ≠ m'.kind) (r : ApRecord) :
    (r.write m).write m' = (r.write m').write m := by
  cases m <;> cases m' <;> first | rfl | exact (h rfl).elim

structure Record where
  sta : StaRecord
  ap : ApRecord
  deriving DecidableEq, Repr

def Record.write (r : Record) (m : ConfigMessage) : Record := ⟨r.sta.write m, r.ap.write m⟩

def Record.last (ms : List ConfigMessage) : Record := ⟨.last ms, .last ms⟩

theorem Record.run_write (ms : List ConfigMessage) :
    Run.run Record.write (Record.last []) ms = Record.last ms := by
  have hrun (r : Record) : Run.run Record.write r ms =
      ⟨Run.run StaRecord.write r.sta ms, Run.run ApRecord.write r.ap ms⟩ := by
    induction ms generalizing r with
    | nil => rfl
    | cons m ms ih => exact ih (r.write m)
  rw [hrun, Record.last, StaRecord.run_write, ApRecord.run_write, Record.last]

theorem Record.write_comm (h : m.kind ≠ m'.kind) (r : Record) :
    (r.write m).write m' = (r.write m').write m := by
  rw [write, write, StaRecord.write_comm h, ApRecord.write_comm h]
  rfl

/-- Neighbours of different kinds may change places. -/
theorem Record.last_swap (h : m.kind ≠ m'.kind) (pre post : List ConfigMessage) :
    last (pre ++ m' :: m :: post) = last (pre ++ m :: m' :: post) := by
  rw [← run_write (pre ++ m' :: m :: post), ← run_write (pre ++ m :: m' :: post), Run.run_append,
    Run.run_append]
  simp only [Run.run_cons]
  rw [write_comm h]

theorem cut_eq (src : Mem) (len : Nat) :
    (strncpyBytes src 0 false len).takeWhile (· ≠ 0) = cut src len := by
  rw [takeWhile_strncpyBytes, cut, Mem.read, List.range_eq_range']

theorem cstring_copyString {f : Field} (h : len < f.width) (src m : Mem) :
    (m.stores (copyString f src len)).cstring f = cut src len := by
  rw [copyString_eq, cstring_writes f _ (by rwa [length_strncpyBytes]), cut_eq]

theorem cstring_frame {f g : Field} (h : g.Covers ss) (hd : f.Apart g) (m : Mem) :
    (m.stores ss).cstring f = m.cstring f :=
  congrArg _ (h.field_frame hd m)

theorem byte_frame {g : Field} (h : g.Covers ss) (f : Field) (hd : ¬ g.Has f.off) (m : Mem) :
    m.stores ss f.off = m f.off :=
  h.frame hd

theorem assign_self (f : Field) (b : UInt8) (m : Mem) : m.stores (assign f b) f.off = b :=
  Function.update_self _ _ _

theorem stores_unless [Decidable c] {i j : WifiInterface} {ss ts : List Store}
    (h : (if c then none else some (j, ts)) = some (i, ss)) : j = i ∧ ts = ss ∧ ¬ c := by
  by_cases hc : c
  · rw [if_pos hc] at h
    cases h
  · rw [if_neg hc] at h
    cases h
    exact ⟨rfl, rfl, hc⟩

/-- What a message stores to the station's configuration writes its fields in the record. -/
theorem staRecord_stores (h : m.event.stores = some (.sta, ss)) (mem : Mem) :
    staRecord (mem.stores ss) = (staRecord mem).write m := by
  cases m with
  | staBssid bssid =>
    cases h
    have hset := covers_assign Sta.bssidSet 1 (by decide)
    have hbssid := covers_memcpy Sta.bssid bssid (Nat.le_refl 6)
    rw [stores_append]
    apply StaRecord.ext
    · exact (cstring_frame hset (by decide) _).trans (cstring_frame hbssid (by decide) _)
    · exact (cstring_frame hset (by decide) _).trans (cstring_frame hbssid (by decide) _)
    · exact (hset.field_frame (by decide) _).trans
        (field_writes_all Sta.bssid (length_read bssid 6) mem)
    · exact assign_self Sta.bssidSet 1 (mem.stores (memcpy Sta.bssid.off bssid 6))
  | staSsid ssid len =>
    cases h
    have hc := (covers_copyString Sta.ssid ssid len).2 len.2
    apply StaRecord.ext
    · exact cstring_copyString len.2 ssid mem
    · exact cstring_frame hc (by decide) _
    · exact hc.field_frame (by decide) _
    · exact byte_frame hc Sta.bssidSet (by decide) mem
  | staPasswd passwd len =>
    cases h
    have hc := (covers_copyString Sta.password passwd len).2 len.2
    apply StaRecord.ext
    · exact cstring_frame hc (by decide) _
    · exact cstring_copyString len.2 passwd mem
    · exact hc.field_frame (by decide) _
    · exact byte_frame hc Sta.bssidSet (by decide) mem
  | softapSsid ssid len => cases h
  | softapPasswd passwd len => cases h
  | softapMaxConnNum n => exact absurd (stores_unless h).1 (by decide)
  | softapAuthMode n => exact absurd (stores_unless h).1 (by decide)
  | softapChannel n => exact absurd (stores_unless h).1 (by decide)

theorem apRecord_stores (h : m.event.stores = some (.ap, ss)) (mem : Mem) :
    apRecord (mem.stores ss) = (apRecord mem).write m := by
  cases m with
  | staBssid bssid => cases h
  | staSsid ssid len => cases h
  | staPasswd passwd len => cases h
  | softapSsid ssid len =>
    cases h
    have hc := (covers_copyString Ap.ssid ssid len).2 len.2
    have hlen := covers_assign Ap.ssidLen (UInt8.ofNat len) (by decide)
    rw [stores_append]
    apply ApRecord.ext
    · exact (cstring_frame hlen (by decide) _).trans (cstring_copyString len.2 ssid mem)
    · exact assign_self Ap.ssidLen _ (mem.stores (copyString Ap.ssid ssid len))
    · exact (cstring_frame hlen (by decide) _).trans (cstring_frame hc (by decide) mem)
    · exact (byte_frame hlen Ap.maxConnection (by decide) _).trans
        (byte_frame hc Ap.maxConnection (by decide) mem)
    · exact congrArg littleEndian
        ((hlen.field_frame (by decide) _).trans (hc.field_frame (by decide) mem))
    · exact (byte_frame hlen Ap.channel (by decide) _).trans
        (byte_frame hc Ap.channel (by decide) mem)
  | softapPasswd passwd len =>
    cases h
    have hc := (covers_copyString Ap.password passwd len).2 len.2
    apply ApRecord.ext
    · exact cstring_frame hc (by decide) mem
    · exact byte_frame hc Ap.ssidLen (by decide) mem
    · exact cstring_copyString len.2 passwd mem
    · exact byte_frame hc Ap.maxConnection (by decide) mem
    · exact congrArg littleEndian (hc.field_frame (by decide) _)
    · exact byte_frame hc Ap.channel (by decide) mem
  | softapMaxConnNum n =>
    obtain ⟨-, rfl, hn⟩ := stores_unless h
    have hc := covers_assign Ap.maxConnection n (by decide)
    apply ApRecord.ext
    · exact cstring_frame hc (by decide) mem
    · exact byte_frame hc Ap.ssidLen (by decide) mem
    · exact cstring_frame hc (by decide) mem
    · simp only [ApRecord.write, ConfigMessage.apMaxConnection?, if_neg hn, Option.getD_some]
      exact assign_self Ap.maxConnection n mem
    · exact congrArg littleEndian (hc.field_frame (by decide) _)
    · exact byte_frame hc Ap.channel (by decide) mem
  | softapAuthMode n =>
    obtain ⟨-, rfl, hn⟩ := stores_unless h
    have hc : Ap.authmode.Covers (assignAuthmode n) :=
      (Ap.authmode.covers_writes _).2 (Nat.le_refl 4)
    apply ApRecord.ext
    · exact cstring_frame hc (by decide) mem
    · exact byte_frame hc Ap.ssidLen (by decide) mem
    · exact cstring_frame hc (by decide) mem
    · exact byte_frame hc Ap.maxConnection (by decide) mem
    · simp only [ApRecord.write, ConfigMessage.apAuthmode?, if_neg hn, Option.getD_some]
      exact congrArg littleEndian (field_writes_all Ap.authmode rfl mem)
    · exact byte_frame hc Ap.channel (by decide) mem
  | softapChannel n =>
    obtain ⟨-, rfl, hn⟩ := stores_unless h
    have hc := covers_assign Ap.channel n (by decide)
    apply ApRecord.ext
    · exact cstring_frame hc (by decide) mem
    · exact byte_frame hc Ap.ssidLen (by decide) mem
    · exact cstring_frame hc (by decide) mem
    · exact byte_frame hc Ap.maxConnection (by decide) mem
    · exact congrArg littleEndian (hc.field_frame (by decide) _)
    · simp only [ApRecord.write, ConfigMessage.apChannel?, if_neg hn, Option.getD_some]
      exact assign_self Ap.channel n mem

theorem StaRecord.write_other (h : ∀ ss, m.event.stores ≠ some (.sta, ss)) (r : StaRecord) :
    r.write m = r := by
  cases m with
  | staBssid => exact (h _ rfl).elim
  | staSsid => exact (h _ rfl).elim
  | staPasswd => exact (h _ rfl).elim
  | _ => rfl

theorem ApRecord.write_other (h : ∀ ss, m.event.stores ≠ some (.ap, ss)) (r : ApRecord) :
    r.write m = r := by
  cases m with
  | softapSsid => exact (h _ rfl).elim
  | softapPasswd => exact (h _ rfl).elim
  | softapMaxConnNum n =>
    by_cases hn : n > 4
    · have hw : (ConfigMessage.softapMaxConnNum n).apMaxConnection? = none := if_pos hn
      exact ApRecord.ext rfl rfl rfl (congrArg (·.getD r.maxConnection) hw) rfl rfl
    · exact (h _ (if_neg hn)).elim
  | softapAuthMode n =>
    by_cases hn : n ≥ wifiAuthMax
    · have hw : (ConfigMessage.softapAuthMode n).apAuthmode? = none := if_pos hn
      exact ApRecord.ext rfl rfl rfl rfl (congrArg (·.getD r.authmode) hw) rfl
    · exact (h _ (if_neg hn)).elim
  | softapChannel n =>
    by_cases hn : n > 13
    · have hw : (ConfigMessage.softapChannel n).apChannel? = none := if_pos hn
      exact ApRecord.ext rfl rfl rfl rfl rfl (congrArg (·.getD r.channel) hw)
    · exact (h _ (if_neg hn)).elim
  | _ => rfl

def record (b : Ble) : Record := ⟨staRecord (b.config .sta), apRecord (b.config .ap)⟩

theorem callback_record (m : ConfigMessage) (env : CallbackEnv) (d : Device) :
    (defaultBlufiCallback m.event env d).1.ble.record = d.ble.record.write m := by
  cases hs : m.event.stores with
  | none =>
    have hc := (callback_none hs env d).2
    simp only [record, Record.write, hc]
    rw [StaRecord.write_other (by simp [hs]), ApRecord.write_other (by simp [hs])]
  | some js =>
    obtain ⟨j, ss⟩ := js
    rw [callback_recv hs]
    cases j with
    | sta =>
      have hap := recv_config_ne (i := .sta) (j := .ap) (by decide) ss env.setConfig d
      simp only [record, Record.write, recv_config, hap]
      rw [staRecord_stores hs, ApRecord.write_other (by simp [hs])]
    | ap =>
      have hsta := recv_config_ne (i := .ap) (j := .sta) (by decide) ss env.setConfig d
      simp only [record, Record.write, recv_config, hsta]
      rw [apRecord_stores hs, StaRecord.write_other (by simp [hs])]

theorem callback_returns (m : ConfigMessage) (env : CallbackEnv) (d : Device) :
    (defaultBlufiCallback m.event env d).2 = some () := by
  cases m with
  | softapMaxConnNum n =>
    simp only [ConfigMessage.event, defaultBlufiCallback]
    split
    · rfl
    · rfl
  | softapAuthMode n =>
    simp only [ConfigMessage.event, defaultBlufiCallback]
    split
    · rfl
    · rfl
  | softapChannel n =>
    simp only [ConfigMessage.event, defaultBlufiCallback]
    split
    · rfl
    · rfl
  | _ => rfl

theorem boot_running (k : Kconfig) (r : Driver) : (Device.boot k r).Running := rfl

theorem callback_rejected {m : ConfigMessage} (h : m.Rejected) (env : CallbackEnv) (d : Device) :
    defaultBlufiCallback m.event env d = (d, some ()) := by
  cases m with
  | softapMaxConnNum n =>
    have hn : n > 4 := h
    rw [ConfigMessage.event, defaultBlufiCallback, if_pos hn, Prog.pure_apply]
  | softapAuthMode n =>
    have hn : n ≥ wifiAuthMax := h
    rw [ConfigMessage.event, defaultBlufiCallback, if_pos hn, Prog.pure_apply]
  | softapChannel n =>
    have hn : n > 13 := h
    rw [ConfigMessage.event, defaultBlufiCallback, if_pos hn, Prog.pure_apply]
  | _ => exact h.elim

def receive (k : Kconfig) (d : Device) (p : ConfigMessage × CallbackEnv) : Device :=
  d.step k (.blufi p.1.event p.2)

theorem receive_running (ha : d.Running) (k : Kconfig) (p : ConfigMessage × CallbackEnv) :
    receive k d p = (defaultBlufiCallback p.1.event p.2 d).1 := by
  have hr := callback_returns p.1 p.2 d
  rw [receive, Device.step_running (Bool.eq_false_iff.1 ha), Device.Op.run]
  generalize defaultBlufiCallback p.1.event p.2 d = r at hr
  obtain ⟨d', a⟩ := r
  obtain rfl : a = some () := hr
  rfl

theorem callback_aborted (m : ConfigMessage) (env : CallbackEnv) (d : Device) :
    (defaultBlufiCallback m.event env d).1.aborted = d.aborted :=
  Keeps.frame (g := fun d : Device => d.aborted)
    (fun _ => callback_keeps (fun _ _ _ _ h => h) (fun _ _ _ h => h) env) d

theorem receive_aborted (ha : d.Running) (k : Kconfig)
    (p : ConfigMessage × CallbackEnv) : (receive k d p).Running := by
  rw [Device.Running, receive_running ha, callback_aborted, ha]

/-- The static configurations after the program has started and has received these messages. -/
def provision (k : Kconfig) (r : Driver) (ms : List (ConfigMessage × CallbackEnv)) : Device :=
  Run.run (receive k) (Device.boot k r) ms

theorem provision_record (k : Kconfig) (r : Driver) (ms : List (ConfigMessage × CallbackEnv)) :
    (provision k r ms).ble.record = Record.last (ms.map Prod.fst) := by
  rw [← Record.run_write]
  apply Run.run_simulates (fun d => d.ble.record) Prod.fst (boot_running k r)
  · intro d p ha
    exact receive_aborted ha k p
  · intro d p ha
    rw [receive_running ha, callback_record]

/-- The static configurations hold what was last accepted of each kind, a message that is rejected
does nothing at all, and neighbours of different kinds may change places. -/
theorem provisioning_refines (k : Kconfig) (r : Driver) (ms : List (ConfigMessage × CallbackEnv)) :
    (provision k r ms).ble.record = Record.last (ms.map Prod.fst) ∧
      (∀ m env, m.Rejected → receive k (provision k r ms) (m, env) = provision k r ms) ∧
      (∀ pre p q post, ms = pre ++ p :: q :: post → p.1.kind ≠ q.1.kind →
        (provision k r (pre ++ q :: p :: post)).ble.record = (provision k r ms).ble.record) := by
  have ha : (provision k r ms).Running :=
    Run.run_invariant (boot_running k r) (fun _ p ha => receive_aborted ha k p) ms
  refine ⟨provision_record k r ms, fun m env hm => ?_, ?_⟩
  · rw [receive_running ha, callback_rejected hm]
  · rintro pre p q post rfl hk
    rw [provision_record, provision_record, List.map_append, List.map_append]
    exact Record.last_swap hk _ _

end LDM.Ble
