import LdmLib.BlufiCredentials

namespace LDM.Ble
set_option autoImplicit true

open Bytes Prog

variable {d : Device} {e : BlufiEvent} {ss ts : List Store}

/-- The configuration messages whose payload is in range, with the interface and the fields they
are for. -/
inductive Accepted : BlufiEvent → WifiInterface → List Field → Prop where
  | staBssid : Accepted (.recvStaBssid bssid) .sta [Sta.bssid, Sta.bssidSet]
  | staSsid (h : len < Sta.ssid.width) : Accepted (.recvStaSsid ssid len) .sta [Sta.ssid]
  | staPasswd (h : len < Sta.password.width) :
      Accepted (.recvStaPasswd passwd len) .sta [Sta.password]
  | softapSsid (h : len < Ap.ssid.width) :
      Accepted (.recvSoftapSsid ssid len) .ap [Ap.ssid, Ap.ssidLen]
  | softapPasswd (h : len < Ap.password.width) :
      Accepted (.recvSoftapPasswd passwd len) .ap [Ap.password]
  | softapMaxConnNum (h : n ≤ 4) : Accepted (.recvSoftapMaxConnNum n) .ap [Ap.maxConnection]
  | softapAuthMode (h : m < wifiAuthMax) : Accepted (.recvSoftapAuthMode m) .ap [Ap.authmode]
  | softapChannel (h : c ≤ 13) : Accepted (.recvSoftapChannel c) .ap [Ap.channel]

def Carried (fs : List Field) (a : Nat) : Prop := ∃ f ∈ fs, f.Has a

instance (fs : List Field) (a : Nat) : Decidable (Carried fs a) :=
  inferInstanceAs (Decidable (∃ f ∈ fs, f.Has a))

theorem covers_memcpy (f : Field) (src : Mem) (h : n ≤ f.width) :
    f.Covers (memcpy f.off src n) := by
  apply (f.covers_writes _).2
  rw [length_read]
  exact h

theorem carried_of_covers (h : f.Covers ss) (hf : f ∈ fs) : ∀ s ∈ ss, Carried fs s.addr :=
  fun s hs => ⟨f, hf, h s hs⟩

theorem carried_append (h1 : ∀ s ∈ ss, Carried fs s.addr) (h2 : ∀ s ∈ ts, Carried fs s.addr) :
    ∀ s ∈ ss ++ ts, Carried fs s.addr := by
  intro s hs
  exact (List.mem_append.1 hs).elim (h1 s) (h2 s)

theorem Accepted.stores (h : Accepted e i fs) :
    ∃ ss, e.stores = some (i, ss) ∧ ∀ s ∈ ss, Carried fs s.addr := by
  cases h with
  | staBssid =>
    refine ⟨_, rfl, carried_append ?_ ?_⟩
    · exact carried_of_covers (covers_memcpy Sta.bssid _ (by decide)) (by simp)
    · exact carried_of_covers (covers_assign Sta.bssidSet 1 (by decide)) (by simp)
  | staSsid h =>
    exact ⟨_, rfl, carried_of_covers ((covers_copyString _ _ _).2 h) (by simp)⟩
  | staPasswd h =>
    exact ⟨_, rfl, carried_of_covers ((covers_copyString _ _ _).2 h) (by simp)⟩
  | softapSsid h =>
    refine ⟨_, rfl, carried_append ?_ ?_⟩
    · exact carried_of_covers ((covers_copyString _ _ _).2 h) (by simp)
    · exact carried_of_covers (covers_assign Ap.ssidLen _ (by decide)) (by simp)
  | softapPasswd h =>
    exact ⟨_, rfl, carried_of_covers ((covers_copyString _ _ _).2 h) (by simp)⟩
  | softapMaxConnNum h =>
    refine ⟨_, if_neg (UInt8.not_lt.2 h), ?_⟩
    exact carried_of_covers (covers_assign Ap.maxConnection _ (by decide)) (by simp)
  | softapAuthMode h =>
    refine ⟨_, if_neg (UInt8.not_le.2 h), ?_⟩
    exact carried_of_covers ((Ap.authmode.covers_writes _).2 (Nat.le_refl 4)) (by simp)
  | softapChannel h =>
    refine ⟨_, if_neg (UInt8.not_lt.2 h), ?_⟩
    exact carried_of_covers (covers_assign Ap.channel _ (by decide)) (by simp)

def ActiveFrame (e : BlufiEvent) (i : WifiInterface) (fs : List Field) (env : CallbackEnv)
    (d : Device) : Prop :=
  ∀ a : Fin sizeofWifiConfig, ¬ Carried fs a →
    (defaultBlufiCallback e env d).1.driver.config i a = d.driver.config i a

/-- What an accepted message does: it changes its fields in the record that the class keeps for the
interface, and the driver takes over that record. -/
structure Recorded (e : BlufiEvent) (i : WifiInterface) (fs : List Field) (env : CallbackEnv)
    (d : Device) : Prop where
  record : ∀ j a, ¬ (j = i ∧ Carried fs a) →
    (defaultBlufiCallback e env d).1.ble.config j a = d.ble.config j a
  active : (defaultBlufiCallback e env d).1.driver.config i =
    toConfig ((defaultBlufiCallback e env d).1.ble.config i)
  others : ∀ j, j ≠ i →
    (defaultBlufiCallback e env d).1.driver.config j = d.driver.config j

/-- So the driver keeps its other fields exactly where they agreed with the record. -/
theorem Recorded.frame (h : Recorded e i fs env d) : ActiveFrame e i fs env d ↔
    ∀ a : Fin sizeofWifiConfig, ¬ Carried fs a → d.ble.config i a = d.driver.config i a := by
  apply forall₂_congr
  intro a ha
  rw [h.active, toConfig, h.record i a fun hn => ha hn.2]

theorem recv_active (i : WifiInterface) (ss : List Store) (d : Device) :
    (recv i ss .ok d).1.driver.config i = toConfig ((recv i ss .ok d).1.ble.config i) := by
  rw [recv_fst, Device.record_driver, Device.effect, if_pos rfl, Driver.config_setConfig]
  rfl

theorem recv_driver_ne (h : i ≠ j) (ss : List Store) (err : EspErr) (d : Device) :
    (recv i ss err d).1.driver.config j = d.driver.config j := by
  rw [recv_fst, Device.record_driver, Device.effect]
  split
  · exact Driver.config_setConfig_ne _ _ h
  · rfl

theorem Accepted.recorded (h : Accepted e i fs) (env : CallbackEnv) (hok : env.setConfig = .ok)
    (d : Device) : Recorded e i fs env d := by
  obtain ⟨ss, hs, hc⟩ := h.stores
  constructor
  case record =>
    intro j a ha
    rw [callback_recv hs]
    by_cases hj : j = i
    · subst hj
      rw [recv_config]
      exact stores_frame fun s hm he => ha ⟨rfl, he ▸ hc s hm⟩
    · rw [recv_config_ne (Ne.symm hj)]
  case active =>
    rw [callback_recv hs, hok]
    exact recv_active i ss d
  case others =>
    intro j hj
    rw [callback_recv hs]
    exact recv_driver_ne (Ne.symm hj) ss _ d

/-- Whether a BluFi message was the last to set the driver's configuration of an interface, where
`g` tells it of the time before the operation. -/
def provisionedAfter (i : WifiInterface) (g : Bool) : Device.Op → Bool
  | .init setup _ => g && !setup.covers i
  | .setConfig j _ err => g && decide (i = j → err ≠ .ok)
  | .initBlufi profile _ => g && decide (i = .sta → profile ≠ .ok)
  | .initBlufiWith _ profile _ _ => g && decide (i = .sta → profile ≠ .ok)
  | .blufi e env =>
    match e.stores with
    | some (j, _) => if i = j then decide (env.setConfig = .ok) else g
    | none => g
  | _ => g

def provisioned (g : WifiInterface → Bool) (d : Device) (op : Device.Op) : WifiInterface → Bool :=
  fun i => if d.aborted then g i else provisionedAfter i (g i) op

def Agrees (i : WifiInterface) (d : Device) : Prop := d.driver.config i = toConfig (d.ble.config i)

theorem Agrees.of_eq (h : Agrees i d) (hr : d'.driver.config i = d.driver.config i)
    (hb : d'.ble.config i = d.ble.config i) : Agrees i d' := by
  rw [Agrees, hr, hb]
  exact h

/-- Only a call that configures the interface, and succeeds, makes a difference. -/
theorem Agrees.call (h : Agrees i d)
    (hc : ∀ j config, c = .wifiSetConfig j config → i = j → err ≠ .ok) :
    Agrees i (d.record c err) := by
  refine h.of_eq ?_ rfl
  cases c with
  | wifiSetConfig j config =>
    rw [Device.record_driver, Device.effect]
    split
    · rename_i he
      exact Driver.config_setConfig_ne _ _ fun hj => hc j config rfl hj.symm he
    · rfl
  | _ => rfl

theorem Agrees.init (hs : setup.covers i = false) (k : Kconfig) (env : WiFi.InitEnv) :
    Keeps (Agrees i) (WiFi.init k setup env) := by
  apply WiFi.init_keeps
  · intro c err d hc h
    apply h.call
    intro j config he hj
    subst he hj
    have hcov : setup.covers i = true := hc
    simp [hs] at hcov
  · intro d n h
    exact h
  · intro d n h
    exact h
  · intro d n h
    exact h

theorem Agrees.deinit (i : WifiInterface) (env : WiFi.DeinitEnv) :
    Keeps (Agrees i) (WiFi.deinit env) := by
  apply WiFi.deinit_keeps
  · intro c err d hc h
    apply h.call
    intro j config he
    subst he
    exact hc.elim
  · intro d h
    exact h
  · intro d h
    exact h

theorem Agrees.wifiEvent (h : Agrees i d) (e : WiFi.WifiEvent) (err : EspErr) :
    Agrees i (WiFi.wifiEventHandler e err d).1 := by
  cases e with
  | _ => exact h

theorem Agrees.blufi_stores (h : i ≠ j → Agrees i d) (hs : e.stores = some (j, ss))
    (hok : i = j → env.setConfig = .ok) : Agrees i (defaultBlufiCallback e env d).1 := by
  rw [callback_recv hs]
  by_cases hi : i = j
  · subst hi
    rw [hok rfl]
    exact recv_active i ss d
  · exact (h hi).of_eq (recv_driver_ne (Ne.symm hi) ss _ d) (recv_config_ne (Ne.symm hi) ss _ d)

theorem Agrees.blufi_none (h : Agrees i d) (hs : e.stores = none) (env : CallbackEnv) :
    Agrees i (defaultBlufiCallback e env d).1 := by
  obtain ⟨hr, hb⟩ := callback_none hs env d
  exact h.of_eq (by rw [hr]) (by rw [hb])

theorem Agrees.settle {r : Device × Option α} (h : Agrees i r.1) : Agrees i (Device.settle r) :=
  Device.settle_keeps (fun _ h => h) h

theorem Agrees.initBlufi (h : Agrees i d) (k : Kconfig) (env : WiFi.InitEnv)
    (hi : i = .sta → profile ≠ .ok) : Agrees i (initBlufi k profile env d).1 := by
  have hp : Agrees i (d.record .blufiProfileInit profile) := h
  rw [Ble.initBlufi, call_bind]
  by_cases he : profile = .ok
  · rw [if_neg (not_not.2 he)]
    cases i with
    | sta => exact (hi rfl he).elim
    | ap => exact Agrees.init rfl k env _ hp
  · rw [if_pos he]
    exact hp

theorem Agrees.initBlufiWith (h : Agrees i d) (k : Kconfig) (config : WifiConfig)
    (env : WiFi.InitEnv) (setConfigErr : EspErr) (hi : i = .sta → profile ≠ .ok) :
    Agrees i (initBlufiWith k config profile env setConfigErr d).1 := by
  have hp : Agrees i (d.record .blufiProfileInit profile) := h
  rw [Ble.initBlufiWith, call_bind]
  by_cases he : profile = .ok
  · rw [if_neg (not_not.2 he)]
    cases i with
    | sta => exact (hi rfl he).elim
    | ap =>
      refine Keeps.bind (Agrees.init rfl k env) (fun _ => ?_) _ hp
      refine .bind (keeps_call fun d hd => hd.call ?_) fun _ => .pure _
      intro j config he hj
      cases he
      cases hj
  · rw [if_pos he]
    exact hp

theorem Agrees.run (h : g = true → Agrees i d) (hg : provisionedAfter i g op = true)
    (k : Kconfig) : Agrees i (op.run k d) := by
  cases op with
  | init setup env =>
    simp only [provisionedAfter, Bool.and_eq_true, Bool.not_eq_true'] at hg
    exact (Agrees.init hg.2 k env d (h hg.1)).settle
  | deinit env => exact (Agrees.deinit i env d (h hg)).settle
  | connect err =>
    apply Agrees.settle
    rw [WiFi.connect_apply]
    exact (h hg).of_eq rfl rfl
  | disconnect err => exact (h hg).of_eq rfl rfl
  | setConfig j config err =>
    simp only [provisionedAfter, Bool.and_eq_true, decide_eq_true_eq] at hg
    apply Agrees.settle
    apply (h hg.1).call
    intro j' config' he
    cases he
    exact hg.2
  | setWifiMode mode err => exact (h hg).of_eq rfl rfl
  | initBlufi profile env =>
    simp only [provisionedAfter, Bool.and_eq_true, decide_eq_true_eq] at hg
    exact ((h hg.1).initBlufi k env hg.2).settle
  | initBlufiWith config profile env setConfigErr =>
    simp only [provisionedAfter, Bool.and_eq_true, decide_eq_true_eq] at hg
    exact ((h hg.1).initBlufiWith k config env setConfigErr hg.2).settle
  | deinitBlufi profile env =>
    exact (deinitBlufi_keeps (fun _ _ h => h) (Agrees.deinit i) profile env d (h hg)).settle
  | setupDefaultBleGapCallback env => exact (h hg).of_eq rfl (by cases i <;> rfl)
  | wifiEvent e err => exact ((h hg).wifiEvent e err).settle
  | ipEvent e =>
    cases e with
    | _ => exact (h hg).of_eq rfl rfl
  | blufi e env =>
    apply Agrees.settle
    simp only [provisionedAfter] at hg
    cases hs : e.stores with
    | none =>
      rw [hs] at hg
      exact (h hg).blufi_none hs env
    | some js =>
      obtain ⟨j, ss⟩ := js
      simp only [hs] at hg
      apply Agrees.blufi_stores (fun hi => h (by rwa [if_neg hi] at hg)) hs
      intro hi
      simpa [hi] using hg

def ProvisionedInv (p : Device × (WifiInterface → Bool)) : Prop :=
  ∀ i, p.2 i = true → Agrees i p.1

theorem ProvisionedInv.step (h : ProvisionedInv p) (k : Kconfig) (op : Device.Op) :
    ProvisionedInv (Run.watch (Device.step k) provisioned p op) := by
  obtain ⟨d, g⟩ := p
  intro i hi
  simp only [Run.watch, provisioned, Device.step] at hi ⊢
  by_cases ha : d.aborted = true
  · rw [if_pos ha] at hi ⊢
    exact h i hi
  · rw [if_neg ha] at hi ⊢
    exact Agrees.run (h i) hi k

def history (k : Kconfig) (r : Driver) (ops : List Device.Op) :
    Device × (WifiInterface → Bool) :=
  Run.run (Run.watch (Device.step k) provisioned) (Device.boot k r, fun _ => false) ops

theorem history_provisioned (k : Kconfig) (r : Driver) (ops : List Device.Op) :
    ProvisionedInv (history k r ops) := by
  apply Run.run_invariant
  · intro i hi
    cases hi
  · intro p op h
    exact h.step k op

/-- After any history an accepted message changes only its fields in the record of the interface,
the driver takes the record over, and so the driver's other fields are kept exactly where they
agreed with the record. They do if a message was the last to set the driver's configuration. -/
theorem message_recorded (k : Kconfig) (r : Driver) (ops : List Device.Op)
    (h : Accepted e i fs) (env : CallbackEnv) (hok : env.setConfig = .ok) :
    let p := history k r ops
    Recorded e i fs env p.1 ∧
      (ActiveFrame e i fs env p.1 ↔ ∀ a : Fin sizeofWifiConfig, ¬ Carried fs a →
        p.1.ble.config i a = p.1.driver.config i a) ∧
      (p.2 i = true → ActiveFrame e i fs env p.1) := by
  intro p
  have hr := h.recorded env hok p.1
  refine ⟨hr, hr.frame, fun hg => hr.frame.2 fun a _ => ?_⟩
  have ha : Agrees i p.1 := history_provisioned k r ops i hg
  exact (congrFun ha a).symm

theorem message_recorded_channel :
    let p := history Kconfig.defaults ⟨fun _ => 0, fun _ => 1⟩
      [.init .apsta WiFi.initOk, .blufi (.recvSoftapSsid (fun _ => 0x73) 4) callbackOk]
    Recorded (.recvSoftapChannel 6) .ap [Ap.channel] callbackOk p.1 ∧
      ActiveFrame (.recvSoftapChannel 6) .ap [Ap.channel] callbackOk p.1 := by
  obtain ⟨hr, -, hg⟩ := message_recorded Kconfig.defaults ⟨fun _ => 0, fun _ => 1⟩
    [.init .apsta WiFi.initOk, .blufi (.recvSoftapSsid (fun _ => 0x73) 4) callbackOk]
    (.softapChannel (show (6 : UInt8) ≤ 13 by decide)) callbackOk rfl
  exact ⟨hr, hg (by decide)⟩

/-- An SSID that is received after `init` takes away the password that `init` had set. -/
theorem message_wipes_password :
    ¬ ActiveFrame (.recvStaSsid (fun _ => 0x73) 1) .sta [Sta.ssid] callbackOk
      (history Kconfig.defaults ⟨fun _ => 0, fun _ => 0⟩ [.init .sta WiFi.initOk]).1 := by
  intro h
  have hb := h ⟨32, by decide⟩ (by decide)
  revert hb
  decide

end LDM.Ble
