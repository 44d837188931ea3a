import LdmLib.BlufiFrame

namespace LDM
set_option autoImplicit true

open Bytes Prog

/-- What the driver is configured with, and what BluFi has been sent of it. -/
@[ext] structure Configs where
  active : WifiInterface → WifiConfig
  provisioned : WifiInterface → Mem

/-- A configuration is set as a whole, or a part of it is sent over BluFi; then all that was ever
sent is set, if the driver accepts it. -/
inductive ConfigWrite where
  | set (i : WifiInterface) (config : WifiConfig)
  | provision (i : WifiInterface) (ss : List Store) (accepted : Bool)

namespace ConfigWrite

/-- What is sent over BluFi for an interface. -/
def sent (i : WifiInterface) : ConfigWrite → List Store
  | .set _ _ => []
  | .provision j ss _ => if j = i then ss else []

/-- The driver's configuration of the interface is set. -/
def Sets (i : WifiInterface) : ConfigWrite → Prop
  | .set j _ => j = i
  | .provision j _ accepted => j = i ∧ accepted = true

instance (i : WifiInterface) : DecidablePred (Sets i)
  | .set j _ => inferInstanceAs (Decidable (j = i))
  | .provision j _ accepted => inferInstanceAs (Decidable (j = i ∧ accepted = true))

end ConfigWrite

namespace Configs

def write (c : Configs) : ConfigWrite → Configs
  | .set i config => { c with active := Function.update c.active i config }
  | .provision i ss accepted =>
    let m := (c.provisioned i).stores ss
    { active := if accepted then Function.update c.active i (toConfig m) else c.active
      provisioned := Function.update c.provisioned i m }

def writes (c : Configs) (ws : List ConfigWrite) : Configs := Run.run write c ws

theorem writes_append (c : Configs) (ws vs : List ConfigWrite) :
    c.writes (ws ++ vs) = (c.writes ws).writes vs :=
  Run.run_append write c ws vs

theorem provisioned_write (c : Configs) (w : ConfigWrite) (i : WifiInterface) :
    (c.write w).provisioned i = (c.provisioned i).stores (w.sent i) := by
  cases w with
  | set j config => rfl
  | provision j ss accepted =>
    by_cases hj : j = i
    · subst hj
      simp [write, ConfigWrite.sent]
    · simp [write, ConfigWrite.sent, hj, Function.update_of_ne (Ne.symm hj)]

theorem provisioned_writes (c : Configs) (ws : List ConfigWrite) (i : WifiInterface) :
    (c.writes ws).provisioned i = (c.provisioned i).stores (ws.flatMap (ConfigWrite.sent i)) := by
  induction ws generalizing c with
  | nil => rfl
  | cons w ws ih =>
    rw [List.flatMap_cons, stores_append, ← provisioned_write]
    exact ih (c.write w)

theorem active_write (c : Configs) (h : ¬ w.Sets i) : (c.write w).active i = c.active i := by
  cases w with
  | set j config => exact Function.update_of_ne (Ne.symm h) _ _
  | provision j ss accepted =>
    cases accepted with
    | false => rfl
    | true => exact Function.update_of_ne (fun hj => h ⟨hj.symm, rfl⟩) _ _

theorem active_writes (c : Configs) (h : ∀ w ∈ ws, ¬ w.Sets i) :
    (c.writes ws).active i = c.active i := by
  induction ws generalizing c with
  | nil => rfl
  | cons w ws ih =>
    obtain ⟨hw, hws⟩ := List.forall_mem_cons.1 h
    exact (ih (c.write w) hws).trans (c.active_write hw)

end Configs

def Kconfig.config (k : Kconfig) : WifiInterface → WifiConfig
  | .sta => toConfig k.staConfig
  | .ap => toConfig k.apConfig

/-- The configurations that `init` sets. -/
def Kconfig.defaultWrites (k : Kconfig) : WifiSetup → List ConfigWrite
  | .sta => [.set .sta (k.config .sta)]
  | .ap => [.set .ap (k.config .ap)]
  | .apsta => [.set .sta (k.config .sta), .set .ap (k.config .ap)]

/-- Only the calls that set a configuration touch the driver's. -/
def Call.Plain : Call → Prop
  | .wifiSetConfig _ _ => False
  | _ => True

namespace Device

def configs (d : Device) : Configs := ⟨d.driver.config, d.ble.config⟩

/-- What an operation that does not abort does to the configurations. -/
def Op.configWrites (k : Kconfig) : Op → List ConfigWrite
  | .init setup _ => k.defaultWrites setup
  | .setConfig i config err => if err = .ok then [.set i config] else []
  | .initBlufi profile _ => if profile = .ok then k.defaultWrites .sta else []
  | .initBlufiWith config profile _ setConfigErr =>
    if profile = .ok then
      k.defaultWrites .sta ++ if setConfigErr = .ok then [.set .sta config] else []
    else []
  | .blufi e env =>
    match e.stores with
    | some (i, ss) => [.provision i ss (env.setConfig = .ok)]
    | none => []
  | _ => []

/-- The stores that the messages of a peer make for an interface. -/
def Op.sent (i : WifiInterface) : Op → List Store
  | .blufi e _ =>
    match e.stores with
    | some (j, ss) => if j = i then ss else []
    | none => []
  | _ => []

/-- The configurations of a device whose class still holds those it was built with. -/
structure At (k : Kconfig) (c : Configs) (d : Device) : Prop where
  sta : d.wifi.staConfig = k.staConfig
  ap : d.wifi.apConfig = k.apConfig
  configs : d.configs = c

variable {k : Kconfig} {c : Configs} {d d' : Device}

theorem config_setConfig_update (r : Driver) (config : WifiConfig) (i : WifiInterface) :
    (r.setConfig config i).config = Function.update r.config i config := by
  funext j
  by_cases hj : j = i
  · subst hj
    rw [Driver.config_setConfig, Function.update_self]
  · rw [Driver.config_setConfig_ne _ _ (Ne.symm hj), Function.update_of_ne hj]

theorem ble_config_setConfig (b : Ble) (m : Mem) (i : WifiInterface) :
    (b.setConfig m i).config = Function.update b.config i m := by
  funext j
  by_cases hj : j = i
  · subst hj
    rw [Ble.config_setConfig, Function.update_self]
  · rw [Ble.config_setConfig_ne _ _ (Ne.symm hj), Function.update_of_ne hj]

theorem configs_set (i : WifiInterface) (config : WifiConfig) (d : Device) :
    (d.record (.wifiSetConfig i config) .ok).configs = d.configs.write (.set i config) := by
  apply Configs.ext
  · exact config_setConfig_update d.driver config i
  · rfl

theorem configs_unset (he : err ≠ .ok) (i : WifiInterface) (config : WifiConfig) (d : Device) :
    (d.record (.wifiSetConfig i config) err).configs = d.configs := by
  apply Configs.ext
  · change (effect (.wifiSetConfig i config) err d.driver).config = _
    rw [effect, if_neg he]
    rfl
  · rfl

theorem configs_plain {call : Call} (h : call.Plain) (d : Device) (err : EspErr) :
    (d.record call err).configs = d.configs := by
  cases call with
  | wifiSetConfig => exact h.elim
  | _ => rfl

theorem At.plain (h : At k c d) (call : Call) (err : EspErr) (hc : call.Plain) :
    At k c (d.record call err) :=
  ⟨h.sta, h.ap, (configs_plain hc d err).trans h.configs⟩

theorem At.congr (h : At k c d) (hs : d'.wifi.staConfig = d.wifi.staConfig)
    (ha : d'.wifi.apConfig = d.wifi.apConfig) (hr : d'.driver = d.driver)
    (hb : d'.ble.config = d.ble.config) : At k c d' := by
  have hc : d'.configs = d.configs := Configs.ext (congrArg Driver.config hr) hb
  exact ⟨hs.trans h.sta, ha.trans h.ap, hc.trans h.configs⟩

theorem At.set (h : At k c d) (i : WifiInterface) (config : WifiConfig) :
    At k (c.write (.set i config)) (d.record (.wifiSetConfig i config) .ok) := by
  refine ⟨h.sta, h.ap, ?_⟩
  rw [configs_set, h.configs]

theorem At.unset (h : At k c d) (he : err ≠ .ok) (i : WifiInterface) (config : WifiConfig) :
    At k c (d.record (.wifiSetConfig i config) err) :=
  ⟨h.sta, h.ap, (configs_unset he i config d).trans h.configs⟩

/-- A program that makes these changes where it gets to its end. -/
def Writes (k : Kconfig) (ws : List ConfigWrite) (p : Prog Device α) : Prop :=
  ∀ c, Leads (At k c) p fun _ => At k (c.writes ws)

theorem writes_bind {p : Prog Device α} {f : α → Prog Device β} (hp : Writes k ws p)
    (hf : ∀ a, Writes k vs (f a)) : Writes k (ws ++ vs) (p >>= f) := by
  intro c
  refine (hp c).bind fun a => ?_
  rw [Configs.writes_append]
  exact hf a (c.writes ws)

theorem writes_then {p : Prog Device α} {f : α → Prog Device β} (hp : Writes k [] p)
    (hf : ∀ a, Writes k ws (f a)) : Writes k ws (p >>= f) :=
  writes_bind hp hf

theorem writes_last {p : Prog Device α} {f : α → Prog Device β} (hp : Writes k ws p)
    (hf : ∀ a, Writes k [] (f a)) : Writes k ws (p >>= f) :=
  List.append_nil ws ▸ writes_bind hp hf

theorem writes_pure (a : α) : Writes k [] (pure a : Prog Device α) :=
  fun _ => .pure fun _ h => h

theorem writes_of_keeps {p : Prog Device α} (h : ∀ c, Keeps (At k c) p) : Writes k [] p :=
  fun c => .of_keeps (h c)

theorem writes_call (call : Call) (err : EspErr) (hc : call.Plain) :
    Writes k [] (LDM.call call err) :=
  writes_of_keeps fun _ => keeps_call fun _ h => h.plain call err hc

theorem writes_check (call : Call) (err : EspErr) (hc : call.Plain) :
    Writes k [] (errorCheck call err) :=
  writes_of_keeps fun _ => keeps_errorCheck fun _ h => h.plain call err hc

theorem writes_set (i : WifiInterface) (config : WifiConfig) (err : EspErr) :
    Writes k (if err = .ok then [.set i config] else [])
      (call (.wifiSetConfig i config) err) := by
  intro c d h a ha
  by_cases he : err = .ok
  · subst he
    rw [if_pos rfl]
    exact h.set i config
  · rw [if_neg he]
    exact h.unset he i config

theorem writes_setCheck (i : WifiInterface) (config : WifiConfig) (err : EspErr) :
    Writes k [.set i config] (errorCheck (.wifiSetConfig i config) err) := by
  intro c d h a ha
  by_cases he : err = .ok
  · subst he
    exact h.set i config
  · rw [errorCheck, call_bind, if_neg he] at ha
    cases ha

end Device

namespace WiFi

open Device

theorem initMode_writes (setup : WifiSetup) (env : InitEnv) :
    Writes k (k.defaultWrites setup) (initMode setup env) := by
  intro c
  refine .get fun d h => ?_
  rw [h.sta, h.ap]
  have hmode (mode : WifiMode) : Writes k [] (errorCheck (.wifiSetMode mode) env.setMode) :=
    writes_check _ _ trivial
  have hset (i : WifiInterface) (err : EspErr) :
      Writes k [.set i (k.config i)] (errorCheck (.wifiSetConfig i (k.config i)) err) :=
    writes_setCheck i (k.config i) err
  cases setup with
  | sta => exact writes_then (hmode _) (fun _ => hset .sta _) c
  | ap => exact writes_then (hmode _) (fun _ => hset .ap _) c
  | apsta =>
    have hboth := writes_bind (hset .sta env.setStaConfig) fun _ => hset .ap env.setApConfig
    exact writes_then (hmode _) (fun _ => hboth) c

theorem initDriver_writes (setup : WifiSetup) (env : InitEnv) :
    Writes k (k.defaultWrites setup) (initDriver setup env) := by
  refine writes_then (writes_check _ _ trivial) fun _ => ?_
  refine writes_then (writes_check _ _ trivial) fun _ => ?_
  refine writes_then (writes_check _ _ trivial) fun _ => ?_
  refine writes_last (initMode_writes setup env) fun _ => ?_
  refine writes_then (writes_check _ _ trivial) fun _ => fun c => .get fun d _ => ?_
  have hps : Writes k [] (call (.wifiSetPs d.wifi.powerSaveMode) env.setPs) :=
    writes_call _ _ trivial
  exact writes_then hps (fun _ => writes_pure ()) c

theorem netifCreate_writes (i : WifiInterface) (created : Bool) :
    Writes k [] (netifCreate i created) := by
  refine writes_of_keeps fun c => ?_
  refine netifCreate_keeps (fun _ err d h => h.plain _ err trivial) (fun d n h => ?_) created
  exact h.congr rfl rfl rfl rfl

theorem writes_setWifi (f : WiFi → WiFi) (hs : ∀ w, (f w).staConfig = w.staConfig)
    (ha : ∀ w, (f w).apConfig = w.apConfig) :
    Writes k [] (modify fun d => { d with wifi := f d.wifi }) :=
  fun _ => .modify fun d h => h.congr (hs d.wifi) (ha d.wifi) rfl rfl

theorem initSta_writes (k : Kconfig) (env : InitEnv) : Writes k [] (initSta k env) := by
  refine writes_then (netifCreate_writes _ _) fun n => ?_
  refine writes_then (writes_setWifi (fun w => { w with netifSta := n }) (fun _ => rfl)
    fun _ => rfl) fun _ => ?_
  cases n with
  | none => exact fun _ => .abort
  | some n => exact writes_call _ _ trivial

theorem initAp_writes (k : Kconfig) (env : InitEnv) : Writes k [] (initAp k env) := by
  refine writes_then (netifCreate_writes _ _) fun n => ?_
  refine writes_then (writes_setWifi (fun w => { w with netifAp := n }) (fun _ => rfl)
    fun _ => rfl) fun _ => ?_
  cases n with
  | none => exact fun _ => .abort
  | some n =>
    refine writes_then (writes_check _ _ trivial) fun _ => ?_
    exact writes_then (writes_check _ _ trivial) fun _ => writes_check _ _ trivial

theorem writes_onlyIf [Decidable b] {p : Prog Device α} (hp : Writes k [] p) :
    Writes k [] (onlyIf b a p) :=
  fun c => .ite (fun _ => hp c) fun _ => writes_pure a c

theorem init_writes (k : Kconfig) (setup : WifiSetup) (env : InitEnv) :
    Writes k (k.defaultWrites setup) (init k setup env) := by
  refine writes_then (writes_check _ _ trivial) fun _ => ?_
  refine writes_then (writes_check _ _ trivial) fun _ => ?_
  refine writes_then (writes_onlyIf (initSta_writes k env)) fun _ => ?_
  refine writes_then (writes_onlyIf (initAp_writes k env)) fun _ => ?_
  exact writes_last (initDriver_writes setup env) fun _ => writes_pure _

theorem deinit_writes (env : DeinitEnv) : Writes k [] (deinit env) := by
  refine writes_of_keeps fun c => ?_
  refine deinit_keeps (fun call err d hc h => ?_) (fun d h => h.congr rfl rfl rfl rfl)
    (fun d h => h.congr rfl rfl rfl rfl) env
  have hp : call.Plain := by cases call <;> trivial
  exact h.plain call err hp

end WiFi

namespace Ble

open Device

theorem initBlufi_writes (k : Kconfig) (profile : EspErr) (env : WiFi.InitEnv) :
    Writes k (if profile = .ok then k.defaultWrites .sta else []) (initBlufi k profile env) := by
  intro c d h a ha
  have hr : At k c (d.record .blufiProfileInit profile) := h.plain _ _ trivial
  by_cases hp : profile = .ok
  · subst hp
    exact WiFi.init_writes k .sta env c _ hr a ha
  · rw [initBlufi, call_bind, if_pos hp, if_neg hp]
    exact hr

theorem initBlufiWith_writes (k : Kconfig) (config : WifiConfig) (profile : EspErr)
    (env : WiFi.InitEnv) (setConfigErr : EspErr) :
    Writes k (Op.configWrites k (.initBlufiWith config profile env setConfigErr))
      (initBlufiWith k config profile env setConfigErr) := by
  intro c d h a ha
  have hr : At k c (d.record .blufiProfileInit profile) := h.plain _ _ trivial
  by_cases hp : profile = .ok
  · subst hp
    have hset := writes_bind (WiFi.init_writes k .sta env) fun err =>
      writes_last (writes_set (k := k) .sta config setConfigErr) fun _ => writes_pure err
    exact hset c _ hr a ha
  · rw [initBlufiWith, call_bind, if_pos hp, Op.configWrites, if_neg hp]
    exact hr

theorem deinitBlufi_writes (profile : EspErr) (env : WiFi.DeinitEnv) :
    Writes k [] (deinitBlufi profile env) := by
  intro c d h a ha
  have hr : At k c (d.record .blufiProfileDeinit profile) := h.plain _ _ trivial
  by_cases hp : profile = .ok
  · subst hp
    exact WiFi.deinit_writes env c _ hr a ha
  · rw [deinitBlufi_fail hp]
    exact hr

def builtWith (w : WiFi) : Mem × Mem := (w.staConfig, w.apConfig)

theorem callback_builtWith (e : BlufiEvent) (env : CallbackEnv) (d : Device) :
    builtWith (defaultBlufiCallback e env d).1.wifi = builtWith d.wifi :=
  Keeps.frame (g := fun d : Device => builtWith d.wifi)
    (fun _ => callback_keeps (fun _ _ _ _ h => h) (fun _ _ _ h => h) env) d

/-- The message of a peer: the record that BluFi keeps goes to the driver as a whole. -/
theorem recv_writes (i : WifiInterface) (ss : List Store) (err : EspErr) :
    Writes k [.provision i ss (err = .ok)] (recv i ss err) := by
  intro c d h a ha
  refine ⟨h.sta, h.ap, ?_⟩
  have hc := h.configs
  subst hc
  rw [recv_fst, config_setConfig]
  apply Configs.ext
  · by_cases he : err = .ok
    · subst he
      exact config_setConfig_update d.driver _ i
    · have ha : (d.configs.write (.provision i ss (err = .ok))).active = d.driver.config := by
        simp [Configs.write, he, configs]
      exact (congrArg Configs.active (configs_unset he i _ _)).trans ha.symm
  · exact ble_config_setConfig d.ble _ i

theorem callback_writes (e : BlufiEvent) (env : CallbackEnv) :
    Writes k (Op.configWrites k (.blufi e env)) (defaultBlufiCallback e env) := by
  rw [Op.configWrites]
  cases hs : e.stores with
  | some p =>
    rw [callback_recv hs]
    exact recv_writes p.1 p.2 env.setConfig
  | none =>
    intro c d h a ha
    obtain ⟨hr, hb⟩ := callback_none hs env d
    obtain ⟨hsta, hap⟩ := Prod.mk.inj (callback_builtWith e env d)
    exact h.congr hsta hap hr hb

end Ble

namespace Device

variable {op : Op} {ops pre post : List Op} {r : Driver} {e : Ble.BlufiEvent}
  {env : Ble.CallbackEnv} {ss : List Store}

theorem boot_at (k : Kconfig) (r : Driver) :
    At k ⟨r.config, fun _ => Mem.zero⟩ (boot k r) := by
  refine ⟨rfl, rfl, Configs.ext rfl ?_⟩
  funext i
  cases i with
  | sta => rfl
  | ap => rfl

/-- An operation after which the device is still running has got to its end. -/
theorem At.settle {p : Prog Device α} (h : At k c d) (hp : Writes k ws p)
    (hr : (Device.settle (p d)).Running) : At k (c.writes ws) (Device.settle (p d)) := by
  cases hs : p d with
  | mk d' a =>
    cases a with
    | some a =>
      have hw := hp c d h a (by rw [hs])
      rw [hs] at hw
      exact hw
    | none =>
      rw [hs] at hr
      cases hr

theorem At.run (h : At k c d) (hr : (op.run k d).Running) :
    At k (c.writes (op.configWrites k)) (op.run k d) := by
  cases op with
  | init setup env => exact h.settle (WiFi.init_writes k setup env) hr
  | deinit env => exact h.settle (WiFi.deinit_writes env) hr
  | connect err =>
    change At k c (Device.settle (WiFi.connect err d))
    rw [WiFi.connect_apply]
    exact (h.plain .wifiConnect err trivial).congr rfl rfl rfl rfl
  | disconnect err => exact (h.plain .wifiDisconnect err trivial).congr rfl rfl rfl rfl
  | setConfig i config err => exact h.settle (writes_set i config err) hr
  | setWifiMode mode err => exact h.plain _ err trivial
  | initBlufi profile env => exact h.settle (Ble.initBlufi_writes k profile env) hr
  | initBlufiWith config profile env setConfigErr =>
    exact h.settle (Ble.initBlufiWith_writes k config profile env setConfigErr) hr
  | deinitBlufi profile env => exact h.settle (Ble.deinitBlufi_writes profile env) hr
  | setupDefaultBleGapCallback env => exact h.congr rfl rfl rfl rfl
  | wifiEvent e err =>
    cases e with
    | staStart => exact h.plain .wifiConnect err trivial
    | staDisconnected => exact (h.plain .wifiConnect err trivial).congr rfl rfl rfl rfl
    | _ => exact h.congr rfl rfl rfl rfl
  | ipEvent e =>
    cases e with
    | _ => exact h.congr rfl rfl rfl rfl
  | blufi e env => exact h.settle (Ble.callback_writes e env) hr

theorem At.step (h : At k c d) (hr : (d.step k op).Running) :
    At k (c.writes (op.configWrites k)) (d.step k op) := by
  have hd : d.Running := step_running_of hr
  rw [step_running (Bool.eq_false_iff.1 hd)] at hr ⊢
  exact h.run hr

/-- The configurations of a device that has not aborted are those that the operations, one after
the other, have written. -/
theorem configs_follow (h : (Run.run (step k) (boot k r) ops).Running) :
    (Run.run (step k) (boot k r) ops).configs =
      Configs.writes ⟨r.config, fun _ => Mem.zero⟩ (ops.flatMap (Op.configWrites k)) := by
  let R (d : Device) (c : Configs) : Prop := At k c d
  have h0 : R (boot k r) ⟨r.config, fun _ => Mem.zero⟩ := boot_at k r
  have hat : R _ _ := Run.run_follows h0 (always_running h) fun d c op hr hd => hd.step hr
  exact hat.configs

/-- A station that is set up twice, and a channel for the access point that it does not have. -/
def setUpTwice : List Op :=
  [.init .sta WiFi.initOk, .blufi (.recvSoftapChannel 6) Ble.callbackOk, .deinit WiFi.deinitOk,
    .initBlufiWith (fun _ => 7) .ok WiFi.initOk .ok]

def unconfigured : Driver := ⟨fun _ => 0, fun _ => 0⟩

theorem configs_follow_twice :
    (Run.run (step Kconfig.defaults) (boot Kconfig.defaults unconfigured) setUpTwice).configs =
      Configs.writes ⟨unconfigured.config, fun _ => Mem.zero⟩
        (setUpTwice.flatMap (Op.configWrites Kconfig.defaults)) := by
  have hr : (Run.run (step Kconfig.defaults) (boot Kconfig.defaults unconfigured)
      setUpTwice).Running := by decide
  exact configs_follow hr

theorem sent_configWrites (k : Kconfig) (i : WifiInterface) (op : Op) :
    (op.configWrites k).flatMap (ConfigWrite.sent i) = op.sent i := by
  have hset (setup : WifiSetup) : (k.defaultWrites setup).flatMap (ConfigWrite.sent i) = [] := by
    cases setup with
    | _ => rfl
  cases op with
  | init setup env => exact hset setup
  | setConfig j config err =>
    rw [Op.configWrites]
    split
    · rfl
    · rfl
  | initBlufi profile env =>
    rw [Op.configWrites]
    split
    · exact hset .sta
    · rfl
  | initBlufiWith config profile env setConfigErr =>
    rw [Op.configWrites]
    split
    · split
      · rfl
      · rfl
    · rfl
  | blufi e env =>
    rw [Op.configWrites, Op.sent]
    cases e.stores with
    | none => rfl
    | some p => exact List.append_nil _
  | _ => rfl

theorem provisioned_follow (c : Configs) (i : WifiInterface) (ops : List Op) :
    (c.writes (ops.flatMap (Op.configWrites k))).provisioned i =
      (c.provisioned i).stores (ops.flatMap (Op.sent i)) := by
  rw [Configs.provisioned_writes, List.flatMap_assoc]
  congr 2
  funext op
  exact sent_configWrites k i op

/-- All that peers have ever sent for an interface is set again by the next message that the driver
accepts, whatever was set or rejected, stopped or built in meanwhile. -/
theorem provisioning_returns (hs : e.stores = some (i, ss)) (hok : env.setConfig = .ok)
    (h : (Run.run (step k) (boot k r) (pre ++ .blufi e env :: post)).Running)
    (hpost : ∀ op ∈ post, ∀ w ∈ op.configWrites k, ¬ w.Sets i) :
    (Run.run (step k) (boot k r) (pre ++ .blufi e env :: post)).driver.config i =
      toConfig (Mem.zero.stores (pre.flatMap (Op.sent i) ++ ss)) := by
  have hf := congrArg (fun c => c.active i) (configs_follow h)
  have hw : Op.configWrites k (.blufi e env) = [.provision i ss true] := by
    rw [Op.configWrites, hs, hok]
    rfl
  have hpost' : ∀ w ∈ post.flatMap (Op.configWrites k), ¬ w.Sets i := by
    intro w hw
    obtain ⟨op, hop, hw⟩ := List.mem_flatMap.1 hw
    exact hpost op hop w hw
  rw [List.flatMap_append, List.flatMap_cons, hw, Configs.writes_append, Configs.writes_append,
    Configs.active_writes _ hpost'] at hf
  refine hf.trans ?_
  change Function.update _ i _ i = _
  rw [Function.update_self, provisioned_follow, ← stores_append]

/-- An SSID that the driver rejects comes back with the password, over the one that is built in. -/
theorem provisioning_returns_rejected :
    (Run.run (step Kconfig.defaults) (boot Kconfig.defaults unconfigured)
        ([.blufi (.recvStaSsid (fun _ => 0x73) 3) { Ble.callbackOk with setConfig := .fail },
          .init .sta WiFi.initOk] ++
        .blufi (.recvStaPasswd (fun _ => 0x70) 2) Ble.callbackOk :: [.connect .ok])).driver.config
          .sta =
      toConfig (Mem.zero.stores (Ble.copyString Sta.ssid (fun _ => 0x73) 3 ++
        Ble.copyString Sta.password (fun _ => 0x70) 2)) := by
  have hpost : ∀ op ∈ [Op.connect .ok], ∀ w ∈ op.configWrites Kconfig.defaults,
      ¬ w.Sets .sta := by
    intro op hop w hw
    obtain rfl := List.mem_singleton.1 hop
    cases hw
  exact provisioning_returns rfl rfl (by decide) hpost

end Device

end LDM
