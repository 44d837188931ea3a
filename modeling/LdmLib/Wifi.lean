import LdmLib.Device

namespace LDM
set_option autoImplicit true

open Bytes Prog

namespace WiFi

/-- The constructor; the statics are as the program starts with them. -/
def construct (k : Kconfig) : WiFi where
  staConfig := k.staConfig
  apConfig := k.apConfig
  powerSaveMode := k.powerSave
  netifSta := none
  netifAp := none
  connected := false
  hosting := false
  ipv4Address := 0
  netmask := 0
  gateway := 0
  glStaConnected := false
  glStaBssid := Mem.zero
  glStaSsid := Mem.zero
  glStaSsidLen := 0
  sRetryNum := 0

structure InitEnv where
  netifInit : EspErr
  eventLoopCreate : EspErr
  createSta : Bool
  staHostname : EspErr
  createAp : Bool
  apHostname : EspErr
  dhcpsStop : EspErr
  setIpInfo : EspErr
  wifiInit : EspErr
  registerWifi : EspErr
  registerIp : EspErr
  setMode : EspErr
  setStaConfig : EspErr
  setApConfig : EspErr
  start : EspErr
  setPs : EspErr
  deriving DecidableEq, Repr

def initOk : InitEnv where
  netifInit := .ok
  eventLoopCreate := .ok
  createSta := true
  staHostname := .ok
  createAp := true
  apHostname := .ok
  dhcpsStop := .ok
  setIpInfo := .ok
  wifiInit := .ok
  registerWifi := .ok
  registerIp := .ok
  setMode := .ok
  setStaConfig := .ok
  setApConfig := .ok
  start := .ok
  setPs := .ok

/-- `esp_netif_create_default_wifi_sta` or `_ap`; the netifs are numbered as they are created. -/
def netifCreate (i : WifiInterface) (created : Bool) : Prog Device (Option Nat) := do
  let d ← get
  if created then
    modify fun d =>
      { d.record (.netifCreateDefaultWifi i (some d.netifs)) .ok with netifs := d.netifs + 1 }
    return some d.netifs
  else
    modify fun d => d.record (.netifCreateDefaultWifi i none) .fail
    return none

def initSta (k : Kconfig) (env : InitEnv) : Prog Device EspErr := do
  let netif ← netifCreate .sta env.createSta
  modify fun d => { d with wifi.netifSta := netif }
  match netif with
  | some n => call (.netifSetHostname n k.staHostname) env.staHostname
  | none => abort

def initAp (k : Kconfig) (env : InitEnv) : Prog Device Unit := do
  let netif ← netifCreate .ap env.createAp
  modify fun d => { d with wifi.netifAp := netif }
  match netif with
  | some n => do
    errorCheck (.netifSetHostname n k.apHostname) env.apHostname
    errorCheck (.netifDhcpsStop n) env.dhcpsStop
    errorCheck (.netifSetIpInfo n k.apIpv4 k.apGateway k.apNetmask) env.setIpInfo
  | none => abort

def initMode (setup : WifiSetup) (env : InitEnv) : Prog Device Unit := do
  let d ← get
  match setup with
  | .sta => do
    errorCheck (.wifiSetMode WifiMode.sta) env.setMode
    errorCheck (.wifiSetConfig .sta (toConfig d.wifi.staConfig)) env.setStaConfig
  | .ap => do
    errorCheck (.wifiSetMode WifiMode.ap) env.setMode
    errorCheck (.wifiSetConfig .ap (toConfig d.wifi.apConfig)) env.setApConfig
  | .apsta => do
    errorCheck (.wifiSetMode WifiMode.apsta) env.setMode
    errorCheck (.wifiSetConfig .sta (toConfig d.wifi.staConfig)) env.setStaConfig
    errorCheck (.wifiSetConfig .ap (toConfig d.wifi.apConfig)) env.setApConfig

def initDriver (setup : WifiSetup) (env : InitEnv) : Prog Device Unit := do
  errorCheck .wifiInit env.wifiInit
  errorCheck (.eventHandlerRegister .wifi) env.registerWifi
  errorCheck (.eventHandlerRegister .ip) env.registerIp
  initMode setup env
  errorCheck .wifiStart env.start
  let d ← get
  let _ ← call (.wifiSetPs d.wifi.powerSaveMode) env.setPs
  pure ()

/-- Only the station's host name can make `init` return an error; any other failure aborts. -/
def init (k : Kconfig) (setup : WifiSetup) (env : InitEnv) : Prog Device EspErr := do
  errorCheck .netifInit env.netifInit
  errorCheck .eventLoopCreateDefault env.eventLoopCreate
  let err ← onlyIf (setup = .sta ∨ setup = .apsta) .ok (initSta k env)
  onlyIf (setup = .ap ∨ setup = .apsta) () (initAp k env)
  initDriver setup env
  return err

structure DeinitEnv where
  stop : EspErr
  wifiDeinit : EspErr
  clearSta : EspErr
  clearAp : EspErr
  eventLoopDelete : EspErr
  deriving DecidableEq, Repr

def deinitOk : DeinitEnv := ⟨.ok, .ok, .ok, .ok, .ok⟩

def netifDispose (n : Nat) (clear : EspErr) : Prog Device EspErr := do
  let err ← call (.wifiClearDefaultWifiDriverAndHandlers n) clear
  let _ ← call (.netifDestroy n) .ok
  return err

def deinitSta (env : DeinitEnv) : Prog Device EspErr := do
  let d ← get
  match d.wifi.netifSta with
  | some n => do
    let err ← netifDispose n env.clearSta
    modify fun d => { d with wifi.netifSta := none }
    return err
  | none => return .ok

/-- Here too it is `netif_sta` that is set to `NULL`. -/
def deinitAp (env : DeinitEnv) : Prog Device EspErr := do
  let d ← get
  match d.wifi.netifAp with
  | some n => do
    let err ← netifDispose n env.clearAp
    modify fun d => { d with wifi.netifSta := none }
    return err
  | none => return .ok

def deinit (env : DeinitEnv) : Prog Device EspErr := do
  let err ← call .wifiStop env.stop
  if err ≠ .ok then return err
  else
    let err ← call .wifiDeinit env.wifiDeinit
    if err ≠ .ok then return err
    else
      let errSta ← deinitSta env
      let errAp ← deinitAp env
      errorCheck .eventLoopDeleteDefault env.eventLoopDelete
      modify fun d => { d with wifi.connected := false }
      return errSta ||| errAp

/-- The flag is set whatever the call returned. -/
def connect (err : EspErr) : Prog Device EspErr := do
  let err ← call .wifiConnect err
  onlyIf (err ≠ .ok) () (modify fun d => { d with wifi.connected := false })
  modify fun d => { d with wifi.connected := true }
  return err

theorem connect_apply (err : EspErr) (d : Device) :
    connect err d = ({ d.record .wifiConnect err with wifi.connected := true }, some err) := by
  rw [connect, call_bind, onlyIf]
  by_cases he : err = .ok
  · rw [if_neg (not_not.2 he)]
    rfl
  · rw [if_pos he]
    rfl

def disconnect (err : EspErr) : Prog Device EspErr := do
  modify fun d => { d with wifi.connected := false }
  call .wifiDisconnect err

def setConfig (i : WifiInterface) (config : WifiConfig) (err : EspErr) : Prog Device EspErr :=
  call (.wifiSetConfig i config) err

def getConfig (i : WifiInterface) (err : EspErr) : Prog Device (EspErr × Option WifiConfig) := do
  let err ← call (.wifiGetConfig i) err
  let d ← get
  return (err, if err = .ok then some (d.driver.config i) else none)

def setWifiMode (mode : WifiMode) (err : EspErr) : Prog Device EspErr :=
  call (.wifiSetMode mode) err

def getWifiMode (mode : WifiMode) (err : EspErr) : Prog Device (EspErr × Option WifiMode) := do
  let err ← call .wifiGetMode err
  return (err, if err = .ok then some mode else none)

def isConnected (w : WiFi) : Bool := w.connected

def isHosting (w : WiFi) : Bool := w.hosting

/-- `esp_ip4_addr_get_byte`: the first byte of an address is its lowest. -/
def getByte (ip : BitVec 32) (i : Nat) : UInt8 := ⟨ip.extractLsb' (8 * i) 8⟩

def ipBytes (ip : BitVec 32) : List UInt8 := [getByte ip 0, getByte ip 1, getByte ip 2, getByte ip 3]

def getIpv4 (w : WiFi) : EspErr × Option (List UInt8) :=
  if w.isConnected then (.ok, some (ipBytes w.ipv4Address)) else (.fail, none)

inductive WifiEvent where
  | staStart
  | staStop
  | staConnected (bssid ssid : Mem) (ssidLen : UInt8)
  | staDisconnected
  | apStart
  | apStop
  | apStaconnected
  | apStadisconnected
  | other

/-- `err` is what `esp_wifi_connect` returns where it is called. -/
def wifiEventHandler (e : WifiEvent) (err : EspErr) : Prog Device Unit :=
  match e with
  | .staStart => do
    let _ ← call .wifiConnect err
    pure ()
  | .staStop => modify fun d => { d with wifi.connected := false }
  | .staConnected bssid ssid ssidLen => modify fun d => { d with
      wifi.glStaConnected := true
      wifi.glStaBssid := d.wifi.glStaBssid.stores (memcpy 0 bssid 6)
      wifi.glStaSsid := d.wifi.glStaSsid.stores (memcpy 0 ssid ssidLen.toNat)
      wifi.glStaSsidLen := ssidLen.toNat }
  | .staDisconnected => do
    modify fun d => { d with
      wifi.glStaConnected := false
      wifi.glStaSsid := d.wifi.glStaSsid.stores (writes 0 (List.replicate 32 0))
      wifi.glStaBssid := d.wifi.glStaBssid.stores (writes 0 (List.replicate 6 0))
      wifi.glStaSsidLen := 0 }
    let _ ← call .wifiConnect err
    pure ()
  | .apStart => modify fun d => { d with wifi.hosting := true }
  | .apStop => modify fun d => { d with wifi.hosting := false }
  | .apStaconnected => pure ()
  | .apStadisconnected => pure ()
  | .other => pure ()

inductive IpEvent where
  | staGotIp (ip netmask gw : BitVec 32)
  | other
  deriving DecidableEq, Repr

def ipEventHandler : IpEvent → Prog Device Unit
  | .staGotIp ip netmask gw => modify fun d => { d with
      wifi.ipv4Address := ip
      wifi.netmask := netmask
      wifi.gateway := gw
      wifi.connected := true
      wifi.sRetryNum := 0 }
  | .other => pure ()

variable {I : Device → Prop}

def InitCall (setup : WifiSetup) : Call → Prop
  | .netifInit => True
  | .eventLoopCreateDefault => True
  | .netifCreateDefaultWifi _ _ => True
  | .netifSetHostname _ _ => True
  | .netifDhcpsStop _ => True
  | .netifSetIpInfo _ _ _ _ => True
  | .wifiInit => True
  | .eventHandlerRegister _ => True
  | .wifiSetMode _ => True
  | .wifiSetConfig i _ => setup.covers i = true
  | .wifiStart => True
  | .wifiSetPs _ => True
  | _ => False

theorem initMode_keeps (hc : ∀ c err, InitCall setup c → c.netifEvent = none →
      Keeps I (errorCheck c err)) (env : InitEnv) : Keeps I (initMode setup env) := by
  apply Keeps.get
  intro d
  cases setup with
  | sta => exact .bind (hc _ _ trivial rfl) fun _ => hc _ _ rfl rfl
  | ap => exact .bind (hc _ _ trivial rfl) fun _ => hc _ _ rfl rfl
  | apsta =>
    exact .bind (hc _ _ trivial rfl) fun _ => .bind (hc _ _ rfl rfl) fun _ => hc _ _ rfl rfl

theorem initDriver_keeps (hc : ∀ c err d, InitCall setup c → c.netifEvent = none → I d →
      I (d.record c err)) (env : InitEnv) : Keeps I (initDriver setup env) := by
  have hcall (c : Call) (err : EspErr) (h : InitCall setup c) (hn : c.netifEvent = none) :
      Keeps I (errorCheck c err) :=
    keeps_errorCheck fun d => hc c err d h hn
  refine .bind (hcall _ _ trivial rfl) fun _ => ?_
  refine .bind (hcall _ _ trivial rfl) fun _ => ?_
  refine .bind (hcall _ _ trivial rfl) fun _ => ?_
  refine .bind (initMode_keeps hcall env) fun _ => ?_
  refine .bind (hcall _ _ trivial rfl) fun _ => ?_
  refine .get fun d => ?_
  exact .bind (keeps_call fun d => hc _ _ d trivial rfl) fun _ => .pure ()

theorem netifCreate_keeps (hc : ∀ n err d, I d → I (d.record (.netifCreateDefaultWifi i n) err))
    (hn : ∀ d n, I d → I { d with netifs := n }) (created : Bool) :
    Keeps I (netifCreate i created) := by
  apply Keeps.get
  intro d
  cases created with
  | true => exact .bind (.modify fun d hd => hn _ _ (hc _ _ d hd)) fun _ => .pure _
  | false => exact .bind (.modify fun d hd => hc _ _ d hd) fun _ => .pure _

/-- What the calls of `init`, the count of netifs and the two netif members do not touch is kept
by `init`. -/
theorem init_keeps (hc : ∀ c err d, InitCall setup c → I d → I (d.record c err))
    (hn : ∀ d n, I d → I { d with netifs := n })
    (hs : ∀ d n, I d → I { d with wifi.netifSta := n })
    (ha : ∀ d n, I d → I { d with wifi.netifAp := n }) (k : Kconfig) (env : InitEnv) :
    Keeps I (init k setup env) := by
  have hcall (c : Call) (err : EspErr) (h : InitCall setup c) : Keeps I (errorCheck c err) :=
    keeps_errorCheck fun d => hc c err d h
  have hcreate (i : WifiInterface) (created : Bool) : Keeps I (netifCreate i created) :=
    netifCreate_keeps (fun n err d => hc _ err d trivial) hn created
  have hsta : Keeps I (initSta k env) := by
    refine .bind (hcreate _ _) fun n => .bind (.modify fun d => hs d n) fun _ => ?_
    cases n with
    | none => exact .abort
    | some n => exact keeps_call fun d => hc _ _ d trivial
  have hap : Keeps I (initAp k env) := by
    refine .bind (hcreate _ _) fun n => .bind (.modify fun d => ha d n) fun _ => ?_
    cases n with
    | none => exact .abort
    | some n =>
      refine .bind (hcall _ _ trivial) fun _ => .bind (hcall _ _ trivial) fun _ => ?_
      exact hcall _ _ trivial
  refine .bind (hcall _ _ trivial) fun _ => .bind (hcall _ _ trivial) fun _ => ?_
  refine .bind (.onlyIf hsta) fun _ => .bind (.onlyIf hap) fun _ => ?_
  exact .bind (initDriver_keeps (fun c err d h _ => hc c err d h) env) fun _ => .pure _

def clearErr (w : WiFi) (env : DeinitEnv) : EspErr :=
  (if w.netifSta.isSome then env.clearSta else .ok) |||
    (if w.netifAp.isSome then env.clearAp else .ok)

def disposed (d : Device) (env : DeinitEnv) : Device := (deinitAp env (deinitSta env d).1).1

theorem deinitSta_some (h : d.wifi.netifSta = some n) (env : DeinitEnv) :
    deinitSta env d =
      ({ (d.record (.wifiClearDefaultWifiDriverAndHandlers n) env.clearSta).record
          (.netifDestroy n) .ok with wifi.netifSta := none }, some env.clearSta) := by
  rw [deinitSta, get_bind, h]
  rfl

theorem deinitSta_none (h : d.wifi.netifSta = none) (env : DeinitEnv) :
    deinitSta env d = (d, some .ok) := by
  rw [deinitSta, get_bind, h]
  rfl

theorem deinitAp_some (h : d.wifi.netifAp = some n) (env : DeinitEnv) :
    deinitAp env d =
      ({ (d.record (.wifiClearDefaultWifiDriverAndHandlers n) env.clearAp).record
          (.netifDestroy n) .ok with wifi.netifSta := none }, some env.clearAp) := by
  rw [deinitAp, get_bind, h]
  rfl

theorem deinitAp_none (h : d.wifi.netifAp = none) (env : DeinitEnv) :
    deinitAp env d = (d, some .ok) := by
  rw [deinitAp, get_bind, h]
  rfl

theorem deinitSta_apply (d : Device) (env : DeinitEnv) : deinitSta env d =
    ((deinitSta env d).1, some (if d.wifi.netifSta.isSome then env.clearSta else .ok)) := by
  cases h : d.wifi.netifSta with
  | none => rw [deinitSta_none h, Option.isSome_none, if_neg Bool.false_ne_true]
  | some n => rw [deinitSta_some h, Option.isSome_some, if_pos rfl]

theorem deinitAp_apply (d : Device) (env : DeinitEnv) : deinitAp env d =
    ((deinitAp env d).1, some (if d.wifi.netifAp.isSome then env.clearAp else .ok)) := by
  cases h : d.wifi.netifAp with
  | none => rw [deinitAp_none h, Option.isSome_none, if_neg Bool.false_ne_true]
  | some n => rw [deinitAp_some h, Option.isSome_some, if_pos rfl]

theorem deinitSta_netifAp (d : Device) (env : DeinitEnv) :
    (deinitSta env d).1.wifi.netifAp = d.wifi.netifAp := by
  cases h : d.wifi.netifSta with
  | none => rw [deinitSta_none h]
  | some n => rw [deinitSta_some h]; rfl

/-- None of the calls that end `deinit` early fails. -/
def RunsToEnd (env : DeinitEnv) : Prop :=
  env.stop = .ok ∧ env.wifiDeinit = .ok ∧ env.eventLoopDelete = .ok

instance (env : DeinitEnv) : Decidable (RunsToEnd env) := inferInstanceAs (Decidable (_ ∧ _))

/-- The ways `deinit` can end. -/
inductive DeinitEnds (d : Device) (env : DeinitEnv) : Device × Option EspErr → Prop where
  | stop (he : env.stop ≠ .ok) : DeinitEnds d env (d.record .wifiStop env.stop, some env.stop)
  | wifiDeinit (h1 : env.stop = .ok) (he : env.wifiDeinit ≠ .ok) :
      DeinitEnds d env
        ((d.record .wifiStop .ok).record .wifiDeinit env.wifiDeinit, some env.wifiDeinit)
  | aborted (h1 : env.stop = .ok) (h2 : env.wifiDeinit = .ok) (he : env.eventLoopDelete ≠ .ok) :
      DeinitEnds d env
        ((disposed ((d.record .wifiStop .ok).record .wifiDeinit .ok) env).record
          .eventLoopDeleteDefault env.eventLoopDelete, none)
  | done (h1 : env.stop = .ok) (h2 : env.wifiDeinit = .ok) (h3 : env.eventLoopDelete = .ok) :
      DeinitEnds d env
        ({ (disposed ((d.record .wifiStop .ok).record .wifiDeinit .ok) env).record
            .eventLoopDeleteDefault .ok with wifi.connected := false },
          some (clearErr d.wifi env))

theorem deinit_ends (d : Device) (env : DeinitEnv) : DeinitEnds d env (deinit env d) := by
  rw [deinit, call_bind]
  by_cases h1 : env.stop = .ok
  · rw [if_neg (not_not.2 h1), call_bind]
    by_cases h2 : env.wifiDeinit = .ok
    · rw [if_neg (not_not.2 h2), bind_some (deinitSta_apply _ _), bind_some (deinitAp_apply _ _),
        deinitSta_netifAp, h1, h2]
      by_cases h3 : env.eventLoopDelete = .ok
      · rw [h3]
        exact .done h1 h2 h3
      · rw [errorCheck_fail h3]
        exact .aborted h1 h2 h3
    · rw [if_pos h2, h1]
      exact .wifiDeinit h1 h2
  · rw [if_pos h1]
    exact .stop h1

def DeinitCall : Call → Prop
  | .wifiStop => True
  | .wifiDeinit => True
  | .wifiClearDefaultWifiDriverAndHandlers _ => True
  | .netifDestroy _ => True
  | .eventLoopDeleteDefault => True
  | _ => False

theorem disposed_keeps (hc : ∀ c err d, DeinitCall c → I d → I (d.record c err))
    (hs : ∀ d, I d → I { d with wifi.netifSta := none }) (hd : I d) (env : DeinitEnv) :
    I (disposed d env) := by
  have hdispose (n : Nat) (err : EspErr) (d : Device) (hd : I d) :
      I { (d.record (.wifiClearDefaultWifiDriverAndHandlers n) err).record
        (.netifDestroy n) .ok with wifi.netifSta := none } := by
    have h1 := hc (.wifiClearDefaultWifiDriverAndHandlers n) err d trivial hd
    exact hs _ (hc (.netifDestroy n) .ok _ trivial h1)
  have h1 : I (deinitSta env d).1 := by
    cases h : d.wifi.netifSta with
    | none => rwa [deinitSta_none h]
    | some n =>
      rw [deinitSta_some h]
      exact hdispose n _ d hd
  unfold disposed
  cases h : (deinitSta env d).1.wifi.netifAp with
  | none => rwa [deinitAp_none h]
  | some n =>
    rw [deinitAp_some h]
    exact hdispose n _ _ h1

theorem deinit_keeps (hc : ∀ c err d, DeinitCall c → I d → I (d.record c err))
    (hs : ∀ d, I d → I { d with wifi.netifSta := none })
    (hf : ∀ d, I d → I { d with wifi.connected := false }) (env : DeinitEnv) :
    Keeps I (deinit env) := by
  intro d hd
  have hstop (err : EspErr) : I (d.record .wifiStop err) := hc _ err d trivial hd
  have hdeinit (err : EspErr) : I ((d.record .wifiStop .ok).record .wifiDeinit err) :=
    hc _ err _ trivial (hstop .ok)
  have hdis := disposed_keeps hc hs (hdeinit .ok) env
  have he := deinit_ends d env
  generalize deinit env d = r at he
  cases he with
  | stop => exact hstop _
  | wifiDeinit => exact hdeinit _
  | aborted => exact hc .eventLoopDeleteDefault _ _ trivial hdis
  | done => exact hf _ (hc .eventLoopDeleteDefault _ _ trivial hdis)

end WiFi

end LDM
