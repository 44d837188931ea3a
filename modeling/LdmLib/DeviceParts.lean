import LdmLib.DeviceRun

namespace LDM
set_option autoImplicit true

open Bytes Prog

/-- The calls that a device in the vicinity can notice over Bluetooth. -/
def Call.toPeer : Call → Bool
  | .bleGapConfigAdvData _ => true
  | .bleGapStartAdvertising _ => true
  | .bleGapStopAdvertising => true
  | .blufiSendErrorInfo _ => true
  | .blufiSendWifiConnReport _ _ _ => true
  | .blufiClose _ _ => true
  | _ => false

/-- The Wi-Fi mode in a report is what `esp_wifi_get_mode` answered. -/
def Call.forgetMode : Call → Call
  | .blufiSendWifiConnReport _ state info => .blufiSendWifiConnReport 0 state info
  | c => c

namespace Device

def told (d : Device) : List (Call × EspErr) := d.log.filter fun c => c.1.toPeer

/-- What the peers are told but for the Wi-Fi mode. -/
def heard (d : Device) : List (Call × EspErr) := d.told.map fun c => (c.1.forgetMode, c.2)

/-- The part of a device that is of the class `BLE`, with all else that its peers could notice. -/
structure SameBle (d d' : Device) : Prop where
  ble : d.ble = d'.ble
  heard : d.heard = d'.heard
  aborted : d.aborted = d'.aborted

/-- The part that is of the class `WiFi`, with the number of the next netif. -/
structure SameWifi (d d' : Device) : Prop where
  wifi : d.wifi = d'.wifi
  netifs : d.netifs = d'.netifs
  aborted : d.aborted = d'.aborted

namespace Op

/-- The operations of the class `BLE` that are not those of its Wi-Fi object. -/
def onBle : Op → Bool
  | .setupDefaultBleGapCallback _ => true
  | .blufi _ _ => true
  | _ => false

def onWifi : Op → Bool
  | .init _ _ => true
  | .deinit _ => true
  | .connect _ => true
  | .disconnect _ => true
  | .initBlufi _ _ => true
  | .initBlufiWith _ _ _ _ => true
  | .deinitBlufi _ _ => true
  | .wifiEvent _ _ => true
  | .ipEvent _ => true
  | _ => false

def forgetMode : Op → Op
  | .blufi e env => .blufi e { env with mode := 0 }
  | op => op

end Op

/-- Two devices that are alike stay so when both make a call. -/
def CallKept (R : Device → Device → Prop) : Prop :=
  ∀ d d' c e, R d d' → R (d.record c e) (d'.record c e)

variable {R : Device → Device → Prop} {d d' : Device}

theorem told_record (d : Device) (c : Call) (e : EspErr) :
    (d.record c e).told = if c.toPeer then (c, e) :: d.told else d.told :=
  List.filter_cons

theorem toPeer_forgetMode (c : Call) : c.forgetMode.toPeer = c.toPeer := by
  cases c with
  | _ => rfl

theorem heard_record (d : Device) (c : Call) (e : EspErr) :
    (d.record c e).heard =
      if c.forgetMode.toPeer then (c.forgetMode, e) :: d.heard else d.heard := by
  rw [heard, told_record, toPeer_forgetMode]
  split
  · rfl
  · rfl

/-- The calls may differ in the mode. -/
theorem SameBle.record (h : SameBle d d') (hc : c.forgetMode = c'.forgetMode) (e : EspErr) :
    SameBle (d.record c e) (d'.record c' e) := by
  constructor
  case ble => exact h.ble
  case heard => rw [heard_record, heard_record, hc, h.heard]
  case aborted => exact h.aborted

theorem sameBle_kept : CallKept SameBle := fun _ _ _ e h => h.record rfl e

theorem sameWifi_kept : CallKept SameWifi := fun _ _ _ _ h => ⟨h.wifi, h.netifs, h.aborted⟩

theorem SameBle.setBle (h : SameBle d d') (f : Ble → Ble) :
    SameBle { d with ble := f d.ble } { d' with ble := f d'.ble } :=
  ⟨congrArg f h.ble, h.heard, h.aborted⟩

theorem SameWifi.setWifi (h : SameWifi d d') (f : WiFi → WiFi) :
    SameWifi { d with wifi := f d.wifi } { d' with wifi := f d'.wifi } :=
  ⟨congrArg f h.wifi, h.netifs, h.aborted⟩

theorem alike_call (hR : CallKept R) (c : Call) (err : EspErr) :
    Alike R (call c err) (call c err) :=
  fun _ _ h => ⟨hR _ _ c err h, rfl⟩

theorem alike_errorCheck (hR : CallKept R) (c : Call) (err : EspErr) :
    Alike R (errorCheck c err) (errorCheck c err) :=
  .bind (alike_call hR c err) fun _ => .ite (.pure ()) .abort

/-- A call whose result is dropped. -/
theorem alike_one (hR : CallKept R) (c : Call) (err : EspErr) :
    Alike R (call c err >>= fun _ => pure ()) (call c err >>= fun _ => pure ()) :=
  .bind (alike_call hR c err) fun _ => .pure ()

end Device

namespace Ble

open Device

theorem alike_setBle (f : Ble → Ble) :
    Alike SameBle (modify fun d => { d with ble := f d.ble })
      (modify fun d => { d with ble := f d.ble }) :=
  .modify fun _ _ h => h.setBle f

theorem setupDefaultBleGapCallback_alike (env : GapEnv) :
    Alike SameBle (setupDefaultBleGapCallback env) (setupDefaultBleGapCallback env) := by
  have hcall (c : Call) (err : EspErr) : Alike SameBle (call c err) (call c err) :=
    alike_call sameBle_kept c err
  refine .bind (alike_setBle fun b => { b with
    glStaConnected := false
    connected := false
    defaultBleAdvData := advData }) fun _ => .bind (hcall _ _) fun _ => ?_
  refine .bind (alike_setBle fun b => { b with defaultBleAdvParams := advParams }) fun _ => ?_
  exact .bind (hcall _ _) fun _ => hcall _ _

theorem recv_alike (i : WifiInterface) (ss : List Store) (err : EspErr) :
    Alike SameBle (recv i ss err) (recv i ss err) := by
  refine .bind (alike_setBle fun b => b.setConfig ((b.config i).stores ss) i) fun _ => ?_
  refine .get fun d d' h => ?_
  rw [h.ble]
  exact alike_one sameBle_kept _ _

theorem getWifiStatus_alike (env : CallbackEnv) :
    Alike SameBle (getWifiStatus env) (getWifiStatus { env with mode := 0 }) := by
  refine .bind (alike_call sameBle_kept _ _) fun _ => .get fun d d' h => ?_
  have hreport (state : ConnState) (info : Option ExtraInfo) :
      Alike SameBle (call (.blufiSendWifiConnReport env.mode state info) env.blufi)
        (call (.blufiSendWifiConnReport 0 state info) env.blufi) := by
    have hsame : (Call.blufiSendWifiConnReport env.mode state info).forgetMode =
        (Call.blufiSendWifiConnReport 0 state info).forgetMode := rfl
    exact fun _ _ h => ⟨h.record hsame env.blufi, rfl⟩
  rw [h.ble]
  refine .bind ?_ fun _ => .pure ()
  split
  · exact hreport _ _
  · exact hreport _ _

theorem callback_alike (e : BlufiEvent) (env : CallbackEnv) :
    Alike SameBle (defaultBlufiCallback e env)
      (defaultBlufiCallback e { env with mode := 0 }) := by
  have hone (c : Call) (err : EspErr) :
      Alike SameBle (call c err >>= fun _ => pure ()) (call c err >>= fun _ => pure ()) :=
    alike_one sameBle_kept c err
  cases e with
  | bleConnect serverIf connId =>
    exact .bind (alike_setBle fun b => { b with serverIf := serverIf, connId := connId })
      fun _ => hone _ _
  | bleDisconnect =>
    refine .get fun d d' h => ?_
    rw [h.ble]
    exact hone _ _
  | setWifiOpmode opMode => exact alike_errorCheck sameBle_kept _ _
  | reqConnectToAp => exact .bind (alike_call sameBle_kept _ _) fun _ => hone _ _
  | reqDisconnectFromAp => exact hone _ _
  | reportError state => exact hone _ _
  | getWifiStatus => exact getWifiStatus_alike env
  | recvSlaveDisconnectBle =>
    refine .get fun d d' h => ?_
    rw [h.ble]
    exact hone _ _
  | recvStaBssid => exact recv_alike _ _ _
  | recvStaSsid => exact recv_alike _ _ _
  | recvStaPasswd => exact recv_alike _ _ _
  | recvSoftapSsid => exact recv_alike _ _ _
  | recvSoftapPasswd => exact recv_alike _ _ _
  | recvSoftapMaxConnNum => exact .ite (.pure ()) (recv_alike _ _ _)
  | recvSoftapAuthMode => exact .ite (.pure ()) (recv_alike _ _ _)
  | recvSoftapChannel => exact .ite (.pure ()) (recv_alike _ _ _)
  | getWifiList => exact alike_errorCheck sameBle_kept _ _
  | _ => exact .pure ()

end Ble

namespace WiFi

open Device

theorem alike_setWifi (f : WiFi → WiFi) :
    Alike SameWifi (modify fun d => { d with wifi := f d.wifi })
      (modify fun d => { d with wifi := f d.wifi }) :=
  .modify fun _ _ h => h.setWifi f

theorem alike_wifiCheck (c : Call) (err : EspErr) :
    Alike SameWifi (errorCheck c err) (errorCheck c err) :=
  alike_errorCheck sameWifi_kept c err

theorem alike_wifiCall (c : Call) (err : EspErr) : Alike SameWifi (call c err) (call c err) :=
  alike_call sameWifi_kept c err

theorem netifCreate_alike (i : WifiInterface) (created : Bool) :
    Alike SameWifi (netifCreate i created) (netifCreate i created) := by
  refine .get fun d d' h => ?_
  rw [h.netifs]
  refine .ite (.bind (.modify fun e e' he => ?_) fun _ => .pure _)
    (.bind (.modify fun e e' he => sameWifi_kept _ _ _ _ he) fun _ => .pure _)
  exact ⟨he.wifi, congrArg (· + 1) he.netifs, he.aborted⟩

theorem initSta_alike (k : Kconfig) (env : InitEnv) :
    Alike SameWifi (initSta k env) (initSta k env) := by
  refine .bind (netifCreate_alike _ _) fun n => ?_
  refine .bind (alike_setWifi fun w => { w with netifSta := n }) fun _ => ?_
  cases n with
  | none => exact .abort
  | some n => exact alike_wifiCall _ _

theorem initAp_alike (k : Kconfig) (env : InitEnv) :
    Alike SameWifi (initAp k env) (initAp k env) := by
  refine .bind (netifCreate_alike _ _) fun n => ?_
  refine .bind (alike_setWifi fun w => { w with netifAp := n }) fun _ => ?_
  cases n with
  | none => exact .abort
  | some n =>
    refine .bind (alike_wifiCheck _ _) fun _ => .bind (alike_wifiCheck _ _) fun _ => ?_
    exact alike_wifiCheck _ _

theorem initMode_alike (setup : WifiSetup) (env : InitEnv) :
    Alike SameWifi (initMode setup env) (initMode setup env) := by
  refine .get fun d d' h => ?_
  rw [h.wifi]
  cases setup with
  | sta => exact .bind (alike_wifiCheck _ _) fun _ => alike_wifiCheck _ _
  | ap => exact .bind (alike_wifiCheck _ _) fun _ => alike_wifiCheck _ _
  | apsta =>
    refine .bind (alike_wifiCheck _ _) fun _ => .bind (alike_wifiCheck _ _) fun _ => ?_
    exact alike_wifiCheck _ _

theorem initDriver_alike (setup : WifiSetup) (env : InitEnv) :
    Alike SameWifi (initDriver setup env) (initDriver setup env) := by
  refine .bind (alike_wifiCheck _ _) fun _ => .bind (alike_wifiCheck _ _) fun _ => ?_
  refine .bind (alike_wifiCheck _ _) fun _ => .bind (initMode_alike setup env) fun _ => ?_
  refine .bind (alike_wifiCheck _ _) fun _ => .get fun d d' h => ?_
  rw [h.wifi]
  exact alike_one sameWifi_kept _ _

theorem init_alike (k : Kconfig) (setup : WifiSetup) (env : InitEnv) :
    Alike SameWifi (init k setup env) (init k setup env) := by
  refine .bind (alike_wifiCheck _ _) fun _ => .bind (alike_wifiCheck _ _) fun _ => ?_
  refine .bind (.onlyIf (initSta_alike k env)) fun _ => ?_
  refine .bind (.onlyIf (initAp_alike k env)) fun _ => ?_
  exact .bind (initDriver_alike setup env) fun _ => .pure _

theorem netifDispose_alike (n : Nat) (clear : EspErr) :
    Alike SameWifi (netifDispose n clear) (netifDispose n clear) :=
  .bind (alike_wifiCall _ _) fun _ => .bind (alike_wifiCall _ _) fun _ => .pure _

theorem dispose_alike (n : Nat) (clear : EspErr) :
    Alike SameWifi
      (netifDispose n clear >>= fun err =>
        modify (fun d => { d with wifi.netifSta := none }) >>= fun _ => pure err)
      (netifDispose n clear >>= fun err =>
        modify (fun d => { d with wifi.netifSta := none }) >>= fun _ => pure err) := by
  refine .bind (netifDispose_alike n clear) fun err => ?_
  exact .bind (alike_setWifi fun w => { w with netifSta := none }) fun _ => .pure err

theorem deinitSta_alike (env : DeinitEnv) :
    Alike SameWifi (deinitSta env) (deinitSta env) := by
  refine .get fun d d' h => ?_
  rw [h.wifi]
  cases d'.wifi.netifSta with
  | none => exact .pure _
  | some n => exact dispose_alike n env.clearSta

theorem deinitAp_alike (env : DeinitEnv) : Alike SameWifi (deinitAp env) (deinitAp env) := by
  refine .get fun d d' h => ?_
  rw [h.wifi]
  cases d'.wifi.netifAp with
  | none => exact .pure _
  | some n => exact dispose_alike n env.clearAp

theorem deinit_alike (env : DeinitEnv) : Alike SameWifi (deinit env) (deinit env) := by
  refine .bind (alike_wifiCall _ _) fun err => .ite (.pure err) ?_
  refine .bind (alike_wifiCall _ _) fun err => .ite (.pure err) ?_
  refine .bind (deinitSta_alike env) fun errSta => .bind (deinitAp_alike env) fun errAp => ?_
  refine .bind (alike_wifiCheck _ _) fun _ => ?_
  exact .bind (alike_setWifi fun w => { w with connected := false }) fun _ => .pure _

theorem connect_alike (err : EspErr) : Alike SameWifi (connect err) (connect err) := by
  refine .bind (alike_wifiCall _ _) fun err => ?_
  refine .bind (.onlyIf (alike_setWifi fun w => { w with connected := false })) fun _ => ?_
  exact .bind (alike_setWifi fun w => { w with connected := true }) fun _ => .pure err

theorem disconnect_alike (err : EspErr) : Alike SameWifi (disconnect err) (disconnect err) :=
  .bind (alike_setWifi fun w => { w with connected := false }) fun _ => alike_wifiCall _ _

theorem wifiEventHandler_alike (e : WifiEvent) (err : EspErr) :
    Alike SameWifi (wifiEventHandler e err) (wifiEventHandler e err) := by
  cases e with
  | staStart => exact alike_one sameWifi_kept _ _
  | staStop => exact alike_setWifi fun w => { w with connected := false }
  | staConnected bssid ssid ssidLen =>
    exact alike_setWifi fun w => { w with
      glStaConnected := true
      glStaBssid := w.glStaBssid.stores (memcpy 0 bssid 6)
      glStaSsid := w.glStaSsid.stores (memcpy 0 ssid ssidLen.toNat)
      glStaSsidLen := ssidLen.toNat }
  | staDisconnected =>
    refine .bind (alike_setWifi fun w => { w with
      glStaConnected := false
      glStaSsid := w.glStaSsid.stores (writes 0 (List.replicate 32 0))
      glStaBssid := w.glStaBssid.stores (writes 0 (List.replicate 6 0))
      glStaSsidLen := 0 }) fun _ => ?_
    exact alike_one sameWifi_kept _ _
  | apStart => exact alike_setWifi fun w => { w with hosting := true }
  | apStop => exact alike_setWifi fun w => { w with hosting := false }
  | apStaconnected => exact .pure ()
  | apStadisconnected => exact .pure ()
  | other => exact .pure ()

theorem ipEventHandler_alike (e : IpEvent) :
    Alike SameWifi (ipEventHandler e) (ipEventHandler e) := by
  cases e with
  | staGotIp ip netmask gw =>
    exact alike_setWifi fun w => { w with
      ipv4Address := ip
      netmask := netmask
      gateway := gw
      connected := true
      sRetryNum := 0 }
  | other => exact .pure ()

end WiFi

namespace Ble

open Device WiFi

theorem initBlufi_alike (k : Kconfig) (profile : EspErr) (env : InitEnv) :
    Alike SameWifi (initBlufi k profile env) (initBlufi k profile env) :=
  .bind (alike_wifiCall _ _) fun err => .ite (.pure err) (init_alike k .sta env)

theorem initBlufiWith_alike (k : Kconfig) (config : WifiConfig) (profile : EspErr)
    (env : InitEnv) (setConfigErr : EspErr) :
    Alike SameWifi (initBlufiWith k config profile env setConfigErr)
      (initBlufiWith k config profile env setConfigErr) := by
  refine .bind (alike_wifiCall _ _) fun err => .ite (.pure err) ?_
  exact .bind (init_alike k .sta env) fun err => .bind (alike_wifiCall _ _) fun _ => .pure err

theorem deinitBlufi_alike (profile : EspErr) (env : DeinitEnv) :
    Alike SameWifi (deinitBlufi profile env) (deinitBlufi profile env) :=
  .bind (alike_wifiCall _ _) fun err => .ite (.pure err) (deinit_alike env)

end Ble

namespace Device

variable {k : Kconfig} {op : Op} {ops ops' : List Op} {r r' : Driver}

def bleSide (d : Device) : Ble × List (Call × EspErr) := (d.ble, d.told)

theorem bleSide_record (h : c.toPeer = false) (d : Device) (err : EspErr) :
    (d.record c err).bleSide = d.bleSide := by
  rw [bleSide, told_record, if_neg (Bool.eq_false_iff.1 h)]
  rfl

theorem bleSide_settle (r : Device × Option α) : (settle r).bleSide = r.1.bleSide := by
  rw [bleSide, told, settle_ble, settle_log]
  rfl

theorem init_bleSide (k : Kconfig) (setup : WifiSetup) (env : WiFi.InitEnv)
    (b : Ble × List (Call × EspErr)) :
    Keeps (fun d => bleSide d = b) (WiFi.init k setup env) := by
  refine WiFi.init_keeps ?_ (fun _ _ h => h) (fun _ _ h => h) (fun _ _ h => h) k env
  intro c err d hc h
  have hq : c.toPeer = false := by cases c <;> first | rfl | exact hc.elim
  exact (bleSide_record hq d err).trans h

theorem deinit_bleSide (env : WiFi.DeinitEnv) (b : Ble × List (Call × EspErr)) :
    Keeps (fun d => bleSide d = b) (WiFi.deinit env) := by
  refine WiFi.deinit_keeps ?_ (fun _ h => h) (fun _ h => h) env
  intro c err d hc h
  have hq : c.toPeer = false := by cases c <;> first | rfl | exact hc.elim
  exact (bleSide_record hq d err).trans h

/-- What is not an operation of the class `BLE` leaves it as it is and tells its peers nothing. -/
theorem run_bleSide (h : op.onBle = false) (k : Kconfig) (d : Device) :
    (op.run k d).bleSide = d.bleSide := by
  have hq {c : Call} (hc : c.toPeer = false) (e : Device) (err : EspErr)
      (he : e.bleSide = d.bleSide) : (e.record c err).bleSide = d.bleSide :=
    (bleSide_record hc e err).trans he
  cases op with
  | init setup env => exact (bleSide_settle _).trans (init_bleSide k setup env _ d rfl)
  | deinit env => exact (bleSide_settle _).trans (deinit_bleSide env _ d rfl)
  | connect err =>
    change (settle (WiFi.connect err d)).bleSide = _
    rw [WiFi.connect_apply]
    exact bleSide_record rfl d err
  | disconnect err => exact bleSide_record (c := .wifiDisconnect) rfl _ err
  | setConfig i config err => exact bleSide_record rfl d err
  | setWifiMode mode err => exact bleSide_record rfl d err
  | initBlufi profile env =>
    refine (bleSide_settle _).trans ?_
    exact Ble.initBlufi_keeps (fun d err => hq rfl d err) (fun env => init_bleSide k .sta env _)
      profile env d rfl
  | initBlufiWith config profile env setConfigErr =>
    refine (bleSide_settle _).trans ?_
    exact Ble.initBlufiWith_keeps (fun d err => hq rfl d err)
      (fun env => init_bleSide k .sta env _) (fun d _ err => hq rfl d err) config profile env
      setConfigErr d rfl
  | deinitBlufi profile env =>
    refine (bleSide_settle _).trans ?_
    exact Ble.deinitBlufi_keeps (fun d err => hq rfl d err) (fun env => deinit_bleSide env _)
      profile env d rfl
  | setupDefaultBleGapCallback env => cases h
  | wifiEvent e err =>
    cases e with
    | staStart => exact bleSide_record rfl d err
    | staDisconnected => exact bleSide_record (c := .wifiConnect) rfl _ err
    | _ => rfl
  | ipEvent e =>
    cases e with
    | _ => rfl
  | blufi e env => cases h

theorem SameBle.aborting (h : SameBle d d') :
    SameBle { d with aborted := true } { d' with aborted := true } :=
  ⟨h.ble, h.heard, rfl⟩

theorem SameWifi.aborting (h : SameWifi d d') :
    SameWifi { d with aborted := true } { d' with aborted := true } :=
  ⟨h.wifi, h.netifs, rfl⟩

theorem SameBle.run (ho : op.onBle = true) (h : SameBle d d') :
    SameBle (op.run k d) (op.forgetMode.run k d') := by
  have hs {α : Type} {p q : Prog Device α} (hp : Alike SameBle p q) :
      SameBle (settle (p d)) (settle (q d')) :=
    settle_alike (fun _ _ he => he.aborting) hp h
  cases op with
  | setupDefaultBleGapCallback env => exact hs (Ble.setupDefaultBleGapCallback_alike env)
  | blufi e env => exact hs (Ble.callback_alike e env)
  | _ => cases ho

theorem SameWifi.run (ho : op.onWifi = true) (h : SameWifi d d') :
    SameWifi (op.run k d) (op.run k d') := by
  have hs {α : Type} {p : Prog Device α} (hp : Alike SameWifi p p) :
      SameWifi (settle (p d)) (settle (p d')) :=
    settle_alike (fun _ _ he => he.aborting) hp h
  cases op with
  | init setup env => exact hs (WiFi.init_alike k setup env)
  | deinit env => exact hs (WiFi.deinit_alike env)
  | connect err => exact hs (WiFi.connect_alike err)
  | disconnect err => exact hs (WiFi.disconnect_alike err)
  | initBlufi profile env => exact hs (Ble.initBlufi_alike k profile env)
  | initBlufiWith config profile env setConfigErr =>
    exact hs (Ble.initBlufiWith_alike k config profile env setConfigErr)
  | deinitBlufi profile env => exact hs (Ble.deinitBlufi_alike profile env)
  | wifiEvent e err => exact hs (WiFi.wifiEventHandler_alike e err)
  | ipEvent e => exact hs (WiFi.ipEventHandler_alike e)
  | _ => cases ho

theorem SameBle.step (ho : op.onBle = true) (h : SameBle d d') :
    SameBle (d.step k op) (d'.step k op.forgetMode) := by
  unfold Device.step
  rw [h.aborted]
  split
  · exact h
  · exact h.run ho

theorem SameWifi.step (ho : op.onWifi = true) (h : SameWifi d d') :
    SameWifi (d.step k op) (d'.step k op) := by
  unfold Device.step
  rw [h.aborted]
  split
  · exact h
  · exact h.run ho

end Device

end LDM
