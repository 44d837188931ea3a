import LdmLib.Blufi
import LdmLib.Thread

namespace LDM
set_option autoImplicit true

/-- What a task does in one go: a call that by itself would return `err`, or an access to memory. -/
inductive Action where
  | call (c : Call) (err : EspErr)
  | modify (f : Device → Device)
  | get

def Action.Reply : Action → Type
  | .call _ _ => EspErr
  | .modify _ => Unit
  | .get => Device

abbrev Task (α : Type) : Type := Thread Action Action.Reply α

/-- A task alone: every call returns what it would by itself. -/
def Action.alone (a : Action) : Prog Device a.Reply :=
  match a with
  | Action.call c err => LDM.call c err
  | Action.modify f => Prog.modify f
  | Action.get => Prog.get

def taskCall (c : Call) (err : EspErr) : Task EspErr := Thread.perform (Action.call c err)

def taskModify (f : Device → Device) : Task Unit := Thread.perform (Action.modify f)

def taskGet : Task Device := Thread.perform Action.get

def taskErrorCheck (c : Call) (err : EspErr) : Task Unit := do
  let err ← taskCall c err
  if err = .ok then pure () else Thread.abort

def taskOnlyIf (c : Prop) [Decidable c] (a : α) (t : Task α) : Task α := if c then t else pure a

def alone (t : Task α) : Prog Device α := t.run Action.alone

@[simp] theorem alone_pure (a : α) : alone (pure a) = pure a := rfl

@[simp] theorem alone_abort : alone (Thread.abort : Task α) = Prog.abort := rfl

@[simp] theorem alone_bind (t : Task α) (f : α → Task β) :
    alone (t >>= f) = alone t >>= fun a => alone (f a) :=
  Thread.run_bind Action.alone t f

@[simp] theorem alone_ite (p : Prop) [Decidable p] (t u : Task α) :
    alone (if p then t else u) = if p then alone t else alone u :=
  Thread.run_ite Action.alone p t u

@[simp] theorem alone_call (c : Call) (err : EspErr) : alone (taskCall c err) = call c err :=
  Thread.run_perform Action.alone (Action.call c err)

@[simp] theorem alone_modify (f : Device → Device) : alone (taskModify f) = Prog.modify f :=
  Thread.run_perform Action.alone (Action.modify f)

@[simp] theorem alone_get : alone taskGet = Prog.get :=
  Thread.run_perform Action.alone Action.get

@[simp] theorem alone_errorCheck (c : Call) (err : EspErr) :
    alone (taskErrorCheck c err) = errorCheck c err := by
  simp only [taskErrorCheck, errorCheck, alone_bind, alone_call, alone_ite, alone_pure, alone_abort]

@[simp] theorem alone_onlyIf (c : Prop) [Decidable c] (a : α) (t : Task α) :
    alone (taskOnlyIf c a t) = Prog.onlyIf c a (alone t) :=
  alone_ite c t (pure a)

namespace WiFi

def netifCreateTask (i : WifiInterface) (created : Bool) : Task (Option Nat) := do
  let d ← taskGet
  if created then
    let _ ← taskCall (.netifCreateDefaultWifi i (some d.netifs)) .ok
    taskModify fun d => { d with netifs := d.netifs + 1 }
    return some d.netifs
  else
    let _ ← taskCall (.netifCreateDefaultWifi i none) .fail
    return none

def initStaTask (k : Kconfig) (env : InitEnv) : Task EspErr := do
  let netif ← netifCreateTask .sta env.createSta
  taskModify fun d => { d with wifi.netifSta := netif }
  match netif with
  | some n => taskCall (.netifSetHostname n k.staHostname) env.staHostname
  | none => Thread.abort

def initApTask (k : Kconfig) (env : InitEnv) : Task Unit := do
  let netif ← netifCreateTask .ap env.createAp
  taskModify fun d => { d with wifi.netifAp := netif }
  match netif with
  | some n => do
    taskErrorCheck (.netifSetHostname n k.apHostname) env.apHostname
    taskErrorCheck (.netifDhcpsStop n) env.dhcpsStop
    taskErrorCheck (.netifSetIpInfo n k.apIpv4 k.apGateway k.apNetmask) env.setIpInfo
  | none => Thread.abort

def initModeTask (setup : WifiSetup) (env : InitEnv) : Task Unit := do
  let d ← taskGet
  match setup with
  | .sta => do
    taskErrorCheck (.wifiSetMode WifiMode.sta) env.setMode
    taskErrorCheck (.wifiSetConfig .sta (toConfig d.wifi.staConfig)) env.setStaConfig
  | .ap => do
    taskErrorCheck (.wifiSetMode WifiMode.ap) env.setMode
    taskErrorCheck (.wifiSetConfig .ap (toConfig d.wifi.apConfig)) env.setApConfig
  | .apsta => do
    taskErrorCheck (.wifiSetMode WifiMode.apsta) env.setMode
    taskErrorCheck (.wifiSetConfig .sta (toConfig d.wifi.staConfig)) env.setStaConfig
    taskErrorCheck (.wifiSetConfig .ap (toConfig d.wifi.apConfig)) env.setApConfig

def initDriverTask (setup : WifiSetup) (env : InitEnv) : Task Unit := do
  taskErrorCheck .wifiInit env.wifiInit
  taskErrorCheck (.eventHandlerRegister .wifi) env.registerWifi
  taskErrorCheck (.eventHandlerRegister .ip) env.registerIp
  initModeTask setup env
  taskErrorCheck .wifiStart env.start
  let d ← taskGet
  let _ ← taskCall (.wifiSetPs d.wifi.powerSaveMode) env.setPs
  pure ()

def initTask (k : Kconfig) (setup : WifiSetup) (env : InitEnv) : Task EspErr := do
  taskErrorCheck .netifInit env.netifInit
  taskErrorCheck .eventLoopCreateDefault env.eventLoopCreate
  let err ← taskOnlyIf (setup = .sta ∨ setup = .apsta) .ok (initStaTask k env)
  taskOnlyIf (setup = .ap ∨ setup = .apsta) () (initApTask k env)
  initDriverTask setup env
  return err

def netifDisposeTask (n : Nat) (clear : EspErr) : Task EspErr := do
  let err ← taskCall (.wifiClearDefaultWifiDriverAndHandlers n) clear
  let _ ← taskCall (.netifDestroy n) .ok
  return err

def deinitStaTask (env : DeinitEnv) : Task EspErr := do
  let d ← taskGet
  match d.wifi.netifSta with
  | some n => do
    let err ← netifDisposeTask n env.clearSta
    taskModify fun d => { d with wifi.netifSta := none }
    return err
  | none => return .ok

def deinitApTask (env : DeinitEnv) : Task EspErr := do
  let d ← taskGet
  match d.wifi.netifAp with
  | some n => do
    let err ← netifDisposeTask n env.clearAp
    taskModify fun d => { d with wifi.netifSta := none }
    return err
  | none => return .ok

def deinitTask (env : DeinitEnv) : Task EspErr := do
  let err ← taskCall .wifiStop env.stop
  if err ≠ .ok then return err
  else
    let err ← taskCall .wifiDeinit env.wifiDeinit
    if err ≠ .ok then return err
    else
      let errSta ← deinitStaTask env
      let errAp ← deinitApTask env
      taskErrorCheck .eventLoopDeleteDefault env.eventLoopDelete
      taskModify fun d => { d with wifi.connected := false }
      return errSta ||| errAp

@[simp] theorem alone_netifCreateTask (i : WifiInterface) (created : Bool) :
    alone (netifCreateTask i created) = netifCreate i created := by
  simp only [netifCreateTask, netifCreate, alone_bind, alone_get, alone_ite, alone_call,
    alone_modify, alone_pure]
  funext d
  cases created with
  | true => rfl
  | false => rfl

@[simp] theorem alone_initStaTask (k : Kconfig) (env : InitEnv) :
    alone (initStaTask k env) = initSta k env := by
  simp only [initStaTask, initSta, alone_bind, alone_netifCreateTask, alone_modify]
  congr
  funext n
  congr
  funext _
  cases n with
  | none => rfl
  | some n => exact alone_call _ _

@[simp] theorem alone_initApTask (k : Kconfig) (env : InitEnv) :
    alone (initApTask k env) = initAp k env := by
  simp only [initApTask, initAp, alone_bind, alone_netifCreateTask, alone_modify]
  congr
  funext n
  congr
  funext _
  cases n with
  | none => rfl
  | some n => simp only [alone_bind, alone_errorCheck]

@[simp] theorem alone_initModeTask (setup : WifiSetup) (env : InitEnv) :
    alone (initModeTask setup env) = initMode setup env := by
  simp only [initModeTask, initMode, alone_bind, alone_get]
  congr
  funext d
  cases setup with
  | _ => simp only [alone_bind, alone_errorCheck]

@[simp] theorem alone_initDriverTask (setup : WifiSetup) (env : InitEnv) :
    alone (initDriverTask setup env) = initDriver setup env := by
  simp only [initDriverTask, initDriver, alone_bind, alone_errorCheck, alone_initModeTask,
    alone_get, alone_call, alone_pure]

/-- Where nobody comes between, the task is the function. -/
theorem alone_initTask (k : Kconfig) (setup : WifiSetup) (env : InitEnv) :
    alone (initTask k setup env) = init k setup env := by
  simp only [initTask, init, alone_bind, alone_errorCheck, alone_onlyIf, alone_initStaTask,
    alone_initApTask, alone_initDriverTask, alone_pure]

@[simp] theorem alone_netifDisposeTask (n : Nat) (clear : EspErr) :
    alone (netifDisposeTask n clear) = netifDispose n clear := by
  simp only [netifDisposeTask, netifDispose, alone_bind, alone_call, alone_pure]

@[simp] theorem alone_deinitStaTask (env : DeinitEnv) :
    alone (deinitStaTask env) = deinitSta env := by
  simp only [deinitStaTask, deinitSta, alone_bind, alone_get]
  congr
  funext d
  cases d.wifi.netifSta with
  | none => rfl
  | some n => simp only [alone_bind, alone_netifDisposeTask, alone_modify, alone_pure]

@[simp] theorem alone_deinitApTask (env : DeinitEnv) :
    alone (deinitApTask env) = deinitAp env := by
  simp only [deinitApTask, deinitAp, alone_bind, alone_get]
  congr
  funext d
  cases d.wifi.netifAp with
  | none => rfl
  | some n => simp only [alone_bind, alone_netifDisposeTask, alone_modify, alone_pure]

theorem alone_deinitTask (env : DeinitEnv) : alone (deinitTask env) = deinit env := by
  simp only [deinitTask, deinit, alone_bind, alone_call, alone_ite, alone_deinitStaTask,
    alone_deinitApTask, alone_errorCheck, alone_modify, alone_pure]

end WiFi

namespace Ble

def initBlufiWithTask (k : Kconfig) (config : WifiConfig) (profile : EspErr) (env : WiFi.InitEnv)
    (setConfigErr : EspErr) : Task EspErr := do
  let err ← taskCall .blufiProfileInit profile
  if err ≠ .ok then return err
  else
    let err ← WiFi.initTask k .sta env
    let _ ← taskCall (.wifiSetConfig .sta config) setConfigErr
    return err

theorem alone_initBlufiWithTask (k : Kconfig) (config : WifiConfig) (profile : EspErr)
    (env : WiFi.InitEnv) (setConfigErr : EspErr) :
    alone (initBlufiWithTask k config profile env setConfigErr) =
      initBlufiWith k config profile env setConfigErr := by
  simp only [initBlufiWithTask, initBlufiWith, alone_bind, alone_call, alone_ite, alone_pure,
    WiFi.alone_initTask]
  rfl

end Ble

end LDM
