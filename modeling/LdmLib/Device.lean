import LdmLib.WifiConfig
import LdmLib.Ledger
import LdmLib.Prog

namespace LDM
set_option autoImplicit true

open Bytes

inductive EventBase where
  | wifi
  | ip
  deriving DecidableEq, Repr

structure AdvData where
  setScanRsp : Bool
  includeName : Bool
  includeTxpower : Bool
  minInterval : Nat
  maxInterval : Nat
  appearance : Nat
  manufacturerLen : Nat
  serviceDataLen : Nat
  serviceUuid : List UInt8
  flag : UInt8
  deriving DecidableEq, Repr

structure AdvParams where
  advIntMin : Nat
  advIntMax : Nat
  advType : UInt8
  ownAddrType : UInt8
  channelMap : UInt8
  advFilterPolicy : UInt8
  deriving DecidableEq, Repr

structure ExtraInfo where
  staBssid : List UInt8
  staBssidSet : Bool
  staSsid : Mem
  staSsidLen : Int

inductive ConnState where
  | success
  | fail
  deriving DecidableEq, Repr

/-- The ESP-IDF calls of the Wi-Fi and BLE classes, with what they are given. -/
inductive Call where
  | netifInit
  | eventLoopCreateDefault
  | netifCreateDefaultWifi (i : WifiInterface) (netif : Option Nat)
  | netifSetHostname (netif : Nat) (hostname : String)
  | netifDhcpsStop (netif : Nat)
  | netifSetIpInfo (netif : Nat) (ip gw netmask : String)
  | wifiInit
  | eventHandlerRegister (base : EventBase)
  | wifiSetMode (mode : WifiMode)
  | wifiSetConfig (i : WifiInterface) (config : WifiConfig)
  | wifiStart
  | wifiSetPs (mode : PowerSave)
  | wifiStop
  | wifiDeinit
  | wifiClearDefaultWifiDriverAndHandlers (netif : Nat)
  | netifDestroy (netif : Nat)
  | eventLoopDeleteDefault
  | wifiConnect
  | wifiDisconnect
  | wifiGetMode
  | wifiGetConfig (i : WifiInterface)
  | wifiScanStart
  | bleGapConfigAdvData (data : AdvData)
  | bleGapStartAdvertising (params : AdvParams)
  | bleGapStopAdvertising
  | bleGapRegisterCallback
  | blufiProfileInit
  | blufiProfileDeinit
  | blufiSendErrorInfo (state : UInt8)
  | blufiSendWifiConnReport (mode : WifiMode) (state : ConnState) (info : Option ExtraInfo)
  | blufiClose (serverIf : UInt8) (connId : UInt16)

def Call.netifEvent : Call → Option (Ledger.Event Nat)
  | .netifCreateDefaultWifi _ (some n) => some (.acquire n)
  | .netifSetHostname n _ => some (.use n)
  | .netifDhcpsStop n => some (.use n)
  | .netifSetIpInfo n _ _ _ => some (.use n)
  | .wifiClearDefaultWifiDriverAndHandlers n => some (.use n)
  | .netifDestroy n => some (.release n)
  | _ => none

/-- An object of class `WiFi`, with the statics of the class and of its file. -/
structure WiFi where
  staConfig : Mem
  apConfig : Mem
  powerSaveMode : PowerSave
  netifSta : Option Nat
  netifAp : Option Nat
  connected : Bool
  hosting : Bool
  ipv4Address : BitVec 32
  netmask : BitVec 32
  gateway : BitVec 32
  glStaConnected : Bool
  glStaBssid : Mem
  glStaSsid : Mem
  glStaSsidLen : Int
  sRetryNum : Int

/-- The member `connected` of an object of class `BLE`, and the statics of the class. -/
structure Ble where
  connected : Bool
  staConfig : Mem
  apConfig : Mem
  serverIf : UInt8
  connId : UInt16
  glStaConnected : Bool
  glStaBssid : Mem
  glStaSsid : Mem
  glStaSsidLen : Int
  defaultBleAdvData : AdvData
  defaultBleAdvParams : AdvParams

structure Driver where
  staConfig : WifiConfig
  apConfig : WifiConfig

def Driver.config (d : Driver) : WifiInterface → WifiConfig
  | .sta => d.staConfig
  | .ap => d.apConfig

def Driver.setConfig (d : Driver) (config : WifiConfig) : WifiInterface → Driver
  | .sta => { d with staConfig := config }
  | .ap => { d with apConfig := config }

@[simp] theorem Driver.config_setConfig (d : Driver) (c : WifiConfig) (i : WifiInterface) :
    (d.setConfig c i).config i = c := by
  cases i <;> rfl

theorem Driver.config_setConfig_ne (d : Driver) (c : WifiConfig) (h : i ≠ j) :
    (d.setConfig c i).config j = d.config j := by
  cases i <;> cases j <;> first | rfl | exact absurd rfl h

/-- A device: its Wi-Fi and BLE objects, the driver, the number of netifs created so far, the calls
made with what they returned, newest first, and whether it has aborted. -/
structure Device where
  wifi : WiFi
  ble : Ble
  driver : Driver
  netifs : Nat
  log : List (Call × EspErr)
  aborted : Bool

namespace Device

def effect (c : Call) (err : EspErr) (r : Driver) : Driver :=
  match c with
  | .wifiSetConfig i config => if err = .ok then r.setConfig config i else r
  | _ => r

def record (d : Device) (c : Call) (err : EspErr) : Device :=
  { d with
    driver := effect c err d.driver
    log := (c, err) :: d.log }

def netifEvents (d : Device) : List (Ledger.Event Nat) :=
  d.log.filterMap fun e => e.1.netifEvent

variable {d : Device}

@[simp] theorem record_wifi (c : Call) (err : EspErr) : (d.record c err).wifi = d.wifi := rfl

@[simp] theorem record_ble (c : Call) (err : EspErr) : (d.record c err).ble = d.ble := rfl

@[simp] theorem record_netifs (c : Call) (err : EspErr) : (d.record c err).netifs = d.netifs := rfl

@[simp] theorem record_log (c : Call) (err : EspErr) :
    (d.record c err).log = (c, err) :: d.log := rfl

@[simp] theorem record_driver (c : Call) (err : EspErr) :
    (d.record c err).driver = effect c err d.driver := rfl

theorem netifEvents_record_some (h : c.netifEvent = some e) (err : EspErr) :
    (d.record c err).netifEvents = e :: d.netifEvents :=
  List.filterMap_cons_some h

theorem netifEvents_record_none (h : c.netifEvent = none) (err : EspErr) :
    (d.record c err).netifEvents = d.netifEvents :=
  List.filterMap_cons_none h

end Device

open Prog

def call (c : Call) (err : EspErr) : Prog Device EspErr := do
  modify fun d => d.record c err
  return err

/-- `ESP_ERROR_CHECK`: a call that fails aborts. -/
def errorCheck (c : Call) (err : EspErr) : Prog Device Unit := do
  let err ← call c err
  if err = .ok then pure () else abort

@[simp] theorem call_apply (c : Call) (err : EspErr) (d : Device) :
    call c err d = (d.record c err, some err) := rfl

@[simp] theorem call_bind (c : Call) (err : EspErr) (f : EspErr → Prog Device α) (d : Device) :
    (call c err >>= f) d = f err (d.record c err) := rfl

@[simp] theorem errorCheck_ok (c : Call) (f : Unit → Prog Device α) (d : Device) :
    (errorCheck c .ok >>= f) d = f () (d.record c .ok) := rfl

theorem errorCheck_fail (he : err ≠ .ok) (c : Call) (f : Unit → Prog Device α) (d : Device) :
    (errorCheck c err >>= f) d = (d.record c err, none) := by
  apply bind_none
  rw [errorCheck, call_bind, if_neg he, abort_apply]

@[simp] theorem errorCheck_fst (c : Call) (err : EspErr) (d : Device) :
    (errorCheck c err d).1 = d.record c err := by
  rw [errorCheck, call_bind]
  split
  · rfl
  · rfl

theorem keeps_call {I : Device → Prop} (h : ∀ d, I d → I (d.record c err)) :
    Keeps I (call c err) := h

theorem keeps_errorCheck {I : Device → Prop} (h : ∀ d, I d → I (d.record c err)) :
    Keeps I (errorCheck c err) :=
  (keeps_call h).bind fun _ => .ite (.pure ()) .abort

end LDM
