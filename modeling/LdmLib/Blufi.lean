import LdmLib.Wifi

namespace LDM
set_option autoImplicit true

open Bytes Prog

namespace Ble

/-- The statics as the program starts with them, and the constructor. -/
def construct : Ble where
  connected := false
  staConfig := Mem.zero
  apConfig := Mem.zero
  serverIf := 0
  connId := 0
  glStaConnected := false
  glStaBssid := Mem.zero
  glStaSsid := Mem.zero
  glStaSsidLen := 0
  defaultBleAdvData := ⟨false, false, false, 0, 0, 0, 0, 0, [], 0⟩
  defaultBleAdvParams := ⟨0, 0, 0, 0, 0, 0⟩

def config (b : Ble) : WifiInterface → Mem
  | .sta => b.staConfig
  | .ap => b.apConfig

def setConfig (b : Ble) (m : Mem) : WifiInterface → Ble
  | .sta => { b with staConfig := m }
  | .ap => { b with apConfig := m }

@[simp] theorem config_setConfig (b : Ble) (m : Mem) (i : WifiInterface) :
    (b.setConfig m i).config i = m := by
  cases i <;> rfl

theorem config_setConfig_ne (b : Ble) (m : Mem) (h : i ≠ j) :
    (b.setConfig m i).config j = b.config j := by
  cases i <;> cases j <;> first | rfl | exact absurd rfl h

theorem setConfig_glStaConnected (b : Ble) (m : Mem) (i : WifiInterface) :
    (b.setConfig m i).glStaConnected = b.glStaConnected := by
  cases i with
  | _ => rfl

def defaultServiceUuid128 : List UInt8 :=
  [0xfb, 0x34, 0x9b, 0x5f, 0x80, 0x00, 0x00, 0x80, 0x00, 0x10, 0x00, 0x00, 0xFF, 0xFF, 0x00, 0x00]

def advData : AdvData where
  setScanRsp := false
  includeName := true
  includeTxpower := true
  minInterval := 0x0006
  maxInterval := 0x0010
  appearance := 0x00
  manufacturerLen := 0
  serviceDataLen := 0
  serviceUuid := defaultServiceUuid128
  flag := 0x6

/-- `ADV_TYPE_IND`, a public address, all channels, and any device may scan and connect. -/
def advParams : AdvParams := ⟨0x100, 0x100, 0, 0, 7, 0⟩

structure GapEnv where
  configAdvData : EspErr
  startAdvertising : EspErr
  registerCallback : EspErr
  deriving DecidableEq, Repr

def setupDefaultBleGapCallback (env : GapEnv) : Prog Device EspErr := do
  modify fun d => { d with
    ble.glStaConnected := false
    ble.connected := false
    ble.defaultBleAdvData := advData }
  let _ ← call (.bleGapConfigAdvData advData) env.configAdvData
  modify fun d => { d with ble.defaultBleAdvParams := advParams }
  let _ ← call (.bleGapStartAdvertising advParams) env.startAdvertising
  call .bleGapRegisterCallback env.registerCallback

def initBlufi (k : Kconfig) (profile : EspErr) (env : WiFi.InitEnv) : Prog Device EspErr := do
  let err ← call .blufiProfileInit profile
  if err ≠ .ok then return err
  else WiFi.init k .sta env

/-- What `setConfig` returns is not looked at. -/
def initBlufiWith (k : Kconfig) (config : WifiConfig) (profile : EspErr) (env : WiFi.InitEnv)
    (setConfigErr : EspErr) : Prog Device EspErr := do
  let err ← call .blufiProfileInit profile
  if err ≠ .ok then return err
  else
    let err ← WiFi.init k .sta env
    let _ ← WiFi.setConfig .sta config setConfigErr
    return err

def deinitBlufi (profile : EspErr) (env : WiFi.DeinitEnv) : Prog Device EspErr := do
  let err ← call .blufiProfileDeinit profile
  if err ≠ .ok then return err
  else WiFi.deinit env

def isConnected (b : Ble) : Bool := b.connected

/-- The events of the BluFi profile, with what the peer puts in them. A length is an `int` that is
not negative, and the bytes behind a pointer go on past it. -/
inductive BlufiEvent where
  | initFinish
  | deinitFinish
  | bleConnect (serverIf : UInt8) (connId : UInt16)
  | bleDisconnect
  | setWifiOpmode (opMode : WifiMode)
  | reqConnectToAp
  | reqDisconnectFromAp
  | reportError (state : UInt8)
  | getWifiStatus
  | recvSlaveDisconnectBle
  | deauthenticateSta
  | recvStaBssid (bssid : Mem)
  | recvStaSsid (ssid : Mem) (ssidLen : Nat)
  | recvStaPasswd (passwd : Mem) (passwdLen : Nat)
  | recvSoftapSsid (ssid : Mem) (ssidLen : Nat)
  | recvSoftapPasswd (passwd : Mem) (passwdLen : Nat)
  | recvSoftapMaxConnNum (maxConnNum : UInt8)
  | recvSoftapAuthMode (authMode : UInt8)
  | recvSoftapChannel (channel : UInt8)
  | getWifiList
  | recvCustomData
  | recvUsername
  | recvCaCert
  | recvClientCert
  | recvServerCert
  | recvClientPrivKey
  | recvServerPrivKey
  | other

/-- What the underlying calls of the callback return, and the mode that `esp_wifi_get_mode` puts
in its argument. -/
structure CallbackEnv where
  gap : EspErr
  setMode : EspErr
  disconnect : EspErr
  connect : EspErr
  getMode : EspErr
  mode : WifiMode
  blufi : EspErr
  setConfig : EspErr
  scanStart : EspErr
  deriving DecidableEq, Repr

def callbackOk : CallbackEnv := ⟨.ok, .ok, .ok, .ok, .ok, WifiMode.sta, .ok, .ok, .ok⟩

def copyString (f : Field) (src : Mem) (len : Nat) : List Store :=
  strncpy f.off src len ++ [⟨f.off + len, 0⟩]

/-- Stores to the static configuration of an interface, which is then handed to the driver. -/
def recv (i : WifiInterface) (ss : List Store) (err : EspErr) : Prog Device Unit := do
  modify fun d => { d with ble := d.ble.setConfig ((d.ble.config i).stores ss) i }
  let d ← get
  let _ ← call (.wifiSetConfig i (toConfig (d.ble.config i))) err
  pure ()

def getWifiStatus (env : CallbackEnv) : Prog Device Unit := do
  let _ ← call .wifiGetMode env.getMode
  let d ← get
  let report :=
    if d.ble.glStaConnected then
      Call.blufiSendWifiConnReport env.mode .success
        (some ⟨d.ble.glStaBssid.read 6, true, d.ble.glStaSsid, d.ble.glStaSsidLen⟩)
    else .blufiSendWifiConnReport env.mode .fail none
  let _ ← call report env.blufi
  pure ()

def defaultBlufiCallback (e : BlufiEvent) (env : CallbackEnv) : Prog Device Unit :=
  match e with
  | .initFinish => pure ()
  | .deinitFinish => pure ()
  | .bleConnect serverIf connId => do
    modify fun d => { d with
      ble.serverIf := serverIf
      ble.connId := connId }
    let _ ← call .bleGapStopAdvertising env.gap
    pure ()
  | .bleDisconnect => do
    let d ← get
    let _ ← call (.bleGapStartAdvertising d.ble.defaultBleAdvParams) env.gap
    pure ()
  | .setWifiOpmode opMode => errorCheck (.wifiSetMode opMode) env.setMode
  | .reqConnectToAp => do
    let _ ← call .wifiDisconnect env.disconnect
    let _ ← call .wifiConnect env.connect
    pure ()
  | .reqDisconnectFromAp => do
    let _ ← call .wifiDisconnect env.disconnect
    pure ()
  | .reportError state => do
    let _ ← call (.blufiSendErrorInfo state) env.blufi
    pure ()
  | .getWifiStatus => getWifiStatus env
  | .recvSlaveDisconnectBle => do
    let d ← get
    let _ ← call (.blufiClose d.ble.serverIf d.ble.connId) env.blufi
    pure ()
  | .deauthenticateSta => pure ()
  | .recvStaBssid bssid =>
    recv .sta (memcpy Sta.bssid.off bssid 6 ++ assign Sta.bssidSet 1) env.setConfig
  | .recvStaSsid ssid ssidLen => recv .sta (copyString Sta.ssid ssid ssidLen) env.setConfig
  | .recvStaPasswd passwd passwdLen =>
    recv .sta (copyString Sta.password passwd passwdLen) env.setConfig
  | .recvSoftapSsid ssid ssidLen =>
    recv .ap (copyString Ap.ssid ssid ssidLen ++ assign Ap.ssidLen (UInt8.ofNat ssidLen))
      env.setConfig
  | .recvSoftapPasswd passwd passwdLen =>
    recv .ap (copyString Ap.password passwd passwdLen) env.setConfig
  | .recvSoftapMaxConnNum maxConnNum =>
    if maxConnNum > 4 then pure ()
    else recv .ap (assign Ap.maxConnection maxConnNum) env.setConfig
  | .recvSoftapAuthMode authMode =>
    if authMode ≥ wifiAuthMax then pure ()
    else recv .ap (assignAuthmode authMode) env.setConfig
  | .recvSoftapChannel channel =>
    if channel > 13 then pure ()
    else recv .ap (assign Ap.channel channel) env.setConfig
  | .getWifiList => errorCheck .wifiScanStart env.scanStart
  | .recvCustomData => pure ()
  | .recvUsername => pure ()
  | .recvCaCert => pure ()
  | .recvClientCert => pure ()
  | .recvServerCert => pure ()
  | .recvClientPrivKey => pure ()
  | .recvServerPrivKey => pure ()
  | .other => pure ()

end Ble

end LDM
