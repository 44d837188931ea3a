import LdmLib.Bytes
import LdmLib.Esp

namespace LDM
set_option autoImplicit true

open Bytes

inductive WifiInterface where
  | sta
  | ap
  deriving DecidableEq, Repr

inductive WifiSetup where
  | ap
  | sta
  | apsta
  deriving DecidableEq, Repr

def WifiSetup.covers : WifiSetup → WifiInterface → Bool
  | .ap, .ap => true
  | .sta, .sta => true
  | .apsta, _ => true
  | _, _ => false

inductive AuthMode where
  | open_
  | wep
  | wpaPsk
  | wpa2Psk
  | wpaWpa2Psk
  | wpa2Enterprise
  | wpa3Psk
  | wpa2Wpa3Psk
  | wapiPsk
  deriving DecidableEq, Repr

def AuthMode.code : AuthMode → UInt8
  | .open_ => 0
  | .wep => 1
  | .wpaPsk => 2
  | .wpa2Psk => 3
  | .wpaWpa2Psk => 4
  | .wpa2Enterprise => 5
  | .wpa3Psk => 6
  | .wpa2Wpa3Psk => 7
  | .wapiPsk => 8

def wifiAuthMax : UInt8 := 9

inductive PowerSave where
  | none
  | minModem
  | maxModem
  deriving DecidableEq, Repr

/-- `wifi_mode_t`; a mode that comes from the peer can be any byte. -/
abbrev WifiMode := UInt8

namespace WifiMode

def sta : WifiMode := 1
def ap : WifiMode := 2
def apsta : WifiMode := 3

end WifiMode

def wifiModeMax : WifiMode := 4

def sizeofWifiConfig : Nat := 132

/-- A `wifi_config_t` as the driver holds it. -/
abbrev WifiConfig := Fin sizeofWifiConfig → UInt8

def toConfig (m : Mem) : WifiConfig := fun i => m i

/-- The bytes of a field of the configuration. -/
def WifiConfig.field (c : WifiConfig) (f : Field) : List UInt8 :=
  ((List.ofFn c).drop f.off).take f.width

theorem field_toConfig (h : f.off + f.width ≤ sizeofWifiConfig) (m : Mem) :
    (toConfig m).field f = m.field f := by
  apply List.ext_getElem
  · simp only [WifiConfig.field, List.length_take, List.length_drop, List.length_ofFn,
      length_field]
    omega
  · intro i h1 h2
    simp [WifiConfig.field, Mem.field, toConfig]

namespace Sta

def ssid : Field := ⟨0, 32⟩
def password : Field := ⟨32, 64⟩
def bssidSet : Field := ⟨100, 1⟩
def bssid : Field := ⟨101, 6⟩
def channel : Field := ⟨107, 1⟩
def listenInterval : Field := ⟨108, 2⟩

end Sta

namespace Ap

def ssid : Field := ⟨0, 32⟩
def password : Field := ⟨32, 64⟩
def ssidLen : Field := ⟨96, 1⟩
def channel : Field := ⟨97, 1⟩
def authmode : Field := ⟨100, 4⟩
def ssidHidden : Field := ⟨104, 1⟩
def maxConnection : Field := ⟨105, 1⟩
def beaconInterval : Field := ⟨106, 2⟩

end Ap

def assign (f : Field) (b : UInt8) : List Store := writes f.off [b]

theorem covers_assign (f : Field) (b : UInt8) (h : 1 ≤ f.width) : f.Covers (assign f b) :=
  (f.covers_writes [b]).2 h

/-- `ap.authmode` is assigned: an enumeration is four bytes wide, the lowest first. -/
def assignAuthmode (b : UInt8) : List Store := writes Ap.authmode.off [b, 0, 0, 0]

/-- What `Kconfig.projbuild` sets for the Wi-Fi class at build time. -/
structure Kconfig where
  staSsid : List UInt8
  staPassword : List UInt8
  staHostname : String
  apSsid : List UInt8
  apPassword : List UInt8
  apAuthMode : AuthMode
  apHidden : Bool
  apMaxConnections : UInt8
  apChannel : UInt8
  apHostname : String
  apIpv4 : String
  apGateway : String
  apNetmask : String
  powerSave : PowerSave
  deriving DecidableEq, Repr

namespace Kconfig

/-- The defaults of `Kconfig.projbuild`: `"WIFI_STA_SSID"`, `"WIFI_STA_PASSWORD"` and the like. -/
def defaults : Kconfig where
  staSsid := [0x57, 0x49, 0x46, 0x49, 0x5f, 0x53, 0x54, 0x41, 0x5f, 0x53, 0x53, 0x49, 0x44]
  staPassword := [0x57, 0x49, 0x46, 0x49, 0x5f, 0x53, 0x54, 0x41, 0x5f, 0x50, 0x41, 0x53, 0x53,
    0x57, 0x4f, 0x52, 0x44]
  staHostname := "lildatamonster"
  apSsid := [0x57, 0x49, 0x46, 0x49, 0x5f, 0x41, 0x50, 0x5f, 0x53, 0x53, 0x49, 0x44]
  apPassword := [0x57, 0x49, 0x46, 0x49, 0x5f, 0x41, 0x50, 0x5f, 0x50, 0x41, 0x53, 0x53, 0x57,
    0x4f, 0x52, 0x44]
  apAuthMode := .wpaWpa2Psk
  apHidden := false
  apMaxConnections := 4
  apChannel := 8
  apHostname := "lildatamonster"
  apIpv4 := "192.168.0.2"
  apGateway := "192.168.0.1"
  apNetmask := "255.255.0.0"
  powerSave := .minModem

def staConfig (k : Kconfig) : Mem :=
  (Mem.zero.stores (strcpy Sta.ssid.off k.staSsid)).stores (strcpy Sta.password.off k.staPassword)

def apConfig (k : Kconfig) : Mem :=
  let m := Mem.zero.stores (strcpy Ap.ssid.off k.apSsid)
  let m := m.stores (strcpy Ap.password.off k.apPassword)
  let m := m.stores (assign Ap.ssidLen (UInt8.ofNat (strlen k.apSsid)))
  let m := m.stores (assignAuthmode k.apAuthMode.code)
  let m := m.stores (assign Ap.maxConnection k.apMaxConnections)
  let m := m.stores (assign Ap.channel k.apChannel)
  if k.apHidden then m.stores (assign Ap.ssidHidden 1) else m

end Kconfig

end LDM
