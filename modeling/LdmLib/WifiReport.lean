import LdmLib.JsonHeap
import LdmLib.Text
import LdmLib.Wifi

namespace LDM
set_option autoImplicit true

open Bytes Text JsonHeap

/-- `wifi_mode_t` as the driver returns it. -/
inductive DriverMode where
  | null
  | sta
  | ap
  | apsta
  | max
  deriving DecidableEq, Repr

inductive Bandwidth where
  | ht20
  | ht40
  deriving DecidableEq, Repr

inductive CountryPolicy where
  | auto
  | manual
  deriving DecidableEq, Repr

inductive SecondChan where
  | none
  | above
  | below
  deriving DecidableEq, Repr

inductive CipherType where
  | none
  | wep40
  | wep104
  | tkip
  | ccmp
  | tkipCcmp
  | aesCmac128
  | sms4
  | unknown
  deriving DecidableEq, Repr

inductive Ant where
  | ant0
  | ant1
  | max
  deriving DecidableEq, Repr

/-- The authentication mode of an access point; `none` is `WIFI_AUTH_MAX`. -/
abbrev ScanAuth := Option AuthMode

def DriverMode.name : DriverMode → String
  | .null => "WIFI_MODE_NULL"
  | .sta => "WIFI_MODE_STA"
  | .ap => "WIFI_MODE_AP"
  | .apsta => "WIFI_MODE_APSTA"
  | .max => "WIFI_MODE_MAX"

def Bandwidth.name : Bandwidth → String
  | .ht20 => "WIFI_BW_HT20"
  | .ht40 => "WIFI_BW_HT40"

def CountryPolicy.name : CountryPolicy → String
  | .auto => "WIFI_COUNTRY_POLICY_AUTO"
  | .manual => "WIFI_COUNTRY_POLICY_MANUAL"

def CountryPolicy.bytes : CountryPolicy → List UInt8
  | .auto => [0, 0, 0, 0]
  | .manual => [1, 0, 0, 0]

def SecondChan.name : SecondChan → String
  | .none => "WIFI_SECOND_CHAN_NONE"
  | .above => "WIFI_SECOND_CHAN_ABOVE"
  | .below => "WIFI_SECOND_CHAN_BELOW"

def CipherType.name : CipherType → String
  | .none => "WIFI_CIPHER_TYPE_NONE"
  | .wep40 => "WIFI_CIPHER_TYPE_WEP40"
  | .wep104 => "WIFI_CIPHER_TYPE_WEP104"
  | .tkip => "WIFI_CIPHER_TYPE_TKIP"
  | .ccmp => "WIFI_CIPHER_TYPE_CCMP"
  | .tkipCcmp => "WIFI_CIPHER_TYPE_TKIP_CCMP"
  | .aesCmac128 => "WIFI_CIPHER_TYPE_AES_CMAC128"
  | .sms4 => "WIFI_CIPHER_TYPE_SMS4"
  | .unknown => "WIFI_CIPHER_TYPE_UNKNOWN"

def Ant.name : Ant → String
  | .ant0 => "WIFI_ANT_ANT0"
  | .ant1 => "WIFI_ANT_ANT1"
  | .max => "WIFI_ANT_MAX"

def AuthMode.name : AuthMode → String
  | .open_ => "WIFI_AUTH_OPEN"
  | .wep => "WIFI_AUTH_WEP"
  | .wpaPsk => "WIFI_AUTH_WPA_PSK"
  | .wpa2Psk => "WIFI_AUTH_WPA2_PSK"
  | .wpaWpa2Psk => "WIFI_AUTH_WPA_WPA2_PSK"
  | .wpa2Enterprise => "WIFI_AUTH_WPA2_ENTERPRISE"
  | .wpa3Psk => "WIFI_AUTH_WPA3_PSK"
  | .wpa2Wpa3Psk => "WIFI_AUTH_WPA2_WPA3_PSK"
  | .wapiPsk => "WIFI_AUTH_WAPI_PSK"

def ScanAuth.name : ScanAuth → String
  | some a => a.name
  | none => "WIFI_AUTH_MAX"

def PowerSave.name : PowerSave → String
  | .none => "WIFI_PS_NONE"
  | .minModem => "WIFI_PS_MIN_MODEM"
  | .maxModem => "WIFI_PS_MAX_MODEM"

/-- `config.ap.authmode`, if it is a declared value; a configuration can hold others. -/
def WifiConfig.authmode (c : WifiConfig) : Option ScanAuth :=
  match c.field Ap.authmode with
  | [0, 0, 0, 0] => some (some .open_)
  | [1, 0, 0, 0] => some (some .wep)
  | [2, 0, 0, 0] => some (some .wpaPsk)
  | [3, 0, 0, 0] => some (some .wpa2Psk)
  | [4, 0, 0, 0] => some (some .wpaWpa2Psk)
  | [5, 0, 0, 0] => some (some .wpa2Enterprise)
  | [6, 0, 0, 0] => some (some .wpa3Psk)
  | [7, 0, 0, 0] => some (some .wpa2Wpa3Psk)
  | [8, 0, 0, 0] => some (some .wapiPsk)
  | [9, 0, 0, 0] => some none
  | _ => none

/-- An unsigned field, the lowest byte first. -/
def WifiConfig.number (c : WifiConfig) (f : Field) : Nat :=
  (c.field f).foldr (fun b n => b.toNat + 256 * n) 0

/-- The string that begins where the field does, wherever it ends. -/
def WifiConfig.string (c : WifiConfig) (f : Field) (beyond : CString) : List UInt8 :=
  cstring ((List.ofFn c).drop f.off) beyond

/-- The compiler puts two bytes of padding before `policy`. -/
structure Country where
  cc : Vector UInt8 3
  schan : UInt8
  nchan : UInt8
  maxTxPower : Int8
  policy : CountryPolicy
  deriving DecidableEq, Repr

namespace Country

def beforePadding (c : Country) : List UInt8 :=
  c.cc.toList ++ [c.schan, c.nchan, c.maxTxPower.toUInt8]

/-- What is read on from the padding; the policy ends it if the padding does not. -/
def fromPadding (c : Country) (padding : Vector UInt8 2) : CString :=
  .upToNul (padding.toList ++ c.policy.bytes)

/-- What is read as the country code: nothing makes `cc` end it. -/
def code (c : Country) (padding : Vector UInt8 2) : List UInt8 :=
  cstring c.beforePadding (c.fromPadding padding)

end Country

structure ApRecord where
  bssid : Vector UInt8 6
  ssid : CString
  primary : UInt8
  second : SecondChan
  rssi : Int8
  authmode : ScanAuth
  pairwiseCipher : CipherType
  groupCipher : CipherType
  ant : Ant
  phy11b : Bool
  phy11g : Bool
  phy11n : Bool
  phyLr : Bool
  wps : Bool
  reserved : UInt32
  country : Country
  deriving DecidableEq, Repr

/-- What the driver queries return, where they succeed. -/
structure Queries where
  mode : Option DriverMode
  config : WifiInterface → Option WifiConfig
  country : Option Country
  bandwidth : WifiInterface → Option Bandwidth
  powerSave : Option PowerSave
  apInfo : Option ApRecord

/-- What the stack frame happens to hold: `country.policy` before it is assigned, if that is a
declared value, what follows `config` while each configuration is read, and the padding in `country`
and in `ap_info.country`. -/
structure Leftover where
  policy : Option CountryPolicy
  beyond : WifiInterface → CString
  padding : Vector UInt8 2
  apPadding : Vector UInt8 2

namespace WiFi

def addString (p : Nat) (key s : String) : Prog Heap Unit := add p (some key) (.string (ascii s))

/-- A section that is one string: the name of the value, or `"NONE"` if the query failed. -/
def addName (jsonRoot : Nat) (key : String) (name : Option String) : Prog Heap Unit :=
  match name with
  | none => addString jsonRoot key "NONE"
  | some n => addString jsonRoot key n

def staConfigLeaves (c : WifiConfig) (beyond : CString) : List Leaf :=
  [stringLeaf "ssid" (c.string Sta.ssid beyond),
    stringLeaf "password" (c.string Sta.password beyond),
    boolLeaf "bssid_set" (c.number Sta.bssidSet != 0),
    stringLeaf "bssid" (snprintf 18 (macFormat (c.field Sta.bssid))),
    numberLeaf "channel" (c.number Sta.channel),
    numberLeaf "listen_interval" (c.number Sta.listenInterval)]

def apConfigLeaves (c : WifiConfig) (beyond : CString) : List Leaf :=
  [stringLeaf "ssid" (c.string Ap.ssid beyond),
    stringLeaf "password" (c.string Ap.password beyond),
    numberLeaf "ssid_len" (c.number Ap.ssidLen)] ++
  caseLeaf "authmode" (c.authmode.map ScanAuth.name) ++
  [numberLeaf "channel" (c.number Ap.channel), numberLeaf "ssid_hidden" (c.number Ap.ssidHidden),
    numberLeaf "max_connection" (c.number Ap.maxConnection),
    numberLeaf "beacon_interval" (c.number Ap.beaconInterval)]

/-- The policy is not taken from the country but from what the code has in `country.policy`. -/
def countryLeaves (c : Country) (padding : Vector UInt8 2) (policy : Option CountryPolicy) :
    List Leaf :=
  [stringLeaf "country_code" (c.code padding), numberLeaf "start_channel" c.schan.toNat,
    numberLeaf "total_channel_num" c.nchan.toNat, numberLeaf "max_tx_power" c.maxTxPower.toInt] ++
  caseLeaf "country_policy" (policy.map CountryPolicy.name)

def apInfoLeaves (a : ApRecord) : List Leaf :=
  [stringLeaf "bssid" (snprintf 18 (macFormat a.bssid.toList)), stringLeaf "ssid" a.ssid.bytes,
    numberLeaf "primary_channel" a.primary.toNat] ++
  caseLeaf "secondary_channel" (some a.second.name) ++
  [numberLeaf "rssi" a.rssi.toInt] ++
  caseLeaf "authmode" (some a.authmode.name) ++
  caseLeaf "pairwise_cipher" (some a.pairwiseCipher.name) ++
  caseLeaf "group_cipher" (some a.groupCipher.name) ++
  caseLeaf "antenna" (some a.ant.name) ++
  [numberLeaf "phy_11b" a.phy11b.toNat, numberLeaf "phy_11g" a.phy11g.toNat,
    numberLeaf "phy_11n" a.phy11n.toNat, numberLeaf "phy_lr" a.phyLr.toNat,
    numberLeaf "wps" a.wps.toNat, numberLeaf "reserved" a.reserved.toNat]

def ipLeaves (w : WiFi) : List Leaf :=
  [stringLeaf "ipv4" (snprintf 16 (ipFormat (ipBytes w.ipv4Address))),
    stringLeaf "netmask" (snprintf 16 (ipFormat (ipBytes w.netmask))),
    stringLeaf "gateway" (snprintf 16 (ipFormat (ipBytes w.gateway)))]

/-- The object is created before the query, filled and added if that succeeds, and left if not. -/
def addObject (jsonRoot : Nat) (key : String) (fill : Option (Nat → Prog Heap Unit)) :
    Prog Heap Unit := do
  let json ← create .object
  match fill with
  | none => addString jsonRoot key "NONE"
  | some f => do
    f json
    addItem jsonRoot (some key) json

def fillStaConfig (beyond : CString) (c : WifiConfig) (json : Nat) : Prog Heap Unit :=
  addEach json (staConfigLeaves c beyond)

def fillApConfig (beyond : CString) (c : WifiConfig) (json : Nat) : Prog Heap Unit :=
  addEach json (apConfigLeaves c beyond)

def fillCountry (padding : Vector UInt8 2) (c : Country) (json : Nat) : Prog Heap Unit :=
  addEach json (countryLeaves c padding (some c.policy))

def fillApInfo (padding : Vector UInt8 2) (policy : Option CountryPolicy) (a : ApRecord)
    (json : Nat) : Prog Heap Unit := do
  addEach json (apInfoLeaves a)
  let jsonCountry ← create .object
  addEach jsonCountry (countryLeaves a.country padding policy)
  addItem json (some "country") jsonCountry

/-- The addresses go under `"connected_ap"`. -/
def addIpAddress (jsonRoot : Nat) (w : WiFi) : Prog Heap Unit := do
  let jsonWifiIp ← create .object
  if w.connected = false then
    addString jsonRoot "ip_address" "NONE"
  else
    addEach jsonWifiIp w.ipLeaves
    addItem jsonRoot (some "connected_ap") jsonWifiIp

/-- All that `buildJson` depends on. -/
structure Inputs where
  wifi : WiFi
  queries : Queries
  leftover : Leftover

namespace Inputs

/-- What `country.policy` holds once the country was asked for. -/
def policy (r : Inputs) : Option CountryPolicy :=
  match r.queries.country with
  | some c => some c.policy
  | none => r.leftover.policy

end Inputs

def buildSections (r : Inputs) (jsonRoot : Nat) : Prog Heap Unit := do
  addName jsonRoot "mode" (r.queries.mode.map DriverMode.name)
  addObject jsonRoot "config_sta_mode"
    ((r.queries.config .sta).map (fillStaConfig (r.leftover.beyond .sta)))
  addObject jsonRoot "config_ap_mode"
    ((r.queries.config .ap).map (fillApConfig (r.leftover.beyond .ap)))
  addObject jsonRoot "country" (r.queries.country.map (fillCountry r.leftover.padding))
  addName jsonRoot "sta_bandwidth" ((r.queries.bandwidth .sta).map Bandwidth.name)
  addName jsonRoot "ap_bandwidth" ((r.queries.bandwidth .ap).map Bandwidth.name)
  addName jsonRoot "power_save" (r.queries.powerSave.map PowerSave.name)
  addObject jsonRoot "connected_ap"
    (r.queries.apInfo.map (fillApInfo r.leftover.apPadding r.policy))
  addIpAddress jsonRoot r.wifi

def buildJson (r : Inputs) : Prog Heap Nat := do
  let jsonRoot ← create .object
  buildSections r jsonRoot
  return jsonRoot

inductive Section where
  | mode
  | configStaMode
  | configApMode
  | country
  | staBandwidth
  | apBandwidth
  | powerSave
  | connectedAp
  | ipAddress
  deriving DecidableEq, Repr

namespace Section

def all : List Section :=
  [mode, configStaMode, configApMode, country, staBandwidth, apBandwidth, powerSave, connectedAp,
    ipAddress]

theorem mem_all (s : Section) : s ∈ all := by
  cases s <;> decide

def key : Section → String
  | mode => "mode"
  | configStaMode => "config_sta_mode"
  | configApMode => "config_ap_mode"
  | country => "country"
  | staBandwidth => "sta_bandwidth"
  | apBandwidth => "ap_bandwidth"
  | powerSave => "power_save"
  | connectedAp => "connected_ap"
  | ipAddress => "ip_address"

end Section

def textValue (s : String) : Json := .node (.string (ascii s)) []

def nameValue (name : Option String) : Json :=
  match name with
  | none => textValue "NONE"
  | some n => textValue n

def objectValue (items : Option (List (KeyedTree.Item Kind))) : Json :=
  match items with
  | none => textValue "NONE"
  | some vs => .node .object vs

def apInfoItems (padding : Vector UInt8 2) (policy : Option CountryPolicy) (a : ApRecord) :
    List (KeyedTree.Item Kind) :=
  (apInfoLeaves a).map leaf ++
    [(some "country", .node .object ((countryLeaves a.country padding policy).map leaf))]

namespace Inputs

/-- The key a section is stored under. -/
def key (r : Inputs) : Section → String
  | .ipAddress => if r.wifi.connected then "connected_ap" else "ip_address"
  | s => s.key

def value (r : Inputs) : Section → Json
  | .mode => nameValue (r.queries.mode.map DriverMode.name)
  | .configStaMode =>
    objectValue ((r.queries.config .sta).map fun c =>
      (staConfigLeaves c (r.leftover.beyond .sta)).map leaf)
  | .configApMode =>
    objectValue ((r.queries.config .ap).map fun c =>
      (apConfigLeaves c (r.leftover.beyond .ap)).map leaf)
  | .country =>
    objectValue (r.queries.country.map fun c =>
      (countryLeaves c r.leftover.padding (some c.policy)).map leaf)
  | .staBandwidth => nameValue ((r.queries.bandwidth .sta).map Bandwidth.name)
  | .apBandwidth => nameValue ((r.queries.bandwidth .ap).map Bandwidth.name)
  | .powerSave => nameValue (r.queries.powerSave.map PowerSave.name)
  | .connectedAp => objectValue (r.queries.apInfo.map (apInfoItems r.leftover.apPadding r.policy))
  | .ipAddress => objectValue (if r.wifi.connected then some (r.wifi.ipLeaves.map leaf) else none)

def item (r : Inputs) (s : Section) : KeyedTree.Item Kind := (some (r.key s), r.value s)

def report (r : Inputs) : List (KeyedTree.Item Kind) := Section.all.map r.item

/-- How many objects are created and not added. -/
def lost (r : Inputs) : Nat :=
  (if r.queries.config .sta = none then 1 else 0) + (if r.queries.config .ap = none then 1 else 0) +
  (if r.queries.country = none then 1 else 0) + (if r.queries.apInfo = none then 1 else 0) +
  (if r.wifi.connected = false then 1 else 0)

end Inputs

theorem builds_addName (p : Nat) (key : String) (name : Option String) :
    Builds p (addName p key name) [(some key, nameValue name)] 0 := by
  cases name with
  | none => exact .add p (some key) _
  | some n => exact .add p (some key) _

theorem builds_addObject {fill : α → Nat → Prog Heap Unit} {items : α → List (KeyedTree.Item Kind)}
    (hf : ∀ a o, Builds o (fill a o) (items a) 0) (p : Nat) (key : String) (q : Option α) :
    Builds p (addObject p key (q.map fill)) [(some key, objectValue (q.map items))]
      (if q = none then 1 else 0) := by
  cases q with
  | none => exact (Builds.add p (some key) _).lose .object
  | some a => exact .attach (hf a) p (some key) .object

theorem builds_fillApInfo (padding : Vector UInt8 2) (policy : Option CountryPolicy) (a : ApRecord)
    (o : Nat) : Builds o (fillApInfo padding policy a o) (apInfoItems padding policy a) 0 :=
  (Builds.addEach o (apInfoLeaves a)).seq
    (.attach (fun o' => .addEach o' (countryLeaves a.country padding policy)) o (some "country")
      .object)

theorem builds_addIpAddress (r : Inputs) (p : Nat) :
    Builds p (addIpAddress p r.wifi) [r.item .ipAddress]
      (if r.wifi.connected = false then 1 else 0) := by
  rw [addIpAddress, Inputs.item, Inputs.key, Inputs.value]
  cases r.wifi.connected with
  | false => exact (Builds.add p (some "ip_address") _).lose .object
  | true => exact .attach (fun o => .addEach o r.wifi.ipLeaves) p (some "connected_ap") .object

theorem builds_sections (r : Inputs) (p : Nat) :
    Builds p (buildSections r p) r.report r.lost := by
  have h := (builds_addName p "mode" (r.queries.mode.map DriverMode.name)).seq <|
    (builds_addObject (fun c o => .addEach o (staConfigLeaves c (r.leftover.beyond .sta))) p
      "config_sta_mode" (r.queries.config .sta)).seq <|
    (builds_addObject (fun c o => .addEach o (apConfigLeaves c (r.leftover.beyond .ap))) p
      "config_ap_mode" (r.queries.config .ap)).seq <|
    (builds_addObject (fun c o => .addEach o (countryLeaves c r.leftover.padding (some c.policy))) p
      "country" r.queries.country).seq <|
    (builds_addName p "sta_bandwidth" ((r.queries.bandwidth .sta).map Bandwidth.name)).seq <|
    (builds_addName p "ap_bandwidth" ((r.queries.bandwidth .ap).map Bandwidth.name)).seq <|
    (builds_addName p "power_save" (r.queries.powerSave.map PowerSave.name)).seq <|
    (builds_addObject (builds_fillApInfo r.leftover.apPadding r.policy) p "connected_ap"
      r.queries.apInfo).seq <|
    builds_addIpAddress r p
  simp only [Nat.zero_add, ← Nat.add_assoc] at h
  exact h

/-- What `buildJson` returns says the sections in order. -/
theorem buildJson_returned (r : Inputs) :
    returned (buildJson r) = some (.node .object r.report) :=
  (builds_sections r 0).returned .object

theorem buildJson_frees_iff (r : Inputs) : Frees (buildJson r) ↔ r.lost = 0 :=
  (builds_sections r 0).frees_iff .object

/-- `cJSON_Delete` of the result frees all nodes exactly when each query for an object succeeds and
the station is connected. -/
theorem report_freed_iff (r : Inputs) :
    Frees (buildJson r) ↔
      (∀ i, r.queries.config i ≠ none) ∧ r.queries.country ≠ none ∧ r.queries.apInfo ≠ none ∧
        r.wifi.connected = true := by
  have hconfig : (∀ i, r.queries.config i ≠ none) ↔
      r.queries.config .sta ≠ none ∧ r.queries.config .ap ≠ none := by
    apply Iff.intro
    · intro h
      exact ⟨h .sta, h .ap⟩
    · intro h i
      cases i with
      | sta => exact h.1
      | ap => exact h.2
  have hone (c : Prop) [Decidable c] : (if c then 1 else 0) = 0 ↔ ¬ c := by simp
  rw [buildJson_frees_iff, Inputs.lost, Nat.add_eq_zero_iff, Nat.add_eq_zero_iff,
    Nat.add_eq_zero_iff, Nat.add_eq_zero_iff, hone, hone, hone, hone, hone, hconfig,
    Bool.not_eq_false, and_assoc, and_assoc, and_assoc]

/-- A station that has just been constructed, with a driver that answers nothing. -/
def unanswered : Inputs where
  wifi := construct Kconfig.defaults
  queries := ⟨none, fun _ => none, none, fun _ => none, none, none⟩
  leftover := ⟨none, fun _ => .empty, .replicate 2 0, .replicate 2 0⟩

theorem report_not_freed : ¬ Frees (buildJson unanswered) := by decide

end WiFi

end LDM
