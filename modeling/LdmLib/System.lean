import LdmLib.JsonHeap
import Mathlib.Data.List.Basic

namespace LDM
set_option autoImplicit true

open Text JsonHeap

inductive MacType where
  | wifiSta
  | wifiSoftap
  | bt
  | eth
  deriving DecidableEq, Repr

/-- `esp_chip_model_t`; the driver knows chips that the report does not. -/
inductive ChipModel where
  | esp32
  | esp32s2
  | esp32s3
  | esp32c3
  | unlisted
  deriving DecidableEq, Repr

inductive ResetReason where
  | unknown
  | poweron
  | ext
  | sw
  | panic
  | intWdt
  | taskWdt
  | wdt
  | deepsleep
  | brownout
  | sdio
  deriving DecidableEq, Repr

inductive PartitionType where
  | app
  | data
  | unlisted
  deriving DecidableEq, Repr

/-- `esp_partition_subtype_t`, the values that have two names once. -/
inductive PartitionSubtype where
  | appFactory
  | appOta (n : Fin 16)
  | appTest
  | dataPhy
  | dataNvs
  | dataCoredump
  | dataNvsKeys
  | dataEfuseEm
  | dataEsphttpd
  | dataFat
  | dataSpiffs
  | any
  | unlisted
  deriving DecidableEq, Repr

def MacType.all : List MacType := [.wifiSta, .wifiSoftap, .bt, .eth]

theorem MacType.mem_all (t : MacType) : t ∈ all := by
  cases t <;> decide

def MacType.key : MacType → String
  | .wifiSta => "wifi_station"
  | .wifiSoftap => "wifi_softap"
  | .bt => "bluetooth"
  | .eth => "ethernet"

def ChipModel.name : ChipModel → Option String
  | .esp32 => some "CHIP_ESP32"
  | .esp32s2 => some "CHIP_ESP32S2"
  | .esp32s3 => some "CHIP_ESP32S3"
  | .esp32c3 => some "CHIP_ESP32C3"
  | .unlisted => none

def ResetReason.all : List ResetReason :=
  [.unknown, .poweron, .ext, .sw, .panic, .intWdt, .taskWdt, .wdt, .deepsleep, .brownout, .sdio]

theorem ResetReason.mem_all (x : ResetReason) : x ∈ all := by
  cases x <;> decide

def ResetReason.name : ResetReason → String
  | .unknown => "ESP_RST_UNKNOWN"
  | .poweron => "ESP_RST_POWERON"
  | .ext => "ESP_RST_EXT"
  | .sw => "ESP_RST_SW"
  | .panic => "ESP_RST_PANIC"
  | .intWdt => "ESP_RST_INT_WDT"
  | .taskWdt => "ESP_RST_TASK_WDT"
  | .wdt => "ESP_RST_WDT"
  | .deepsleep => "ESP_RST_DEEPSLEEP"
  | .brownout => "ESP_RST_BROWNOUT"
  | .sdio => "ESP_RST_SDIO"

def PartitionType.name : PartitionType → Option String
  | .app => some "ESP_PARTITION_TYPE_APP"
  | .data => some "ESP_PARTITION_TYPE_DATA"
  | .unlisted => none

def PartitionSubtype.name : PartitionSubtype → Option String
  | .appFactory => some "ESP_PARTITION_SUBTYPE_APP_FACTORY"
  | .appOta n => some ("ESP_PARTITION_SUBTYPE_APP_OTA_" ++ toString n.val)
  | .appTest => some "ESP_PARTITION_SUBTYPE_APP_TEST"
  | .dataPhy => some "ESP_PARTITION_SUBTYPE_DATA_PHY"
  | .dataNvs => some "ESP_PARTITION_SUBTYPE_DATA_NVS"
  | .dataCoredump => some "ESP_PARTITION_SUBTYPE_DATA_COREDUMP"
  | .dataNvsKeys => some "ESP_PARTITION_SUBTYPE_DATA_NVS_KEYS"
  | .dataEfuseEm => some "ESP_PARTITION_SUBTYPE_DATA_EFUSE_EM"
  | .dataEsphttpd => some "ESP_PARTITION_SUBTYPE_DATA_ESPHTTPD"
  | .dataFat => some "ESP_PARTITION_SUBTYPE_DATA_FAT"
  | .dataSpiffs => some "ESP_PARTITION_SUBTYPE_DATA_SPIFFS"
  | .any => some "ESP_PARTITION_SUBTYPE_ANY"
  | .unlisted => none

/-- The chip features that the report is about. -/
inductive Capability where
  | embFlash
  | wifiBgn
  | ble
  | bt
  deriving DecidableEq, Repr

namespace Capability

def all : List Capability := [embFlash, wifiBgn, ble, bt]

/-- `CHIP_FEATURE_EMB_FLASH` and the like. -/
def flag : Capability → UInt32
  | embFlash => 0x01
  | wifiBgn => 0x02
  | ble => 0x10
  | bt => 0x20

def text : Capability → String
  | embFlash => "EMBEDDED_FLASH_MEM"
  | wifiBgn => "2.4_GHZ_WIFI"
  | ble => "BLUETOOTH_LOW_ENERGY"
  | bt => "BLUETOOTH_CLASSIC"

end Capability

structure ChipInfo where
  model : ChipModel
  features : UInt32
  cores : UInt8
  revision : UInt16
  deriving DecidableEq, Repr

structure AppDesc where
  magicWord : UInt32
  secureVersion : UInt32
  reserv1 : Vector UInt32 2
  version : CString
  projectName : CString
  time : CString
  date : CString
  idfVer : CString
  appElfSha256 : Vector UInt8 32
  reserv2 : Vector UInt32 20
  deriving DecidableEq, Repr

structure Partition where
  type : PartitionType
  subtype : PartitionSubtype
  address : UInt32
  size : UInt32
  label : CString
  encrypted : Bool
  deriving DecidableEq, Repr

/-- What an object of class `System` holds, and what `buildJson` reads from the hardware. -/
structure System where
  chipInfo : ChipInfo
  idfVersion : CString
  resetReason : ResetReason
  appInfo : AppDesc
  partition : Partition
  readMac : MacType → Option (Vector UInt8 6)
  freeHeapSize : UInt32
  freeInternalHeapSize : UInt32
  minimumFreeHeapSize : UInt32

namespace System

def macLeaf (t : MacType) (mac : Vector UInt8 6) : Leaf :=
  stringLeaf t.key (snprintf 18 (macFormat mac.toList))

/-- `ESP_ERROR_CHECK` stops the program when an address cannot be read. -/
def addMacs (json : Nat) (readMac : MacType → Option (Vector UInt8 6)) :
    List MacType → Prog Heap Unit
  | [] => pure ()
  | t :: ts =>
    match readMac t with
    | none => Prog.abort
    | some mac => do
      add json (macLeaf t mac).1 (macLeaf t mac).2
      addMacs json readMac ts

/-- The object is added before it is filled. -/
def addObject (jsonRoot : Nat) (key : String) (fill : Nat → Prog Heap Unit) : Prog Heap Unit := do
  let json ← create .object
  addItem jsonRoot (some key) json
  fill json

/-- `features | flag` is tested for each feature. -/
def chipFeatures (features : UInt32) : List Capability :=
  Capability.all.filter fun c => features ||| c.flag ≠ 0

def fillChipInfo (c : ChipInfo) (json : Nat) : Prog Heap Unit := do
  addEach json (caseLeaf "model" c.model.name)
  addArray json "chip_features" ((chipFeatures c.features).map fun f => .string (ascii f.text))
  addEach json [numberLeaf "num_cores" c.cores.toNat,
    numberLeaf "chip_revision_num" c.revision.toNat]

def heapLeaves (s : System) : List Leaf :=
  [numberLeaf "heap_size" s.freeHeapSize.toNat,
    numberLeaf "internal_heap_size" s.freeInternalHeapSize.toNat,
    numberLeaf "min_heap_size" s.minimumFreeHeapSize.toNat]

def fillAppInfo (a : AppDesc) (json : Nat) : Prog Heap Unit := do
  addEach json [numberLeaf "magic_word" a.magicWord.toNat,
    numberLeaf "secure_version" a.secureVersion.toNat]
  addArray json "reserv1" (a.reserv1.toList.map fun w => .number w.toNat)
  addArray json "reserv2" (a.reserv2.toList.map fun w => .number w.toNat)
  addEach json [stringLeaf "version" a.version.bytes, stringLeaf "project_name" a.projectName.bytes,
    stringLeaf "time" a.time.bytes, stringLeaf "date" a.date.bytes,
    stringLeaf "idf_ver" a.idfVer.bytes]
  addArray json "app_elf_sha256" (a.appElfSha256.toList.map fun b => .number b.toNat)

def partitionLeaves (p : Partition) : List Leaf :=
  caseLeaf "type" p.type.name ++ caseLeaf "subtype" p.subtype.name ++
  [numberLeaf "address" p.address.toNat, numberLeaf "size" p.size.toNat,
    stringLeaf "label" p.label.bytes, boolLeaf "encrypted" p.encrypted]

def buildSections (s : System) (jsonRoot : Nat) : Prog Heap Unit := do
  addObject jsonRoot "mac_address" fun json => addMacs json s.readMac MacType.all
  addObject jsonRoot "chip_info" (fillChipInfo s.chipInfo)
  addEach jsonRoot [stringLeaf "idf_version" s.idfVersion.bytes]
  addObject jsonRoot "heap_info" fun json => addEach json s.heapLeaves
  addEach jsonRoot (caseLeaf "reset_reason" (some s.resetReason.name))
  addObject jsonRoot "app_info" (fillAppInfo s.appInfo)
  addObject jsonRoot "partition_info" fun json => addEach json (partitionLeaves s.partition)

def buildJson (s : System) : Prog Heap Nat := do
  let jsonRoot ← create .object
  buildSections s jsonRoot
  return jsonRoot

def arrayItem (key : String) (ks : List Kind) : KeyedTree.Item Kind :=
  (some key, .node .array ((ks.map fun k => (none, k)).map leaf))

def chipItems (c : ChipInfo) : List (KeyedTree.Item Kind) :=
  (caseLeaf "model" c.model.name).map leaf ++
    [arrayItem "chip_features" ((chipFeatures c.features).map fun f => .string (ascii f.text)),
      leaf (numberLeaf "num_cores" c.cores.toNat),
      leaf (numberLeaf "chip_revision_num" c.revision.toNat)]

def appItems (a : AppDesc) : List (KeyedTree.Item Kind) :=
  [leaf (numberLeaf "magic_word" a.magicWord.toNat),
    leaf (numberLeaf "secure_version" a.secureVersion.toNat),
    arrayItem "reserv1" (a.reserv1.toList.map fun w => .number w.toNat),
    arrayItem "reserv2" (a.reserv2.toList.map fun w => .number w.toNat),
    leaf (stringLeaf "version" a.version.bytes),
    leaf (stringLeaf "project_name" a.projectName.bytes), leaf (stringLeaf "time" a.time.bytes),
    leaf (stringLeaf "date" a.date.bytes), leaf (stringLeaf "idf_ver" a.idfVer.bytes),
    arrayItem "app_elf_sha256" (a.appElfSha256.toList.map fun b => .number b.toNat)]

/-- What is reported once the MAC addresses are read. -/
def report (s : System) (macs : MacType → Vector UInt8 6) : List (KeyedTree.Item Kind) :=
  [(some "mac_address", .node .object ((MacType.all.map fun t => macLeaf t (macs t)).map leaf)),
    (some "chip_info", .node .object (chipItems s.chipInfo)),
    leaf (stringLeaf "idf_version" s.idfVersion.bytes),
    (some "heap_info", .node .object (s.heapLeaves.map leaf)),
    leaf (stringLeaf "reset_reason" (ascii s.resetReason.name)),
    (some "app_info", .node .object (appItems s.appInfo)),
    (some "partition_info", .node .object ((partitionLeaves s.partition).map leaf))]

theorem builds_addMacs (json : Nat) (macs : MacType → Vector UInt8 6) (ts : List MacType) :
    Builds json (addMacs json (fun t => some (macs t)) ts)
      ((ts.map fun t => macLeaf t (macs t)).map leaf) 0 := by
  induction ts with
  | nil => exact .nil json
  | cons t ts ih => exact (Builds.add json _ _).seq ih

theorem builds_addObject {fill : Nat → Prog Heap Unit} (hf : ∀ o, Builds o (fill o) vs 0)
    (p : Nat) (key : String) :
    Builds p (addObject p key fill) [(some key, .node .object vs)] 0 :=
  .attachFirst hf p (some key) .object

theorem builds_fillChipInfo (c : ChipInfo) (o : Nat) :
    Builds o (fillChipInfo c o) (chipItems c) 0 :=
  (Builds.addEach o _).seq ((Builds.addArray o _ _).seq (.addEach o _))

theorem builds_fillAppInfo (a : AppDesc) (o : Nat) : Builds o (fillAppInfo a o) (appItems a) 0 :=
  (Builds.addEach o _).seq <| (Builds.addArray o _ _).seq <| (Builds.addArray o _ _).seq <|
    (Builds.addEach o _).seq (.addArray o _ _)

theorem builds_sections (s : System) (hm : s.readMac = fun t => some (macs t)) (p : Nat) :
    Builds p (buildSections s p) (s.report macs) 0 := by
  rw [buildSections, hm]
  exact (builds_addObject (fun o => builds_addMacs o macs MacType.all) p _).seq <|
    (builds_addObject (builds_fillChipInfo s.chipInfo) p _).seq <|
    (Builds.addEach p _).seq <|
    (builds_addObject (fun o => .addEach o s.heapLeaves) p _).seq <|
    (Builds.addEach p _).seq <|
    (builds_addObject (builds_fillAppInfo s.appInfo) p _).seq <|
    builds_addObject (fun o => .addEach o (partitionLeaves s.partition)) p _

variable {readMac : MacType → Option (Vector UInt8 6)}

theorem addMacs_stops (json : Nat) (hn : readMac t = none) (ht : t ∈ ts) :
    Prog.Stops (addMacs json readMac ts) := by
  induction ts with
  | nil => cases ht
  | cons u ts ih =>
    rw [addMacs]
    cases hu : readMac u with
    | none => exact .abort
    | some mac =>
      have hne : t ≠ u := by
        intro he
        rw [← he, hn] at hu
        cases hu
      exact .after (fun _ => ih ((List.mem_cons.1 ht).resolve_left hne)) _

theorem buildJson_stops {s : System} (hn : s.readMac t = none) : Prog.Stops (buildJson s) := by
  have hmacs (json : Nat) := addMacs_stops json hn (MacType.mem_all t)
  have hobject (root : Nat) : Prog.Stops (addObject root "mac_address" fun json =>
      addMacs json s.readMac MacType.all) :=
    .after (fun json => .after (fun _ => hmacs json) _) _
  have hsections (root : Nat) : Prog.Stops (buildSections s root) := (hobject root).bind _
  exact .after (fun root => (hsections root).bind _) _

theorem returned_of_stops {f : Prog Heap Nat} (hf : Prog.Stops f) : returned f = none := by
  have hn := hf []
  rw [returned]
  cases h : f [] with
  | mk h' root =>
    rw [h] at hn
    cases hn
    rfl

theorem buildJson_returned {s : System} (hm : s.readMac = fun t => some (macs t)) :
    returned (buildJson s) = some (.node .object (s.report macs)) :=
  (builds_sections s hm 0).returned .object

end System

end LDM
