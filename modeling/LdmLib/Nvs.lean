import LdmLib.Esp
import LdmLib.Run

namespace LDM
set_option autoImplicit true

/-- `nvs_handle_t`. -/
abbrev NvsHandle := UInt32

inductive NvsOpenMode where
  | readonly
  | readwrite
  deriving DecidableEq, Repr

inductive NvsType where
  | u8 | i8 | u16 | i16 | u32 | i32 | u64 | i64 | str | blob
  deriving DecidableEq, Repr

/-- A stored value; a string is kept without its terminator. -/
inductive NvsItem where
  | u8 (value : UInt8)
  | i8 (value : Int8)
  | u16 (value : UInt16)
  | i16 (value : Int16)
  | u32 (value : UInt32)
  | i32 (value : Int32)
  | u64 (value : UInt64)
  | i64 (value : Int64)
  | str (value : List UInt8)
  | blob (value : List UInt8)
  deriving DecidableEq

/-- What the NVS library makes of the calls on a namespace that holds a `ν`, given what it comes
upon: the first components are what is returned. -/
structure NvsLib (ν : Type) where
  set : String → NvsItem → EspErr → ν → EspErr × ν
  get : NvsType → String → EspErr → ν → EspErr × Option NvsItem
  getSized : NvsType → String → Option Nat → EspErr → ν → EspErr × Option NvsItem × Option Nat
  eraseKey : String → EspErr → ν → EspErr × ν
  eraseAll : EspErr → ν → EspErr × ν
  flashErase : EspErr → ν → ν

/-- The NVS partition: the open handles, what every namespace holds, and the namespaces that calls
acted on, newest first. -/
structure NvsFlash (ν : Type) where
  ready : Bool
  handles : NvsHandle → Option (String × NvsOpenMode)
  storage : String → ν
  log : List String

namespace NvsFlash

def start (storage : String → ν) : NvsFlash ν := ⟨false, fun _ => none, storage, []⟩

/-- A partition that is initialised already stays as it is. -/
def nvsFlashInit (err : EspErr) (s : NvsFlash ν) : NvsFlash ν × EspErr :=
  if s.ready then (s, .ok) else ({ s with ready := err = .ok }, err)

def nvsFlashErase (lib : NvsLib ν) (err : EspErr) (s : NvsFlash ν) : NvsFlash ν × EspErr :=
  ({ s with storage := fun n => lib.flashErase err (s.storage n) }, err)

/-- The handle a call of `nvs_open` would hand out, and what it would return otherwise. -/
structure OpenEnv where
  err : EspErr
  handle : NvsHandle

/-- The call succeeds; a handle that is open is not handed out again. -/
def CanOpen (s : NvsFlash ν) (env : OpenEnv) : Prop :=
  s.ready = true ∧ env.err = .ok ∧ s.handles env.handle = none

instance (s : NvsFlash ν) (env : OpenEnv) : Decidable (s.CanOpen env) :=
  inferInstanceAs (Decidable (_ ∧ _ ∧ _))

def openError (s : NvsFlash ν) (env : OpenEnv) : EspErr :=
  if s.ready then (if env.err = .ok then .fail else env.err) else .errNvsNotInitialized

def nvsOpen (ns : String) (mode : NvsOpenMode) (env : OpenEnv) (s : NvsFlash ν) :
    NvsFlash ν × Except EspErr NvsHandle :=
  if s.CanOpen env then
    ({ s with handles := fun h => if h = env.handle then some (ns, mode) else s.handles h },
      .ok env.handle)
  else (s, .error (s.openError env))

def nvsClose (h : NvsHandle) (s : NvsFlash ν) : NvsFlash ν :=
  { s with handles := fun i => if i = h then none else s.handles i }

/-- A call that reads the namespace the handle was opened for. -/
def read (h : NvsHandle) (f : ν → EspErr × α) (a : α) (s : NvsFlash ν) :
    NvsFlash ν × EspErr × α :=
  match s.handles h with
  | none => (s, .errNvsInvalidHandle, a)
  | some (ns, _) => ({ s with log := ns :: s.log }, f (s.storage ns))

/-- A call that changes it. -/
def write (h : NvsHandle) (f : ν → EspErr × ν) (s : NvsFlash ν) : NvsFlash ν × EspErr :=
  match s.handles h with
  | none => (s, .errNvsInvalidHandle)
  | some (_, .readonly) => (s, .errNvsReadOnly)
  | some (ns, .readwrite) =>
    let r := f (s.storage ns)
    ({ s with
        storage := fun n => if n = ns then r.2 else s.storage n,
        log := ns :: s.log }, r.1)

def status (r : NvsFlash ν × EspErr × α) : NvsFlash ν × EspErr := (r.1, r.2.1)

def nvsCommit (h : NvsHandle) (err : EspErr) (s : NvsFlash ν) : NvsFlash ν × EspErr :=
  status (s.read h (fun _ => (err, ())) ())

variable (lib : NvsLib ν)

def nvsSet (h : NvsHandle) (key : String) (item : NvsItem) (err : EspErr) (s : NvsFlash ν) :
    NvsFlash ν × EspErr :=
  s.write h (lib.set key item err)

def nvsGet (h : NvsHandle) (type : NvsType) (key : String) (err : EspErr) (s : NvsFlash ν) :
    NvsFlash ν × EspErr × Option NvsItem :=
  s.read h (lib.get type key err) none

/-- A string or a blob is read into a buffer of `size` bytes; without a buffer only its size is
told. -/
def nvsGetSized (h : NvsHandle) (type : NvsType) (key : String) (size : Option Nat) (err : EspErr)
    (s : NvsFlash ν) : NvsFlash ν × EspErr × Option NvsItem × Option Nat :=
  s.read h (lib.getSized type key size err) (none, none)

def nvsEraseKey (h : NvsHandle) (key : String) (err : EspErr) (s : NvsFlash ν) :
    NvsFlash ν × EspErr :=
  s.write h (lib.eraseKey key err)

def nvsEraseAll (h : NvsHandle) (err : EspErr) (s : NvsFlash ν) : NvsFlash ν × EspErr :=
  s.write h (lib.eraseAll err)

end NvsFlash

/-- An object of class `NVS`. -/
structure Nvs where
  nvsH : NvsHandle
  deriving DecidableEq, Repr

namespace Nvs

open NvsFlash

/-- What the flash calls of `initDefault` return. -/
structure FlashEnv where
  init : EspErr
  erase : EspErr
  again : EspErr

def flashOk : FlashEnv := ⟨.ok, .ok, .ok⟩

variable (lib : NvsLib ν)

/-- The second component is `false` where an `ESP_ERROR_CHECK` aborts. -/
def initDefault (env : FlashEnv) (s : NvsFlash ν) : NvsFlash ν × Bool :=
  let r := s.nvsFlashInit env.init
  if r.2 = .errNvsNoFreePages ∨ r.2 = .errNvsNewVersionFound then
    let e := r.1.nvsFlashErase lib env.erase
    if e.2 = .ok then
      let a := e.1.nvsFlashInit env.again
      (a.1, a.2 = .ok)
    else (e.1, false)
  else (r.1, r.2 = .ok)

/-- By default `nvs_h` is not assigned: it keeps whatever `memory` held. -/
def construct (nvsH memory : NvsHandle) (env : FlashEnv) (s : NvsFlash ν) :
    NvsFlash ν × Option Nvs :=
  if nvsH ≠ -1 then (s, some ⟨nvsH⟩)
  else
    let r := initDefault lib env s
    (r.1, if r.2 then some ⟨memory⟩ else none)

def openNamespace (o : Nvs) (ns : String) (mode : NvsOpenMode) (env : NvsFlash.OpenEnv)
    (s : NvsFlash ν) : (Nvs × NvsFlash ν) × EspErr :=
  match s.nvsOpen ns mode env with
  | (s, .ok h) => ((⟨h⟩, s), .ok)
  | (s, .error err) => ((o, s), err)

def close (o : Nvs) (s : NvsFlash ν) : NvsFlash ν := s.nvsClose o.nvsH

def commit (o : Nvs) (err : EspErr) (s : NvsFlash ν) : NvsFlash ν × EspErr :=
  s.nvsCommit o.nvsH err

def setKeyU8 (o : Nvs) (key : String) (value : UInt8) := nvsSet lib o.nvsH key (.u8 value)
def setKeyU16 (o : Nvs) (key : String) (value : UInt16) := nvsSet lib o.nvsH key (.u16 value)
def setKeyU32 (o : Nvs) (key : String) (value : UInt32) := nvsSet lib o.nvsH key (.u32 value)
def setKeyU64 (o : Nvs) (key : String) (value : UInt64) := nvsSet lib o.nvsH key (.u64 value)
def setKeyI8 (o : Nvs) (key : String) (value : Int8) := nvsSet lib o.nvsH key (.i8 value)
def setKeyI16 (o : Nvs) (key : String) (value : Int16) := nvsSet lib o.nvsH key (.i16 value)
def setKeyI32 (o : Nvs) (key : String) (value : Int32) := nvsSet lib o.nvsH key (.i32 value)
def setKeyI64 (o : Nvs) (key : String) (value : Int64) := nvsSet lib o.nvsH key (.i64 value)

/-- The value is a C string, which ends at its first zero. -/
def setKeyStr (o : Nvs) (key : String) (value : List UInt8) :=
  nvsSet lib o.nvsH key (.str (value.takeWhile (· ≠ 0)))

/-- The value are the `size` bytes at the pointer. -/
def setKeyBlob (o : Nvs) (key : String) (value : List UInt8) :=
  nvsSet lib o.nvsH key (.blob value)

def setKey (o : Nvs) (key : String) : NvsItem → EspErr → NvsFlash ν → NvsFlash ν × EspErr
  | .u8 value => o.setKeyU8 lib key value
  | .i8 value => o.setKeyI8 lib key value
  | .u16 value => o.setKeyU16 lib key value
  | .i16 value => o.setKeyI16 lib key value
  | .u32 value => o.setKeyU32 lib key value
  | .i32 value => o.setKeyI32 lib key value
  | .u64 value => o.setKeyU64 lib key value
  | .i64 value => o.setKeyI64 lib key value
  | .str value => o.setKeyStr lib key value
  | .blob value => o.setKeyBlob lib key value

def getKeyU8 (o : Nvs) := nvsGet lib o.nvsH .u8
def getKeyU16 (o : Nvs) := nvsGet lib o.nvsH .u16
def getKeyU32 (o : Nvs) := nvsGet lib o.nvsH .u32
def getKeyU64 (o : Nvs) := nvsGet lib o.nvsH .u64
def getKeyI8 (o : Nvs) := nvsGet lib o.nvsH .i8
def getKeyI16 (o : Nvs) := nvsGet lib o.nvsH .i16
def getKeyI32 (o : Nvs) := nvsGet lib o.nvsH .i32
def getKeyI64 (o : Nvs) := nvsGet lib o.nvsH .i64
def getKeyStr (o : Nvs) := nvsGetSized lib o.nvsH .str
def getKeyBlob (o : Nvs) := nvsGetSized lib o.nvsH .blob

/-- A call of a get function, without what it writes through its pointers. -/
def getKey (o : Nvs) (key : String) (size : Option Nat) (err : EspErr) (s : NvsFlash ν) :
    NvsType → NvsFlash ν × EspErr
  | .u8 => status (o.getKeyU8 lib key err s)
  | .i8 => status (o.getKeyI8 lib key err s)
  | .u16 => status (o.getKeyU16 lib key err s)
  | .i16 => status (o.getKeyI16 lib key err s)
  | .u32 => status (o.getKeyU32 lib key err s)
  | .i32 => status (o.getKeyI32 lib key err s)
  | .u64 => status (o.getKeyU64 lib key err s)
  | .i64 => status (o.getKeyI64 lib key err s)
  | .str => status (o.getKeyStr lib key size err s)
  | .blob => status (o.getKeyBlob lib key size err s)

def eraseNVSKey (o : Nvs) := nvsEraseKey lib o.nvsH
def eraseNVSAllKeys (o : Nvs) := nvsEraseAll lib o.nvsH

/-- The calls made through an object's handle. -/
inductive Access where
  | setKey (key : String) (item : NvsItem) (err : EspErr)
  | getKey (key : String) (type : NvsType) (size : Option Nat) (err : EspErr)
  | eraseNVSKey (key : String) (err : EspErr)
  | eraseNVSAllKeys (err : EspErr)
  | commit (err : EspErr)

namespace Access

/-- The calls that a handle opened read-only refuses. -/
def writes : Access → Bool
  | .setKey _ _ _ => true
  | .getKey _ _ _ _ => false
  | .eraseNVSKey _ _ => true
  | .eraseNVSAllKeys _ => true
  | .commit _ => false

end Access

def access (o : Nvs) (s : NvsFlash ν) : Access → NvsFlash ν × EspErr
  | .setKey key item err => o.setKey lib key item err s
  | .getKey key type size err => o.getKey lib key size err s type
  | .eraseNVSKey key err => o.eraseNVSKey lib key err s
  | .eraseNVSAllKeys err => o.eraseNVSAllKeys lib err s
  | .commit err => o.commit err s

end Nvs

/-- The `NVS` objects of the process, and the partition they share. -/
structure NvsObjects (ν : Type) where
  nvs : Nat → Option Nvs
  flash : NvsFlash ν
  aborted : Bool

namespace NvsObjects

def start (storage : String → ν) : NvsObjects ν := ⟨fun _ => none, .start storage, false⟩

/-- An aborted process has no object left to call. -/
def object (s : NvsObjects ν) (id : Nat) : Option Nvs := if s.aborted then none else s.nvs id

def setNvs (s : NvsObjects ν) (id : Nat) (o : Option Nvs) : Nat → Option Nvs :=
  fun i => if i = id then o else s.nvs i

variable (lib : NvsLib ν)

def construct (s : NvsObjects ν) (id : Nat) (nvsH memory : NvsHandle) (env : Nvs.FlashEnv) :
    NvsObjects ν :=
  if s.aborted ∨ (s.nvs id).isSome then s
  else
    let r := Nvs.construct lib nvsH memory env s.flash
    { nvs := s.setNvs id r.2, flash := r.1, aborted := r.2.isNone }

inductive Op where
  | construct (id : Nat) (nvsH memory : NvsHandle) (env : Nvs.FlashEnv)
  | openNamespace (id : Nat) (ns : String) (mode : NvsOpenMode) (env : NvsFlash.OpenEnv)
  | close (id : Nat)
  | access (id : Nat) (a : Nvs.Access)

def apply (s : NvsObjects ν) : Op → NvsObjects ν × EspErr
  | .construct id nvsH memory env => (s.construct lib id nvsH memory env, .ok)
  | .openNamespace id ns mode env =>
    match s.object id with
    | none => (s, .fail)
    | some o =>
      let r := o.openNamespace ns mode env s.flash
      ({ s with nvs := s.setNvs id (some r.1.1), flash := r.1.2 }, r.2)
  | .close id =>
    match s.object id with
    | none => (s, .fail)
    | some o => ({ s with flash := o.close s.flash }, .ok)
  | .access id a =>
    match s.object id with
    | none => (s, .fail)
    | some o =>
      let r := o.access lib s.flash a
      ({ s with flash := r.1 }, r.2)

def step (s : NvsObjects ν) (op : Op) : NvsObjects ν := (s.apply lib op).1

end NvsObjects

end LDM
