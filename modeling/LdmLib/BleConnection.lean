import LdmLib.DeviceRun

namespace LDM.Ble
set_option autoImplicit true

open Prog

/-- The operations that the connection to a central is about; the calls that start and stop the
advertising succeed. -/
inductive CentralOp where
  | setupDefaultBleGapCallback (configAdvData registerCallback : EspErr)
  | bleConnect (serverIf : UInt8) (connId : UInt16)
  | bleDisconnect
  | recvSlaveDisconnectBle (close : EspErr)
  deriving DecidableEq, Repr

def CentralOp.toOp : CentralOp → Device.Op
  | .setupDefaultBleGapCallback configAdvData registerCallback =>
    .setupDefaultBleGapCallback ⟨configAdvData, .ok, registerCallback⟩
  | .bleConnect serverIf connId => .blufi (.bleConnect serverIf connId) callbackOk
  | .bleDisconnect => .blufi .bleDisconnect callbackOk
  | .recvSlaveDisconnectBle close =>
    .blufi .recvSlaveDisconnectBle { callbackOk with blufi := close }

def centralStep (k : Kconfig) (d : Device) (op : CentralOp) : Device := d.step k op.toOp

def advertisingAfter : Call × EspErr → Option Bool
  | (.bleGapStartAdvertising _, err) => if err = .ok then some true else none
  | (.bleGapStopAdvertising, err) => if err = .ok then some false else none
  | _ => none

/-- Whether the device advertises: the last call about it that succeeded was a start. -/
def advertising (d : Device) : Bool := (d.log.findSome? advertisingAfter).getD false

/-- Whether the GAP callback has been set up, and the central of the latest connection event,
unless it was a disconnection. -/
structure Central where
  ready : Bool
  peer : Option (UInt8 × UInt16)
  deriving DecidableEq, Repr

def Central.see (c : Central) (_ : Device) : CentralOp → Central
  | .setupDefaultBleGapCallback _ _ => { c with ready := true }
  | .bleConnect serverIf connId => { c with peer := some (serverIf, connId) }
  | .bleDisconnect => { c with peer := none }
  | .recvSlaveDisconnectBle _ => c

structure ConnectionSound (p : Device × Central) : Prop where
  connected : p.2.ready = true → (p.1.ble.isConnected = true ↔ p.2.peer.isSome = true)
  advertising : p.2.ready = true → (advertising p.1 = true ↔ p.1.ble.isConnected = false)

def ClosesPeer (k : Kconfig) (p : Device × Central) (op : CentralOp) : Prop :=
  ∀ close, op = .recvSlaveDisconnectBle close → ∃ serverIf connId,
    p.2.peer = some (serverIf, connId) ∧
      (centralStep k p.1 op).log = (.blufiClose serverIf connId, close) :: p.1.log

/-- No central comes while the callback is set up, and none is there when it is. -/
def NoPeer (p : Device × Central) : CentralOp → Prop
  | .setupDefaultBleGapCallback _ _ => p.2.peer = none
  | .bleConnect _ _ => p.2.ready = false
  | _ => True

def PeerAsks (p : Device × Central) : CentralOp → Prop
  | .recvSlaveDisconnectBle _ => p.2.peer.isSome = true
  | _ => True

/-- What holds in every run: nothing ever raises the flag. -/
structure CentralInv (p : Device × Central) : Prop where
  running : p.1.Running
  connected : p.1.ble.connected = false
  named : ∀ serverIf connId, p.2.peer = some (serverIf, connId) →
    p.1.ble.serverIf = serverIf ∧ p.1.ble.connId = connId

structure NoPeerInv (p : Device × Central) : Prop extends CentralInv p where
  peer : p.2.ready = true → p.2.peer = none
  advertising : p.2.ready = true → Ble.advertising p.1 = true

variable {p : Device × Central}

abbrev centralWatch (k : Kconfig) : Device × Central → CentralOp → Device × Central :=
  Run.watch (centralStep k) Central.see

theorem centralStep_running (h : d.Running) (k : Kconfig) (op : CentralOp) :
    centralStep k d op = op.toOp.run k d :=
  Device.step_running (Bool.eq_false_iff.1 h) k op.toOp

theorem centralWatch_running (h : p.1.Running) (k : Kconfig) (op : CentralOp) :
    centralWatch k p op = (op.toOp.run k p.1, p.2.see p.1 op) :=
  Prod.ext (centralStep_running h k op) rfl

theorem CentralInv.step (h : CentralInv p) (k : Kconfig) (op : CentralOp) :
    CentralInv (centralWatch k p op) := by
  rw [centralWatch_running h.running]
  cases op with
  | setupDefaultBleGapCallback configAdvData registerCallback => exact ⟨h.running, rfl, h.named⟩
  | bleConnect serverIf connId =>
    constructor
    case running => exact h.running
    case connected => exact h.connected
    case named =>
      intro s c hp
      cases hp
      exact ⟨rfl, rfl⟩
  | bleDisconnect =>
    constructor
    case running => exact h.running
    case connected => exact h.connected
    case named =>
      intro s c hp
      cases hp
  | recvSlaveDisconnectBle close => exact ⟨h.running, h.connected, h.named⟩

/-- The remembered ids are closed in any case, but only those of a central that is there are its
own. -/
theorem CentralInv.closesPeer_iff (h : CentralInv p) (k : Kconfig) (op : CentralOp) :
    ClosesPeer k p op ↔ PeerAsks p op := by
  cases op with
  | recvSlaveDisconnectBle close =>
    apply Iff.intro
    · intro hc
      obtain ⟨serverIf, connId, hp, _⟩ := hc close rfl
      exact Option.isSome_iff_exists.2 ⟨_, hp⟩
    · intro hp err he
      cases he
      obtain ⟨⟨serverIf, connId⟩, hp⟩ := Option.isSome_iff_exists.1 hp
      obtain ⟨hs, hc⟩ := h.named serverIf connId hp
      refine ⟨serverIf, connId, hp, ?_⟩
      rw [centralStep_running h.running, ← hs, ← hc]
      rfl
  | _ => exact iff_of_true (fun close he => by cases he) trivial

theorem NoPeerInv.sound (h : NoPeerInv p) : ConnectionSound p := by
  have hf : p.1.ble.isConnected = false := h.connected
  constructor
  case connected =>
    intro hr
    rw [hf, h.peer hr]
    exact Iff.rfl
  case advertising =>
    intro hr
    rw [hf, h.advertising hr]
    exact iff_of_true rfl rfl

theorem NoPeerInv.step (h : NoPeerInv p) (k : Kconfig) (hg : NoPeer p op) :
    NoPeerInv (centralWatch k p op) := by
  have hi := h.toCentralInv.step k op
  rw [centralWatch_running h.running] at hi ⊢
  cases op with
  | setupDefaultBleGapCallback configAdvData registerCallback =>
    exact ⟨hi, fun _ => hg, fun _ => rfl⟩
  | bleConnect serverIf connId =>
    have hn : p.2.ready ≠ true := Bool.eq_false_iff.1 hg
    exact ⟨hi, fun hr => (hn hr).elim, fun hr => (hn hr).elim⟩
  | bleDisconnect => exact ⟨hi, fun _ => rfl, fun _ => rfl⟩
  | recvSlaveDisconnectBle close => exact ⟨hi, h.peer, h.advertising⟩

theorem NoPeerInv.needed (h : NoPeerInv p) (k : Kconfig)
    (ht : ConnectionSound (centralWatch k p op)) : NoPeer p op := by
  have hf : (centralWatch k p op).1.ble.isConnected = false := (h.toCentralInv.step k op).connected
  cases op with
  | setupDefaultBleGapCallback configAdvData registerCallback =>
    have hc := ht.connected rfl
    rw [hf] at hc
    exact Option.not_isSome_iff_eq_none.1 fun hp => Bool.false_ne_true (hc.2 hp)
  | bleConnect serverIf connId =>
    apply Bool.eq_false_iff.2
    intro hr
    have hc := ht.connected hr
    rw [hf] at hc
    exact Bool.false_ne_true (hc.2 rfl)
  | bleDisconnect => trivial
  | recvSlaveDisconnectBle close => trivial

/-- The flag and the advertising tell of the connection exactly as long as no central connects;
what is closed is the connection of the central that is there exactly as long as one is whenever
that is asked for. -/
theorem connection_sound_iff (k : Kconfig) (r : Driver) (ops : List CentralOp) :
    (Run.Always (centralWatch k) ConnectionSound (Device.boot k r, ⟨false, none⟩) ops ↔
      Run.Guarded (centralWatch k) NoPeer (Device.boot k r, ⟨false, none⟩) ops) ∧
      (Run.Guarded (centralWatch k) (ClosesPeer k) (Device.boot k r, ⟨false, none⟩) ops ↔
        Run.Guarded (centralWatch k) PeerAsks (Device.boot k r, ⟨false, none⟩) ops) := by
  have h0 : NoPeerInv (Device.boot k r, ⟨false, none⟩) := by
    constructor
    case toCentralInv =>
      constructor
      case running => rfl
      case connected => rfl
      case named =>
        intro serverIf connId hp
        cases hp
    case peer =>
      intro hr
      cases hr
    case advertising =>
      intro hr
      cases hr
  apply And.intro
  · apply Run.always_iff_guarded h0
    · intro p h
      exact h.sound
    · intro p op h hg
      exact h.step k hg
    · intro p op h ht
      exact h.needed k ht
  · exact Run.Guarded.congr_invariant h0.toCentralInv (fun _ op h => h.step k op) fun _ op h =>
      h.closesPeer_iff k op

/-- A central that connects is not seen by `isConnected`, and one that has gone is still closed. -/
theorem connection_unseen :
    ¬ Run.Always (centralWatch Kconfig.defaults) ConnectionSound
      (Device.boot Kconfig.defaults ⟨fun _ => 0, fun _ => 0⟩, ⟨false, none⟩)
      [.setupDefaultBleGapCallback .ok .ok, .bleConnect 3 0] ∧
    ¬ Run.Guarded (centralWatch Kconfig.defaults) (ClosesPeer Kconfig.defaults)
      (Device.boot Kconfig.defaults ⟨fun _ => 0, fun _ => 0⟩, ⟨false, none⟩)
      [.bleConnect 3 0, .bleDisconnect, .recvSlaveDisconnectBle .ok] := by
  apply And.intro
  · intro h
    have hc := h.last.connected rfl
    revert hc
    decide
  · intro h
    obtain ⟨serverIf, connId, hp, _⟩ :=
      h [.bleConnect 3 0, .bleDisconnect] (.recvSlaveDisconnectBle .ok) List.prefix_rfl .ok rfl
    cases hp

end LDM.Ble
