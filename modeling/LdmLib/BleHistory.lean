import LdmLib.BleConnection
import LdmLib.DeviceParts

namespace LDM
set_option autoImplicit true

open Prog

namespace Device

/-- The central that an operation makes known. -/
def Op.central : Op → Option (UInt8 × UInt16)
  | .blufi (.bleConnect serverIf connId) _ => some (serverIf, connId)
  | _ => none

/-- What an operation makes of the advertising, if the call it makes for it succeeds. -/
def Op.advertises : Op → Option Bool
  | .setupDefaultBleGapCallback env => if env.startAdvertising = .ok then some true else none
  | .blufi (.bleConnect _ _) env => if env.gap = .ok then some false else none
  | .blufi .bleDisconnect env => if env.gap = .ok then some true else none
  | _ => none

def central (d : Device) : UInt8 × UInt16 := (d.ble.serverIf, d.ble.connId)

variable {k : Kconfig} {op : Op} {ops : List Op} {r : Driver}

theorem advertising_told (d : Device) :
    Ble.advertising d = (d.told.findSome? Ble.advertisingAfter).getD false := by
  have hfind (l : List (Call × EspErr)) : l.findSome? Ble.advertisingAfter =
      (l.filter fun c => c.1.toPeer).findSome? Ble.advertisingAfter := by
    induction l with
    | nil => rfl
    | cons c l ih =>
      obtain ⟨c, err⟩ := c
      rw [List.findSome?_cons, ih]
      cases c <;> rfl
  rw [Ble.advertising, hfind]
  rfl

theorem advertising_settle (p : Device × Option α) :
    Ble.advertising (settle p) = Ble.advertising p.1 := by
  rw [Ble.advertising, settle_log]
  rfl

theorem central_settle (p : Device × Option α) : (settle p).central = p.1.central := by
  rw [central, settle_ble]
  rfl

theorem advertising_record (d : Device) (c : Call) (err : EspErr) :
    Ble.advertising (d.record c err) =
      (Ble.advertisingAfter (c, err)).getD (Ble.advertising d) := by
  change ((((c, err) :: d.log).findSome? _).getD false) = _
  rw [List.findSome?_cons]
  cases Ble.advertisingAfter (c, err) with
  | none => rfl
  | some b => rfl

theorem callback_advertising (e : Ble.BlufiEvent) (env : Ble.CallbackEnv) (d : Device) :
    Ble.advertising (Ble.defaultBlufiCallback e env d).1 =
      (Op.blufi e env).advertises.getD (Ble.advertising d) := by
  have hcheck (c : Call) (err : EspErr) : Ble.advertising (errorCheck c err d).1 =
      (Ble.advertisingAfter (c, err)).getD (Ble.advertising d) := by
    rw [errorCheck_fst]
    exact advertising_record d c err
  cases e with
  | bleConnect serverIf connId => exact advertising_record _ .bleGapStopAdvertising env.gap
  | bleDisconnect => exact advertising_record d (.bleGapStartAdvertising _) env.gap
  | setWifiOpmode opMode => exact hcheck (.wifiSetMode opMode) env.setMode
  | getWifiStatus =>
    let start := d.record .wifiGetMode env.getMode
    change Ble.advertising (start.record (if d.ble.glStaConnected then _ else _) env.blufi) = _
    rw [advertising_record]
    cases d.ble.glStaConnected with
    | false => rfl
    | true => rfl
  | recvSoftapMaxConnNum n =>
    change Ble.advertising ((if n > 4 then pure () else _ : Prog Device Unit) d).1 = _
    split
    · rfl
    · rfl
  | recvSoftapAuthMode m =>
    change Ble.advertising ((if m ≥ wifiAuthMax then pure () else _ : Prog Device Unit) d).1 = _
    split
    · rfl
    · rfl
  | recvSoftapChannel c =>
    change Ble.advertising ((if c > 13 then pure () else _ : Prog Device Unit) d).1 = _
    split
    · rfl
    · rfl
  | getWifiList => exact hcheck .wifiScanStart env.scanStart
  | _ => rfl

theorem callback_central (e : Ble.BlufiEvent) (env : Ble.CallbackEnv) (d : Device) :
    (Ble.defaultBlufiCallback e env d).1.central =
      (Op.blufi e env).central.getD d.central := by
  have hcheck (c : Call) (err : EspErr) : (errorCheck c err d).1.central = d.central := by
    rw [errorCheck_fst]
    rfl
  cases e with
  | setWifiOpmode opMode => exact hcheck _ _
  | recvSoftapMaxConnNum n =>
    change ((if n > 4 then pure () else _ : Prog Device Unit) d).1.central = _
    split
    · rfl
    · rfl
  | recvSoftapAuthMode m =>
    change ((if m ≥ wifiAuthMax then pure () else _ : Prog Device Unit) d).1.central = _
    split
    · rfl
    · rfl
  | recvSoftapChannel c =>
    change ((if c > 13 then pure () else _ : Prog Device Unit) d).1.central = _
    split
    · rfl
    · rfl
  | getWifiList => exact hcheck _ _
  | _ => rfl

theorem other_advertising (h : op.onBle = false) (k : Kconfig) (d : Device) :
    Ble.advertising (op.run k d) = Ble.advertising d := by
  have ht : (op.run k d).told = d.told := congrArg Prod.snd (run_bleSide h k d)
  rw [advertising_told, ht, ← advertising_told]

theorem other_central (h : op.onBle = false) (k : Kconfig) (d : Device) :
    (op.run k d).central = d.central := by
  have hb : (op.run k d).ble = d.ble := congrArg Prod.fst (run_bleSide h k d)
  rw [central, hb]
  rfl

theorem run_advertising (k : Kconfig) (op : Op) (d : Device) :
    Ble.advertising (op.run k d) = op.advertises.getD (Ble.advertising d) := by
  cases op with
  | setupDefaultBleGapCallback env =>
    exact advertising_record _ (.bleGapStartAdvertising Ble.advParams) env.startAdvertising
  | blufi e env => exact (advertising_settle _).trans (callback_advertising e env d)
  | _ => exact other_advertising rfl k d

theorem run_central (k : Kconfig) (op : Op) (d : Device) :
    (op.run k d).central = op.central.getD d.central := by
  cases op with
  | setupDefaultBleGapCallback env => rfl
  | blufi e env => exact (central_settle _).trans (callback_central e env d)
  | _ => exact other_central rfl k d

/-- On a device that has not aborted the advertising is on as the last operation has left it whose
call for it succeeded, and a peer that asks for its connection to be closed has the one closed that
was made last, even after that has ended and whoever asks. -/
theorem peers_remembered (h : (Run.run (step k) (boot k r) ops).Running) :
    Ble.advertising (Run.run (step k) (boot k r) ops) =
        LastWriter.last Op.advertises false ops ∧
      ∀ env, (Run.run (step k) (boot k r)
          (ops ++ [.blufi .recvSlaveDisconnectBle env])).log =
        (.blufiClose (LastWriter.last Op.central (0, 0) ops).1
          (LastWriter.last Op.central (0, 0) ops).2, env.blufi) ::
          (Run.run (step k) (boot k r) ops).log := by
  have hc := last_written central (run_central k) h
  apply And.intro
  · exact last_written Ble.advertising (run_advertising k) h
  · intro env
    have hzero : (boot k r).central = (0, 0) := rfl
    rw [hzero] at hc
    rw [Run.run_concat, step_running (Bool.eq_false_iff.1 h), ← hc]
    rfl

/-- The central has gone when it is asked for, and the station is being set up in between. -/
theorem peers_remembered_gone :
    let ops := [.setupDefaultBleGapCallback ⟨.ok, .ok, .ok⟩,
      .blufi (.bleConnect 3 7) Ble.callbackOk, .init .sta WiFi.initOk,
      .blufi .bleDisconnect Ble.callbackOk]
    let d := boot Kconfig.defaults ⟨fun _ => 0, fun _ => 0⟩
    Ble.advertising (Run.run (step Kconfig.defaults) d ops) = true ∧
      (Run.run (step Kconfig.defaults) d
        (ops ++ [.blufi .recvSlaveDisconnectBle Ble.callbackOk])).log.head? =
          some (.blufiClose 3 7, .ok) := by
  intro ops d
  have hr : (Run.run (step Kconfig.defaults) d ops).Running := by decide
  obtain ⟨ha, hclose⟩ := peers_remembered hr
  exact ⟨ha, congrArg List.head? (hclose Ble.callbackOk)⟩

end Device

end LDM
