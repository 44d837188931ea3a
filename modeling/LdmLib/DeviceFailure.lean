import LdmLib.DeviceRun

namespace LDM
set_option autoImplicit true

open Prog

namespace Device

/-- The latest call has failed. -/
def Failed (d : Device) : Prop := ∃ c err calls, d.log = (c, err) :: calls ∧ err ≠ .ok

theorem ends_call (c : Call) (err : EspErr) {f : EspErr → Prog Device α}
    (h : Ends (f err) p Failed) : Ends (call c err >>= f) p Failed :=
  ⟨fun d => h.ends (d.record c err), fun d => h.stopped (d.record c err)⟩

theorem ends_check (c : Call) (err : EspErr) : Ends (errorCheck c err) (err = .ok) Failed := by
  by_cases he : err = .ok
  · subst he
    exact (Ends.of_some fun _ => rfl).congr (iff_of_true trivial rfl)
  · constructor
    case ends =>
      intro d
      rw [errorCheck, call_bind, if_neg he]
      exact iff_of_false Bool.false_ne_true he
    case stopped =>
      intro d _
      rw [errorCheck_fst]
      exact ⟨c, err, d.log, rfl, he⟩

end Device

namespace WiFi

open Device

/-- The results of `init` that must be good for the program to go on. Those of the station's host
name and of the power saving are not looked at, or only returned. -/
structure InitEnv.Survives (env : InitEnv) (setup : WifiSetup) : Prop where
  netifInit : env.netifInit = .ok
  eventLoopCreate : env.eventLoopCreate = .ok
  sta : setup = .sta ∨ setup = .apsta → env.createSta = true
  ap : setup = .ap ∨ setup = .apsta →
    env.createAp = true ∧ env.apHostname = .ok ∧ env.dhcpsStop = .ok ∧ env.setIpInfo = .ok
  wifiInit : env.wifiInit = .ok
  registerWifi : env.registerWifi = .ok
  registerIp : env.registerIp = .ok
  setMode : env.setMode = .ok
  setStaConfig : setup.covers .sta = true → env.setStaConfig = .ok
  setApConfig : setup.covers .ap = true → env.setApConfig = .ok
  start : env.start = .ok

/-- The result of `esp_event_loop_delete_default`, which is the last call, must be good where it is
made. -/
def DeinitEnv.Survives (env : DeinitEnv) : Prop :=
  env.stop = .ok → env.wifiDeinit = .ok → env.eventLoopDelete = .ok

theorem initSta_survives (k : Kconfig) (env : InitEnv) :
    Ends (initSta k env) (env.createSta = true) Failed := by
  cases hc : env.createSta with
  | true =>
    have hs (d : Device) : (initSta k env d).2.isSome := by
      rw [initSta, hc]
      rfl
    exact (Ends.of_some hs).congr (iff_of_true trivial rfl)
  | false =>
    constructor
    case ends =>
      intro d
      rw [initSta, hc]
      exact iff_of_false Bool.false_ne_true Bool.false_ne_true
    case stopped =>
      intro d _
      rw [initSta, hc]
      exact ⟨.netifCreateDefaultWifi .sta none, .fail, d.log, rfl, EspErr.fail_ne_ok⟩

theorem initAp_survives (k : Kconfig) (env : InitEnv) :
    Ends (initAp k env) (env.createAp = true ∧ env.apHostname = .ok ∧ env.dhcpsStop = .ok ∧
      env.setIpInfo = .ok) Failed := by
  have hchecks (n : Nat) : Ends (do
      errorCheck (.netifSetHostname n k.apHostname) env.apHostname
      errorCheck (.netifDhcpsStop n) env.dhcpsStop
      errorCheck (.netifSetIpInfo n k.apIpv4 k.apGateway k.apNetmask) env.setIpInfo)
      (env.apHostname = .ok ∧ env.dhcpsStop = .ok ∧ env.setIpInfo = .ok) Failed :=
    .bind (ends_check _ _) fun _ => .bind (ends_check _ _) fun _ => ends_check _ _
  cases hc : env.createAp with
  | true =>
    constructor
    case ends =>
      intro d
      rw [initAp, hc, and_iff_right rfl]
      exact (hchecks d.netifs).ends _
    case stopped =>
      intro d h
      rw [initAp, hc] at h ⊢
      exact (hchecks d.netifs).stopped _ h
  | false =>
    constructor
    case ends =>
      intro d
      rw [initAp, hc]
      exact iff_of_false Bool.false_ne_true fun h => Bool.false_ne_true h.1
    case stopped =>
      intro d _
      rw [initAp, hc]
      exact ⟨.netifCreateDefaultWifi .ap none, .fail, d.log, rfl, EspErr.fail_ne_ok⟩

theorem initMode_survives (setup : WifiSetup) (env : InitEnv) :
    Ends (initMode setup env) (env.setMode = .ok ∧
      (setup.covers .sta = true → env.setStaConfig = .ok) ∧
      (setup.covers .ap = true → env.setApConfig = .ok)) Failed := by
  refine .get fun d => ?_
  cases setup with
  | sta =>
    refine Ends.congr (.bind (ends_check _ _) fun _ => ends_check _ _) ?_
    simp [WifiSetup.covers]
  | ap =>
    refine Ends.congr (.bind (ends_check _ _) fun _ => ends_check _ _) ?_
    simp [WifiSetup.covers]
  | apsta =>
    refine Ends.congr (.bind (ends_check _ _) fun _ => .bind (ends_check _ _) fun _ =>
      ends_check _ _) ?_
    simp [WifiSetup.covers]

theorem initDriver_survives (setup : WifiSetup) (env : InitEnv) :
    Ends (initDriver setup env) (env.wifiInit = .ok ∧ env.registerWifi = .ok ∧
      env.registerIp = .ok ∧ (env.setMode = .ok ∧
        (setup.covers .sta = true → env.setStaConfig = .ok) ∧
        (setup.covers .ap = true → env.setApConfig = .ok)) ∧ env.start = .ok) Failed := by
  have hps : Ends (do
      let d ← get
      let _ ← call (.wifiSetPs d.wifi.powerSaveMode) env.setPs
      pure ()) True Failed :=
    .get fun d => ends_call _ _ (.pure ())
  have hstart := (ends_check .wifiStart env.start).bind fun _ => hps
  refine .bind (ends_check _ _) fun _ => .bind (ends_check _ _) fun _ => ?_
  refine .bind (ends_check _ _) fun _ => .bind (initMode_survives setup env) fun _ => ?_
  exact hstart.congr (iff_of_eq (and_true _))

theorem init_survives (k : Kconfig) (setup : WifiSetup) (env : InitEnv) :
    Ends (init k setup env) (env.Survives setup) Failed := by
  have hinit : Ends (init k setup env) _ Failed :=
    .bind (ends_check .netifInit env.netifInit) fun _ =>
    .bind (ends_check .eventLoopCreateDefault env.eventLoopCreate) fun _ =>
    .bind (.onlyIf (initSta_survives k env)) fun err =>
    .bind (.onlyIf (initAp_survives k env)) fun _ =>
    .bind (initDriver_survives setup env) fun _ => .pure err
  refine hinit.congr (Iff.intro ?_ ?_)
  · intro h
    obtain ⟨hnetif, hloop, hsta, hap, hdriver, -⟩ := h
    obtain ⟨hwifi, hregWifi, hregIp, ⟨hmode, hstaConfig, hapConfig⟩, hstart⟩ := hdriver
    exact ⟨hnetif, hloop, hsta, hap, hwifi, hregWifi, hregIp, hmode, hstaConfig, hapConfig, hstart⟩
  · intro h
    exact ⟨h.netifInit, h.eventLoopCreate, h.sta, h.ap, ⟨h.wifiInit, h.registerWifi, h.registerIp,
      ⟨h.setMode, h.setStaConfig, h.setApConfig⟩, h.start⟩, trivial⟩

theorem deinit_survives (env : DeinitEnv) : Ends (deinit env) env.Survives Failed := by
  have hsta : Ends (deinitSta env) True Failed :=
    .of_some fun d => by rw [deinitSta_apply]; rfl
  have hap : Ends (deinitAp env) True Failed :=
    .of_some fun d => by rw [deinitAp_apply]; rfl
  refine ends_call _ _ (.ite (fun hstop => ?_) fun hstop => ?_)
  · exact (Ends.pure _).congr (iff_of_true trivial fun h => absurd h hstop)
  refine ends_call _ _ (.ite (fun hdeinit => ?_) fun hdeinit => ?_)
  · exact (Ends.pure _).congr (iff_of_true trivial fun _ h => absurd h hdeinit)
  have hrest := hsta.bind fun errSta => hap.bind fun errAp =>
    (ends_check .eventLoopDeleteDefault env.eventLoopDelete).bind fun _ =>
      (Ends.modify (B := Failed) fun d => { d with wifi.connected := false }).bind fun _ =>
        Ends.pure (errSta ||| errAp)
  refine hrest.congr ?_
  simp only [true_and, and_true]
  exact ⟨fun h _ _ => h, fun h => h (not_not.1 hstop) (not_not.1 hdeinit)⟩

end WiFi

namespace Ble

open Device

theorem initBlufi_survives (k : Kconfig) (profile : EspErr) (env : WiFi.InitEnv) :
    Ends (initBlufi k profile env) (profile = .ok → env.Survives .sta) Failed := by
  refine ends_call _ _ (.ite (fun h => ?_) fun h => ?_)
  · exact (Ends.pure _).congr (iff_of_true trivial fun ho => absurd ho h)
  · exact (WiFi.init_survives k .sta env).congr ⟨fun hs _ => hs, fun hs => hs (not_not.1 h)⟩

theorem initBlufiWith_survives (k : Kconfig) (config : WifiConfig) (profile : EspErr)
    (env : WiFi.InitEnv) (setConfigErr : EspErr) :
    Ends (initBlufiWith k config profile env setConfigErr) (profile = .ok → env.Survives .sta)
      Failed := by
  refine ends_call _ _ (.ite (fun h => ?_) fun h => ?_)
  · exact (Ends.pure _).congr (iff_of_true trivial fun ho => absurd ho h)
  · have hinit := (WiFi.init_survives k .sta env).bind fun err =>
      (ends_call (.wifiSetConfig .sta config) setConfigErr (.pure err) :
        Ends (WiFi.setConfig .sta config setConfigErr >>= fun _ => pure err) True Failed)
    exact hinit.congr ⟨fun hs _ => hs.1, fun hs => ⟨hs (not_not.1 h), trivial⟩⟩

theorem deinitBlufi_survives (profile : EspErr) (env : WiFi.DeinitEnv) :
    Ends (deinitBlufi profile env) (profile = .ok → env.Survives) Failed := by
  refine ends_call _ _ (.ite (fun h => ?_) fun h => ?_)
  · exact (Ends.pure _).congr (iff_of_true trivial fun ho => absurd ho h)
  · exact (WiFi.deinit_survives env).congr ⟨fun hs _ => hs, fun hs => hs (not_not.1 h)⟩

/-- The results of two messages are checked. -/
def BlufiEvent.Survives (env : CallbackEnv) : BlufiEvent → Prop
  | .setWifiOpmode _ => env.setMode = .ok
  | .getWifiList => env.scanStart = .ok
  | _ => True

theorem callback_survives (e : BlufiEvent) (env : CallbackEnv) :
    Ends (defaultBlufiCallback e env) (e.Survives env) Failed := by
  have hrecv (i : WifiInterface) (ss : List Bytes.Store) :
      Ends (recv i ss env.setConfig) True Failed :=
    .of_some fun _ => rfl
  cases e with
  | setWifiOpmode opMode => exact ends_check _ _
  | getWifiList => exact ends_check _ _
  | recvSoftapMaxConnNum n => exact .ite (fun _ => .pure ()) fun _ => hrecv _ _
  | recvSoftapAuthMode m => exact .ite (fun _ => .pure ()) fun _ => hrecv _ _
  | recvSoftapChannel c => exact .ite (fun _ => .pure ()) fun _ => hrecv _ _
  | _ => exact .of_some fun _ => rfl

end Ble

namespace Device

/-- An operation whose checked calls all succeed. -/
def Op.Survives : Op → Prop
  | .init setup env => env.Survives setup
  | .deinit env => env.Survives
  | .initBlufi profile env => profile = .ok → env.Survives .sta
  | .initBlufiWith _ profile env _ => profile = .ok → env.Survives .sta
  | .deinitBlufi profile env => profile = .ok → env.Survives
  | .blufi e env => e.Survives env
  | _ => True

variable {k : Kconfig} {d : Device} {r : Driver}

/-- An operation of a running device leaves it running if it survives, and else with the call that
failed as its latest. -/
structure Outcome (op : Op) (d : Device) : Prop where
  running : d.Running ↔ op.Survives
  failed : ¬ d.Running → Failed d

theorem settle_outcome {p : Prog Device α} {op : Op} (hp : Ends p op.Survives Failed)
    (hk : Keeps (fun e => e.aborted = false) p) (hd : d.Running) :
    Outcome op (settle (p d)) := by
  have he := hp.ends d
  have hb := hp.stopped d
  have hf := hk d hd
  cases hs : p d with
  | mk d' a =>
    rw [hs] at he hb hf
    cases a with
    | some a => exact ⟨iff_of_true hf (he.1 rfl), fun h => absurd hf h⟩
    | none =>
      have hnot : ¬ op.Survives := fun h => Bool.false_ne_true (he.2 h)
      have habort : ¬ Running (settle (d', (none : Option α))) := fun h => by cases h
      exact ⟨iff_of_false habort hnot, fun _ => hb rfl⟩

theorem outcome_of_running {op : Op} (h : d.Running) (hs : op.Survives) : Outcome op d :=
  ⟨iff_of_true h hs, fun hn => absurd h hn⟩

theorem run_outcome (k : Kconfig) (op : Op) (hd : d.Running) : Outcome op (op.run k d) := by
  have hinit (setup : WifiSetup) (env : WiFi.InitEnv) :
      Keeps (fun e : Device => e.aborted = false) (WiFi.init k setup env) :=
    WiFi.init_keeps (fun _ _ _ _ h => h) (fun _ _ h => h) (fun _ _ h => h) (fun _ _ h => h) k env
  have hdeinit (env : WiFi.DeinitEnv) :
      Keeps (fun e : Device => e.aborted = false) (WiFi.deinit env) :=
    WiFi.deinit_keeps (fun _ _ _ _ h => h) (fun _ h => h) (fun _ h => h) env
  cases op with
  | init setup env => exact settle_outcome (WiFi.init_survives k setup env) (hinit setup env) hd
  | deinit env => exact settle_outcome (WiFi.deinit_survives env) (hdeinit env) hd
  | connect err =>
    have he : (settle (WiFi.connect err d)).aborted = d.aborted := by
      rw [WiFi.connect_apply]
      rfl
    exact outcome_of_running (he.trans hd) trivial
  | initBlufi profile env =>
    exact settle_outcome (Ble.initBlufi_survives k profile env)
      (Ble.initBlufi_keeps (fun _ _ h => h) (hinit .sta) profile env) hd
  | initBlufiWith config profile env setConfigErr =>
    exact settle_outcome (Ble.initBlufiWith_survives k config profile env setConfigErr)
      (Ble.initBlufiWith_keeps (fun _ _ h => h) (hinit .sta) (fun _ _ _ h => h) config profile env
        setConfigErr) hd
  | deinitBlufi profile env =>
    exact settle_outcome (Ble.deinitBlufi_survives profile env)
      (Ble.deinitBlufi_keeps (fun _ _ h => h) hdeinit profile env) hd
  | wifiEvent e err =>
    cases e with
    | _ => exact outcome_of_running hd trivial
  | ipEvent e =>
    cases e with
    | _ => exact outcome_of_running hd trivial
  | blufi e env =>
    exact settle_outcome (Ble.callback_survives e env)
      (Ble.callback_keeps (fun _ _ _ _ h => h) (fun _ _ _ h => h) env) hd
  | _ => exact outcome_of_running hd trivial

theorem run_aborted (h : ¬ d.Running) (ops : List Op) : Run.run (step k) d ops = d := by
  induction ops with
  | nil => rfl
  | cons op ops ih => rw [Run.run_cons, step_aborted (Bool.not_eq_false _ ▸ h), ih]

/-- The first operation that does not survive is the last that has an effect, and it ends with the
call that failed. -/
def StopsIn (k : Kconfig) (d : Device) (ops : List Op) : Prop :=
  ∃ pre op post, ops = pre ++ op :: post ∧ (∀ o ∈ pre, o.Survives) ∧ ¬ op.Survives ∧
    Run.run (step k) d ops = op.run k (Run.run (step k) d pre) ∧ Failed (Run.run (step k) d ops)

theorem run_survives_iff (hd : d.Running) (ops : List Op) :
    ((Run.run (step k) d ops).Running ↔ ∀ op ∈ ops, op.Survives) ∧
      (¬ (Run.run (step k) d ops).Running → StopsIn k d ops) := by
  induction ops generalizing d with
  | nil => exact ⟨iff_of_true hd (List.forall_mem_nil _), fun h => absurd hd h⟩
  | cons op ops ih =>
    have hop := run_outcome k op hd
    have hstep : d.step k op = op.run k d := step_running (Bool.eq_false_iff.1 hd) k op
    rw [Run.run_cons, List.forall_mem_cons, hstep]
    by_cases hs : op.Survives
    · obtain ⟨hiff, hstop⟩ := ih (hop.running.2 hs)
      rw [and_iff_right hs]
      refine ⟨hiff, fun h => ?_⟩
      obtain ⟨pre, o, post, rfl, hpre, ho, hrun, hf⟩ := hstop h
      refine ⟨op :: pre, o, post, rfl, List.forall_mem_cons.2 ⟨hs, hpre⟩, ho, ?_⟩
      rw [Run.run_cons, Run.run_cons, hstep]
      exact ⟨hrun, hf⟩
    · have hr : ¬ (op.run k d).Running := fun h => hs (hop.running.1 h)
      rw [run_aborted hr]
      refine ⟨iff_of_false hr fun h => hs h.1, fun _ => ?_⟩
      refine ⟨[], op, ops, rfl, List.forall_mem_nil _, hs, ?_⟩
      rw [Run.run_cons, hstep, run_aborted hr]
      exact ⟨rfl, hop.failed hr⟩

/-- A device runs on for as long as every operation survives, whatever the results that are not
checked, and stops in the first that does not. -/
theorem running_iff_survives (k : Kconfig) (r : Driver) (ops : List Op) :
    ((Run.run (step k) (boot k r) ops).Running ↔ ∀ op ∈ ops, op.Survives) ∧
      (¬ (Run.run (step k) (boot k r) ops).Running → StopsIn k (boot k r) ops) := by
  have h0 : (boot k r).Running := rfl
  exact run_survives_iff h0 ops

end Device

end LDM
