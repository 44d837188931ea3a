import LdmLib.DeviceRun

namespace LDM.WiFi
set_option autoImplicit true

open Bytes Prog

variable {d d' : Device} {a : Option (BitVec 32)}

def ClearsOk (w : WiFi) (env : DeinitEnv) : Prop :=
  (w.netifSta.isSome = true → env.clearSta = .ok) ∧ (w.netifAp.isSome = true → env.clearAp = .ok)

theorem clearErr_eq_ok (w : WiFi) (env : DeinitEnv) :
    clearErr w env = .ok ↔ ClearsOk w env := by
  rw [clearErr, EspErr.or_eq_ok, ClearsOk, ite_eq_right_iff, ite_eq_right_iff]

theorem deinit_ran (h : RunsToEnd env) (d : Device) :
    (deinit env d).1.wifi.connected = false ∧
      (deinit env d).2 = some (clearErr d.wifi env) := by
  obtain ⟨h1, h2, h3⟩ := h
  have he := deinit_ends d env
  generalize deinit env d = r at he
  cases he with
  | stop he => exact (he h1).elim
  | wifiDeinit _ he => exact (he h2).elim
  | aborted _ _ he => exact (he h3).elim
  | done => exact ⟨rfl, rfl⟩

theorem disposed_connected (d : Device) (env : DeinitEnv) :
    (disposed d env).wifi.connected = d.wifi.connected :=
  disposed_keeps (I := fun s => s.wifi.connected = d.wifi.connected) (fun _ _ _ _ h => h)
    (fun _ h => h) rfl env

theorem deinit_not_ran (h : ¬ RunsToEnd env) (d : Device) :
    (deinit env d).1.wifi.connected = d.wifi.connected ∧ (deinit env d).2 ≠ some .ok := by
  have he := deinit_ends d env
  generalize deinit env d = r at he
  cases he with
  | stop he => exact ⟨rfl, fun hs => he (Option.some.inj hs)⟩
  | wifiDeinit _ he => exact ⟨rfl, fun hs => he (Option.some.inj hs)⟩
  | aborted => exact ⟨disposed_connected _ env, fun hs => by cases hs⟩
  | done h1 h2 h3 => exact (h ⟨h1, h2, h3⟩).elim

theorem deinit_ipv4Address (d : Device) (env : DeinitEnv) :
    (deinit env d).1.wifi.ipv4Address = d.wifi.ipv4Address :=
  Keeps.frame (g := fun s : Device => s.wifi.ipv4Address)
    (fun _ => deinit_keeps (fun _ _ _ _ h => h) (fun _ h => h) (fun _ h => h) env) d

def link (d : Device) : Bool × BitVec 32 := (d.wifi.connected, d.wifi.ipv4Address)

theorem init_link (k : Kconfig) (setup : WifiSetup) (env : InitEnv) (l : Bool × BitVec 32) :
    Keeps (fun d => link d = l) (init k setup env) :=
  init_keeps (fun _ _ _ _ h => h) (fun _ _ h => h) (fun _ _ h => h) (fun _ _ h => h) k env

theorem callback_link (e : Ble.BlufiEvent) (env : Ble.CallbackEnv) (l : Bool × BitVec 32) :
    Keeps (fun d => link d = l) (Ble.defaultBlufiCallback e env) :=
  Ble.callback_keeps (fun _ _ _ _ h => h) (fun _ _ _ h => h) env

/-- The address of the current association: the latest that was got, unless the link was lost or
the station stopped since, or a `disconnect` or `deinit` returned `ESP_OK`. -/
def associationAfter (d : Device) (a : Option (BitVec 32)) : Device.Op → Option (BitVec 32)
  | .ipEvent (.staGotIp ip _ _) => some ip
  | .wifiEvent .staDisconnected _ => none
  | .wifiEvent .staStop _ => none
  | .disconnect err => if (disconnect err d).2 = some .ok then none else a
  | .deinit env => if (deinit env d).2 = some .ok then none else a
  | .deinitBlufi profile env =>
    if profile = .ok ∧ (deinit env (d.record .blufiProfileDeinit profile)).2 = some .ok then none
    else a
  | _ => a

def association (a : Option (BitVec 32)) (d : Device) (op : Device.Op) : Option (BitVec 32) :=
  if d.aborted then a else associationAfter d a op

structure LinkSound (p : Device × Option (BitVec 32)) : Prop where
  connected : p.1.wifi.isConnected = true ↔ p.2.isSome = true
  address : p.1.wifi.getIpv4.1 = .ok → p.2 = some p.1.wifi.ipv4Address

structure LinkInv (p : Device × Option (BitVec 32)) : Prop where
  connected : p.1.wifi.connected = p.2.isSome
  address : ∀ ip, p.2 = some ip → p.1.wifi.ipv4Address = ip

def DeinitGuard (w : WiFi) (env : DeinitEnv) : Prop :=
  RunsToEnd env → ClearsOk w env ∨ w.connected = false

def LinkGuardOf (w : WiFi) : Device.Op → Prop
  | .connect _ => w.connected = true
  | .disconnect err => err = .ok ∨ w.connected = false
  | .wifiEvent .staDisconnected _ => w.connected = false
  | .deinit env => DeinitGuard w env
  | .deinitBlufi profile env => profile = .ok → DeinitGuard w env
  | _ => True

/-- No `connect` while the flag is down, no link lost while it is up, and no `disconnect` or
`deinit` that fails while it is up, unless `deinit` returns early. -/
def LinkGuard (p : Device × Option (BitVec 32)) (op : Device.Op) : Prop :=
  p.1.aborted = true ∨ LinkGuardOf p.1.wifi op

theorem LinkInv.same (h : LinkInv (d, a)) (hl : link d' = link d) : LinkInv (d', a) := by
  obtain ⟨hc, hi⟩ := Prod.mk.inj hl
  exact ⟨hc.trans h.connected, fun ip ha => hi.trans (h.address ip ha)⟩

theorem linkInv_down (hc : d.wifi.connected = false) : LinkInv (d, a) ↔ a = none := by
  apply Iff.intro
  · intro h
    have hs : a.isSome = false := h.connected.symm.trans hc
    cases a with
    | none => rfl
    | some ip => cases hs
  · rintro rfl
    exact ⟨hc, fun ip hip => by cases hip⟩

theorem linkInv_none : LinkInv (d, none) ↔ d.wifi.connected = false := by
  apply Iff.intro
  · intro h
    exact h.connected
  · intro h
    exact (linkInv_down h).2 rfl

theorem LinkInv.none_iff (h : LinkInv (d, a)) : a = none ↔ d.wifi.connected = false := by
  have hc : d.wifi.connected = a.isSome := h.connected
  rw [hc]
  cases a with
  | none => exact iff_of_true rfl rfl
  | some ip => exact iff_of_false (fun h => by cases h) (fun h => by cases h)

theorem linkSound_iff (p : Device × Option (BitVec 32)) : LinkSound p ↔ LinkInv p := by
  obtain ⟨d, a⟩ := p
  apply Iff.intro
  · intro h
    have hc : d.wifi.connected = a.isSome := Bool.eq_iff_iff.2 h.connected
    refine ⟨hc, fun ip ha => ?_⟩
    have ha : a = some ip := ha
    have hup : d.wifi.isConnected = true := by rw [isConnected, hc, ha]; rfl
    have hs : a = some d.wifi.ipv4Address := h.address (by simp [getIpv4, hup])
    rw [ha] at hs
    exact (Option.some.inj hs).symm
  · intro h
    refine ⟨Bool.eq_iff_iff.1 h.connected, fun hok => ?_⟩
    have hup : d.wifi.connected = true := by
      by_contra hn
      simp [getIpv4, isConnected, hn] at hok
    have hs : a.isSome = true := h.connected.symm.trans hup
    obtain ⟨ip, ha⟩ := Option.isSome_iff_exists.1 hs
    have hip : d.wifi.ipv4Address = ip := h.address ip ha
    rw [hip]
    exact ha

theorem ite_eq_none [Decidable c] : (if c then none else a) = none ↔ c ∨ a = none := by
  by_cases hc : c
  · simp [hc]
  · simp [hc]

theorem LinkInv.deinit_iff (h : LinkInv (d, a)) (env : DeinitEnv) :
    LinkInv ((deinit env d).1, if (deinit env d).2 = some .ok then none else a) ↔
      DeinitGuard d.wifi env := by
  by_cases hr : RunsToEnd env
  · obtain ⟨hc, he⟩ := deinit_ran hr d
    rw [linkInv_down hc, he, ite_eq_none, Option.some.injEq, clearErr_eq_ok, h.none_iff]
    exact ⟨fun hg _ => hg, fun hg => hg hr⟩
  · obtain ⟨hc, he⟩ := deinit_not_ran hr d
    rw [if_neg he]
    exact iff_of_true (h.same (Prod.ext hc (deinit_ipv4Address d env))) fun hn => (hr hn).elim

theorem LinkInv.deinitBlufi_iff (h : LinkInv (d, a)) (profile : EspErr) (env : DeinitEnv) :
    LinkInv ((Ble.deinitBlufi profile env d).1, associationAfter d a (.deinitBlufi profile env)) ↔
      (profile = .ok → DeinitGuard d.wifi env) := by
  by_cases hp : profile = .ok
  · subst hp
    have hd : LinkInv (d.record .blufiProfileDeinit .ok, a) := h.same rfl
    simpa [associationAfter, Ble.deinitBlufi_ok] using hd.deinit_iff env
  · rw [Ble.deinitBlufi_fail hp, associationAfter, if_neg fun hn => hp hn.1]
    exact iff_of_true (h.same rfl) fun hn => (hp hn).elim

theorem LinkInv.connect_iff (h : LinkInv (d, a)) (err : EspErr) :
    LinkInv ((connect err d).1, a) ↔ d.wifi.connected = true := by
  rw [connect_apply]
  apply Iff.intro
  · intro hn
    have hs : true = a.isSome := hn.connected
    exact h.connected.trans hs.symm
  · intro hc
    exact h.same (Prod.ext hc.symm rfl)

theorem LinkInv.disconnect_iff (h : LinkInv (d, a)) (err : EspErr) :
    LinkInv ((disconnect err d).1, if (disconnect err d).2 = some .ok then none else a) ↔
      err = .ok ∨ d.wifi.connected = false := by
  have he : (disconnect err d).2 = some err := rfl
  have hc : (disconnect err d).1.wifi.connected = false := rfl
  rw [linkInv_down hc, he, ite_eq_none, Option.some.injEq, h.none_iff]

theorem LinkInv.wifiEvent_iff (h : LinkInv (d, a)) (e : WifiEvent) (err : EspErr) :
    LinkInv ((wifiEventHandler e err d).1, associationAfter d a (.wifiEvent e err)) ↔
      LinkGuardOf d.wifi (.wifiEvent e err) := by
  cases e with
  | staDisconnected => exact linkInv_none
  | staStop => exact iff_of_true (linkInv_none.2 rfl) trivial
  | _ => exact iff_of_true (h.same rfl) trivial

theorem linkInv_settle {r : Device × Option α} :
    LinkInv (Device.settle r, a) ↔ LinkInv (r.1, a) := by
  have hl : link (Device.settle r) = link r.1 := by
    rw [link, Device.settle_wifi]
    rfl
  apply Iff.intro
  · intro h
    exact h.same hl.symm
  · intro h
    exact h.same hl

/-- From a state where the flag tells of the association, an operation keeps it so exactly when it
meets the guard. -/
theorem LinkInv.run_iff (h : LinkInv (d, a)) (k : Kconfig) (op : Device.Op) :
    LinkInv (op.run k d, associationAfter d a op) ↔ LinkGuardOf d.wifi op := by
  cases op with
  | init setup env =>
    exact iff_of_true (linkInv_settle.2 (h.same (init_link k setup env _ d rfl))) trivial
  | deinit env => exact linkInv_settle.trans (h.deinit_iff env)
  | connect err => exact linkInv_settle.trans (h.connect_iff err)
  | disconnect err => exact linkInv_settle.trans (h.disconnect_iff err)
  | setConfig i config err => exact iff_of_true (h.same rfl) trivial
  | setWifiMode mode err => exact iff_of_true (h.same rfl) trivial
  | initBlufi profile env =>
    have hk := Ble.initBlufi_keeps (I := fun d' => link d' = link d) (fun _ _ h => h)
      (fun env => init_link k .sta env _) profile env d rfl
    exact iff_of_true (linkInv_settle.2 (h.same hk)) trivial
  | initBlufiWith config profile env setConfigErr =>
    have hk := Ble.initBlufiWith_keeps (I := fun d' => link d' = link d) (fun _ _ h => h)
      (fun env => init_link k .sta env _) (fun _ _ _ h => h) config profile env setConfigErr d rfl
    exact iff_of_true (linkInv_settle.2 (h.same hk)) trivial
  | deinitBlufi profile env => exact linkInv_settle.trans (h.deinitBlufi_iff profile env)
  | setupDefaultBleGapCallback env => exact iff_of_true (h.same rfl) trivial
  | wifiEvent e err => exact linkInv_settle.trans (h.wifiEvent_iff e err)
  | ipEvent e =>
    cases e with
    | staGotIp ip netmask gw =>
      exact iff_of_true ⟨rfl, fun ip' he => Option.some.inj he⟩ trivial
    | other => exact iff_of_true (h.same rfl) trivial
  | blufi e env =>
    exact iff_of_true (linkInv_settle.2 (h.same (callback_link e env _ d rfl))) trivial

theorem LinkInv.step_iff (h : LinkInv p) (k : Kconfig) (op : Device.Op) :
    LinkInv (Run.watch (Device.step k) association p op) ↔ LinkGuard p op := by
  obtain ⟨d, a⟩ := p
  simp only [Run.watch, Device.step, association, LinkGuard]
  by_cases ha : d.aborted = true
  · rw [if_pos ha, if_pos ha]
    exact iff_of_true h (.inl ha)
  · rw [if_neg ha, if_neg ha, h.run_iff, or_iff_right ha]

/-- Along a run the flag tells whether there is an association, and an address is only given out
with its association, exactly when every operation meets the guard. -/
theorem connected_iff (k : Kconfig) (r : Driver) (ops : List Device.Op) :
    Run.Always (Run.watch (Device.step k) association) LinkSound (Device.boot k r, none) ops ↔
      Run.Guarded (Run.watch (Device.step k) association) LinkGuard (Device.boot k r, none) ops := by
  apply Run.always_iff_guarded (linkInv_none.2 rfl)
  · intro p h
    exact (linkSound_iff p).2 h
  · intro p op h hg
    exact (h.step_iff k op).2 hg
  · intro p op h hs
    exact (h.step_iff k op).1 ((linkSound_iff _).1 hs)

/-- `connect` raises the flag before there is any association, even where it fails. -/
theorem connected_early : ¬ Run.Always (Run.watch (Device.step Kconfig.defaults) association)
    LinkSound (Device.boot Kconfig.defaults ⟨fun _ => 0, fun _ => 0⟩, none) [.connect .fail] := by
  intro h
  have hc := h.last.connected
  revert hc
  decide

end LDM.WiFi
