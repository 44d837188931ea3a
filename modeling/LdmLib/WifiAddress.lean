import LdmLib.DeviceRun
import LdmLib.WifiReport

namespace LDM
set_option autoImplicit true

open Bytes Prog Text JsonHeap

/-- The addresses that a DHCP server hands out. -/
structure Lease where
  ip : BitVec 32
  netmask : BitVec 32
  gateway : BitVec 32
  deriving DecidableEq, Repr

def Lease.zero : Lease := ⟨0, 0, 0⟩

/-- The address of some bytes, its lowest byte first. -/
def address (bs : List UInt8) : BitVec 32 :=
  BitVec.ofNat 32 (bs.foldr (fun b n => b.toNat + 256 * n) 0)

def Says (s : List UInt8) (ip : BitVec 32) : Prop := address (readIp s) = ip

instance (s : List UInt8) (ip : BitVec 32) : Decidable (Says s ip) :=
  inferInstanceAs (Decidable (_ = _))

namespace WiFi

def lease (w : WiFi) : Lease := ⟨w.ipv4Address, w.netmask, w.gateway⟩

theorem toNat_getByte (ip : BitVec 32) (i : Nat) :
    (getByte ip i).toNat = ip.toNat >>> (8 * i) % 256 := by
  rw [getByte, UInt8.toNat, BitVec.extractLsb'_toNat]

theorem address_ipBytes (ip : BitVec 32) : address (ipBytes ip) = ip := by
  have hlt := ip.isLt
  apply BitVec.eq_of_toNat_eq
  rw [address, BitVec.toNat_ofNat]
  simp only [ipBytes, List.foldr_cons, List.foldr_nil, toNat_getByte]
  omega

theorem ipText_says (ip : BitVec 32) : Says (snprintf 16 (ipFormat (ipBytes ip))) ip := by
  have hne : ipBytes ip ≠ [] := List.cons_ne_nil _ _
  rw [Says, snprintf_ip rfl, readIp_ipFormat hne, address_ipBytes]

end WiFi

namespace Device

def Op.lease : Op → Option Lease
  | .ipEvent (.staGotIp ip netmask gw) => some ⟨ip, netmask, gw⟩
  | _ => none

variable {k : Kconfig} {ops : List Op} {r : Driver}

theorem run_lease (k : Kconfig) (op : Op) (d : Device) :
    (op.run k d).wifi.lease = op.lease.getD d.wifi.lease := by
  have hinit (setup : WifiSetup) (env : WiFi.InitEnv) :
      Keeps (fun e : Device => e.wifi.lease = d.wifi.lease) (WiFi.init k setup env) :=
    WiFi.init_keeps (fun _ _ _ _ h => h) (fun _ _ h => h) (fun _ _ h => h) (fun _ _ h => h) k env
  have hdeinit (env : WiFi.DeinitEnv) :
      Keeps (fun e : Device => e.wifi.lease = d.wifi.lease) (WiFi.deinit env) :=
    WiFi.deinit_keeps (fun _ _ _ _ h => h) (fun _ h => h) (fun _ h => h) env
  have hs {α : Type} (q : Device × Option α) (h : q.1.wifi.lease = d.wifi.lease) :
      (settle q).wifi.lease = d.wifi.lease :=
    (congrArg WiFi.lease (settle_wifi q)).trans h
  cases op with
  | init setup env => exact hs _ (hinit setup env d rfl)
  | deinit env => exact hs _ (hdeinit env d rfl)
  | connect err =>
    change (settle (WiFi.connect err d)).wifi.lease = _
    rw [WiFi.connect_apply]
    rfl
  | initBlufi profile env =>
    exact hs _ (Ble.initBlufi_keeps (fun _ _ h => h) (hinit .sta) profile env d rfl)
  | initBlufiWith config profile env setConfigErr =>
    exact hs _ (Ble.initBlufiWith_keeps (fun _ _ h => h) (hinit .sta) (fun _ _ _ h => h) config
      profile env setConfigErr d rfl)
  | deinitBlufi profile env =>
    exact hs _ (Ble.deinitBlufi_keeps (fun _ _ h => h) hdeinit profile env d rfl)
  | wifiEvent e err =>
    cases e with
    | _ => rfl
  | ipEvent e =>
    cases e with
    | _ => rfl
  | blufi e env =>
    have hcallback : Keeps (fun f : Device => f.wifi.lease = d.wifi.lease)
        (Ble.defaultBlufiCallback e env) :=
      Ble.callback_keeps (fun _ _ _ _ h => h) (fun _ _ _ h => h) env
    exact hs _ (hcallback d rfl)
  | _ => rfl

def leased (ops : List Op) : Lease := LastWriter.last Op.lease Lease.zero ops

theorem lease_last (h : (Run.run (step k) (boot k r) ops).Running) :
    (Run.run (step k) (boot k r) ops).wifi.lease = leased ops :=
  last_written (fun d => d.wifi.lease) (run_lease k) h

end Device

namespace WiFi

/-- The program that asks, and the reader of the report, are told the addresses of a lease where
the flag is up, and none where it is down. The report ends with them, under another key if the flag
is up. -/
structure TellsLease (w : WiFi) (lease : Lease) : Prop where
  asked : w.getIpv4 =
    if w.isConnected then (.ok, some (ipBytes lease.ip)) else (.fail, none)
  reported : ∀ q x, ∃ sections ip netmask gw,
    Says ip lease.ip ∧ Says netmask lease.netmask ∧ Says gw lease.gateway ∧
      returned (buildJson ⟨w, q, x⟩) = some (.node .object (sections ++
        [if w.isConnected then
          (some "connected_ap", .node .object ([stringLeaf "ipv4" ip, stringLeaf "netmask" netmask,
            stringLeaf "gateway" gw].map leaf))
        else (some "ip_address", textValue "NONE")]))

/-- The addresses are the last section of the report. -/
theorem report_ipAddress (r : Inputs) : ∃ sections, r.report = sections ++
    [if r.wifi.isConnected then (some "connected_ap", .node .object (r.wifi.ipLeaves.map leaf))
    else (some "ip_address", textValue "NONE")] := by
  refine ⟨Section.all.dropLast.map r.item, ?_⟩
  have hitem : r.item .ipAddress =
      if r.wifi.isConnected then (some "connected_ap", .node .object (r.wifi.ipLeaves.map leaf))
      else (some "ip_address", textValue "NONE") := by
    rw [Inputs.item, Inputs.key, Inputs.value, isConnected]
    cases r.wifi.connected with
    | true => rfl
    | false => rfl
  rw [← hitem]
  rfl

end WiFi

namespace Device

variable {k : Kconfig} {ops : List Op} {r : Driver}

/-- In every run it is the lease handed out last, even where the station has lost it since. -/
theorem tells_lease (h : (Run.run (step k) (boot k r) ops).Running) :
    WiFi.TellsLease (Run.run (step k) (boot k r) ops).wifi (leased ops) := by
  have hl := lease_last h
  generalize (Run.run (step k) (boot k r) ops).wifi = w at hl
  rw [← hl]
  constructor
  case asked => rfl
  case reported =>
    intro q x
    obtain ⟨sections, hreport⟩ := WiFi.report_ipAddress ⟨w, q, x⟩
    refine ⟨sections, _, _, _, WiFi.ipText_says w.ipv4Address, WiFi.ipText_says w.netmask,
      WiFi.ipText_says w.gateway, ?_⟩
    rw [WiFi.buildJson_returned, hreport]
    rfl

theorem tells_lease_lost :
    WiFi.TellsLease (Run.run (step Kconfig.defaults)
      (boot Kconfig.defaults ⟨fun _ => 0, fun _ => 0⟩)
        [.init .sta WiFi.initOk, .ipEvent (.staGotIp 0x0A00A8C0 0xFFFFFF 0x0100A8C0),
          .wifiEvent .staStop .ok, .connect .ok]).wifi
      ⟨0x0A00A8C0, 0xFFFFFF, 0x0100A8C0⟩ :=
  tells_lease (by decide)

end Device

end LDM
