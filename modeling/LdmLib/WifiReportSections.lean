import LdmLib.WifiReport

namespace LDM.WiFi
set_option autoImplicit true

open Bytes Text JsonHeap KeyedTree

/-- The queries that a section is made from have had the same results. -/
def Section.SameQuery (r r' : Inputs) : Section → Prop
  | mode => r.queries.mode = r'.queries.mode
  | configStaMode => r.queries.config .sta = r'.queries.config .sta
  | configApMode => r.queries.config .ap = r'.queries.config .ap
  | country => r.queries.country = r'.queries.country
  | staBandwidth => r.queries.bandwidth .sta = r'.queries.bandwidth .sta
  | apBandwidth => r.queries.bandwidth .ap = r'.queries.bandwidth .ap
  | powerSave => r.queries.powerSave = r'.queries.powerSave
  | connectedAp => r.queries.apInfo = r'.queries.apInfo
  | ipAddress => r.wifi.connected = r'.wifi.connected ∧
      r.wifi.ipv4Address = r'.wifi.ipv4Address ∧ r.wifi.netmask = r'.wifi.netmask ∧
      r.wifi.gateway = r'.wifi.gateway

/-- No key twice at any level, and each section once. -/
structure WellFormed (j : Json) : Prop where
  distinct : j.Distinct
  once : ∀ s : Section, (j.valuesOf s.key).length = 1

/-- What two runs return is well-formed, and a section is the same if its own query is. -/
structure SectionsSound (r r' : Inputs) : Prop where
  first : ∃ j, returned (buildJson r) = some j ∧ WellFormed j
  second : ∃ j, returned (buildJson r') = some j ∧ WellFormed j
  separate : ∀ j j', returned (buildJson r) = some j → returned (buildJson r') = some j' →
    ∀ s : Section, s.SameQuery r r' → j.valuesOf s.key = j'.valuesOf s.key

variable {r r' : Inputs}

theorem keys_report (r : Inputs) : keys r.report = Section.all.map r.key := rfl

theorem key_of_down (h : r.wifi.connected = false) (s : Section) : r.key s = s.key := by
  cases s with
  | ipAddress => exact if_neg (by rw [h]; exact Bool.false_ne_true)
  | _ => rfl

theorem keys_nodup_iff (r : Inputs) : (keys r.report).Nodup ↔ r.wifi.connected = false := by
  rw [keys_report]
  apply Iff.intro
  · intro h
    cases hc : r.wifi.connected with
    | false => rfl
    | true =>
      have hk : r.key .ipAddress = r.key .connectedAp := if_pos hc
      have hn : ([Section.connectedAp, .ipAddress].map r.key).Nodup :=
        h.sublist (List.Sublist.map r.key (by decide))
      rw [List.map_cons, List.map_cons, hk] at hn
      exact absurd List.mem_cons_self (List.nodup_cons.1 hn).1
  · intro h
    rw [List.map_congr_left fun s _ => key_of_down h s]
    decide

theorem distinct_text (s : String) : (textValue s).Distinct := distinct_leaf _

theorem distinct_name (name : Option String) : (nameValue name).Distinct := by
  cases name with
  | none => exact distinct_text _
  | some n => exact distinct_text _

theorem distinct_object {items : α → List (Item Kind)}
    (h : ∀ a, (KeyedTree.node Kind.object (items a)).Distinct) (q : Option α) :
    (objectValue (q.map items)).Distinct := by
  cases q with
  | none => exact distinct_text _
  | some a => exact h a

theorem distinct_staConfig (c : WifiConfig) (beyond : CString) :
    (KeyedTree.node Kind.object ((staConfigLeaves c beyond).map leaf)).Distinct := by
  apply distinct_leaves
  change ["ssid", "password", "bssid_set", "bssid", "channel", "listen_interval"].Nodup
  decide

theorem distinct_apConfig (c : WifiConfig) (beyond : CString) :
    (KeyedTree.node Kind.object ((apConfigLeaves c beyond).map leaf)).Distinct := by
  have hall : ["ssid", "password", "ssid_len", "authmode", "channel", "ssid_hidden",
      "max_connection", "beacon_interval"].Nodup := by decide
  apply distinct_leaves
  refine hall.sublist ?_
  rw [apConfigLeaves]
  cases c.authmode with
  | none => exact .cons_cons _ (.cons_cons _ (.cons_cons _ (.cons _ (.refl _))))
  | some a => exact .refl _

theorem country_keys (c : Country) (padding : Vector UInt8 2) (policy : Option CountryPolicy) :
    ((countryLeaves c padding policy).filterMap Prod.fst).Nodup := by
  have hall : ["country_code", "start_channel", "total_channel_num", "max_tx_power",
      "country_policy"].Nodup := by decide
  refine hall.sublist ?_
  cases policy with
  | none => exact .cons_cons _ (.cons_cons _ (.cons_cons _ (.cons_cons _ (.cons _ (.refl _)))))
  | some p => exact .refl _

theorem distinct_country (c : Country) (padding : Vector UInt8 2) (policy : Option CountryPolicy) :
    (KeyedTree.node Kind.object ((countryLeaves c padding policy).map leaf)).Distinct :=
  distinct_leaves (country_keys c padding policy) .object

theorem distinct_apInfo (padding : Vector UInt8 2) (policy : Option CountryPolicy) (a : ApRecord) :
    (KeyedTree.node Kind.object (apInfoItems padding policy a)).Distinct := by
  apply distinct_node.2
  apply And.intro
  · change ["bssid", "ssid", "primary_channel", "secondary_channel", "rssi", "authmode",
      "pairwise_cipher", "group_cipher", "antenna", "phy_11b", "phy_11g", "phy_11n", "phy_lr",
      "wps", "reserved", "country"].Nodup
    decide
  · intro c hc
    cases List.mem_append.1 hc with
    | inl hc =>
      obtain ⟨l, _, rfl⟩ := List.mem_map.1 hc
      exact distinct_leaf l.2
    | inr hc =>
      rw [List.mem_singleton.1 hc]
      exact distinct_country a.country padding policy

theorem distinct_ip (w : WiFi) : (KeyedTree.node Kind.object (w.ipLeaves.map leaf)).Distinct := by
  apply distinct_leaves
  change ["ipv4", "netmask", "gateway"].Nodup
  decide

theorem distinct_value (r : Inputs) (s : Section) : (r.value s).Distinct := by
  cases s with
  | mode => exact distinct_name _
  | configStaMode => exact distinct_object (fun c => distinct_staConfig c _) _
  | configApMode => exact distinct_object (fun c => distinct_apConfig c _) _
  | country => exact distinct_object (fun c => distinct_country c _ _) _
  | staBandwidth => exact distinct_name _
  | apBandwidth => exact distinct_name _
  | powerSave => exact distinct_name _
  | connectedAp => exact distinct_object (distinct_apInfo _ r.policy) _
  | ipAddress =>
    change (objectValue (if r.wifi.connected then some (r.wifi.ipLeaves.map leaf) else none)).Distinct
    cases r.wifi.connected with
    | false => exact distinct_text _
    | true => exact distinct_ip r.wifi

theorem valuesOf_report (h : r.wifi.connected = false) (s : Section) :
    (KeyedTree.node Kind.object r.report).valuesOf s.key = [r.value s] := by
  apply valuesOf_of_nodup ((keys_nodup_iff r).2 h)
  rw [← key_of_down h s]
  exact List.mem_map_of_mem s.mem_all

/-- The report is well-formed unless the addresses take the key of another section. -/
theorem wellFormed_iff (r : Inputs) :
    (∃ j, returned (buildJson r) = some j ∧ WellFormed j) ↔ r.wifi.connected = false := by
  apply Iff.intro
  · intro h
    obtain ⟨j, hj, hw⟩ := h
    rw [buildJson_returned, Option.some.injEq] at hj
    subst hj
    exact (keys_nodup_iff r).1 (distinct_node.1 hw.distinct).1
  · intro h
    have hdistinct : (KeyedTree.node Kind.object r.report).Distinct := by
      apply distinct_node.2
      apply And.intro
      · exact (keys_nodup_iff r).2 h
      · intro c hc
        obtain ⟨s, _, rfl⟩ := List.mem_map.1 hc
        exact distinct_value r s
    have honce (s : Section) :
        ((KeyedTree.node Kind.object r.report).valuesOf s.key).length = 1 := by
      rw [valuesOf_report h s]
      rfl
    exact ⟨_, buildJson_returned r, hdistinct, honce⟩

def Section.config : WifiInterface → Section
  | .sta => configStaMode
  | .ap => configApMode

def configLeaves : WifiInterface → WifiConfig → CString → List Leaf
  | .sta => staConfigLeaves
  | .ap => apConfigLeaves

theorem value_config (r : Inputs) (i : WifiInterface) :
    r.value (.config i) = objectValue ((r.queries.config i).map fun c =>
      (configLeaves i c (r.leftover.beyond i)).map leaf) := by
  cases i with
  | sta => rfl
  | ap => rfl

theorem configLeaves_ssid (i : WifiInterface) (c : WifiConfig) (beyond : CString) :
    (configLeaves i c beyond)[0]? = some (stringLeaf "ssid" (c.string Sta.ssid beyond)) := by
  cases i with
  | sta => rfl
  | ap => rfl

theorem configLeaves_password (i : WifiInterface) (c : WifiConfig) (beyond : CString) :
    (configLeaves i c beyond)[1]? =
      some (stringLeaf "password" (c.string Sta.password beyond)) := by
  cases i with
  | sta => rfl
  | ap => rfl

/-- The password ends within the configuration. -/
def Terminated (c : WifiConfig) : Prop := 0 ∈ (List.ofFn c).drop Sta.password.off

theorem configLeaves_terminated (h : Terminated c) (i : WifiInterface) (b b' : CString) :
    configLeaves i c b = configLeaves i c b' := by
  have hssid : c.string Sta.ssid b = c.string Sta.ssid b' :=
    cstring_terminated (List.mem_of_mem_drop h) b b'
  have hpassword : c.string Sta.password b = c.string Sta.password b' := cstring_terminated h b b'
  cases i with
  | sta =>
    change staConfigLeaves c b = staConfigLeaves c b'
    rw [staConfigLeaves, staConfigLeaves, hssid, hpassword]
  | ap =>
    change apConfigLeaves c b = apConfigLeaves c b'
    rw [apConfigLeaves, apConfigLeaves]
    rw [show Ap.ssid = Sta.ssid from rfl, show Ap.password = Sta.password from rfl, hssid,
      hpassword]

theorem configLeaves_eq_iff (i : WifiInterface) (c : WifiConfig) (b b' : CString) :
    configLeaves i c b = configLeaves i c b' ↔ Terminated c ∨ b = b' := by
  apply Iff.intro
  · intro h
    have hp := congrArg (fun ls => ls[1]?) h
    simp only [configLeaves_password, Option.some.injEq, stringLeaf_inj] at hp
    exact (cstring_eq_iff _ b b').1 hp
  · intro h
    cases h with
    | inl ht => exact configLeaves_terminated ht i b b'
    | inr he => rw [he]

theorem caseLeaf_policy_inj {p p' : Option CountryPolicy}
    (h : caseLeaf "country_policy" (p.map CountryPolicy.name) =
      caseLeaf "country_policy" (p'.map CountryPolicy.name)) : p = p' := by
  cases p with
  | none =>
    cases p' with
    | none => rfl
    | some q => cases h
  | some p =>
    cases p' with
    | none => cases h
    | some q =>
      have hname : ascii p.name = ascii q.name := stringLeaf_inj.1 (List.head_eq_of_cons_eq h)
      revert hname
      cases p <;> cases q <;> decide

/-- The code ends in the fields before the padding, or is read on to the same end. -/
def Country.ReadAlike (c : Country) (padding padding' : Vector UInt8 2) : Prop :=
  0 ∈ c.beforePadding ∨ c.fromPadding padding = c.fromPadding padding'

theorem countryLeaves_eq_iff (c : Country) (q q' : Vector UInt8 2) (p p' : Option CountryPolicy) :
    countryLeaves c q p = countryLeaves c q' p' ↔
      Country.ReadAlike c q q' ∧ p = p' := by
  apply Iff.intro
  · intro h
    obtain ⟨hcode, htail⟩ := List.cons.inj h
    apply And.intro
    · exact (cstring_eq_iff _ _ _).1 (stringLeaf_inj.1 hcode)
    · exact caseLeaf_policy_inj (List.append_cancel_left htail)
  · intro h
    obtain ⟨hcode, rfl⟩ := h
    rw [countryLeaves, countryLeaves, Country.code, Country.code, (cstring_eq_iff _ _ _).2 hcode]

/-- Where both runs got the same record of the access point, `country.policy` held the same. -/
def SamePolicy (r r' : Inputs) : Prop :=
  ∀ a, r.queries.apInfo = some a → r'.queries.apInfo = some a → r.policy = r'.policy

/-- Where both runs got the same configuration and it does not end the password, the stack held the
same after it. -/
def SameBeyond (r r' : Inputs) : Prop :=
  ∀ i c, r.queries.config i = some c → r'.queries.config i = some c →
    Terminated c ∨ r.leftover.beyond i = r'.leftover.beyond i

/-- Where both runs got the same country, or the same record with one in it, the padding made no
difference to its code. -/
structure SameCode (r r' : Inputs) : Prop where
  country : ∀ c, r.queries.country = some c → r'.queries.country = some c →
    Country.ReadAlike c r.leftover.padding r'.leftover.padding
  apInfo : ∀ a, r.queries.apInfo = some a → r'.queries.apInfo = some a →
    Country.ReadAlike a.country r.leftover.apPadding r'.leftover.apPadding

theorem value_config_eq (h : r.queries.config i = r'.queries.config i)
    (hb : ∀ c, r.queries.config i = some c →
      configLeaves i c (r.leftover.beyond i) = configLeaves i c (r'.leftover.beyond i)) :
    r.value (.config i) = r'.value (.config i) := by
  rw [value_config, value_config, ← h]
  cases hc : r.queries.config i with
  | none => rfl
  | some c => exact congrArg (fun ls => objectValue (some (ls.map leaf))) (hb c hc)

theorem value_country_eq (h : r.queries.country = r'.queries.country) (hc : SameCode r r') :
    r.value .country = r'.value .country := by
  change objectValue (r.queries.country.map _) = objectValue (r'.queries.country.map _)
  rw [← h]
  cases hq : r.queries.country with
  | none => rfl
  | some c =>
    have hls := (countryLeaves_eq_iff c _ _ (some c.policy) _).2 ⟨hc.country c hq (h ▸ hq), rfl⟩
    exact congrArg (fun ls => objectValue (some (ls.map leaf))) hls

theorem value_connectedAp_eq (h : r.queries.apInfo = r'.queries.apInfo) (hp : SamePolicy r r')
    (hc : SameCode r r') : r.value .connectedAp = r'.value .connectedAp := by
  change objectValue (r.queries.apInfo.map _) = objectValue (r'.queries.apInfo.map _)
  rw [← h]
  cases ha : r.queries.apInfo with
  | none => rfl
  | some a =>
    have ha' : r'.queries.apInfo = some a := h ▸ ha
    have hls := (countryLeaves_eq_iff a.country _ _ _ _).2 ⟨hc.apInfo a ha ha', hp a ha ha'⟩
    rw [Option.map_some, Option.map_some, apInfoItems, apInfoItems, hls]

theorem config_needed (hv : r.value (.config i) = r'.value (.config i))
    (hc : r.queries.config i = some c) (hc' : r'.queries.config i = some c) :
    Terminated c ∨ r.leftover.beyond i = r'.leftover.beyond i := by
  rw [value_config, value_config, hc, hc'] at hv
  have hls := leaves_injective (KeyedTree.node.inj hv).2
  exact (configLeaves_eq_iff i c _ _).1 hls

theorem country_needed (hv : r.value .country = r'.value .country)
    (hc : r.queries.country = some c) (hc' : r'.queries.country = some c) :
    Country.ReadAlike c r.leftover.padding r'.leftover.padding := by
  change objectValue (r.queries.country.map _) = objectValue (r'.queries.country.map _) at hv
  rw [hc, hc'] at hv
  have hls := leaves_injective (KeyedTree.node.inj hv).2
  exact ((countryLeaves_eq_iff c _ _ _ _).1 hls).1

theorem apInfo_needed (hv : r.value .connectedAp = r'.value .connectedAp)
    (ha : r.queries.apInfo = some a) (ha' : r'.queries.apInfo = some a) :
    Country.ReadAlike a.country r.leftover.apPadding r'.leftover.apPadding ∧
      r.policy = r'.policy := by
  change objectValue (r.queries.apInfo.map _) = objectValue (r'.queries.apInfo.map _) at hv
  rw [ha, ha'] at hv
  have hitems : apInfoItems r.leftover.apPadding r.policy a =
      apInfoItems r'.leftover.apPadding r'.policy a := (KeyedTree.node.inj hv).2
  have hcountry := List.head_eq_of_cons_eq (List.append_cancel_left hitems)
  have hls := leaves_injective (KeyedTree.node.inj (Prod.mk.inj hcountry).2).2
  exact (countryLeaves_eq_iff a.country _ _ _ _).1 hls

/-- A section is a function of its own query but for three things that the stack held before. -/
theorem values_separate_iff (r r' : Inputs) :
    (∀ s : Section, s.SameQuery r r' → r.value s = r'.value s) ↔
      SamePolicy r r' ∧ SameBeyond r r' ∧ SameCode r r' := by
  apply Iff.intro
  · intro h
    refine ⟨?_, ?_, ?_, ?_⟩
    · intro a ha ha'
      exact (apInfo_needed (h .connectedAp (ha.trans ha'.symm)) ha ha').2
    · intro i c hc hc'
      apply config_needed _ hc hc'
      cases i with
      | sta => exact h .configStaMode (hc.trans hc'.symm)
      | ap => exact h .configApMode (hc.trans hc'.symm)
    · intro c hc hc'
      exact country_needed (h .country (hc.trans hc'.symm)) hc hc'
    · intro a ha ha'
      exact (apInfo_needed (h .connectedAp (ha.trans ha'.symm)) ha ha').1
  · intro h s hs
    obtain ⟨hp, hb, hcode⟩ := h
    have hconfig (i : WifiInterface) (hi : r.queries.config i = r'.queries.config i) :
        r.value (.config i) = r'.value (.config i) :=
      value_config_eq hi fun c hc => (configLeaves_eq_iff i c _ _).2 (hb i c hc (hi ▸ hc))
    cases s with
    | mode => exact congrArg (fun q => nameValue (q.map DriverMode.name)) hs
    | configStaMode => exact hconfig .sta hs
    | configApMode => exact hconfig .ap hs
    | country => exact value_country_eq hs hcode
    | staBandwidth => exact congrArg (fun q => nameValue (q.map Bandwidth.name)) hs
    | apBandwidth => exact congrArg (fun q => nameValue (q.map Bandwidth.name)) hs
    | powerSave => exact congrArg (fun q => nameValue (q.map PowerSave.name)) hs
    | connectedAp => exact value_connectedAp_eq hs hp hcode
    | ipAddress =>
      obtain ⟨hc, hi, hn, hg⟩ := hs
      change objectValue (if r.wifi.connected then some (r.wifi.ipLeaves.map leaf) else none) =
        objectValue (if r'.wifi.connected then some (r'.wifi.ipLeaves.map leaf) else none)
      rw [hc, ipLeaves, ipLeaves, hi, hn, hg]

/-- Two reports are well-formed and separate exactly when the station is connected in neither and
`country.policy`, the end of the configurations and the padding of the countries are the same where
they are read. -/
theorem sections_sound_iff (r r' : Inputs) :
    SectionsSound r r' ↔
      r.wifi.connected = false ∧ r'.wifi.connected = false ∧
        SamePolicy r r' ∧ SameBeyond r r' ∧ SameCode r r' := by
  apply Iff.intro
  · intro h
    have hd := (wellFormed_iff r).1 h.first
    have hd' := (wellFormed_iff r').1 h.second
    have hvalues (s : Section) (hs : s.SameQuery r r') : r.value s = r'.value s := by
      have hv := h.separate _ _ (buildJson_returned r) (buildJson_returned r') s hs
      rw [valuesOf_report hd, valuesOf_report hd'] at hv
      exact List.head_eq_of_cons_eq hv
    exact ⟨hd, hd', (values_separate_iff r r').1 hvalues⟩
  · intro h
    obtain ⟨hd, hd', hsame⟩ := h
    constructor
    case first => exact (wellFormed_iff r).2 hd
    case second => exact (wellFormed_iff r').2 hd'
    intro j j' hj hj' s hs
    rw [buildJson_returned, Option.some.injEq] at hj hj'
    subst hj hj'
    rw [valuesOf_report hd, valuesOf_report hd', (values_separate_iff r r').2 hsame s hs]

/-- A station that is connected, with a driver that answers nothing. -/
def online : Inputs :=
  { unanswered with wifi := { construct Kconfig.defaults with connected := true } }

def accessPoint : ApRecord where
  bssid := ⟨#[0x02, 0, 0, 0, 0, 0x01], rfl⟩
  ssid := ⟨[0x61], by decide⟩
  primary := 1
  second := .none
  rssi := -40
  authmode := some .wpa2Psk
  pairwiseCipher := .ccmp
  groupCipher := .ccmp
  ant := .ant0
  phy11b := true
  phy11g := true
  phy11n := true
  phyLr := false
  wps := false
  reserved := 0
  country := ⟨⟨#[0x55, 0x53, 0], rfl⟩, 1, 11, 20, .manual⟩

/-- The access point is known and the country is not. -/
def scanned (policy : Option CountryPolicy) : Inputs :=
  { unanswered with
    queries := { unanswered.queries with apInfo := some accessPoint }
    leftover := { unanswered.leftover with policy := policy } }

/-- The addresses repeat the key of the access point, whose own policy is not the one reported. -/
theorem sections_not_sound :
    ¬ SectionsSound online online ∧ ¬ SectionsSound (scanned none) (scanned (some .auto)) := by
  apply And.intro
  · intro h
    exact Bool.noConfusion ((wellFormed_iff online).1 h.first)
  · intro h
    have hv := h.separate _ _ (buildJson_returned _) (buildJson_returned _) .connectedAp rfl
    rw [valuesOf_report rfl, valuesOf_report rfl] at hv
    have hp := apInfo_needed (a := accessPoint) (List.head_eq_of_cons_eq hv) rfl rfl
    cases hp.2

end LDM.WiFi
