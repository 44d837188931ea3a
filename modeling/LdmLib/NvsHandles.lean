import LdmLib.Nvs

namespace LDM
set_option autoImplicit true

namespace NvsFlash

variable {lib : NvsLib ν} {s s' : NvsFlash ν} {h : NvsHandle} {ns : String} {mode : NvsOpenMode}

def Untouched (s s' : NvsFlash ν) : Prop := s'.storage = s.storage ∧ s'.log = s.log

def ActsOn (ns : String) (s s' : NvsFlash ν) : Prop :=
  s'.log = ns :: s.log ∧ ∀ n, n ≠ ns → s'.storage n = s.storage n

theorem read_none (hh : s.handles h = none) (f : ν → EspErr × α) (a : α) :
    s.read h f a = (s, .errNvsInvalidHandle, a) := by
  rw [read, hh]

theorem read_some (hh : s.handles h = some (ns, mode)) (f : ν → EspErr × α)
    (a : α) : s.read h f a = ({ s with log := ns :: s.log }, f (s.storage ns)) := by
  rw [read, hh]

theorem read_handles (f : ν → EspErr × α) (a : α) :
    (s.read h f a).1.handles = s.handles := by
  unfold read
  split
  · rfl
  · rfl

section write

variable (f : ν → EspErr × ν)

theorem write_none (hh : s.handles h = none) : s.write h f = (s, .errNvsInvalidHandle) := by
  rw [write, hh]

theorem write_readonly (hh : s.handles h = some (ns, .readonly)) :
    s.write h f = (s, .errNvsReadOnly) := by
  rw [write, hh]

theorem write_acts (hh : s.handles h = some (ns, .readwrite)) : ActsOn ns s (s.write h f).1 := by
  rw [write, hh]
  exact ⟨rfl, fun n hn => if_neg hn⟩

theorem write_handles : (s.write h f).1.handles = s.handles := by
  unfold write
  split
  · rfl
  · rfl
  · rfl

end write

theorem nvsOpen_of_canOpen {env : OpenEnv} (hc : s.CanOpen env) :
    s.nvsOpen ns mode env =
      ({ s with handles := fun h => if h = env.handle then some (ns, mode) else s.handles h },
        .ok env.handle) :=
  if_pos hc

theorem nvsOpen_of_not {env : OpenEnv} (hc : ¬ s.CanOpen env) :
    s.nvsOpen ns mode env = (s, .error (s.openError env)) :=
  if_neg hc

theorem openError_ne_ok (env : OpenEnv) : s.openError env ≠ .ok := by
  unfold openError
  split
  · split
    · exact EspErr.fail_ne_ok
    · assumption
  · exact EspErr.errNvsNotInitialized_ne_ok

theorem initDefault_handles (env : Nvs.FlashEnv) :
    (Nvs.initDefault lib env s).1.handles = s.handles := by
  have hi (err : EspErr) (s : NvsFlash ν) : (s.nvsFlashInit err).1.handles = s.handles := by
    unfold nvsFlashInit
    split
    · rfl
    · rfl
  have he (err : EspErr) (s : NvsFlash ν) : (s.nvsFlashErase lib err).1.handles = s.handles := rfl
  unfold Nvs.initDefault
  dsimp only
  split
  · split
    · exact (hi _ _).trans ((he _ _).trans (hi _ _))
    · exact (he _ _).trans (hi _ _)
  · exact hi _ _

end NvsFlash

namespace Nvs

variable {lib : NvsLib ν} {o : Nvs} {s : NvsFlash ν} {a : Access} {ns : String}
  {mode : NvsOpenMode}

/-- A call that needs a writable handle is one of the flash's writes. -/
theorem access_eq_write (hw : a.writes = true) : ∃ f, o.access lib s a = s.write o.nvsH f := by
  cases a with
  | setKey key item err =>
    cases item with
    | _ => exact ⟨_, rfl⟩
  | getKey => cases hw
  | eraseNVSKey => exact ⟨_, rfl⟩
  | eraseNVSAllKeys => exact ⟨_, rfl⟩
  | commit => cases hw

theorem access_eq_read (hw : a.writes = false) :
    ∃ (α : Type) (f : ν → EspErr × α) (x : α),
      o.access lib s a = NvsFlash.status (s.read o.nvsH f x) := by
  cases a with
  | setKey => cases hw
  | getKey key type size err =>
    cases type with
    | _ => exact ⟨_, _, _, rfl⟩
  | eraseNVSKey => cases hw
  | eraseNVSAllKeys => cases hw
  | commit => exact ⟨_, _, _, rfl⟩

theorem access_handles (o : Nvs) (s : NvsFlash ν) (a : Access) :
    (o.access lib s a).1.handles = s.handles := by
  cases hw : a.writes with
  | true =>
    obtain ⟨f, hf⟩ := access_eq_write (o := o) (s := s) hw
    rw [hf]
    exact NvsFlash.write_handles f
  | false =>
    obtain ⟨α, f, x, hf⟩ := access_eq_read (o := o) (s := s) hw
    rw [hf]
    exact NvsFlash.read_handles f x

theorem access_closed (hh : s.handles o.nvsH = none) (a : Access) :
    o.access lib s a = (s, .errNvsInvalidHandle) := by
  cases hw : a.writes with
  | true =>
    obtain ⟨f, hf⟩ := access_eq_write (o := o) (s := s) hw
    rw [hf, NvsFlash.write_none f hh]
  | false =>
    obtain ⟨α, f, x, hf⟩ := access_eq_read (o := o) (s := s) hw
    rw [hf, NvsFlash.read_none hh]
    rfl

theorem access_readonly (hh : s.handles o.nvsH = some (ns, .readonly)) (hw : a.writes = true) :
    o.access lib s a = (s, .errNvsReadOnly) := by
  obtain ⟨f, hf⟩ := access_eq_write (o := o) (s := s) hw
  rw [hf, NvsFlash.write_readonly f hh]

theorem access_acts (hh : s.handles o.nvsH = some (ns, mode))
    (hm : a.writes = true → mode = .readwrite) : NvsFlash.ActsOn ns s (o.access lib s a).1 := by
  cases hw : a.writes with
  | true =>
    obtain ⟨f, hf⟩ := access_eq_write (o := o) (s := s) hw
    rw [hf]
    rw [hm hw] at hh
    exact NvsFlash.write_acts f hh
  | false =>
    obtain ⟨α, f, x, hf⟩ := access_eq_read (o := o) (s := s) hw
    rw [hf, NvsFlash.read_some hh]
    exact ⟨rfl, fun _ _ => rfl⟩

end Nvs

namespace NvsObjects

/-- What an observer knows of the objects: the namespace each opened last and has not closed since,
and the handle `nvs_open` returned to it last unless that was closed, by whatever object. -/
structure Holdings where
  opened : Nat → Option String
  held : Nat → Option NvsHandle

def nothingHeld : Holdings := ⟨fun _ => none, fun _ => none⟩

def see (lib : NvsLib ν) (u : Holdings) (s : NvsObjects ν) : Op → Holdings
  | .openNamespace id ns mode env =>
    if (s.apply lib (.openNamespace id ns mode env)).2 = .ok then
      { opened := fun i => if i = id then some ns else u.opened i
        held := fun i => if i = id then some env.handle else u.held i }
    else u
  | .close id =>
    match s.object id with
    | none => u
    | some o =>
      { opened := fun i => if i = id then none else u.opened i
        held := fun i => if u.held i = some o.nvsH then none else u.held i }
  | _ => u

/-- The call acted on the namespace the object has open, or it failed and touched nothing. -/
def AccessConfined (u : Holdings) (id : Nat) (s : NvsFlash ν) (r : NvsFlash ν × EspErr) : Prop :=
  (∃ ns, u.opened id = some ns ∧ NvsFlash.ActsOn ns s r.1) ∨
    (r.2 ≠ .ok ∧ NvsFlash.Untouched s r.1)

/-- Every access is confined, and a handle is closed before another takes its place. -/
def Confined (lib : NvsLib ν) (p : NvsObjects ν × Holdings) : Op → Prop
  | .access id a =>
    AccessConfined p.2 id p.1.flash
      ((p.1.step lib (.access id a)).flash, (p.1.apply lib (.access id a)).2)
  | .openNamespace id ns mode env =>
    (p.1.apply lib (.openNamespace id ns mode env)).2 = .ok → p.2.held id = none
  | _ => True

/-- The handle in `nvs_h` is not open, or it is the one `nvs_open` returned to this very object; one
that is open otherwise does no harm if it is read-only and the call would write, or if it is for the
namespace the object has open itself. -/
def Owns (u : Holdings) (id : Nat) (s : NvsFlash ν) (o : Nvs) (a : Nvs.Access) : Prop :=
  s.handles o.nvsH = none ∨ u.held id = some o.nvsH ∨
    ∃ ns mode, s.handles o.nvsH = some (ns, mode) ∧
      (u.opened id = some ns ∨ a.writes = true ∧ mode = .readonly)

/-- An object is used only with a handle of its own, and opened again only after it was closed. -/
def OwnHandle (p : NvsObjects ν × Holdings) : Op → Prop
  | .access id a => ∀ o, p.1.object id = some o → Owns p.2 id p.1.flash o a
  | .openNamespace id _ _ env =>
    (p.1.object id).isSome ∧ p.1.flash.CanOpen env → p.2.held id = none
  | _ => True

/-- A handle an object holds is the one in `nvs_h`, and is open for its namespace. -/
def HeldOpen (p : NvsObjects ν × Holdings) : Prop :=
  ∀ id h, p.2.held id = some h → p.1.nvs id = some ⟨h⟩ ∧
    ∃ ns mode, p.2.opened id = some ns ∧ p.1.flash.handles h = some (ns, mode)

variable {lib : NvsLib ν} {s : NvsObjects ν} {p : NvsObjects ν × Holdings} {o : Nvs} {id : Nat}

theorem nvs_of_object (ho : s.object id = some o) : s.nvs id = some o := by
  unfold object at ho
  split at ho
  · cases ho
  · exact ho

theorem construct_nvs {i : Nat} (ho : s.nvs i = some o) (nvsH memory : NvsHandle)
    (env : Nvs.FlashEnv) : (s.construct lib id nvsH memory env).nvs i = some o := by
  unfold construct
  split
  · exact ho
  · next hn =>
    have hi : i ≠ id := by
      rintro rfl
      exact hn (.inr (Option.isSome_iff_exists.2 ⟨o, ho⟩))
    exact (if_neg hi).trans ho

theorem construct_handles (s : NvsObjects ν) (id : Nat) (nvsH memory : NvsHandle)
    (env : Nvs.FlashEnv) :
    (s.construct lib id nvsH memory env).flash.handles = s.flash.handles := by
  unfold construct
  split
  · rfl
  · unfold Nvs.construct
    split
    · rfl
    · exact NvsFlash.initDefault_handles env

section openNamespace

variable {ns : String} {mode : NvsOpenMode} {env : NvsFlash.OpenEnv}

theorem openNamespace_ok (ho : s.object id = some o) (hc : s.flash.CanOpen env) :
    s.apply lib (.openNamespace id ns mode env) =
      ({ s with
          nvs := s.setNvs id (some ⟨env.handle⟩),
          flash := { s.flash with
            handles := fun h => if h = env.handle then some (ns, mode) else s.flash.handles h } },
        .ok) := by
  simp only [apply, ho, Nvs.openNamespace, NvsFlash.nvsOpen_of_canOpen hc]

theorem setNvs_self (ho : s.nvs id = some o) : s.setNvs id (some o) = s.nvs := by
  funext i
  unfold setNvs
  split
  · next hi => rw [hi, ho]
  · rfl

theorem openNamespace_fails (lib : NvsLib ν)
    (hc : ¬ ((s.object id).isSome ∧ s.flash.CanOpen env)) (ns : String) (mode : NvsOpenMode) :
    ∃ err, err ≠ .ok ∧ s.apply lib (.openNamespace id ns mode env) = (s, err) := by
  cases ho : s.object id with
  | none =>
    refine ⟨.fail, EspErr.fail_ne_ok, ?_⟩
    simp only [apply, ho]
  | some o =>
    have hn : ¬ s.flash.CanOpen env := fun h => hc ⟨by rw [ho]; rfl, h⟩
    refine ⟨s.flash.openError env, NvsFlash.openError_ne_ok env, ?_⟩
    simp only [apply, ho, Nvs.openNamespace, NvsFlash.nvsOpen_of_not hn,
      setNvs_self (nvs_of_object ho)]

theorem openNamespace_ok_iff :
    (s.apply lib (.openNamespace id ns mode env)).2 = .ok ↔
      (s.object id).isSome ∧ s.flash.CanOpen env := by
  apply Iff.intro
  · intro h
    by_contra hc
    obtain ⟨err, he, ha⟩ := openNamespace_fails lib hc ns mode
    rw [ha] at h
    exact he h
  · rintro ⟨ho, hc⟩
    obtain ⟨o, ho⟩ := Option.isSome_iff_exists.1 ho
    rw [openNamespace_ok ho hc]

end openNamespace

theorem access_some (ho : s.object id = some o) (a : Nvs.Access) :
    s.apply lib (.access id a) =
      ({ s with flash := (o.access lib s.flash a).1 }, (o.access lib s.flash a).2) := by
  simp only [apply, ho]

theorem access_none (ho : s.object id = none) (a : Nvs.Access) :
    s.apply lib (.access id a) = (s, .fail) := by
  simp only [apply, ho]

theorem heldOpen_construct (h : HeldOpen p) (id : Nat) (nvsH memory : NvsHandle)
    (env : Nvs.FlashEnv) : HeldOpen (p.1.construct lib id nvsH memory env, p.2) := by
  intro i k hk
  obtain ⟨hn, hh⟩ := h i k hk
  apply And.intro (construct_nvs hn nvsH memory env)
  rw [construct_handles]
  exact hh

theorem heldOpen_access (h : HeldOpen p) (id : Nat) (a : Nvs.Access) :
    HeldOpen (p.1.step lib (.access id a), p.2) := by
  unfold step
  cases ho : p.1.object id with
  | none =>
    rw [access_none ho]
    exact h
  | some o =>
    rw [access_some ho]
    intro i k hk
    have hi := h i k hk
    simp only [Nvs.access_handles]
    exact hi

/-- Nobody holds a handle that is handed out now, since those held are open. -/
theorem heldOpen_openNamespace (h : HeldOpen p) (id : Nat) (ns : String) (mode : NvsOpenMode)
    (env : NvsFlash.OpenEnv) :
    HeldOpen (Run.watch (step lib) (see lib) p (.openNamespace id ns mode env)) := by
  by_cases hc : (p.1.object id).isSome ∧ p.1.flash.CanOpen env
  · obtain ⟨o, ho⟩ := Option.isSome_iff_exists.1 hc.1
    simp only [Run.watch, step, see, openNamespace_ok ho hc.2, if_true]
    intro i k hk
    dsimp only at hk ⊢
    by_cases hi : i = id
    · rw [if_pos hi] at hk
      cases hk
      exact ⟨if_pos hi, ns, mode, if_pos hi, if_pos rfl⟩
    · rw [if_neg hi] at hk
      obtain ⟨hn, ns', mode', hu, hh⟩ := h i k hk
      have hke : k ≠ env.handle := by
        rintro rfl
        rw [hc.2.2.2] at hh
        cases hh
      exact ⟨(if_neg hi).trans hn, ns', mode', (if_neg hi).trans hu, (if_neg hke).trans hh⟩
  · obtain ⟨err, he, ha⟩ := openNamespace_fails lib hc ns mode
    simp only [Run.watch, step, see, ha, if_neg he]
    exact h

theorem heldOpen_close (h : HeldOpen p) (id : Nat) :
    HeldOpen (Run.watch (step lib) (see lib) p (.close id)) := by
  simp only [Run.watch, step, see, apply]
  cases ho : p.1.object id with
  | none => exact h
  | some o =>
    intro i k hk
    dsimp only at hk ⊢
    split at hk
    · cases hk
    · next hne =>
      obtain ⟨hn, ns, mode, hu, hh⟩ := h i k hk
      have hi : i ≠ id := by
        rintro rfl
        rw [nvs_of_object ho] at hn
        cases hn
        exact hne hk
      have hko : k ≠ o.nvsH := fun he => hne (he ▸ hk)
      exact ⟨hn, ns, mode, (if_neg hi).trans hu, (if_neg hko).trans hh⟩

theorem heldOpen_step (h : HeldOpen p) (op : Op) :
    HeldOpen (Run.watch (step lib) (see lib) p op) := by
  cases op with
  | construct id nvsH memory env => exact heldOpen_construct h id nvsH memory env
  | openNamespace id ns mode env => exact heldOpen_openNamespace h id ns mode env
  | close id => exact heldOpen_close h id
  | access id a => exact heldOpen_access h id a

section access

variable {u : Holdings} {f : NvsFlash ν} {a : Nvs.Access} {ns : String} {mode : NvsOpenMode}

theorem accessConfined_acts (hacts : NvsFlash.ActsOn ns f r.1) :
    AccessConfined u id f r ↔ u.opened id = some ns := by
  apply Iff.intro
  · rintro (⟨n, hn, hlog, -⟩ | ⟨-, -, hlog⟩)
    · have he : n = ns := (List.cons.inj (hlog.symm.trans hacts.1)).1
      rw [← he]
      exact hn
    · exact absurd (hacts.1.symm.trans hlog) (List.cons_ne_self ns f.log)
  · exact fun hn => .inl ⟨ns, hn, hacts⟩

theorem accessConfined_iff
    (hu : ∀ h, u.held id = some h → ∃ ns mode, u.opened id = some ns ∧
      f.handles h = some (ns, mode)) :
    AccessConfined u id f (o.access lib f a) ↔ Owns u id f o a := by
  cases hh : f.handles o.nvsH with
  | none =>
    rw [Nvs.access_closed hh]
    exact iff_of_true (.inr ⟨EspErr.errNvsInvalidHandle_ne_ok, rfl, rfl⟩) (.inl hh)
  | some v =>
    obtain ⟨ns, mode⟩ := v
    by_cases hr : a.writes = true ∧ mode = .readonly
    · have hro : f.handles o.nvsH = some (ns, .readonly) := hr.2 ▸ hh
      rw [Nvs.access_readonly hro hr.1]
      exact iff_of_true (.inr ⟨EspErr.errNvsReadOnly_ne_ok, rfl, rfl⟩)
        (.inr (.inr ⟨ns, mode, hh, .inr hr⟩))
    · have hm : a.writes = true → mode = .readwrite := by
        intro hw
        cases mode with
        | readonly => exact absurd ⟨hw, rfl⟩ hr
        | readwrite => rfl
      rw [accessConfined_acts (Nvs.access_acts hh hm)]
      apply Iff.intro
      · exact fun hn => .inr (.inr ⟨ns, mode, hh, .inl hn⟩)
      · rintro (hn | hheld | ⟨ns', mode', hh', ho | hr'⟩)
        · rw [hn] at hh
          cases hh
        · obtain ⟨ns', mode', hn, hh'⟩ := hu _ hheld
          rw [hh] at hh'
          cases hh'
          exact hn
        · rw [hh] at hh'
          cases hh'
          exact ho
        · rw [hh] at hh'
          cases hh'
          exact absurd hr' hr

end access

theorem confined_iff_ownHandle (h : HeldOpen p) (op : Op) :
    Confined lib p op ↔ OwnHandle p op := by
  cases op with
  | construct => exact Iff.rfl
  | openNamespace id ns mode env => exact imp_congr_left openNamespace_ok_iff
  | close => exact Iff.rfl
  | access id a =>
    have hu (k : NvsHandle) (hk : p.2.held id = some k) := (h id k hk).2
    change AccessConfined p.2 id p.1.flash ((p.1.apply lib (.access id a)).1.flash,
      (p.1.apply lib (.access id a)).2) ↔
        ∀ o, p.1.object id = some o → Owns p.2 id p.1.flash o a
    cases ho : p.1.object id with
    | none =>
      rw [access_none ho]
      exact iff_of_true (.inr ⟨EspErr.fail_ne_ok, rfl, rfl⟩) (fun _ ho' => nomatch ho')
    | some o =>
      rw [access_some ho, accessConfined_iff hu]
      exact ⟨fun hown _ ho' => Option.some.inj ho' ▸ hown, fun hown => hown o rfl⟩

/-- The objects keep to the namespaces they opened, and lose no handle, exactly as long as they are
used only with handles of their own and closed before they are opened again. -/
theorem handles_confined_iff (lib : NvsLib ν) (storage : String → ν) (ops : List Op) :
    Run.Guarded (Run.watch (step lib) (see lib)) (Confined lib) (start storage, nothingHeld) ops ↔
      Run.Guarded (Run.watch (step lib) (see lib)) OwnHandle (start storage, nothingHeld) ops := by
  have h0 : HeldOpen (start storage, nothingHeld) := fun _ _ hk => nomatch hk
  exact Run.Guarded.congr_invariant h0 (fun _ op h => heldOpen_step h op)
    fun _ op h => confined_iff_ownHandle h op

/-- A library with one item under each key; its calls return what they come upon. -/
def plainLib : NvsLib (String → Option NvsItem) where
  set key item err m :=
    if err = .ok then (.ok, fun k => if k = key then some item else m k) else (err, m)
  get _ key err m :=
    if err = .ok then (if (m key).isSome then .ok else .errNvsNotFound, m key) else (err, none)
  getSized _ key _ err m :=
    if err = .ok then (if (m key).isSome then .ok else .errNvsNotFound, m key, none)
    else (err, none, none)
  eraseKey key err m :=
    if err = .ok then (.ok, fun k => if k = key then none else m k) else (err, m)
  eraseAll err m := if err = .ok then (.ok, fun _ => none) else (err, m)
  flashErase err m := if err = .ok then fun _ => none else m

/-- The first object was never opened, and the memory it was built in happened to hold the handle
the second is given: its erase wipes what the second opened. -/
theorem unset_handle_erases :
    ¬ Run.Guarded (Run.watch (step plainLib) (see plainLib)) (Confined plainLib)
      (start fun _ _ => some (.u8 7), nothingHeld)
      [.construct 0 (-1) 1 Nvs.flashOk, .construct 1 (-1) 0 Nvs.flashOk,
        .openNamespace 1 "wifi" .readwrite ⟨.ok, 1⟩, .access 0 (.eraseNVSAllKeys .ok)] := by
  intro h
  have hc := h [.construct 0 (-1) 1 Nvs.flashOk, .construct 1 (-1) 0 Nvs.flashOk,
    .openNamespace 1 "wifi" .readwrite ⟨.ok, 1⟩] (.access 0 (.eraseNVSAllKeys .ok))
      List.prefix_rfl
  rcases hc with ⟨ns, hn, -⟩ | ⟨hne, -⟩
  · cases hn
  · exact hne rfl

end NvsObjects

end LDM
