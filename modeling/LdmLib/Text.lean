import LdmLib.Bytes

set_option autoImplicit true

namespace Text

/-- What a `char *` points to, without the terminator. -/
structure CString where
  bytes : List UInt8
  nulFree : 0 ∉ bytes
  deriving DecidableEq, Repr

theorem nul_notMem_nil : (0 : UInt8) ∉ [] := List.not_mem_nil

def CString.empty : CString := ⟨[], nul_notMem_nil⟩

theorem nul_notMem_takeWhile (bs : List UInt8) : 0 ∉ bs.takeWhile (· ≠ 0) := by
  intro h
  have hne := List.mem_takeWhile_imp h
  exact of_decide_eq_true hne rfl

def CString.upToNul (bs : List UInt8) : CString :=
  ⟨bs.takeWhile (· ≠ 0), nul_notMem_takeWhile bs⟩

/-- The string that begins in some bytes and is ended, if not by them, by what follows them. -/
def cstring (bs : List UInt8) (beyond : CString) : List UInt8 :=
  (bs ++ beyond.bytes).takeWhile (· ≠ 0)

def ascii (s : String) : List UInt8 := s.toList.map fun c => UInt8.ofNat c.toNat

/-- `snprintf` into a buffer of `n` bytes, the last of which is for the terminator. -/
def snprintf (n : Nat) (s : List UInt8) : List UInt8 := s.take (n - 1)

def hexDigit (n : Nat) : UInt8 := (ascii "0123456789ABCDEF").getD n 0

/-- `%02X`. -/
def hex (b : UInt8) : List UInt8 := [hexDigit (b.toNat / 16), hexDigit (b.toNat % 16)]

/-- `%d` of a byte. -/
def decimal (b : UInt8) : List UInt8 := ascii (toString b.toNat)

/-- `%02X:%02X:%02X:%02X:%02X:%02X` of the bytes of an address. -/
def macFormat (bs : List UInt8) : List UInt8 := (ascii ":").intercalate (bs.map hex)

/-- `%d.%d.%d.%d` of the bytes of an address. -/
def ipFormat (bs : List UInt8) : List UInt8 := (ascii ".").intercalate (bs.map decimal)

theorem CString.ext {s t : CString} (h : s.bytes = t.bytes) : s = t := by
  cases s
  cases t
  cases h
  rfl

/-- Bytes without a NUL are read whole, and then what follows them. -/
theorem cstring_append {bs : List UInt8} (h : 0 ∉ bs) (cs : List UInt8) (beyond : CString) :
    cstring (bs ++ cs) beyond = bs ++ cstring cs beyond := by
  induction bs with
  | nil => rfl
  | cons b bs ih =>
    obtain ⟨hb, hbs⟩ := not_or.1 fun ho => h (List.mem_cons.2 ho)
    have hne : decide (b ≠ 0) = true := decide_eq_true (Ne.symm hb)
    rw [cstring, List.cons_append, List.cons_append, List.takeWhile_cons, if_pos hne,
      List.cons_append]
    exact congrArg (b :: ·) (ih hbs)

theorem cstring_nil (beyond : CString) : cstring [] beyond = beyond.bytes :=
  Bytes.takeWhile_nulFree beyond.nulFree

theorem cstring_zero (cs : List UInt8) (beyond : CString) : cstring (0 :: cs) beyond = [] := rfl

theorem cstring_unterminated {bs : List UInt8} (h : 0 ∉ bs) (beyond : CString) :
    cstring bs beyond = bs ++ beyond.bytes := by
  have hc := cstring_append h [] beyond
  rwa [List.append_nil, cstring_nil] at hc

/-- A NUL in the bytes hides what follows them. -/
theorem cstring_terminated {bs : List UInt8} (h : 0 ∈ bs) (beyond beyond' : CString) :
    cstring bs beyond = cstring bs beyond' := by
  induction bs with
  | nil => cases h
  | cons b bs ih =>
    by_cases hb : b = 0
    · rw [hb, cstring_zero, cstring_zero]
    · have hin : 0 ∈ bs := by
        cases List.mem_cons.1 h with
        | inl h => exact absurd h.symm hb
        | inr h => exact h
      have hout : 0 ∉ [b] := fun h0 => hb (List.mem_singleton.1 h0).symm
      have hc := cstring_append hout bs
      rw [List.singleton_append] at hc
      rw [hc, hc, ih hin]

theorem cstring_eq_iff (bs : List UInt8) (beyond beyond' : CString) :
    cstring bs beyond = cstring bs beyond' ↔ 0 ∈ bs ∨ beyond = beyond' := by
  apply Iff.intro
  · intro h
    by_cases h0 : 0 ∈ bs
    · exact .inl h0
    · rw [cstring_unterminated h0, cstring_unterminated h0, List.append_cancel_left_eq] at h
      exact .inr (CString.ext h)
  · intro h
    cases h with
    | inl h0 => exact cstring_terminated h0 beyond beyond'
    | inr he => rw [he]

theorem hexDigit_inj (hm : m < 16) (hn : n < 16) (h : hexDigit m = hexDigit n) : m = n := by
  have hall : ∀ a b : Fin 16, hexDigit a = hexDigit b → a = b := by decide
  exact congrArg Fin.val (hall ⟨m, hm⟩ ⟨n, hn⟩ h)

theorem hex_inj {a b : UInt8} (h : hex a = hex b) : a = b := by
  have ha := a.toNat_lt
  have hb := b.toNat_lt
  obtain ⟨h1, h2⟩ := List.cons.inj h
  have hhigh : a.toNat / 16 = b.toNat / 16 := hexDigit_inj (by omega) (by omega) h1
  have hlow : a.toNat % 16 = b.toNat % 16 :=
    hexDigit_inj (Nat.mod_lt _ (by decide)) (Nat.mod_lt _ (by decide)) (List.cons.inj h2).1
  exact UInt8.toNat_inj.1 (by omega)

theorem macFormat_cons_cons (a b : UInt8) (bs : List UInt8) :
    macFormat (a :: b :: bs) = hex a ++ (ascii ":" ++ macFormat (b :: bs)) := by
  rw [macFormat, List.map_cons, List.map_cons, List.intercalate_cons_cons, List.append_assoc]
  rfl

theorem macFormat_singleton (a : UInt8) : macFormat [a] = hex a := List.intercalate_singleton

/-- Every byte is told by its two digits. -/
theorem macFormat_inj {bs cs : List UInt8} (hl : bs.length = cs.length)
    (h : macFormat bs = macFormat cs) : bs = cs := by
  induction bs generalizing cs with
  | nil => exact (List.eq_nil_of_length_eq_zero hl.symm).symm
  | cons a bs ih =>
    cases cs with
    | nil => cases hl
    | cons c cs =>
      have hlen := Nat.succ.inj hl
      cases bs with
      | nil =>
        rw [List.eq_nil_of_length_eq_zero hlen.symm] at h ⊢
        rw [macFormat_singleton, macFormat_singleton] at h
        rw [hex_inj h]
      | cons b bs =>
        cases cs with
        | nil => cases hlen
        | cons d cs =>
          rw [macFormat_cons_cons, macFormat_cons_cons] at h
          obtain ⟨hhead, htail⟩ := List.append_inj h rfl
          rw [hex_inj hhead, ih hlen (List.append_cancel_left htail)]

theorem length_macFormat (a : UInt8) (bs : List UInt8) :
    (macFormat (a :: bs)).length = 3 * bs.length + 2 := by
  induction bs generalizing a with
  | nil =>
    rw [macFormat_singleton]
    rfl
  | cons b bs ih =>
    have htwo : (hex a).length = 2 := rfl
    have hone : (ascii ":").length = 1 := by decide
    rw [macFormat_cons_cons, List.length_append, List.length_append, ih, List.length_cons, htwo,
      hone]
    omega

/-- The buffer for the text of a MAC address holds all of it. -/
theorem snprintf_mac (m : Vector UInt8 6) :
    snprintf 18 (macFormat m.toList) = macFormat m.toList := by
  have hlen : m.toList.length = 6 := m.length_toList
  apply List.take_of_length_le
  cases hm : m.toList with
  | nil => exact Nat.zero_le _
  | cons a bs =>
    rw [hm, List.length_cons] at hlen
    rw [length_macFormat]
    omega

example : snprintf 18 (macFormat [0x02, 0, 0, 0, 0xAB, 0x1F]) = ascii "02:00:00:00:AB:1F" := by
  decide

theorem macText_inj {m m' : Vector UInt8 6}
    (h : snprintf 18 (macFormat m.toList) = snprintf 18 (macFormat m'.toList)) : m = m' := by
  rw [snprintf_mac, snprintf_mac] at h
  have hlen : m.toList.length = m'.toList.length := by simp
  exact Vector.toList_inj.1 (macFormat_inj hlen h)

/-- What the digits of a number say. -/
def numeral (ds : List UInt8) : Nat := ds.foldl (fun n d => 10 * n + (d.toNat - 0x30)) 0

/-- The bytes of an address in dotted decimal. -/
def readIp (s : List UInt8) : List UInt8 := (s.splitOn 0x2E).map fun ds => UInt8.ofNat (numeral ds)

def decimalDigits (n : Nat) : List UInt8 := (Nat.toDigits 10 n).map fun c => UInt8.ofNat c.toNat

theorem decimal_eq (b : UInt8) : decimal b = decimalDigits b.toNat :=
  congrArg (List.map _) Nat.toList_repr

theorem forall_byte {P : Nat → Prop} (h : ∀ n : Fin 256, P n) (b : UInt8) : P b.toNat :=
  h ⟨b.toNat, b.toNat_lt⟩

theorem numeral_decimal (b : UInt8) : numeral (decimal b) = b.toNat := by
  let P (n : Nat) : Prop := numeral (decimalDigits n) = n
  have hall : ∀ n : Fin 256, P n := by decide +kernel
  rw [decimal_eq]
  exact forall_byte hall b

theorem dot_notMem_decimal (b : UInt8) : 0x2E ∉ decimal b := by
  let P (n : Nat) : Prop := 0x2E ∉ decimalDigits n
  have hall : ∀ n : Fin 256, P n := by decide +kernel
  rw [decimal_eq]
  exact forall_byte hall b

theorem length_decimal_le (b : UInt8) : (decimal b).length ≤ 3 := by
  let P (n : Nat) : Prop := (decimalDigits n).length ≤ 3
  have hall : ∀ n : Fin 256, P n := by decide +kernel
  rw [decimal_eq]
  exact forall_byte hall b

theorem ascii_dot : ascii "." = [0x2E] := by decide

/-- The text of an address says its bytes. -/
theorem readIp_ipFormat {bs : List UInt8} (h : bs ≠ []) : readIp (ipFormat bs) = bs := by
  have hdots : ∀ ds ∈ bs.map decimal, (0x2E : UInt8) ∉ ds := by
    intro ds hds
    obtain ⟨b, -, rfl⟩ := List.mem_map.1 hds
    exact dot_notMem_decimal b
  have hne : bs.map decimal ≠ [] := fun hn => h (List.map_eq_nil_iff.1 hn)
  have hbyte (b : UInt8) : UInt8.ofNat (numeral (decimal b)) = b := by
    rw [numeral_decimal, UInt8.ofNat_toNat]
  rw [readIp, ipFormat, ascii_dot, List.splitOn_intercalate 0x2E hdots hne, List.map_map]
  exact List.map_id'' hbyte bs

theorem length_ipFormat_le (a : UInt8) (bs : List UInt8) :
    (ipFormat (a :: bs)).length ≤ 4 * bs.length + 3 := by
  induction bs generalizing a with
  | nil =>
    rw [ipFormat, List.map_cons, List.map_nil, List.intercalate_singleton]
    exact length_decimal_le a
  | cons b bs ih =>
    have ha := length_decimal_le a
    have hb := ih b
    rw [ipFormat, List.map_cons, ascii_dot] at hb
    rw [ipFormat, List.map_cons, List.map_cons, List.intercalate_cons_cons, List.length_append,
      List.length_append, ascii_dot, List.length_singleton, List.length_cons]
    omega

/-- The buffer for the text of an address holds all of it. -/
theorem snprintf_ip {bs : List UInt8} (h : bs.length = 4) :
    snprintf 16 (ipFormat bs) = ipFormat bs := by
  apply List.take_of_length_le
  cases bs with
  | nil => cases h
  | cons a bs =>
    have hlen := length_ipFormat_le a bs
    rw [List.length_cons] at h
    omega

end Text
