import Mathlib.Data.List.Basic
import TypedRoutes.Text.Percent

/-!
# Percent-encoding

There are many ways to encode a text. Each character stands for itself, if it may be kept, or is written as the escapes
of its octets in UTF-8, and the digits of an escape are capitals or small letters (`Encodes`). Decoding undoes every one
of them, in two stages: the units of the encoded text are the octets and the characters that were kept, and the octets
of a character denote it (`decodeUnits_octets`). `percentEncode` is the way that keeps what it may and writes capitals.

Any text can be cut at a character that no escape has, and its parts decoded apart (`percentDecode_append_cons`).
-/

namespace TypedRoutes.Text

set_option autoImplicit false

/-- The octets of a character in UTF-8. -/
def octets (c : Char) : List Nat := (String.utf8EncodeChar c).map UInt8.toNat

/-- A hexadecimal digit, the letters as capitals. -/
def capitalDigit (n : Nat) : Char := Char.ofNat (if n < 10 then 48 + n else 55 + n)

/-- A hexadecimal digit, the letters as small letters. -/
def smallDigit (n : Nat) : Char := Char.ofNat (if n < 10 then 48 + n else 87 + n)

/-- The ways to write a hexadecimal digit. -/
def digits (n : Nat) : List Char := [capitalDigit n, smallDigit n]

/-- The text is a row of octets, each of them escaped. -/
inductive Escapes : List Nat → Text → Prop where
  | nil : Escapes [] []
  | cons {n : Nat} {a b : Char} {ns : List Nat} {e : Text} (octet : n < 256) (high : a ∈ digits (n / 16))
      (low : b ∈ digits (n % 16)) (rest : Escapes ns e) : Escapes (n :: ns) ('%' :: a :: b :: e)

/-- A text and a text that encodes it, in which characters stand for themselves only if they may be kept. -/
inductive Encodes (keep : Char → Bool) : Text → Text → Prop where
  | nil : Encodes keep [] []
  | kept {c : Char} {t s : Text} (may : keep c = true) (rest : Encodes keep t s) : Encodes keep (c :: t) (c :: s)
  | escaped {c : Char} {t e s : Text} (escapes : Escapes (octets c) e) (rest : Encodes keep t s) :
      Encodes keep (c :: t) (e ++ s)

/-- The escape of an octet. -/
def escape (n : Nat) : Text := ['%', capitalDigit (n / 16), capitalDigit (n % 16)]

/-- The text with every character escaped that is not to be kept. -/
def percentEncode (keep : Char → Bool) (t : Text) : Text :=
  t.flatMap fun c => if keep c then [c] else (octets c).flatMap escape

/-! ## Units -/

theorem hexValue?_of_mem_digits {n : Nat} {a : Char} (h : n < 16) (ha : a ∈ digits n) : hexValue? a = some n := by
  have capital : ∀ n < 16, hexValue? (capitalDigit n) = some n := by decide
  have small : ∀ n < 16, hexValue? (smallDigit n) = some n := by decide
  rcases List.mem_pair.1 ha with rfl | rfl
  · exact capital n h
  · exact small n h

theorem units_cons {c : Char} (h : c ≠ '%') (rest : Text) : units (c :: rest) = .char c :: units rest := by
  match rest with
  | [] => rfl
  | [_] => rfl
  | _ :: _ :: _ => rw [units, if_neg h]

/-- Escaped octets are read as the octets. -/
theorem Escapes.units_append {ns : List Nat} {e : Text} (h : Escapes ns e) (rest : Text) :
    units (e ++ rest) = ns.map .octet ++ units rest := by
  induction h with
  | nil => rfl
  | @cons n a b ns e octet high low _ ih =>
    have value : hexOctet? a b = some n := by
      rw [hexOctet?, hexValue?_of_mem_digits (by omega) high, hexValue?_of_mem_digits (by omega) low]
      exact congrArg some (by omega)
    simp only [List.cons_append, units, if_true, value, ih, List.map_cons]

/-- Nothing but percent signs and digits stands in escapes. -/
theorem Escapes.notMem {ns : List Nat} {e : Text} {c : Char} (h : Escapes ns e) (percent : c ≠ '%')
    (digit : hexValue? c = none) : c ∉ e := by
  induction h with
  | nil => exact List.not_mem_nil
  | cons octet high low _ ih =>
    have other : ∀ {m a}, m < 16 → a ∈ digits m → c ≠ a := by
      intro m a hm ha hc
      rw [hc, hexValue?_of_mem_digits hm ha] at digit
      cases digit
    simp only [List.mem_cons, not_or]
    exact ⟨percent, other (by omega) high, other (by omega) low, ih⟩

theorem escapes_flatMap {ns : List Nat} (h : ∀ n ∈ ns, n < 256) : Escapes ns (ns.flatMap escape) := by
  induction ns with
  | nil => exact .nil
  | cons n ns ih =>
    rw [List.forall_mem_cons] at h
    exact .cons h.1 (List.mem_cons_self ..) (List.mem_cons_self ..) (ih h.2)

theorem lt_of_mem_octets {c : Char} {n : Nat} (h : n ∈ octets c) : n < 256 := by
  obtain ⟨b, -, rfl⟩ := List.mem_map.1 h
  exact b.toNat_lt

/-! ## Octets -/

theorem decodeUnits_lead {n : Nat} {p : Partial} (h : Partial.ofLead? n = some p) (rest : List CodeUnit) :
    decodeUnits none (.octet n :: rest) = decodeUnits (some p) rest := by
  have large : ¬ n < 0x80 := by
    intro small
    have none : Partial.ofLead? n = none := by
      unfold Partial.ofLead?
      repeat' rw [if_neg (by omega)]
    simp [none] at h
  simp only [decodeUnits, stepOctet, openSequence, large, if_false, h, List.nil_append]

theorem decodeUnits_more {n : Nat} {p : Partial} (within : p.low ≤ n ∧ n ≤ p.high) (due : ¬ p.due ≤ 1)
    (rest : List CodeUnit) :
    decodeUnits (some p) (.octet n :: rest) =
      decodeUnits (some ⟨64 * p.value + (n - 0x80), p.due - 1, 0x80, 0xBF⟩) rest := by
  simp only [decodeUnits, stepOctet, within, and_self, if_true, due, if_false, List.nil_append]

theorem decodeUnits_last {n : Nat} {p : Partial} (within : p.low ≤ n ∧ n ≤ p.high) (due : p.due ≤ 1)
    (rest : List CodeUnit) :
    decodeUnits (some p) (.octet n :: rest) = Char.ofNat (64 * p.value + (n - 0x80)) :: decodeUnits none rest := by
  simp only [decodeUnits, stepOctet, within, and_self, if_true, due, List.singleton_append]

/-- The lead of three octets leaves two to come, and the bounds of the second one allow for the character. -/
theorem ofLead?_three {n : Nat} (low : 0x800 ≤ n) (high : n < 0x10000) (scalar : n < 0xD800 ∨ 0xDFFF < n) :
    ∃ lower upper, Partial.ofLead? (n / 4096 % 16 + 0xE0) = some ⟨n / 4096, 2, lower, upper⟩ ∧
      lower ≤ n / 64 % 64 + 0x80 ∧ n / 64 % 64 + 0x80 ≤ upper := by
  unfold Partial.ofLead?
  rw [if_neg (by omega)]
  by_cases h0 : n / 4096 = 0
  · rw [if_pos (by omega), h0]
    exact ⟨_, _, rfl, by omega, by omega⟩
  · rw [if_neg (by omega)]
    by_cases hd : n / 4096 = 0xD
    · rw [if_pos (by omega), hd]
      exact ⟨_, _, rfl, by omega, by omega⟩
    · rw [if_neg (by omega), if_pos (by omega)]
      have value : n / 4096 % 16 + 0xE0 - 0xE0 = n / 4096 := by omega
      rw [value]
      exact ⟨_, _, rfl, by omega, by omega⟩

/-- The lead of four octets leaves three to come, and the bounds of the second one allow for the character. -/
theorem ofLead?_four {n : Nat} (low : 0x10000 ≤ n) (high : n < 0x110000) :
    ∃ lower upper, Partial.ofLead? (n / 262144 % 8 + 0xF0) = some ⟨n / 262144, 3, lower, upper⟩ ∧
      lower ≤ n / 4096 % 64 + 0x80 ∧ n / 4096 % 64 + 0x80 ≤ upper := by
  unfold Partial.ofLead?
  rw [if_neg (by omega), if_neg (by omega), if_neg (by omega), if_neg (by omega)]
  by_cases h0 : n / 262144 = 0
  · rw [if_pos (by omega), h0]
    exact ⟨_, _, rfl, by omega, by omega⟩
  · rw [if_neg (by omega)]
    by_cases h4 : n / 262144 = 4
    · rw [if_neg (by omega), if_pos (by omega), h4]
      exact ⟨_, _, rfl, by omega, by omega⟩
    · rw [if_pos (by omega)]
      have value : n / 262144 % 8 + 0xF0 - 0xF0 = n / 262144 := by omega
      rw [value]
      exact ⟨_, _, rfl, by omega, by omega⟩

/-- **The octets of a character** denote it. -/
theorem decodeUnits_octets (c : Char) (rest : List CodeUnit) :
    decodeUnits none ((octets c).map .octet ++ rest) = c :: decodeUnits none rest := by
  have scalar : c.toNat < 0xD800 ∨ 0xDFFF < c.toNat ∧ c.toNat < 0x110000 := c.valid
  have back : ∀ n, n = c.toNat → Char.ofNat n = c := fun n hn => by rw [hn, Char.ofNat_toNat]
  have code : c.val.toNat = c.toNat := rfl
  have small : ∀ n, n < 256 → (UInt8.ofNat n).toNat = n := fun n hn => by
    rw [UInt8.toNat_ofNat', Nat.mod_eq_of_lt hn]
  generalize hn : c.toNat = n at *
  unfold octets String.utf8EncodeChar
  simp only [code]
  split
  · have one : n < 0x80 := by omega
    simp [decodeUnits, stepOctet, openSequence, small n (by omega), one, back n rfl]
  · split
    · have lead : Partial.ofLead? (n / 64 % 32 + 0xC0) = some ⟨n / 64, 1, 0x80, 0xBF⟩ := by
        have value : n / 64 % 32 + 0xC0 - 0xC0 = n / 64 := by omega
        rw [Partial.ofLead?, if_pos (by omega), value]
      simp only [List.map_cons, List.map_nil, List.cons_append, List.nil_append]
      rw [small _ (by omega), small _ (by omega), decodeUnits_lead lead,
        decodeUnits_last ⟨by simp, by simp; omega⟩ (by simp), back _ (by simp; omega)]
    · split
      · obtain ⟨lower, upper, lead, within⟩ := ofLead?_three (n := n) (by omega) (by omega) (by omega)
        simp only [List.map_cons, List.map_nil, List.cons_append, List.nil_append]
        rw [small _ (by omega), small _ (by omega), small _ (by omega), decodeUnits_lead lead,
          decodeUnits_more within (by simp), decodeUnits_last ⟨by simp, by simp; omega⟩ (by simp),
          back _ (by simp; omega)]
      · obtain ⟨lower, upper, lead, within⟩ := ofLead?_four (n := n) (by omega) (by omega)
        simp only [List.map_cons, List.map_nil, List.cons_append, List.nil_append]
        rw [small _ (by omega), small _ (by omega), small _ (by omega), small _ (by omega), decodeUnits_lead lead,
          decodeUnits_more within (by simp), decodeUnits_more ⟨by simp, by simp; omega⟩ (by simp),
          decodeUnits_last ⟨by simp, by simp; omega⟩ (by simp), back _ (by simp; omega)]

/-! ## Encoding and decoding -/

variable {keep : Char → Bool} {t s : Text}

/-- **Decoding undoes encoding**, when percent signs are not kept. -/
theorem Encodes.percentDecode_eq (h : Encodes keep t s) (percent : keep '%' = false) : percentDecode s = t := by
  rw [percentDecode]
  induction h with
  | nil => rfl
  | @kept c t s may _ ih =>
    have plain : c ≠ '%' := by
      rintro rfl
      simp [percent] at may
    rw [units_cons plain, decodeUnits, ih, closeSequence, List.nil_append]
  | escaped escapes _ ih => rw [escapes.units_append, decodeUnits_octets, ih]

/-- Characters that are not to be kept and that no escape has do not occur. -/
theorem Encodes.notMem {c : Char} (h : Encodes keep t s) (dropped : keep c = false) (percent : c ≠ '%')
    (digit : hexValue? c = none) : c ∉ s := by
  induction h with
  | nil => exact List.not_mem_nil
  | @kept d _ _ may _ ih =>
    have other : c ≠ d := by
      rintro rfl
      simp [dropped] at may
    exact fun hc => (List.mem_cons.1 hc).elim other ih
  | escaped escapes _ ih => exact fun hc => (List.mem_append.1 hc).elim (escapes.notMem percent digit) ih

/-- A text that is encoded with some characters kept is encoded when more may be kept. -/
theorem Encodes.mono {keep' : Char → Bool} (h : Encodes keep t s) (weaker : ∀ c, keep c = true → keep' c = true) :
    Encodes keep' t s := by
  induction h with
  | nil => exact .nil
  | kept may _ ih => exact .kept (weaker _ may) ih
  | escaped escapes _ ih => exact .escaped escapes ih

/-- What is written with escapes encodes the text. -/
theorem encodes_percentEncode (keep : Char → Bool) (t : Text) : Encodes keep t (percentEncode keep t) := by
  induction t with
  | nil => exact .nil
  | cons c t ih =>
    rw [percentEncode, List.flatMap_cons, ← percentEncode]
    by_cases may : keep c = true
    · rw [if_pos may]
      exact .kept may ih
    · rw [if_neg may]
      exact .escaped (escapes_flatMap fun n hn => lt_of_mem_octets hn) ih

/-- A text of characters that may be kept encodes itself. -/
theorem encodes_self (h : t.all keep = true) : Encodes keep t t := by
  induction t with
  | nil => exact .nil
  | cons c t ih =>
    rw [List.all_cons, Bool.and_eq_true] at h
    exact .kept h.1 (ih h.2)

/-- A text without percent signs denotes itself. -/
theorem percentDecode_of_notMem (h : '%' ∉ t) : percentDecode t = t := by
  have plain : t.all (· != '%') = true := by simpa using fun c hc (he : c = '%') => h (he ▸ hc)
  have self : Encodes (· != '%') t t := encodes_self plain
  exact self.percentDecode_eq (by decide)

theorem notMem_percentEncode {c : Char} (dropped : keep c = false) (percent : c ≠ '%') (digit : hexValue? c = none)
    (t : Text) : c ∉ percentEncode keep t :=
  (encodes_percentEncode keep t).notMem dropped percent digit

/-! ## Decoding in pieces -/

theorem hexOctet?_eq_none {a b : Char} (h : hexValue? a = none ∨ hexValue? b = none) : hexOctet? a b = none := by
  rcases h with h | h
  · simp [hexOctet?, h]
  · cases high : hexValue? a <;> simp [hexOctet?, high, h]

/-- A character that no escape has ends the units of what stands before it. -/
theorem units_append_cons {c : Char} (percent : c ≠ '%') (digit : hexValue? c = none) (before after : Text) :
    units (before ++ c :: after) = units before ++ .char c :: units after := by
  -- an escape that starts one or two characters before `c` would have `c` as a digit
  have pair : ∀ x, units (x :: c :: after) = .char x :: .char c :: units after := by
    intro x
    rw [← units_cons percent]
    cases after with
    | nil => rfl
    | cons d after =>
      have unread : hexOctet? c d = none := hexOctet?_eq_none (.inl digit)
      simp [units, unread]
  fun_induction units before with
  | case1 => exact units_cons percent after
  | case2 x => exact pair x
  | case3 x y =>
    have unread : hexOctet? y c = none := hexOctet?_eq_none (.inr digit)
    simp [units, unread, pair]
  | case4 x y rest n octet ih => simp [units, octet, ih]
  | case5 x y rest unread ih =>
    simp only [List.cons_append] at ih ⊢
    simp [units, unread, ih]
  | case6 w x y rest other ih =>
    simp only [List.cons_append] at ih ⊢
    simp [units, other, ih]

/-- A character ends the octets before it, so that decoding starts anew behind it. -/
theorem decodeUnits_append_char (state : Option Partial) (before : List CodeUnit) (c : Char) (after : List CodeUnit) :
    decodeUnits state (before ++ .char c :: after) = decodeUnits state before ++ c :: decodeUnits none after := by
  induction before generalizing state with
  | nil => rfl
  | cons unit before ih => cases unit <;> simp [decodeUnits, ih]

/-- **What stands before and after** a character that no escape has is decoded apart. -/
theorem percentDecode_append_cons {c : Char} (percent : c ≠ '%') (digit : hexValue? c = none) (before after : Text) :
    percentDecode (before ++ c :: after) = percentDecode before ++ c :: percentDecode after := by
  rw [percentDecode, units_append_cons percent digit, decodeUnits_append_char]
  rfl

end TypedRoutes.Text
