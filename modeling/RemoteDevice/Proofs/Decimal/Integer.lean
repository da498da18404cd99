import RemoteDevice.Decimal.Integer
import RemoteDevice.Proofs.Outcome

/-!
# The number that decimal digits stand for
-/
set_option autoImplicit false

namespace RemoteDevice.Decimal

theorem le_ofDigitChars (text : List Char) (n : Nat) : n ≤ Nat.ofDigitChars 10 text n := by
  rw [Nat.ofDigitChars_eq_ofDigitChars_zero]
  have power : 1 ≤ 10 ^ text.length := Nat.one_le_pow _ _ (by omega)
  have scaled : 1 * n ≤ 10 ^ text.length * n := Nat.mul_le_mul_right n power
  omega

theorem readDigits_eq_ok_iff {limit n m : Nat} {excess : IntegerError} {text : List Char}
    (start : n ≤ limit) :
    readDigits limit excess n text = .ok m ↔
      (∀ c ∈ text, c.isDigit = true) ∧ Nat.ofDigitChars 10 text n = m ∧ m ≤ limit := by
  induction text generalizing n with
  | nil =>
    simp only [readDigits, Except.ok.injEq, Nat.ofDigitChars_nil]
    constructor
    · rintro rfl
      exact ⟨by simp, rfl, start⟩
    · rintro ⟨-, same, -⟩
      exact same
  | cons c rest ih =>
    have value : n * 10 + digitValue c = 10 * n + (c.toNat - '0'.toNat) := by
      rw [digitValue, Nat.mul_comm]
    rw [readDigits, value, Nat.ofDigitChars_cons]
    by_cases digit : c.isDigit = true
    · rw [if_pos digit]
      by_cases fits : 10 * n + (c.toNat - '0'.toNat) ≤ limit
      · rw [if_pos fits, ih fits]
        simp [digit]
      · rw [if_neg fits]
        have above := le_ofDigitChars rest (10 * n + (c.toNat - '0'.toNat))
        constructor
        · intro read
          cases read
        · rintro ⟨-, same, within⟩
          omega
    · rw [if_neg digit]
      simp [digit]

theorem readDigits_toDigits {limit n : Nat} (excess : IntegerError) (within : n ≤ limit) :
    readDigits limit excess 0 (Nat.toDigits 10 n) = .ok n := by
  rw [readDigits_eq_ok_iff (Nat.zero_le limit)]
  refine ⟨?_, Nat.ofDigitChars_ten_toDigits, within⟩
  intro c member
  exact Nat.isDigit_of_mem_toDigits (by omega) (by omega) member

theorem ofDigitChars_zeros (fill : Nat) (digits : List Char) :
    Nat.ofDigitChars 10 (List.replicate fill '0' ++ digits) 0 = Nat.ofDigitChars 10 digits 0 := by
  induction fill with
  | zero => rfl
  | succ fill ih =>
    rw [List.replicate_succ, List.cons_append, Nat.ofDigitChars_cons]
    exact ih

/-! ## Signs -/

/-- The text is decimal digits of the number, with or without a sign in front. -/
inductive Spells : List Char → Int → Prop
  | unsigned {digits : List Char} (written : digits ≠ [])
      (inside : ∀ c ∈ digits, c.isDigit = true) : Spells digits (Nat.ofDigitChars 10 digits 0)
  | plus {digits : List Char} (written : digits ≠ []) (inside : ∀ c ∈ digits, c.isDigit = true) :
      Spells ('+' :: digits) (Nat.ofDigitChars 10 digits 0)
  | minus {digits : List Char} (written : digits ≠ []) (inside : ∀ c ∈ digits, c.isDigit = true) :
      Spells ('-' :: digits) (-(Nat.ofDigitChars 10 digits 0 : Int))

section Signed

variable {low high : Int} {digits : List Char}

theorem readInteger_minus (negative : low < 0) (written : digits ≠ []) :
    readInteger low high ('-' :: digits) =
      (readDigits (-low).toNat .tooSmall 0 digits).map fun (n : Nat) => -(n : Int) := by
  cases digits with
  | nil => exact absurd rfl written
  | cons c rest => simp [readInteger, negative]

theorem readInteger_plus (written : digits ≠ []) :
    readInteger low high ('+' :: digits) =
      (readDigits high.toNat .tooLarge 0 digits).map Int.ofNat := by
  cases digits with
  | nil => exact absurd rfl written
  | cons c rest => simp [readInteger]

theorem readInteger_unsigned {c : Char} {rest : List Char} (plus : c ≠ '+') (minus : c ≠ '-') :
    readInteger low high (c :: rest) =
      (readDigits high.toNat .tooLarge 0 (c :: rest)).map Int.ofNat := by
  simp [readInteger, plus, minus]

theorem readInteger_of_digits (inside : ∀ c ∈ digits, c.isDigit = true) (written : digits ≠ []) :
    readInteger low high digits =
      (readDigits high.toNat .tooLarge 0 digits).map Int.ofNat := by
  cases digits with
  | nil => exact absurd rfl written
  | cons c rest =>
    have digit := inside c List.mem_cons_self
    have plus : c ≠ '+' := by
      rintro rfl
      cases digit
    have minus : c ≠ '-' := by
      rintro rfl
      cases digit
    exact readInteger_unsigned plus minus

theorem spells_of_readInteger {text : List Char} {v : Int} (negative : low < 0)
    (natural : 0 ≤ high) (read : readInteger low high text = .ok v) :
    Spells text v ∧ low ≤ v ∧ v ≤ high := by
  cases text with
  | nil => cases read
  | cons c rest =>
    by_cases sign : c = '+' ∨ c = '-'
    · by_cases written : rest = []
      · subst written
        rcases sign with rfl | rfl <;> cases read
      rcases sign with rfl | rfl
      · rw [readInteger_plus written, map_eq_ok_iff] at read
        obtain ⟨n, read, rfl⟩ := read
        obtain ⟨inside, rfl, within⟩ := (readDigits_eq_ok_iff (Nat.zero_le _)).mp read
        rw [Int.ofNat_eq_natCast]
        exact ⟨.plus written inside, by omega, by omega⟩
      · rw [readInteger_minus negative written, map_eq_ok_iff] at read
        obtain ⟨n, read, rfl⟩ := read
        obtain ⟨inside, rfl, within⟩ := (readDigits_eq_ok_iff (Nat.zero_le _)).mp read
        exact ⟨.minus written inside, by omega, by omega⟩
    · obtain ⟨plus, minus⟩ := not_or.mp sign
      rw [readInteger_unsigned plus minus, map_eq_ok_iff] at read
      obtain ⟨n, read, rfl⟩ := read
      obtain ⟨inside, rfl, within⟩ := (readDigits_eq_ok_iff (Nat.zero_le _)).mp read
      rw [Int.ofNat_eq_natCast]
      exact ⟨.unsigned (by simp) inside, by omega, by omega⟩

theorem readInteger_eq_ok_iff {text : List Char} {v : Int} (negative : low < 0)
    (natural : 0 ≤ high) :
    readInteger low high text = .ok v ↔ Spells text v ∧ low ≤ v ∧ v ≤ high := by
  have read : ∀ {digits : List Char} {limit : Nat} {excess : IntegerError},
      (∀ c ∈ digits, c.isDigit = true) → Nat.ofDigitChars 10 digits 0 ≤ limit →
        readDigits limit excess 0 digits = .ok (Nat.ofDigitChars 10 digits 0) :=
    fun inside within => (readDigits_eq_ok_iff (Nat.zero_le _)).mpr ⟨inside, rfl, within⟩
  constructor
  · exact spells_of_readInteger negative natural
  · rintro ⟨spells, above, below⟩
    cases spells with
    | unsigned written inside =>
      rw [readInteger_of_digits inside written, read inside (by omega)]
      rfl
    | plus written inside =>
      rw [readInteger_plus written, read inside (by omega)]
      rfl
    | minus written inside =>
      rw [readInteger_minus negative written, read inside (by omega)]
      rfl

end Signed

theorem readInt64_eq_ok_iff {text : List Char} {v : Int64} :
    readInt64 text = .ok v ↔ Spells text v.toInt := by
  have least : Int64.minValue.toInt = -2 ^ 63 := by decide
  have greatest : Int64.maxValue.toInt = 2 ^ 63 - 1 := by decide
  rw [readInt64, least, greatest, map_eq_ok_iff]
  constructor
  · rintro ⟨n, read, rfl⟩
    obtain ⟨spells, above, below⟩ := (readInteger_eq_ok_iff (by decide) (by decide)).mp read
    rwa [Int64.toInt_ofInt_of_le above (by omega)]
  · intro spells
    have above := v.le_toInt
    have below := v.toInt_lt
    refine ⟨v.toInt, ?_, Int64.ofInt_toInt v⟩
    exact (readInteger_eq_ok_iff (by decide) (by decide)).mpr ⟨spells, above, by omega⟩

/-- A number is read back if only a minus stands in front of a negative one. -/
theorem readInt64_signed {v : Int64} {sign digits : List Char}
    (inside : ∀ c ∈ digits, c.isDigit = true) (written : digits ≠ [])
    (magnitude : Nat.ofDigitChars 10 digits 0 = v.toInt.natAbs)
    (signed : v < 0 ∧ sign = ['-'] ∨ ¬v < 0 ∧ (sign = ['+'] ∨ sign = [])) :
    readInt64 (sign ++ digits) = .ok v := by
  rw [Int64.lt_iff_toInt_lt, Int64.toInt_zero] at signed
  rw [readInt64_eq_ok_iff]
  rcases signed with ⟨negative, rfl⟩ | ⟨natural, rfl | rfl⟩
  · have value : v.toInt = -(Nat.ofDigitChars 10 digits 0 : Int) := by omega
    rw [value]
    exact .minus written inside
  · have value : v.toInt = (Nat.ofDigitChars 10 digits 0 : Int) := by omega
    rw [value]
    exact .plus written inside
  · have value : v.toInt = (Nat.ofDigitChars 10 digits 0 : Int) := by omega
    rw [value]
    exact .unsigned written inside

end RemoteDevice.Decimal
