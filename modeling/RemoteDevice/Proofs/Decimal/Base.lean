/-!
# Numbers in bases up to sixteen

Reading digits of either case, and that what is read is the number whose digits were written.
-/
set_option autoImplicit false

namespace RemoteDevice.Decimal

/-- The value of a character as a digit; none if the base has no such digit. -/
def baseDigit? (base : Nat) (c : Char) : Option Nat :=
  let value :=
    if c.isDigit then c.toNat - '0'.toNat
    else if 'a' ≤ c ∧ c ≤ 'f' then c.toNat - 'a'.toNat + 10
    else if 'A' ≤ c ∧ c ≤ 'F' then c.toNat - 'A'.toNat + 10
    else base
  if value < base then some value else none

/-- Reads digits that follow those of the number `n`. -/
def readOn (base n : Nat) : List Char → Option Nat
  | [] => some n
  | c :: rest => (baseDigit? base c).bind fun digit => readOn base (base * n + digit) rest

def readBase (base : Nat) (text : List Char) : Option Nat :=
  if text.isEmpty then none else readOn base 0 text

section

variable {base n : Nat}

theorem readOn_append (l rest : List Char) :
    readOn base n (l ++ rest) = (readOn base n l).bind fun m => readOn base m rest := by
  induction l generalizing n with
  | nil => rfl
  | cons c l ih =>
    rw [List.cons_append, readOn, readOn, Option.bind_assoc]
    congr 1
    funext digit
    exact ih

theorem readOn_zeros (positive : 0 < base) (fill : Nat) (rest : List Char) :
    readOn base 0 (List.replicate fill '0' ++ rest) = readOn base 0 rest := by
  have zero : baseDigit? base '0' = some 0 := if_pos positive
  induction fill with
  | zero => rfl
  | succ fill ih =>
    rw [List.replicate_succ, List.cons_append, readOn, zero, Option.bind_some, Nat.mul_zero,
      Nat.add_zero, ih]

/-- The digits may be written in any way in which each one by itself can be read. -/
theorem readOn_toDigits {spell : Char → Char} (two_le : 2 ≤ base)
    (spelled : ∀ d < base, baseDigit? base (spell d.digitChar) = some d) (n : Nat) :
    readOn base 0 ((Nat.toDigits base n).map spell) = some n := by
  induction n using Nat.strongRecOn with
  | ind n ih =>
    by_cases less : n < base
    · rw [Nat.toDigits_of_lt_base less, List.map_singleton, readOn, spelled n less]
      simp [readOn]
    · have smaller : n / base < n := Nat.div_lt_self (by omega) (by omega)
      have last : n % base < base := Nat.mod_lt n (by omega)
      rw [Nat.toDigits_of_base_le (by omega) (by omega), List.map_append, readOn_append,
        ih _ smaller, Option.bind_some, List.map_singleton, readOn, spelled _ last]
      simp [readOn, Nat.div_add_mod]

theorem exists_digitChar_of_mem (two_le : 2 ≤ base) {n : Nat} {c : Char}
    (member : c ∈ Nat.toDigits base n) : ∃ d < base, c = d.digitChar := by
  induction n using Nat.strongRecOn with
  | ind n ih =>
    by_cases less : n < base
    · rw [Nat.toDigits_of_lt_base less, List.mem_singleton] at member
      exact ⟨n, less, member⟩
    · rw [Nat.toDigits_of_base_le (by omega) (by omega)] at member
      rcases List.mem_append.mp member with before | last
      · exact ih _ (Nat.div_lt_self (by omega) (by omega)) before
      · rw [List.mem_singleton] at last
        exact ⟨n % base, Nat.mod_lt n (by omega), last⟩

theorem readBase_toDigits {spell : Char → Char} (two_le : 2 ≤ base)
    (spelled : ∀ d < base, baseDigit? base (spell d.digitChar) = some d) (fill n : Nat) :
    readBase base (List.replicate fill '0' ++ (Nat.toDigits base n).map spell) = some n := by
  rw [readBase, if_neg (by simp [Nat.toDigits_ne_nil]), readOn_zeros (by omega),
    readOn_toDigits two_le spelled]

end

theorem baseDigit?_octal : ∀ d < 8, baseDigit? 8 d.digitChar = some d := by decide

theorem baseDigit?_lower : ∀ d < 16, baseDigit? 16 d.digitChar = some d := by decide

theorem baseDigit?_upper : ∀ d < 16, baseDigit? 16 d.digitChar.toUpper = some d := by decide

end RemoteDevice.Decimal
