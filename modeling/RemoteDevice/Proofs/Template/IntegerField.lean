import RemoteDevice.Proofs.Decimal.Base
import RemoteDevice.Proofs.Decimal.Integer
import RemoteDevice.Proofs.Template.Semantics

/-!
# Fields of integers

The field that a directive makes of an integer is filled up to its width, and the integer can be
read back from it. The precision takes no part in this.
-/
set_option autoImplicit false

namespace RemoteDevice

/-! ## Grouped digits -/

theorem filter_groupThousands {keep : Char → Bool} (comma : keep ',' = false) (digits : List Char) :
    (groupThousands digits).filter keep = digits.filter keep := by
  fun_induction groupThousands digits with
  | case1 => rfl
  | case2 c => rfl
  | case3 c rest _ _ ih =>
    rw [List.filter_cons, List.filter_cons_of_neg (by simp [comma]), ih, List.filter_cons]
  | case4 c rest _ _ ih => rw [List.filter_cons, ih, List.filter_cons]

theorem mem_groupThousands {c : Char} {digits : List Char} (member : c ∈ groupThousands digits) :
    c ∈ digits ∨ c = ',' := by
  by_cases comma : c = ','
  · exact .inr comma
  · have kept : c ∈ (groupThousands digits).filter (· != ',') := by simp [member, comma]
    rw [filter_groupThousands (by decide)] at kept
    exact .inl (List.mem_of_mem_filter kept)

/-! ## Filling -/

namespace Directive

variable (d : Directive) (sign body : List Char)

theorem length_pad : (d.pad sign body).length = max d.width (sign ++ body).length := by
  simp only [pad, List.length_append]
  split
  · simp only [List.length_append, List.length_replicate]
    omega
  split <;>
    · simp only [List.length_append, List.length_replicate]
      omega

variable {d sign body} in
/-- Where sign and digits are as wide as the field, nothing is filled. -/
theorem pad_of_le (wide : d.width ≤ (sign ++ body).length) : d.pad sign body = sign ++ body := by
  rw [List.length_append] at wide
  have fill : d.width - (sign.length + body.length) = 0 := by omega
  simp [pad, fill]

/-- Without the blanks a field is the sign and the digits, with some zeros between them. -/
theorem exists_filter_pad (keep : Char → Bool) (blank : keep ' ' = false) (zero : keep '0' = true) :
    ∃ fill, (d.pad sign body).filter keep =
      sign.filter keep ++ (List.replicate fill '0' ++ body.filter keep) := by
  simp only [pad]
  split
  · exact ⟨0, by simp [blank]⟩
  split
  · exact ⟨_, by rw [List.append_assoc, List.filter_append, List.filter_append,
      List.filter_replicate_of_pos zero]⟩
  · exact ⟨0, by simp [blank]⟩

end Directive

namespace Template

/-- How a sign and digits fill a field: blanks go to the right if the flags ask for the left side,
zeros otherwise go between sign and digits if they are asked for, and blanks otherwise go to the
left. -/
structure Filled (flags : List Char) (width : Nat) (sign digits field : List Char) : Prop where
  left : '-' ∈ flags →
    field = sign ++ digits ++ List.replicate (width - (sign ++ digits).length) ' '
  zero : '-' ∉ flags → '0' ∈ flags →
    field = sign ++ List.replicate (width - (sign ++ digits).length) '0' ++ digits
  right : '-' ∉ flags → '0' ∉ flags →
    field = List.replicate (width - (sign ++ digits).length) ' ' ++ sign ++ digits
  length_eq : field.length = max width (sign ++ digits).length

theorem filled_pad (s : Spelling) (sign digits : List Char) :
    Filled s.flags (number s.width) sign digits (s.layout.pad sign digits) where
  left := by
    intro left
    simp [Directive.pad, Spelling.layout, ofFlags, left]
  zero := by
    intro left zero
    simp [Directive.pad, Spelling.layout, ofFlags, left, zero]
  right := by
    intro left zero
    simp [Directive.pad, Spelling.layout, ofFlags, left, zero]
  length_eq := s.layout.length_pad sign digits

/-! ## Sign and digits -/

/-- Decimal numbers are shown with their sign, and where they are not negative, with what the flags
put in its place. -/
def integerSign (flags : List Char) (conversion : Char) (v : Int64) : List Char :=
  if conversion = 'd' ∨ conversion = 'i' then
    if v < 0 then ['-'] else if '+' ∈ flags then ['+'] else if ' ' ∈ flags then [' '] else []
  else []

def integerDigits (flags : List Char) (conversion : Char) (v : Int64) : List Char :=
  match conversion with
  | 'x' => Nat.toDigits 16 v.toUInt64.toNat
  | 'X' => (Nat.toDigits 16 v.toUInt64.toNat).map Char.toUpper
  | 'o' => Nat.toDigits 8 v.toUInt64.toNat
  | _ => (ofFlags flags).grouped (Nat.toDigits 10 v.toInt.natAbs)

/-- The conversions of integers to numbers. -/
def integral (conversion : Char) : Bool := ['d', 'i', 'x', 'X', 'o'].contains conversion

theorem integral_cases {conversion : Char} (known : integral conversion = true) :
    (conversion = 'd' ∨ conversion = 'i') ∨
      conversion = 'x' ∨ conversion = 'X' ∨ conversion = 'o' := by
  simpa [integral, or_assoc] using known

theorem sign_layout (s : Spelling) (v : Int64) :
    s.layout.sign (v < 0) = integerSign s.flags 'd' v := by
  simp [Directive.sign, Spelling.layout, ofFlags, integerSign]

theorem field_integer (s : Spelling) {conversion : Char} (known : integral conversion = true)
    (v : Int64) :
    s.layout.field conversion (.int v) =
      .ok (s.layout.pad (integerSign s.flags conversion v)
        (integerDigits s.flags conversion v)) := by
  rcases integral_cases known with (rfl | rfl) | rfl | rfl | rfl
  · rw [← sign_layout]
    rfl
  · have same : integerSign s.flags 'i' v = integerSign s.flags 'd' v := rfl
    rw [same, ← sign_layout]
    rfl
  all_goals rfl

/-! ## Reading a field back -/

/-- The field reads as the integer: a decimal one as it is, with its sign, and the others as the
number that the 64 bits of the integer stand for. -/
def Shows (conversion : Char) (v : Int64) (field : List Char) : Prop :=
  if conversion = 'd' ∨ conversion = 'i' then
    Decimal.readInt64 (field.filter fun c => c ≠ ' ' ∧ c ≠ ',') = .ok v
  else
    (Decimal.readBase (if conversion = 'o' then 8 else 16) (field.filter (· ≠ ' '))).map Int.ofNat =
      some (v.toInt % UInt64.size)

theorem toNat_toUInt64 (v : Int64) : (v.toUInt64.toNat : Int) = v.toInt % UInt64.size := by
  have below : v.toUInt64.toNat < UInt64.size := v.toUInt64.toNat_lt
  have signed : v.toInt = (v.toUInt64.toNat : Int).bmod UInt64.size := by
    rw [← Int64.toInt_toBitVec, BitVec.toInt_eq_toNat_bmod]
    rfl
  rw [signed, Int.bmod_emod, Int.emod_eq_of_lt (Int.natCast_nonneg _) (Int.ofNat_lt.mpr below)]

theorem Shows.unique {conversion : Char} {v w : Int64} {field : List Char}
    (shows : Shows conversion v field) (shows' : Shows conversion w field) : v = w := by
  rw [Shows] at shows shows'
  split at shows
  next decimal =>
    rw [if_pos decimal, shows] at shows'
    exact Except.ok.inj shows'
  next word =>
    rw [if_neg word, shows] at shows'
    have same := Option.some.inj shows'
    rw [← toNat_toUInt64, ← toNat_toUInt64] at same
    have bits : v.toUInt64 = w.toUInt64 := UInt64.toNat_inj.mp (Int.ofNat.inj same)
    rw [← Int64.toInt64_toUInt64 v, bits, Int64.toInt64_toUInt64]

/-- What is left of a decimal number without blanks and commas is its sign, zeros and digits. -/
theorem shows_decimal (s : Spelling) {conversion : Char}
    (decimal : conversion = 'd' ∨ conversion = 'i') (v : Int64) :
    Shows conversion v
      (s.layout.pad (integerSign s.flags conversion v) (integerDigits s.flags conversion v)) := by
  have isDigit : ∀ c ∈ Nat.toDigits 10 v.toInt.natAbs, c.isDigit = true :=
    fun c member => Nat.isDigit_of_mem_toDigits (by decide) (by decide) member
  have kept : (integerDigits s.flags conversion v).filter (fun c => c ≠ ' ' ∧ c ≠ ',') =
      Nat.toDigits 10 v.toInt.natAbs := by
    have grouped : integerDigits s.flags conversion v =
        (ofFlags s.flags).grouped (Nat.toDigits 10 v.toInt.natAbs) := by
      rcases decimal with rfl | rfl <;> rfl
    have all : (Nat.toDigits 10 v.toInt.natAbs).filter (fun c => c ≠ ' ' ∧ c ≠ ',') =
        Nat.toDigits 10 v.toInt.natAbs := by
      rw [List.filter_eq_self]
      intro c member
      have digit := isDigit c member
      rw [decide_eq_true_eq]
      constructor <;> rintro rfl <;> cases digit
    rw [grouped, Directive.grouped]
    split
    next => rw [filter_groupThousands (by decide), all]
    next => exact all
  obtain ⟨fill, filtered⟩ := s.layout.exists_filter_pad (integerSign s.flags conversion v)
    (integerDigits s.flags conversion v) (fun c => c ≠ ' ' ∧ c ≠ ',') (by decide) (by decide)
  rw [Shows, if_pos decimal, filtered, kept]
  apply Decimal.readInt64_signed
  · intro c member
    rcases List.mem_append.mp member with zero | digit
    · rw [List.eq_of_mem_replicate zero]
      rfl
    · exact isDigit c digit
  · simp [Nat.toDigits_ne_nil]
  · rw [Decimal.ofDigitChars_zeros, Nat.ofDigitChars_ten_toDigits]
  · rw [integerSign, if_pos decimal]
    by_cases negative : v < 0
    · exact .inl ⟨negative, by simp [negative]⟩
    · refine .inr ⟨negative, ?_⟩
      rw [if_neg negative]
      split
      next => exact .inl (by decide)
      split
      next => exact .inr (by decide)
      next => exact .inr rfl

theorem shows_word (s : Spelling) {conversion : Char}
    (word : conversion = 'x' ∨ conversion = 'X' ∨ conversion = 'o') (v : Int64) :
    Shows conversion v
      (s.layout.pad (integerSign s.flags conversion v) (integerDigits s.flags conversion v)) := by
  obtain ⟨base, spell, two_le, same_base, spelled, digits⟩ : ∃ (base : Nat) (spell : Char → Char),
      2 ≤ base ∧ base = (if conversion = 'o' then 8 else 16) ∧
      (∀ d < base, Decimal.baseDigit? base (spell d.digitChar) = some d) ∧
      integerDigits s.flags conversion v =
        (Nat.toDigits base v.toUInt64.toNat).map spell := by
    rcases word with rfl | rfl | rfl
    · exact ⟨16, id, by decide, rfl, Decimal.baseDigit?_lower, (List.map_id _).symm⟩
    · exact ⟨16, Char.toUpper, by decide, rfl, Decimal.baseDigit?_upper, rfl⟩
    · exact ⟨8, id, by decide, rfl, Decimal.baseDigit?_octal, (List.map_id _).symm⟩
  have unsigned : integerSign s.flags conversion v = [] := by
    rcases word with rfl | rfl | rfl <;> rfl
  have decimal : ¬(conversion = 'd' ∨ conversion = 'i') := by
    rcases word with rfl | rfl | rfl <;> decide
  obtain ⟨fill, filtered⟩ := s.layout.exists_filter_pad (integerSign s.flags conversion v)
    (integerDigits s.flags conversion v) (· ≠ ' ') (by decide) (by decide)
  have kept : (integerDigits s.flags conversion v).filter (· ≠ ' ') =
      (Nat.toDigits base v.toUInt64.toNat).map spell := by
    rw [digits, List.filter_eq_self]
    intro c member
    obtain ⟨digit, written, rfl⟩ := List.mem_map.mp member
    obtain ⟨d, less, rfl⟩ := Decimal.exists_digitChar_of_mem two_le written
    have value := spelled d less
    rw [decide_eq_true_eq]
    intro blank
    -- a blank is a digit in no base
    rw [blank] at value
    simp [Decimal.baseDigit?] at value
  rw [Shows, if_neg decimal, filtered, kept, unsigned, ← same_base, List.filter_nil,
    List.nil_append, Decimal.readBase_toDigits two_le spelled, ← toNat_toUInt64]
  rfl

theorem mem_integerDigits {flags : List Char} {conversion : Char} {v : Int64} {c : Char}
    (member : c ∈ integerDigits flags conversion v) : c.isAlphanum = true ∨ c = ',' := by
  have octal : ∀ d < 8, d.digitChar.isAlphanum = true := by decide
  have decimal : ∀ d < 10, d.digitChar.isAlphanum = true := by decide
  have lower : ∀ d < 16, d.digitChar.isAlphanum = true := by decide
  have upper : ∀ d < 16, d.digitChar.toUpper.isAlphanum = true := by decide
  unfold integerDigits at member
  split at member
  next =>
    obtain ⟨d, less, rfl⟩ := Decimal.exists_digitChar_of_mem (by decide) member
    exact .inl (lower d less)
  next =>
    obtain ⟨digit, written, rfl⟩ := List.mem_map.mp member
    obtain ⟨d, less, rfl⟩ := Decimal.exists_digitChar_of_mem (by decide) written
    exact .inl (upper d less)
  next =>
    obtain ⟨d, less, rfl⟩ := Decimal.exists_digitChar_of_mem (by decide) member
    exact .inl (octal d less)
  next =>
    have written : c ∈ Nat.toDigits 10 v.toInt.natAbs ∨ c = ',' := by
      rw [Directive.grouped] at member
      split at member
      next => exact mem_groupThousands member
      next => exact .inl member
    refine written.imp_left fun digit => ?_
    obtain ⟨d, less, rfl⟩ := Decimal.exists_digitChar_of_mem (by decide) digit
    exact decimal d less

theorem stopsAt_integral (s : Spelling) {conversion : Char} (known : integral conversion = true) :
    s.StopsAt conversion := by
  rcases integral_cases known with (rfl | rfl) | rfl | rfl | rfl
  all_goals exact ⟨rfl, fun _ => ⟨by decide, fun _ => rfl⟩⟩

theorem consumes_of_integral {conversion : Char} (known : integral conversion = true) :
    consumes conversion = true := by
  rcases integral_cases known with (rfl | rfl) | rfl | rfl | rfl
  all_goals rfl

/-- An integer is shown by digits that depend on flags and conversion alone, in a field that depends
on the width besides, but not on the precision nor on what stands around the directive. The field is
filled up to its width and shows the integer, so that no two integers have the same. -/
theorem render_integer (flags : List Char) {conversion : Char}
    (known : integral conversion = true) :
    ∃ digits : Int64 → List Char,
      (∀ v, ∀ c ∈ digits v, c.isAlphanum = true ∨ c = ',') ∧
      ∀ width : List Char, ∃ field : Int64 → List Char,
        (∀ v, Filled flags (number width) (integerSign flags conversion v) (digits v) (field v)) ∧
        (∀ v, Shows conversion v (field v)) ∧
        Function.Injective field ∧
        ∀ s : Spelling, s.Proper → ¬s.Oversize → s.flags = flags → s.width = width →
          ∀ v a b, '%' ∉ a → '%' ∉ b →
            render (String.ofList (a ++ '%' :: (s.text ++ conversion :: b))) (.int v) =
              .ok (String.ofList (a ++ field v ++ b)) := by
  refine ⟨integerDigits flags conversion, fun v c member => mem_integerDigits member, ?_⟩
  intro width
  -- Any precision would do.
  let plain : Spelling := ⟨flags, width, none⟩
  let field := fun v : Int64 =>
    plain.layout.pad (integerSign flags conversion v) (integerDigits flags conversion v)
  have shows : ∀ v, Shows conversion v (field v) := by
    intro v
    rcases integral_cases known with decimal | word
    · exact shows_decimal plain decimal v
    · exact shows_word plain word v
  refine ⟨field, fun v => filled_pad plain _ _, shows, ?_, ?_⟩
  · intro v w same
    exact (shows v).unique (same ▸ shows w)
  · rintro s proper within rfl rfl v a b left right
    apply render_between left right proper (stopsAt_integral s known) within
      (consumes_of_integral known)
    exact field_integer s known v

theorem render_integer_between :
    integral 'd' = true ∧ ∃ field : List Char,
      render "at %+08.3d W" (.int (-42)) = .ok (String.ofList ("at ".toList ++ field ++ " W".toList)) ∧
        Shows 'd' (-42) field ∧ 8 ≤ field.length := by
  obtain ⟨digits, -, fields⟩ := @render_integer ['+', '0'] 'd' rfl
  obtain ⟨field, filled, shows, -, rendered⟩ := fields ['8']
  have proper : Spelling.Proper ⟨['+', '0'], ['8'], some ['3']⟩ :=
    ⟨by simp [isFlag], by simp, by decide, by rintro digits ⟨rfl⟩; simp⟩
  refine ⟨rfl, field (-42), ?_, shows _, ?_⟩
  · exact rendered _ proper (by decide) rfl rfl (-42) "at ".toList " W".toList (by decide) (by decide)
  · rw [(filled (-42)).length_eq]
    exact Nat.le_max_left _ _

example : render "at %+08.3d W" (.int (-42)) = .ok "at -0000042 W" := by cbv

end Template

end RemoteDevice
