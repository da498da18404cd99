import RemoteDevice.Proofs.Template.IntegerField
import RemoteDevice.Proofs.Text.Split

/-!
# Groups of digits

The digits of a number are grouped by commas in one way only: in threes, except for the first group,
which may be smaller. In what a template shows of a number, the flag for groups changes nothing but
the digits before the point (`render_grouped`).
-/
set_option autoImplicit false

namespace RemoteDevice

/-! ## Digits and commas -/

/-- Groups of three, behind a first group of one to three. -/
def Threes (groups : List (List Char)) : Prop :=
  ∃ first others, groups = first :: others ∧ 1 ≤ first.length ∧ first.length ≤ 3 ∧
    ∀ group ∈ others, group.length = 3

/-- Commas cut the text into groups of the digits. -/
structure Grouped (digits text : List Char) : Prop where
  digits_eq : text.filter (· ≠ ',') = digits
  threes : Threes (Text.split ',' text)

theorem map_length_of_threes {groups : List (List Char)}
    (threes : ∀ group ∈ groups, group.length = 3) :
    groups.map List.length = List.replicate groups.length 3 :=
  List.map_eq_replicate_iff.mpr threes

theorem length_flatten_of_threes {groups : List (List Char)}
    (threes : ∀ group ∈ groups, group.length = 3) :
    groups.flatten.length = 3 * groups.length := by
  rw [List.length_flatten, map_length_of_threes threes, List.sum_replicate_nat,
    Nat.mul_comm]

/-- There is one way only to cut digits into such groups. -/
theorem Threes.eq_of_flatten_eq {groups groups' : List (List Char)} (threes : Threes groups)
    (threes' : Threes groups') (same : groups.flatten = groups'.flatten) : groups = groups' := by
  obtain ⟨first, others, rfl, pos, le, full⟩ := threes
  obtain ⟨first', others', rfl, pos', le', full'⟩ := threes'
  have length := congrArg List.length same
  rw [List.flatten_cons, List.flatten_cons, List.length_append, List.length_append,
    length_flatten_of_threes full, length_flatten_of_threes full'] at length
  have first_length : first.length = first'.length := by omega
  have others_length : others.length = others'.length := by omega
  rw [List.eq_iff_flatten_eq]
  refine ⟨same, ?_⟩
  rw [List.map_cons, List.map_cons, map_length_of_threes full, map_length_of_threes full',
    first_length, others_length]

theorem split_comma_cons {c : Char} (digit : c ≠ ',') {text first : List Char}
    {others : List (List Char)} (groups : Text.split ',' text = first :: others) :
    Text.split ',' (c :: text) = (c :: first) :: others := by
  rw [Text.split, if_neg digit, groups]

theorem flatten_split_comma (text : List Char) :
    (Text.split ',' text).flatten = text.filter (· ≠ ',') := by
  induction text with
  | nil => rfl
  | cons c text ih =>
    by_cases comma : c = ','
    · simp [Text.split, comma, ih]
    · obtain ⟨first, others, groups⟩ := List.exists_cons_of_ne_nil (Text.split_ne_nil ',' text)
      rw [groups] at ih
      rw [split_comma_cons comma groups, List.flatten_cons, List.cons_append,
        ← List.flatten_cons, ih, List.filter_cons_of_pos (by simp [comma])]

theorem Grouped.unique {digits text other : List Char} (grouped : Grouped digits text)
    (grouped' : Grouped digits other) : text = other := by
  have same : Text.split ',' text = Text.split ',' other := by
    apply grouped.threes.eq_of_flatten_eq grouped'.threes
    rw [flatten_split_comma, flatten_split_comma, grouped.digits_eq, grouped'.digits_eq]
  have joined := (Text.split_eq_iff.mp same).1
  rw [← joined]
  exact (Text.split_eq_iff.mp rfl).1

/-- Without its commas a grouped text is the digits again. -/
theorem ungroup_groupThousands {digits : List Char} (free : ',' ∉ digits) :
    (groupThousands digits).filter (· ≠ ',') = digits := by
  rw [filter_groupThousands (by decide), List.filter_eq_self]
  intro c member
  rw [decide_eq_true_eq]
  rintro rfl
  exact free member

theorem length_of_split_groupThousands {digits first : List Char} {others : List (List Char)}
    (free : ',' ∉ digits) (groups : Text.split ',' (groupThousands digits) = first :: others)
    (threes : ∀ group ∈ others, group.length = 3) :
    digits.length = first.length + 3 * others.length := by
  have digits_eq := ungroup_groupThousands free
  rw [← flatten_split_comma, groups, List.flatten_cons] at digits_eq
  rw [← digits_eq, List.length_append, length_flatten_of_threes threes]

theorem threes_split_groupThousands {digits : List Char} (some : digits ≠ [])
    (free : ',' ∉ digits) : Threes (Text.split ',' (groupThousands digits)) := by
  fun_induction groupThousands digits with
  | case1 => exact absurd rfl some
  | case2 c =>
    rw [List.mem_singleton, ← ne_eq, ne_comm] at free
    exact ⟨[c], [], split_comma_cons free rfl, by simp, by simp, by simp⟩
  | case3 c rest more full ih =>
    rw [List.mem_cons, not_or, ← ne_eq, ne_comm] at free
    obtain ⟨first, others, groups, pos, le, threes⟩ := ih more free.2
    have length := length_of_split_groupThousands free.2 groups threes
    -- The rest is a number of threes, so its first group is full.
    have three : first.length = 3 := by omega
    have comma : Text.split ',' (',' :: groupThousands rest) = [] :: first :: others := by
      rw [Text.split, if_pos rfl, groups]
    refine ⟨[c], first :: others, split_comma_cons free.1 comma, by simp, by simp, ?_⟩
    exact List.forall_mem_cons.mpr ⟨three, threes⟩
  | case4 c rest more part ih =>
    rw [List.mem_cons, not_or, ← ne_eq, ne_comm] at free
    obtain ⟨first, others, groups, pos, le, threes⟩ := ih more free.2
    have length := length_of_split_groupThousands free.2 groups threes
    have room : first.length + 1 ≤ 3 := by omega
    exact ⟨c :: first, others, split_comma_cons free.1 groups, by simp, room, threes⟩

theorem eq_groupThousands_iff {digits text : List Char} (some : digits ≠ []) (free : ',' ∉ digits) :
    text = groupThousands digits ↔ Grouped digits text := by
  have grouped : Grouped digits (groupThousands digits) :=
    ⟨ungroup_groupThousands free, threes_split_groupThousands some free⟩
  constructor
  · rintro rfl
    exact grouped
  · intro grouped'
    exact grouped'.unique grouped

theorem head?_groupThousands (digits : List Char) :
    (groupThousands digits).head? = digits.head? := by
  fun_cases groupThousands digits <;> rfl

theorem getLast?_groupThousands (digits : List Char) :
    (groupThousands digits).getLast? = digits.getLast? := by
  fun_induction groupThousands digits with
  | case1 => rfl
  | case2 c => rfl
  | case3 c rest more full ih =>
    rw [List.getLast?_cons, List.getLast?_cons, List.getLast?_cons, ih,
      List.getLast?_eq_some_getLast more]
    rfl
  | case4 c rest more part ih => rw [List.getLast?_cons, List.getLast?_cons, ih]

/-! ## Decimal texts -/

namespace Decimal.Positional

/-- Digits on both sides of the point, on the left one at least. -/
structure Digits (p : Positional) : Prop where
  whole_ne_nil : p.whole ≠ []
  whole : ∀ c ∈ p.whole, c.isDigit = true
  fraction : ∀ c ∈ p.fraction, c.isDigit = true

theorem digits_natural (n : Nat) : Digits ⟨Nat.toDigits 10 n, []⟩ where
  whole_ne_nil := Nat.toDigits_ne_nil
  whole := fun c member => Nat.isDigit_of_mem_toDigits (by decide) (by decide) member
  fraction := by simp

theorem digits_ofScaled (n places : Nat) : (ofScaled n places).Digits := by
  have isDigit : ∀ c ∈ List.replicate (places + 1 - (Nat.toDigits 10 n).length) '0' ++
      Nat.toDigits 10 n, c.isDigit = true := by
    intro c member
    rcases List.mem_append.mp member with zero | digit
    · rw [List.eq_of_mem_replicate zero]
      rfl
    · exact Nat.isDigit_of_mem_toDigits (by decide) (by decide) digit
  refine ⟨?_, fun c member => isDigit c (List.mem_of_mem_take member),
    fun c member => isDigit c (List.mem_of_mem_drop member)⟩
  intro none
  have length := congrArg List.length none
  simp only [ofScaled, List.length_take, List.length_append, List.length_replicate,
    List.length_nil] at length
  omega

end Decimal.Positional

/-! ## Numbers in a template -/

namespace Directive

/-- The sign and the digits of what a directive shows of a number, groups apart. -/
inductive Numeral (d : Directive) : Char → Argument → List Char → Decimal.Positional → Prop
  | integer {conversion : Char} (decimal : conversion = 'd' ∨ conversion = 'i') (v : Int64) :
      d.Numeral conversion (.int v) (d.sign (v < 0)) ⟨Nat.toDigits 10 v.toInt.natAbs, []⟩
  | float {x : Float} {negative : Bool} {mantissa : Nat} {exponent : Int}
      (finite : Binary64.ofFloat x = .finite negative mantissa exponent) :
      d.Numeral 'f' (.float x) (d.sign (negative && mantissa != 0))
        (Decimal.fixed (.ofBinary mantissa exponent) d.places)

section Numeral

variable {d : Directive} {conversion : Char} {arg : Argument} {sign : List Char}
  {body : Decimal.Positional}

theorem Numeral.digits (numeral : d.Numeral conversion arg sign body) : body.Digits := by
  cases numeral with
  | integer decimal v => exact Decimal.Positional.digits_natural _
  | float finite => exact Decimal.Positional.digits_ofScaled _ _

theorem sign_mem (d : Directive) (negative : Bool) :
    d.sign negative ∈ [[], ['-'], ['+'], [' ']] := by
  simp only [Directive.sign]
  split
  · simp
  split
  · simp
  split <;> simp

theorem Numeral.sign_mem (numeral : d.Numeral conversion arg sign body) :
    sign ∈ [[], ['-'], ['+'], [' ']] := by
  cases numeral with
  | integer decimal v => exact d.sign_mem _
  | float finite => exact d.sign_mem _

/-- Groups are all that the flag for them decides. -/
theorem Numeral.group (numeral : d.Numeral conversion arg sign body) (group : Bool) :
    { d with group := group }.Numeral conversion arg sign body := by
  cases numeral with
  | integer decimal v => exact .integer decimal v
  | float finite => exact .float finite

theorem Numeral.field_eq (numeral : d.Numeral conversion arg sign body) :
    d.field conversion arg =
      .ok (d.pad sign { body with whole := d.grouped body.whole }.text) := by
  cases numeral with
  | integer decimal v => rcases decimal with rfl | rfl <;> rfl
  | float finite =>
    simp only [field, finite]
    rfl

/-- In a field without a width, the number stands with its groups, if they are asked for. -/
theorem Numeral.field_of_narrow (numeral : d.Numeral conversion arg sign body)
    (narrow : d.width = 0) :
    d.field conversion arg = .ok (sign ++ { body with whole := d.grouped body.whole }.text) := by
  rw [numeral.field_eq, pad_of_le (by omega)]

end Numeral

end Directive

namespace Template

namespace Spelling

/-- The same directive without the flag for groups. -/
def ungrouped (s : Spelling) : Spelling := { s with flags := s.flags.filter (· ≠ ',') }

variable {s : Spelling}

theorem layout_ungrouped (s : Spelling) :
    s.ungrouped.layout = { s.layout with group := false } := by
  simp [ungrouped, layout, ofFlags, List.contains_eq_mem]

theorem group_layout (flag : ',' ∈ s.flags) : { s.layout with group := true } = s.layout := by
  simp [layout, ofFlags, flag]

theorem Proper.ungrouped (proper : s.Proper) : s.ungrouped.Proper where
  flags := fun c member => proper.flags c (List.mem_of_mem_filter member)
  width := proper.width
  width_head := proper.width_head
  precision := proper.precision

end Spelling

section Render

variable {s : Spelling} {d : Directive} {conversion : Char} {arg : Argument} {sign a b : List Char}
  {body : Decimal.Positional}

theorem stopsAt_of_numeral (numeral : d.Numeral conversion arg sign body) (s : Spelling) :
    s.StopsAt conversion := by
  cases numeral with
  | integer decimal v => rcases decimal with rfl | rfl <;> exact stopsAt_integral s rfl
  | float finite => exact ⟨rfl, fun _ => ⟨by decide, fun _ => rfl⟩⟩

theorem consumes_of_numeral (numeral : d.Numeral conversion arg sign body) :
    consumes conversion = true := by
  cases numeral with
  | integer decimal v => rcases decimal with rfl | rfl <;> rfl
  | float finite => rfl

/-- A directive without a width shows the number in its place. -/
theorem render_numeral (proper : s.Proper) (within : ¬s.Oversize) (narrow : s.width = [])
    (numeral : s.layout.Numeral conversion arg sign body) (plain : '%' ∉ a) (plain' : '%' ∉ b) :
    render (String.ofList (a ++ '%' :: (s.text ++ conversion :: b))) arg =
      .ok (String.ofList
        (a ++ (sign ++ { body with whole := s.layout.grouped body.whole }.text) ++ b)) := by
  have width : s.layout.width = 0 := by
    simp [Spelling.layout, narrow, number]
  exact render_between plain plain' proper (stopsAt_of_numeral numeral s) within
    (consumes_of_numeral numeral) (numeral.field_of_narrow width)

end Render

/-- Commas cut digits into threes behind a first group of one to three, in the only way there is,
and stand at neither end. In a directive without a width, for an integer as well as for a finite
float, the flag for groups puts them between the digits before the point, and does nothing else. -/
theorem render_grouped :
    (∀ digits : List Char, digits ≠ [] → (∀ c ∈ digits, c.isDigit = true) →
      (∀ text, text = groupThousands digits ↔ Grouped digits text) ∧
      (groupThousands digits).head? ≠ some ',' ∧ (groupThousands digits).getLast? ≠ some ',') ∧
    ∀ s : Spelling, s.Proper → ¬s.Oversize → s.width = [] → ',' ∈ s.flags →
      ∀ conversion arg sign body, s.layout.Numeral conversion arg sign body →
        body.Digits ∧ sign ∈ [[], ['-'], ['+'], [' ']] ∧
        ∃ whole, Grouped body.whole whole ∧ ∀ a b, '%' ∉ a → '%' ∉ b →
          render (String.ofList (a ++ '%' :: (s.ungrouped.text ++ conversion :: b))) arg =
            .ok (String.ofList (a ++ (sign ++ body.text) ++ b)) ∧
          render (String.ofList (a ++ '%' :: (s.text ++ conversion :: b))) arg =
            .ok (String.ofList (a ++ (sign ++ { body with whole := whole }.text) ++ b)) := by
  have free : ∀ {digits : List Char}, (∀ c ∈ digits, c.isDigit = true) → ',' ∉ digits :=
    fun isDigit member => absurd (isDigit ',' member) (by decide)
  constructor
  · intro digits some isDigit
    refine ⟨fun text => eq_groupThousands_iff some (free isDigit), ?_, ?_⟩
    · rw [head?_groupThousands]
      exact fun first => free isDigit (List.mem_of_mem_head? first)
    · rw [getLast?_groupThousands]
      exact fun last => free isDigit (List.mem_of_getLast? last)
  · intro s proper within narrow flag conversion arg sign body numeral
    have digits := numeral.digits
    refine ⟨digits, numeral.sign_mem, groupThousands body.whole,
      (eq_groupThousands_iff digits.whole_ne_nil (free digits.whole)).mp rfl, ?_⟩
    intro a b plain plain'
    constructor
    · have numeral' := numeral.group false
      rw [← Spelling.layout_ungrouped] at numeral'
      have rendered := render_numeral proper.ungrouped within narrow numeral' plain plain'
      rw [Spelling.layout_ungrouped] at rendered
      exact rendered
    · have rendered := render_numeral proper within narrow numeral plain plain'
      rw [← Spelling.group_layout flag] at rendered
      exact rendered

/-- An integer of seven digits, whose sign is written anyway. -/
theorem render_grouped_below_zero :
    Grouped "1234567".toList "1,234,567".toList ∧
    render "at %+d W" (.int (-1234567)) = .ok "at -1234567 W" ∧
    render "at %+,d W" (.int (-1234567)) = .ok "at -1,234,567 W" := by
  obtain ⟨groups, renders⟩ := render_grouped
  have digits : "1234567".toList.all Char.isDigit = true := by decide
  obtain ⟨only, -⟩ := groups "1234567".toList (by simp) (List.all_eq_true.mp digits)
  have proper : (⟨['+', ','], [], none⟩ : Spelling).Proper :=
    ⟨by simp [isFlag], by simp, by decide, by simp⟩
  obtain ⟨-, -, whole, grouped, rendered⟩ :=
    renders ⟨['+', ','], [], none⟩ proper (by decide) rfl (by decide) 'd' (.int (-1234567)) _ _
      (.integer (.inl rfl) (-1234567))
  obtain rfl := (only whole).mpr grouped
  obtain ⟨plain, cut⟩ := rendered "at ".toList " W".toList (by decide) (by decide)
  exact ⟨(only _).mp (by decide), plain, cut⟩

end Template

end RemoteDevice
