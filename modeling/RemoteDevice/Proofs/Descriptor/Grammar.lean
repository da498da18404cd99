import RemoteDevice.Descriptor.Decoder
import RemoteDevice.Proofs.Decimal.Integer
import RemoteDevice.Proofs.Descriptor.Writable
import RemoteDevice.Proofs.Text.Blank
import RemoteDevice.Proofs.Text.Split

/-!
# The grammar of descriptors

A `Form` is a text taken apart, with its parts as they stand in it, and `Form.Spells` says which
forms are well-formed and what they stand for. The decoder reads exactly the texts of well-formed
forms.
-/
set_option autoImplicit false

namespace RemoteDevice.Descriptor

/-- The parts of a text `tag://user:password:name:host:port:psk`. -/
structure Form where
  tag : String
  user : String
  password : String
  name : String
  host : String
  port : String
  psk : String
deriving DecidableEq, Repr

/-- A non-empty run of decimal digits, leading zeros among them, with a value from 1 to 65535. -/
structure SpellsPort (digits : List Char) (port : UInt16) : Prop where
  some_digit : digits ≠ []
  digits_only : ∀ c ∈ digits, c.isDigit = true
  positive : 1 ≤ Nat.ofDigitChars 10 digits 0
  within : Nat.ofDigitChars 10 digits 0 ≤ 65535
  value : port.toNat = Nat.ofDigitChars 10 digits 0

namespace Form

def fields (f : Form) : List String := [f.user, f.password, f.name, f.host, f.port, f.psk]

def text (f : Form) : String := f.tag ++ "://" ++ String.intercalate ":" f.fields

/-- The form is well-formed and stands for the descriptor. -/
structure Spells (f : Form) (d : Descriptor) : Prop where
  tag_ne : f.tag ≠ ""
  alphanum : ∀ c ∈ f.tag.toList, c.isAlphanum = true
  free : ∀ field ∈ f.fields, ':' ∉ field.toList
  tag : d.tag = f.tag
  user : d.user = f.user
  password : d.password = f.password
  name : d.name = f.name
  host : ∃ core, Text.Trims f.host.toList core ∧
    d.host = if core = [] then "localhost" else String.ofList core
  port : ∃ core, Text.Trims f.port.toList core ∧ SpellsPort core d.port
  psk : d.psk = if f.psk = "" then none else some f.psk

theorem toList_text (f : Form) :
    f.text.toList =
      f.tag.toList ++ [':', '/', '/'] ++ [':'].intercalate (f.fields.map String.toList) := by
  simp [text]

end Form

/-! ## Port, host and key -/

theorem readPort_eq_ok_iff_digits {text : List Char} {port : UInt16} :
    readPort text = .ok port ↔
      (Text.trimChars text ≠ [] ∧ ∀ c ∈ Text.trimChars text, c.isDigit = true) ∧
        ∃ n, Decimal.readDigits 65535 .tooLarge 0 (Text.trimChars text) = .ok n ∧ n ≠ 0 ∧
          UInt16.ofNat n = port := by
  have refused : ((Text.trimChars text).isEmpty || !(Text.trimChars text).all Char.isDigit) = true ↔
      ¬(Text.trimChars text ≠ [] ∧ ∀ c ∈ Text.trimChars text, c.isDigit = true) := by
    simp only [Bool.or_eq_true, List.isEmpty_iff, Bool.not_eq_true', List.all_eq_false]
    grind
  rw [readPort]
  by_cases digits : Text.trimChars text ≠ [] ∧ ∀ c ∈ Text.trimChars text, c.isDigit = true
  · rw [if_neg (refused.not.mpr (not_not.mpr digits)), and_iff_right digits]
    cases Decimal.readDigits 65535 .tooLarge 0 (Text.trimChars text) with
    | error e => simp
    | ok n => by_cases zero : n = 0 <;> simp [zero]
  · rw [if_pos (refused.mpr digits)]
    constructor
    · intro read
      cases read
    · rintro ⟨given, -⟩
      exact absurd given digits

theorem readPort_eq_ok_iff {text : List Char} {port : UInt16} :
    readPort text = .ok port ↔ ∃ core, Text.Trims text core ∧ SpellsPort core port := by
  rw [readPort_eq_ok_iff_digits]
  simp only [Decimal.readDigits_eq_ok_iff (Nat.zero_le 65535)]
  constructor
  · rintro ⟨⟨some_digit, digits_only⟩, n, ⟨-, rfl, within⟩, nonzero, rfl⟩
    exact ⟨Text.trimChars text, Text.trims_trimChars text, some_digit, digits_only,
      Nat.one_le_iff_ne_zero.mpr nonzero, within,
      UInt16.toNat_ofNat_of_lt (Nat.lt_succ_of_le within)⟩
  · rintro ⟨core, trims, spells⟩
    rw [trims.eq, ← spells.value]
    have positive := spells.positive
    rw [← spells.value] at positive
    exact ⟨⟨spells.some_digit, spells.digits_only⟩, port.toNat,
      ⟨spells.digits_only, rfl, spells.value ▸ spells.within⟩, by omega, UInt16.ofNat_toNat⟩

theorem readHost_eq_iff {text : List Char} {host : String} :
    readHost text = host ↔
      ∃ core, Text.Trims text core ∧
        host = if core = [] then "localhost" else String.ofList core := by
  simp only [← Text.trimChars_eq_iff, exists_eq_left', readHost, localHost, List.isEmpty_iff]
  exact eq_comm

theorem storedPsk_eq (key : String) : storedPsk key = if key = "" then none else some key := by
  simp [storedPsk]

/-! ## The whole text -/

theorem ofFields_eq_ok_iff {tag : String} {fields : List (List Char)} {d : Descriptor} :
    ofFields tag fields = .ok d ↔
      ∃ user password name host port psk,
        fields = [user, password, name, host, port, psk] ∧ readPort port = .ok d.port ∧
          d = { tag, port := d.port, user := String.ofList user,
                password := String.ofList password, name := String.ofList name,
                host := readHost host, psk := storedPsk (String.ofList psk) } := by
  constructor
  · intro read
    unfold ofFields at read
    split at read
    next user password name host port psk =>
      cases portRead : readPort port with
      | error e =>
        rw [portRead] at read
        cases read
      | ok value =>
        rw [portRead] at read
        cases read
        exact ⟨user, password, name, host, port, psk, rfl, portRead, rfl⟩
    next => cases read
  · rintro ⟨user, password, name, host, port, psk, rfl, portRead, same⟩
    rw [ofFields, portRead, same]
    rfl

theorem decode_eq_ok_iff_fields {text : String} {d : Descriptor} :
    decode text = .ok d ↔
      ∃ tag rest, text.toList = tag ++ [':', '/', '/'] ++ rest ∧
        (String.ofList tag ≠ "" ∧ ∀ c ∈ tag, c.isAlphanum = true) ∧
          ofFields (String.ofList tag) (Text.split ':' rest) = .ok d := by
  constructor
  · intro read
    rw [decode] at read
    cases cut : Text.cutAt [':', '/', '/'] text.toList with
    | none =>
      rw [cut] at read
      cases read
    | some halves =>
      obtain ⟨tag, rest⟩ := halves
      rw [cut] at read
      cases checked : checkTag (String.ofList tag) with
      | error e =>
        simp only [checked] at read
        cases read
      | ok done =>
        simp only [checked] at read
        have proper := checkTag_eq_ok_iff.mp checked
        rw [String.toList_ofList] at proper
        exact ⟨tag, rest, Text.append_of_cutAt cut, proper, read⟩
  · rintro ⟨tag, rest, whole, proper, read⟩
    have absent : ':' ∉ tag := fun member => Bool.noConfusion (proper.2 ':' member)
    have cut := (Text.cutAt_eq_some_iff absent).mpr whole
    have checked : checkTag (String.ofList tag) = .ok () := by
      rw [checkTag_eq_ok_iff, String.toList_ofList]
      exact proper
    simp only [decode, cut, checked, read]

theorem decode_eq_ok_iff {text : String} {d : Descriptor} :
    decode text = .ok d ↔ ∃ f : Form, f.text = text ∧ f.Spells d := by
  rw [decode_eq_ok_iff_fields]
  constructor
  · rintro ⟨tag, rest, whole, ⟨tag_ne, alphanum⟩, read⟩
    obtain ⟨user, password, name, host, port, psk, fields, portRead, same⟩ :=
      ofFields_eq_ok_iff.mp read
    obtain ⟨joined, -, free⟩ := Text.split_eq_iff.mp fields
    refine ⟨⟨String.ofList tag, String.ofList user, String.ofList password, String.ofList name,
      String.ofList host, String.ofList port, String.ofList psk⟩, ?_, ?_⟩
    · rw [← String.toList_inj, Form.toList_text, whole, ← joined]
      simp [Form.fields]
    · exact {
        tag_ne
        alphanum := by simpa using alphanum
        free := by simpa [Form.fields] using free
        tag := by rw [same]
        user := by rw [same]
        password := by rw [same]
        name := by rw [same]
        host := by
          rw [String.toList_ofList]
          exact readHost_eq_iff.mp (by rw [same])
        port := by
          rw [String.toList_ofList]
          exact readPort_eq_ok_iff.mp portRead
        psk := by rw [same, storedPsk_eq] }
  · rintro ⟨f, rfl, h⟩
    have fields : Text.split ':' ([':'].intercalate (f.fields.map String.toList)) =
        f.fields.map String.toList := by
      refine Text.split_intercalate ?_ (by simp [Form.fields])
      intro field member
      obtain ⟨given, among, rfl⟩ := List.mem_map.mp member
      exact h.free given among
    refine ⟨f.tag.toList, _, f.toList_text, ⟨by simpa using h.tag_ne, h.alphanum⟩, ?_⟩
    rw [fields, String.ofList_toList, ofFields_eq_ok_iff]
    refine ⟨_, _, _, _, _, _, rfl, readPort_eq_ok_iff.mpr h.port, ?_⟩
    rw [readHost_eq_iff.mpr h.host]
    simp only [String.ofList_toList, storedPsk_eq, ← h.tag, ← h.user, ← h.password, ← h.name,
      ← h.psk]

theorem decodeAs_eq_ok_iff {tag text : String} {d : Descriptor} :
    decodeAs tag text = .ok d ↔ decode text = .ok d ∧ d.tag = tag := by
  rw [decodeAs]
  cases decode text with
  | error e => simp [bind, Except.bind]
  | ok found =>
    by_cases same : found.tag = tag
    · simp only [bind, Except.bind, if_pos same, pure, Except.pure, Except.ok.injEq]
      constructor
      · rintro rfl
        exact ⟨rfl, same⟩
      · exact And.left
    · simp only [bind, Except.bind, if_neg same, throw, throwThe, MonadExceptOf.throw,
        Except.ok.injEq]
      constructor
      · intro read
        cases read
      · rintro ⟨rfl, other⟩
        exact absurd other same

/-- A text is read as a descriptor exactly if it is the text of a form that spells it; every other
text is refused as malformed. Reading for a given tag asks for that tag besides. -/
theorem decode_iff_spelled (text : String) :
    (∀ d, decode text = .ok d ↔ ∃ f : Form, f.text = text ∧ f.Spells d) ∧
      ((¬∃ d, ∃ f : Form, f.text = text ∧ f.Spells d) → ∃ e : FormatError, decode text = .error e) ∧
        ∀ tag d, decodeAs tag text = .ok d ↔ decode text = .ok d ∧ d.tag = tag := by
  refine ⟨fun d => decode_eq_ok_iff, ?_, fun tag d => decodeAs_eq_ok_iff⟩
  intro unspelled
  cases read : decode text with
  | error e => exact ⟨e, rfl⟩
  | ok d => exact absurd ⟨d, decode_eq_ok_iff.mp read⟩ unspelled

end RemoteDevice.Descriptor
