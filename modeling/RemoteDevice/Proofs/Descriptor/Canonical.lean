import RemoteDevice.Proofs.Descriptor.Grammar
import RemoteDevice.Proofs.Descriptor.RoundTrip

/-!
# Writing what was read

A line break may stand in a text that is read but in none that is written. Up to that, every
descriptor that was read can be written, and what is written is read as the same descriptor.
-/
set_option autoImplicit false

namespace RemoteDevice.Descriptor

/-! ## Line breaks -/

def isBroken (entry : DescriptorField × String) : Bool := entry.2.toList.any isLineBreak

/-- The first field with a line break, in the order of the checks. -/
def brokenField? (d : Descriptor) : Option DescriptorField := (d.texts.find? isBroken).map Prod.fst

/-- No text of the descriptor has a line break. -/
def Unbroken (d : Descriptor) : Prop :=
  ∀ text ∈ [d.user, d.password, d.name, d.host, d.psk.getD ""],
    '\n' ∉ text.toList ∧ '\r' ∉ text.toList

instance (d : Descriptor) : Decidable d.Unbroken :=
  inferInstanceAs (Decidable (∀ text ∈ [d.user, d.password, d.name, d.host, d.psk.getD ""],
    '\n' ∉ text.toList ∧ '\r' ∉ text.toList))

theorem isBroken_eq_false_iff {entry : DescriptorField × String} :
    isBroken entry = false ↔ '\n' ∉ entry.2.toList ∧ '\r' ∉ entry.2.toList := by
  rw [isBroken, ← Bool.not_eq_true, any_isLineBreak_iff, not_or]

theorem brokenField?_eq_none_iff {d : Descriptor} : d.brokenField? = none ↔ d.Unbroken := by
  simp only [brokenField?, Option.map_eq_none_iff, List.find?_eq_none, Bool.not_eq_true,
    isBroken_eq_false_iff, texts, Unbroken, List.forall_mem_cons]
  simp

/-! ## What reading ensures -/

/-- What a descriptor that was read has of a writable one: all but the absence of line breaks. -/
structure Readable (d : Descriptor) : Prop where
  tag_ne : d.tag ≠ ""
  alphanum : ∀ c ∈ d.tag.toList, c.isAlphanum = true
  port_ne : d.port ≠ 0
  free : ∀ entry ∈ d.texts, ':' ∉ entry.2.toList
  host_ne : d.host ≠ ""
  host_trimmed : Text.trim d.host = d.host
  psk_ne : d.psk ≠ some ""

theorem SpellsPort.port_ne {digits : List Char} {port : UInt16} (h : SpellsPort digits port) :
    port ≠ 0 := by
  rintro rfl
  have positive := h.positive
  rw [← h.value] at positive
  exact absurd positive (by decide)

theorem Form.Spells.host_ne {f : Form} {d : Descriptor} (h : f.Spells d) : d.host ≠ "" := by
  obtain ⟨core, -, host⟩ := h.host
  rw [host]
  by_cases empty : core = []
  · rw [if_pos empty]
    decide
  · rw [if_neg empty]
    simpa using empty

theorem Form.Spells.host_trimmed {f : Form} {d : Descriptor} (h : f.Spells d) :
    Text.trim d.host = d.host := by
  obtain ⟨core, trims, host⟩ := h.host
  rw [host]
  by_cases empty : core = []
  · rw [if_pos empty]
    decide
  · rw [if_neg empty, Text.trim, String.toList_ofList, trims.self.eq]

theorem Form.Spells.host_free {f : Form} {d : Descriptor} (h : f.Spells d) :
    ':' ∉ d.host.toList := by
  obtain ⟨core, trims, host⟩ := h.host
  rw [host]
  by_cases empty : core = []
  · rw [if_pos empty]
    decide
  · rw [if_neg empty, String.toList_ofList]
    intro member
    exact h.free f.host (by simp [Form.fields]) (trims.subset member)

theorem Form.Spells.psk_getD {f : Form} {d : Descriptor} (h : f.Spells d) :
    d.psk.getD "" = f.psk := by
  rw [h.psk]
  by_cases empty : f.psk = "" <;> simp [empty]

theorem Form.Spells.readable {f : Form} {d : Descriptor} (h : f.Spells d) : d.Readable where
  tag_ne := h.tag ▸ h.tag_ne
  alphanum := h.tag ▸ h.alphanum
  port_ne := by
    obtain ⟨core, -, spells⟩ := h.port
    exact spells.port_ne
  free := by
    have fields := h.free
    simp only [Form.fields, List.forall_mem_cons] at fields
    obtain ⟨user, password, name, -, -, psk, -⟩ := fields
    simp only [texts, List.forall_mem_cons, h.user, h.password, h.name, h.psk_getD]
    exact ⟨user, password, name, h.host_free, psk, by simp⟩
  host_ne := h.host_ne
  host_trimmed := h.host_trimmed
  psk_ne := by
    rw [h.psk]
    by_cases empty : f.psk = "" <;> simp [empty]

theorem readable_of_decode {text : String} {d : Descriptor} (read : decode text = .ok d) :
    d.Readable := by
  obtain ⟨f, -, h⟩ := decode_eq_ok_iff.mp read
  exact h.readable

/-! ## Writing -/

theorem Readable.normal_eq {d : Descriptor} (h : d.Readable) : d.normal = d := by
  have psk : d.psk.bind storedPsk = d.psk := by
    cases key : d.psk with
    | none => rfl
    | some text =>
      have nonempty : text ≠ "" := fun empty => h.psk_ne (by rw [key, empty])
      simp [storedPsk, nonempty]
  rw [normal, psk]

theorem Readable.writable {d : Descriptor} (h : d.Readable) (unbroken : d.Unbroken) :
    d.Writable where
  tag_ne := h.tag_ne
  alphanum := h.alphanum
  port_ne := h.port_ne
  plain := by
    have free : ∀ text ∈ [d.user, d.password, d.name, d.host, d.psk.getD ""],
        ':' ∉ text.toList := by
      have entries := h.free
      simpa [texts] using entries
    intro text among c member
    refine ⟨?_, ?_, ?_⟩
    · rintro rfl
      exact free text among member
    · rintro rfl
      exact (unbroken text among).1 member
    · rintro rfl
      exact (unbroken text among).2 member
  host_ne := h.host_ne
  host_trimmed := h.host_trimmed

theorem Readable.encode_of_broken {d : Descriptor} (h : d.Readable) {field : DescriptorField}
    (broken : d.brokenField? = some field) : d.encode = .error ⟨field, .lineBreak⟩ := by
  obtain ⟨entry, found, rfl⟩ := Option.map_eq_some_iff.mp broken
  have checks : ∀ entry ∈ d.texts, checkText entry.1 entry.2 =
      if isBroken entry then .error ⟨entry.1, .lineBreak⟩ else .ok () := by
    intro entry among
    have free : entry.2.toList.contains ':' = false := by simpa using h.free entry among
    rw [checkText, free]
    rfl
  have tag : checkTag d.tag = .ok () := checkTag_eq_ok_iff.mpr ⟨h.tag_ne, h.alphanum⟩
  have port : checkPort d.port = .ok () := checkPort_eq_ok_iff.mpr h.port_ne
  have texts := forM_of_find? checks found
  rw [encode, check, tag, port]
  simp only [bind, Except.bind, texts]

/-- A descriptor that was read is written unless it has a line break, and reading what was written
gives the same descriptor. Otherwise the first field with a line break is named. -/
theorem encode_of_decode {text : String} {d : Descriptor} (read : decode text = .ok d) :
    (d.Unbroken → ∃ form, d.encode = .ok form ∧ decode form = .ok d) ∧
      (¬d.Unbroken → ∃ field, d.brokenField? = some field ∧
        d.encode = .error ⟨field, .lineBreak⟩) := by
  have readable := readable_of_decode read
  constructor
  · intro unbroken
    have writable := readable.writable unbroken
    refine ⟨d.print, encode_eq_ok_iff.mpr ⟨writable, rfl⟩, ?_⟩
    rw [decode_print writable, readable.normal_eq]
  · intro broken
    have some_field := Option.ne_none_iff_exists'.mp (brokenField?_eq_none_iff.not.mpr broken)
    obtain ⟨field, first⟩ := some_field
    exact ⟨field, first, readable.encode_of_broken first⟩

end RemoteDevice.Descriptor
