import RemoteDevice.Descriptor.Decoder
import RemoteDevice.Proofs.Decimal.Integer
import RemoteDevice.Proofs.Descriptor.Writable
import RemoteDevice.Proofs.Text.Blank
import RemoteDevice.Proofs.Text.Split

/-!
# Reading back what was written

A written descriptor is read back as it was, but for an empty key, which is no key.
-/
set_option autoImplicit false

namespace RemoteDevice.Descriptor

/-! ## Port and host -/

theorem readPort_toDigits {port : UInt16} (nonzero : port ≠ 0) :
    readPort (Nat.toDigits 10 port.toNat) = .ok port := by
  have digits : ∀ c ∈ Nat.toDigits 10 port.toNat, c.isDigit = true :=
    fun c member => Nat.isDigit_of_mem_toDigits (by omega) (by omega) member
  have trimmed : Text.trimChars (Nat.toDigits 10 port.toNat) = Nat.toDigits 10 port.toNat :=
    Text.trimChars_of_unblank fun c member => Text.isBlank_of_isDigit (digits c member)
  have within : port.toNat ≤ 65535 := by
    have bound := port.toNat_lt
    omega
  have positive : port.toNat ≠ 0 := fun zero => nonzero (UInt16.toNat_inj.mp zero)
  have accepted : ((Nat.toDigits 10 port.toNat).isEmpty ||
      !(Nat.toDigits 10 port.toNat).all Char.isDigit) = false := by
    simpa [Nat.toDigits_ne_nil] using digits
  simp only [readPort, trimmed, accepted, Decimal.readDigits_toDigits .tooLarge within]
  simp [positive]

theorem readHost_toList {host : String} (nonempty : host ≠ "") (trimmed : Text.trim host = host) :
    readHost host.toList = host := by
  have same : Text.trimChars host.toList = host.toList := by
    rw [← Text.toList_trim, trimmed]
  simp [readHost, same, nonempty]

/-! ## The whole text -/

theorem toList_print (d : Descriptor) :
    d.print.toList =
      d.tag.toList ++ [':', '/', '/'] ++ [':'].intercalate (d.fields.map String.toList) := by
  simp [print]

theorem Writable.delimiter_not_mem_tag {d : Descriptor} (h : d.Writable) : ':' ∉ d.tag.toList := by
  intro member
  have letter := h.alphanum ':' member
  cases letter

theorem Writable.delimiter_not_mem_fields {d : Descriptor} (h : d.Writable) :
    ∀ field ∈ d.fields.map String.toList, ':' ∉ field := by
  intro field member delimiter
  obtain ⟨text, among, rfl⟩ := List.mem_map.mp member
  have cases : text ∈ [d.user, d.password, d.name, d.host, d.psk.getD ""] ∨
      text = toString d.port.toNat := by
    simp only [fields, List.mem_cons] at among ⊢
    grind
  rcases cases with plain | rfl
  · exact (h.plain text plain ':' delimiter).1 rfl
  · rw [Nat.toString_eq_repr, Nat.toList_repr] at delimiter
    have digit : ':'.isDigit = true := Nat.isDigit_of_mem_toDigits (by omega) (by omega) delimiter
    cases digit

theorem decode_print {d : Descriptor} (h : d.Writable) : decode d.print = .ok d.normal := by
  have cut : Text.cutAt [':', '/', '/'] d.print.toList =
      some (d.tag.toList, [':'].intercalate (d.fields.map String.toList)) := by
    rw [toList_print, Text.cutAt_append h.delimiter_not_mem_tag]
  have tag : checkTag d.tag = .ok () := checkTag_eq_ok_iff.mpr ⟨h.tag_ne, h.alphanum⟩
  have fields : Text.split ':' ([':'].intercalate (d.fields.map String.toList)) =
      d.fields.map String.toList :=
    Text.split_intercalate h.delimiter_not_mem_fields (by simp [Descriptor.fields])
  have port : readPort (toString d.port.toNat).toList = .ok d.port := by
    rw [Nat.toString_eq_repr, Nat.toList_repr, readPort_toDigits h.port_ne]
  have host : readHost d.host.toList = d.host := readHost_toList h.host_ne h.host_trimmed
  have psk : storedPsk (d.psk.getD "") = d.psk.bind storedPsk := by
    cases d.psk <;> rfl
  simp only [decode, cut, String.ofList_toList, tag, fields]
  simp only [Descriptor.fields, List.map_cons, List.map_nil, ofFields, port, host, psk,
    String.ofList_toList]
  rfl

/-! ## Empty keys -/

theorem psk_normal (d : Descriptor) : d.normal.psk.getD "" = d.psk.getD "" := by
  rw [normal]
  cases d.psk with
  | none => rfl
  | some key =>
    by_cases empty : key = ""
    · simp [storedPsk, empty]
    · simp [storedPsk, empty]

theorem print_normal (d : Descriptor) : d.normal.print = d.print := by
  rw [print, print, Descriptor.fields, Descriptor.fields, psk_normal]
  rfl

theorem Writable.normal {d : Descriptor} (h : d.Writable) : d.normal.Writable where
  tag_ne := h.tag_ne
  alphanum := h.alphanum
  port_ne := h.port_ne
  plain := by
    rw [psk_normal]
    exact h.plain
  host_ne := h.host_ne
  host_trimmed := h.host_trimmed

theorem decodeAs_of_decode {text : String} {d : Descriptor} (read : decode text = .ok d) :
    decodeAs d.tag text = .ok d := by
  rw [decodeAs, read]
  simp only [bind, Except.bind, if_true]
  rfl

/-- What was written is read back, by readers of any tag and of this tag, as the descriptor with an
empty key as no key, and this one is written in the same way. Hence a text was written for one
descriptor only, up to an empty key. -/
theorem decode_of_encode {d : Descriptor} {text : String} (written : d.encode = .ok text) :
    decode text = .ok d.normal ∧ decodeAs d.tag text = .ok d.normal ∧
      d.normal.encode = .ok text ∧
      ∀ other : Descriptor, other.encode = .ok text → other.normal = d.normal := by
  obtain ⟨h, rfl⟩ := encode_eq_ok_iff.mp written
  have read := decode_print h
  refine ⟨read, decodeAs_of_decode read, ?_, ?_⟩
  · exact encode_eq_ok_iff.mpr ⟨h.normal, print_normal d⟩
  · intro other same
    obtain ⟨h', printed⟩ := encode_eq_ok_iff.mp same
    have read' := decode_print h'
    rw [printed, read] at read'
    exact (Except.ok.inj read').symm

/-- A name with slashes in front and a host beyond ASCII come back, an empty key does not. -/
theorem decode_of_encode_empty_key :
    { tcp "//a b" "gärten.lan" 65535 with psk := some "" }.encode =
        .ok "tcpip://:://a b:gärten.lan:65535:" ∧
      decode "tcpip://:://a b:gärten.lan:65535:" = .ok (tcp "//a b" "gärten.lan" 65535) := by
  have written : { tcp "//a b" "gärten.lan" 65535 with psk := some "" }.encode =
      .ok "tcpip://:://a b:gärten.lan:65535:" := rfl
  exact ⟨written, (decode_of_encode written).1⟩

end RemoteDevice.Descriptor
