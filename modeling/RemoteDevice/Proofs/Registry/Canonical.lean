import RemoteDevice.Proofs.Descriptor.Canonical
import RemoteDevice.Proofs.Registry.Faithful
import RemoteDevice.Registry.Basic

/-!
# Putting devices back into a registry

A device that was made from a stored payload can be stored again under a payload in canonical form,
which is read as the same descriptor and is not changed by storing once more. Only a line break in a
field keeps a device out.
-/
set_option autoImplicit false

namespace RemoteDevice.Catalogue

/-- The device is stored again under a payload of which the same device is made. -/
structure Readmits (c : Catalogue) (device : Device) (form : String) : Prop where
  serialized : device.serialize = .ok form
  added : ∀ r : Registry, r.addDevice device = .ok (r.insert ⟨device.typeName, form⟩)
  decoded : Descriptor.decode form = .ok device.descriptor
  rebuilt : ∀ hub, ∃ again, (c.reconstruct hub [⟨device.typeName, form⟩]).1 = [again] ∧
    again.typeName = device.typeName ∧ again.descriptor = device.descriptor ∧
      again.serialize = .ok form

/-- What comes of storing a device again. -/
structure Resumes (c : Catalogue) (device : Device) : Prop where
  readmitted : device.descriptor.Unbroken → ∃ form, c.Readmits device form
  refused : ¬device.descriptor.Unbroken → ∃ field, device.descriptor.brokenField? = some field ∧
    ∀ r : Registry, r.addDevice device = .error ⟨field, .lineBreak⟩

theorem addDevice_of_serialize {device : Device} {form : String}
    (serialized : device.serialize = .ok form) (r : Registry) :
    r.addDevice device = .ok (r.insert ⟨device.typeName, form⟩) := by
  rw [Registry.addDevice, serialized]
  rfl

theorem Faithful.resumes_of_construct {c : Catalogue} (faithful : c.Faithful) {e : Entry}
    {hub next : Hub} {device : Device} (built : c.construct e hub = .ok (device, next)) :
    c.Resumes device := by
  obtain ⟨make, b, known, made, create⟩ := construct_eq_ok_iff.mp built
  have same : (Device.create b hub).1 = device := congrArg Prod.fst create
  subst same
  have reads := faithful e.typeName make known
  have decoded := reads.decoded made
  obtain ⟨written, refused⟩ := Descriptor.encode_of_decode decoded
  constructor
  · intro unbroken
    obtain ⟨form, encoded, back⟩ := written unbroken
    refine ⟨form, encoded, addDevice_of_serialize encoded, back, ?_⟩
    intro hub'
    have named : b.typeName = e.typeName := reads.typeName_eq made
    -- the constructor cannot tell the two payloads apart
    have again : make form = .ok b := (reads.congr back decoded).trans made
    have rebuilt : c.construct ⟨b.typeName, form⟩ hub' = .ok (Device.create b hub') :=
      construct_eq_ok_iff.mpr ⟨make, b, named ▸ known, again, rfl⟩
    refine ⟨(Device.create b hub').1, ?_, rfl, rfl, encoded⟩
    exact congrArg Prod.fst (reconstruct_singleton rebuilt)
  · intro broken
    obtain ⟨field, first, fault⟩ := refused broken
    refine ⟨field, first, fun r => ?_⟩
    rw [Registry.addDevice, Device.serialize]
    have same : (Device.create b hub).1.descriptor = b.descriptor := rfl
    rw [same, fault]
    rfl

/-- Devices made by `ofPayload` are those that the standard types make. -/
theorem construct_of_payload {payload : String} {medium : Medium} {b : Blueprint}
    (made : Blueprint.ofPayload payload medium = .ok b) (hub : Hub) :
    (standard medium).construct ⟨tcpTypeName, payload⟩ hub = .ok (Device.create b hub) := by
  refine construct_eq_ok_iff.mpr ⟨Constructor.tcp medium, b, ?_, ?_, rfl⟩
  · rw [standard, get?_register, if_pos rfl]
  · rw [Constructor.tcp, mapError_eq_ok_iff]
    exact made

/-- What was read can be written unless a field has a line break, and then reading and writing once
more changes nothing. So a device made from a payload can be stored again in canonical form, whether
it was made alone or with the devices of all entries. -/
theorem Faithful.canonical {c : Catalogue} (faithful : c.Faithful) :
    (∀ text d, Descriptor.decode text = .ok d →
      (d.Unbroken → ∃ form, d.encode = .ok form ∧ Descriptor.decode form = .ok d) ∧
        (¬d.Unbroken → ∃ field, d.brokenField? = some field ∧
          d.encode = .error ⟨field, .lineBreak⟩)) ∧
      (∀ hub entries, ∀ device ∈ (c.reconstruct hub entries).1, c.Resumes device) ∧
        ∀ medium hub payload b, Blueprint.ofPayload payload medium = .ok b →
          (standard medium).Resumes (Device.create b hub).1 := by
  refine ⟨fun text d => Descriptor.encode_of_decode, ?_, ?_⟩
  · intro hub entries device member
    obtain ⟨e, -, before, after, built⟩ := mem_reconstruct member
    exact faithful.resumes_of_construct built
  · intro medium hub payload b made
    exact (faithful_standard medium).resumes_of_construct (construct_of_payload made hub)

/-- Blanks around the host, a leading zero and an empty host are gone after one step. -/
theorem canonical_padded :
    (standard {}).Faithful ∧
      Descriptor.decode "tcpip://a:b://c: \t:0080 :" =
        .ok { Descriptor.tcp "//c" "localhost" 80 with user := "a", password := "b" } ∧
      ∃ form, { Descriptor.tcp "//c" "localhost" 80 with user := "a", password := "b" }.encode =
          .ok form ∧
        Descriptor.decode form =
          .ok { Descriptor.tcp "//c" "localhost" 80 with user := "a", password := "b" } := by
  have read : Descriptor.decode "tcpip://a:b://c: \t:0080 :" =
      .ok { Descriptor.tcp "//c" "localhost" 80 with user := "a", password := "b" } := by decide
  have faithful := faithful_standard {}
  exact ⟨faithful, read, (faithful.canonical.1 _ _ read).1 (by decide)⟩

/-- A user name of two lines is read and cannot be written. -/
theorem two_lines_not_encoded :
    Descriptor.decode "tcpip://a\nb:::h:1:" =
        .ok { Descriptor.tcp "" "h" 1 with user := "a\nb" } ∧
      ¬∃ form, { Descriptor.tcp "" "h" 1 with user := "a\nb" }.encode = .ok form := by
  refine ⟨by decide, ?_⟩
  rintro ⟨form, written⟩
  have refused : { Descriptor.tcp "" "h" 1 with user := "a\nb" }.encode =
      .error ⟨.user, .lineBreak⟩ := by decide
  rw [refused] at written
  cases written

end RemoteDevice.Catalogue
