import RemoteDevice.Proofs.Descriptor.Grammar
import RemoteDevice.Proofs.Outcome
import RemoteDevice.Proofs.Registry.Reconstruction

/-!
# Catalogues that read descriptors

A constructor that `Reads` descriptors looks at a payload only through the descriptor in it, keeps
that descriptor, and makes devices of one type. Both known kinds of constructors do, so a catalogue
that was filled with them under the names of their types is `Faithful`.
-/
set_option autoImplicit false

namespace RemoteDevice

theorem Descriptor.decodeAs_congr {tag p q : String} {d : Descriptor} (left : decode p = .ok d)
    (right : decode q = .ok d) : decodeAs tag p = decodeAs tag q := by
  rw [decodeAs, decodeAs, left, right]

/-! ## Constructors -/

/-- The constructor makes devices of the type out of the descriptors in payloads. -/
structure Constructor.Reads (make : Constructor) (typeName : String) : Prop where
  typeName_eq : ∀ {payload b}, make payload = .ok b → b.typeName = typeName
  decoded : ∀ {payload b}, make payload = .ok b → Descriptor.decode payload = .ok b.descriptor
  congr : ∀ {p q d}, Descriptor.decode p = .ok d → Descriptor.decode q = .ok d → make p = make q

theorem Blueprint.ofPayload_eq_ok_iff {payload : String} {medium : Medium} {b : Blueprint} :
    ofPayload payload medium = .ok b ↔
      ∃ d, Descriptor.decodeAs Descriptor.tcpTag payload = .ok d ∧ tcp d medium = b := by
  rw [ofPayload, map_eq_ok_iff]

theorem Constructor.reads_tcp (medium : Medium) : (tcp medium).Reads tcpTypeName where
  typeName_eq := by
    intro payload b made
    rw [tcp, mapError_eq_ok_iff, Blueprint.ofPayload_eq_ok_iff] at made
    obtain ⟨d, -, rfl⟩ := made
    rfl
  decoded := by
    intro payload b made
    rw [tcp, mapError_eq_ok_iff, Blueprint.ofPayload_eq_ok_iff] at made
    obtain ⟨d, read, rfl⟩ := made
    exact (Descriptor.decodeAs_eq_ok_iff.mp read).1
  congr := by
    intro p q d left right
    rw [tcp, tcp, Blueprint.ofPayload, Blueprint.ofPayload, Descriptor.decodeAs_congr left right]

theorem Constructor.reads_mock (typeName : String) (tag : Option String) :
    (mock typeName tag).Reads typeName where
  typeName_eq := by
    intro payload b made
    simp only [mock, mapError_eq_ok_iff, map_eq_ok_iff] at made
    obtain ⟨d, -, rfl⟩ := made
    rfl
  decoded := by
    intro payload b made
    simp only [mock, mapError_eq_ok_iff, map_eq_ok_iff] at made
    obtain ⟨d, read, rfl⟩ := made
    cases tag with
    | none => exact read
    | some tag => exact (Descriptor.decodeAs_eq_ok_iff.mp read).1
  congr := by
    intro p q d left right
    cases tag with
    | none => simp only [mock, left, right]
    | some tag => simp only [mock, Descriptor.decodeAs_congr left right]

namespace Catalogue

/-! ## Catalogues -/

/-- Every type is registered with a constructor that reads descriptors and makes devices of it. -/
def Faithful (c : Catalogue) : Prop :=
  ∀ typeName make, c.get? typeName = some make → make.Reads typeName

theorem faithful_empty : (∅ : Catalogue).Faithful := by
  intro typeName make known
  cases known

theorem Faithful.register {c : Catalogue} (faithful : c.Faithful) {typeName : String}
    {make : Constructor} (reads : make.Reads typeName) : (c.register typeName make).Faithful := by
  intro other found known
  rw [get?_register] at known
  by_cases same : other = typeName
  · rw [if_pos same, Option.some.injEq] at known
    rw [← known, same]
    exact reads
  · rw [if_neg same] at known
    exact faithful other found known

theorem faithful_standard (medium : Medium) : (standard medium).Faithful :=
  faithful_empty.register (Constructor.reads_tcp medium)

theorem construct_eq_ok_iff {c : Catalogue} {e : Entry} {hub : Hub} {made : Device × Hub} :
    c.construct e hub = .ok made ↔
      ∃ make b, c.get? e.typeName = some make ∧ make e.payload = .ok b ∧
        Device.create b hub = made := by
  rw [construct, blueprint]
  cases c.get? e.typeName with
  | none => simp
  | some make => cases blueprint : make e.payload <;> simp [blueprint]

theorem reconstruct_singleton {c : Catalogue} {e : Entry} {hub : Hub} {made : Device × Hub}
    (built : c.construct e hub = .ok made) : c.reconstruct hub [e] = ([made.1], made.2) := by
  simp only [reconstruct, built]

/-- A device that was made again was made from one of the entries. -/
theorem mem_reconstruct {c : Catalogue} {hub : Hub} {entries : List Entry} {device : Device}
    (member : device ∈ (c.reconstruct hub entries).1) :
    ∃ e ∈ entries, ∃ before after, c.construct e before = .ok (device, after) := by
  rw [reconstruct_eq] at member
  obtain ⟨b, from_entries, taken, rfl⟩ := mem_number member
  obtain ⟨e, among, given⟩ := List.mem_filterMap.mp from_entries
  have built : c.blueprint e = .ok b := toOption_eq_some_iff.mp given
  refine ⟨e, among, { sessions := taken }, (Device.create b { sessions := taken }).2, ?_⟩
  rw [construct, built]
  rfl

end Catalogue

end RemoteDevice
