import RemoteDevice.Descriptor.Encoder
import RemoteDevice.Proofs.Outcome

/-!
# Which descriptors can be written

`Writable` says it of the fields alone; `encode` writes exactly these descriptors.
-/
set_option autoImplicit false

namespace RemoteDevice.Descriptor

structure Writable (d : Descriptor) : Prop where
  tag_ne : d.tag ≠ ""
  alphanum : ∀ c ∈ d.tag.toList, c.isAlphanum = true
  port_ne : d.port ≠ 0
  /-- No text holds the delimiter or a line break. -/
  plain : ∀ text ∈ [d.user, d.password, d.name, d.host, d.psk.getD ""],
    ∀ c ∈ text.toList, c ≠ ':' ∧ c ≠ '\n' ∧ c ≠ '\r'
  host_ne : d.host ≠ ""
  host_trimmed : Text.trim d.host = d.host

theorem isTag_iff {tag : String} :
    isTag tag = true ↔ tag ≠ "" ∧ ∀ c ∈ tag.toList, c.isAlphanum = true := by
  simp [isTag]

theorem checkTag_eq_ok_iff {tag : String} :
    checkTag tag = .ok () ↔ tag ≠ "" ∧ ∀ c ∈ tag.toList, c.isAlphanum = true := by
  rw [← isTag_iff, checkTag]
  split <;> simp_all

theorem checkPort_eq_ok_iff {port : UInt16} : checkPort port = .ok () ↔ port ≠ 0 := by
  rw [checkPort]
  split <;> simp_all

theorem any_isLineBreak_iff {text : List Char} :
    text.any isLineBreak = true ↔ '\n' ∈ text ∨ '\r' ∈ text := by
  simp only [List.any_eq_true, isLineBreak, Bool.or_eq_true, decide_eq_true_eq, and_or_left,
    exists_or, exists_eq_right]

theorem checkText_eq_ok_iff {field : DescriptorField} {text : String} :
    checkText field text = .ok () ↔ ∀ c ∈ text.toList, c ≠ ':' ∧ c ≠ '\n' ∧ c ≠ '\r' := by
  have free : checkText field text = .ok () ↔
      ':' ∉ text.toList ∧ ¬text.toList.any isLineBreak = true := by
    rw [checkText]
    split <;> simp_all
  rw [free, any_isLineBreak_iff, not_or]
  constructor
  · rintro ⟨delimiter, feed, carriage⟩ c member
    exact ⟨fun same => delimiter (same ▸ member), fun same => feed (same ▸ member),
      fun same => carriage (same ▸ member)⟩
  · intro plain
    exact ⟨fun member => (plain ':' member).1 rfl, fun member => (plain '\n' member).2.1 rfl,
      fun member => (plain '\r' member).2.2 rfl⟩

theorem checkHost_eq_ok_iff {host : String} :
    checkHost host = .ok () ↔ host ≠ "" ∧ Text.trim host = host := by
  rw [checkHost]
  by_cases trimmed : Text.trim host = host
  · simp [trimmed]
  · split <;> simp [trimmed]

theorem check_eq_ok_iff {d : Descriptor} : d.check = .ok () ↔ d.Writable := by
  rw [check, bind_unit_eq_ok_iff, bind_unit_eq_ok_iff, bind_unit_eq_ok_iff, checkTag_eq_ok_iff,
    checkPort_eq_ok_iff, checkHost_eq_ok_iff, forM_eq_ok_iff]
  have plain : (∀ entry ∈ d.texts, checkText entry.1 entry.2 = .ok ()) ↔
      ∀ text ∈ [d.user, d.password, d.name, d.host, d.psk.getD ""],
        ∀ c ∈ text.toList, c ≠ ':' ∧ c ≠ '\n' ∧ c ≠ '\r' := by
    simp only [texts, checkText_eq_ok_iff, List.forall_mem_cons]
    simp
  rw [plain]
  constructor
  · rintro ⟨⟨tag_ne, alphanum⟩, port_ne, plain, host_ne, trimmed⟩
    exact ⟨tag_ne, alphanum, port_ne, plain, host_ne, trimmed⟩
  · intro h
    exact ⟨⟨h.tag_ne, h.alphanum⟩, h.port_ne, h.plain, h.host_ne, h.host_trimmed⟩

theorem encode_eq_ok_iff {d : Descriptor} {text : String} :
    d.encode = .ok text ↔ d.Writable ∧ d.print = text := by
  rw [encode, bind_unit_eq_ok_iff, check_eq_ok_iff]
  simp [pure, Except.pure]

end RemoteDevice.Descriptor
