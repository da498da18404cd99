import RemoteDevice.Proofs.Decimal.Integer
import RemoteDevice.Proofs.Device.Live
import RemoteDevice.Proofs.Text.Split

/-!
# Addresses as they are shown

The host and the port can be read off an address, whatever the host is: the port is what follows
the last colon, and before that a colon stands only where there are brackets around the host.
-/
set_option autoImplicit false

namespace RemoteDevice

namespace Endpoint

/-- A host as it stands in an address. -/
def bracketed (host : List Char) : List Char :=
  if ':' ∈ host then '[' :: (host ++ [']']) else host

/-- The host that stands in an address, without its brackets. Brackets around a host that lacks a
colon are its own. -/
def unbracketed (shown : List Char) : List Char :=
  if ':' ∈ shown then shown.tail.dropLast else shown

/-- Reads an address from its end. -/
def ofText? (text : String) : Option Endpoint := do
  let (digits, shown) ← Text.cutAt [':'] text.toList.reverse
  let port ← (Decimal.readDigits 65535 .tooLarge 0 digits.reverse).toOption
  return ⟨String.ofList (unbracketed shown.reverse), UInt16.ofNat port⟩

theorem unbracketed_bracketed (host : List Char) : unbracketed (bracketed host) = host := by
  by_cases colon : ':' ∈ host
  · have inside : ':' ∈ '[' :: (host ++ [']']) := by simp [colon]
    rw [bracketed, if_pos colon, unbracketed, if_pos inside, List.tail_cons, List.dropLast_concat]
  · rw [bracketed, if_neg colon, unbracketed, if_neg colon]

theorem toList_text (e : Endpoint) :
    e.text.toList = bracketed e.host.toList ++ [':'] ++ Nat.toDigits 10 e.port.toNat := by
  by_cases colon : ':' ∈ e.host.toList <;>
    simp [text, bracketed, colon, Nat.toString_eq_repr, Nat.toList_repr]

theorem ofText?_text (e : Endpoint) : ofText? e.text = some e := by
  have within : e.port.toNat ≤ 65535 := by
    have bound := e.port.toNat_lt
    omega
  have plain : ':' ∉ (Nat.toDigits 10 e.port.toNat).reverse := by
    intro member
    rw [List.mem_reverse] at member
    have digit : ':'.isDigit = true := Nat.isDigit_of_mem_toDigits (by omega) (by omega) member
    cases digit
  have cut : Text.cutAt [':'] e.text.toList.reverse =
      some ((Nat.toDigits 10 e.port.toNat).reverse, (bracketed e.host.toList).reverse) := by
    rw [Text.cutAt_eq_some_iff plain, toList_text]
    simp
  have port : (Decimal.readDigits 65535 .tooLarge 0 (Nat.toDigits 10 e.port.toNat)).toOption =
      some e.port.toNat := by
    rw [Decimal.readDigits_toDigits .tooLarge within]
    rfl
  rw [ofText?, cut]
  simp only [Option.bind_eq_bind, Option.bind_some, List.reverse_reverse, port,
    unbracketed_bracketed, String.ofList_toList, UInt16.ofNat_toNat]
  rfl

theorem text_inj {a b : Endpoint} : a.text = b.text ↔ a = b := by
  constructor
  · intro same
    have read := ofText?_text a
    rw [same, ofText?_text b] at read
    exact (Option.some.inj read).symm
  · rintro rfl
    rfl

end Endpoint

namespace Device

/-- An address shows one endpoint only, which can be read off it. Hence devices in use show the same
address if and only if they have the same host and the same port. -/
theorem displayAddress_unambiguous :
    (∀ e : Endpoint, Endpoint.ofText? e.text = some e) ∧
    (∀ a b : Endpoint, a.text = b.text ↔ a.host = b.host ∧ a.port = b.port) ∧
    ∀ first second : Device, first.Live → second.Live →
      (first.displayAddress = second.displayAddress ↔
        first.descriptor.host = second.descriptor.host ∧
          first.descriptor.port = second.descriptor.port) := by
  have fields : ∀ a b : Endpoint, a.text = b.text ↔ a.host = b.host ∧ a.port = b.port := by
    intro a b
    rw [Endpoint.text_inj, Endpoint.mk.injEq]
  refine ⟨Endpoint.ofText?_text, fields, ?_⟩
  intro first second live live'
  rw [displayAddress, displayAddress, live.endpoint_eq, live'.endpoint_eq]
  exact fields _ _

/-- A host with a colon and the same host in brackets of its own have different addresses. -/
theorem displayAddress_unambiguous_brackets : ∃ plain own : Device, plain.Live ∧ own.Live ∧
    plain.displayAddress = "[::1]:80" ∧ own.displayAddress = "[[::1]]:80" ∧
    (plain.displayAddress = own.displayAddress ↔
      plain.descriptor.host = own.descriptor.host ∧
        plain.descriptor.port = own.descriptor.port) := by
  let lampAt (host : String) : Blueprint :=
    { typeName := "lamp", descriptor := .tcp "" host 80, transport := .mock }
  have plain := live_create (lampAt "::1") {}
  have own := live_create (lampAt "[::1]") {}
  exact ⟨_, _, plain, own, by decide, by decide,
    displayAddress_unambiguous.2.2 _ _ plain own⟩

end Device

end RemoteDevice
