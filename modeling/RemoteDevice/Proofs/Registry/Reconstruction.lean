import RemoteDevice.Registry.Catalogue

/-!
# Devices made from entries

Making devices takes a blueprint from each entry that gives one and numbers what is made of them in
order. All else about a list of entries follows from what single entries give.
-/
set_option autoImplicit false

namespace RemoteDevice

/-- The device made of the blueprint when that many session ids are taken. -/
def Blueprint.deviceAfter (b : Blueprint) (taken : Nat) : Device :=
  (Device.create b { sessions := taken }).1

theorem Device.create_eq (b : Blueprint) (hub : Hub) :
    create b hub = (b.deviceAfter hub.sessions, { hub with sessions := hub.sessions + 1 }) := rfl

namespace Catalogue

/-- What the entries give, in their order. -/
def blueprints (c : Catalogue) (entries : List Entry) : List Blueprint :=
  entries.filterMap fun e => (c.blueprint e).toOption

theorem blueprints_append (c : Catalogue) (xs ys : List Entry) :
    c.blueprints (xs ++ ys) = c.blueprints xs ++ c.blueprints ys :=
  List.filterMap_append

theorem blueprints_cons_of_ok {c : Catalogue} {e : Entry} {b : Blueprint}
    (given : c.blueprint e = .ok b) (rest : List Entry) :
    c.blueprints (e :: rest) = b :: c.blueprints rest := by
  rw [blueprints, List.filterMap_cons, given]
  rfl

theorem blueprints_cons_of_error {c : Catalogue} {e : Entry} {cause : ConstructionError}
    (refused : c.blueprint e = .error cause) (rest : List Entry) :
    c.blueprints (e :: rest) = c.blueprints rest := by
  rw [blueprints, List.filterMap_cons, refused]
  rfl

/-- Devices of blueprints, numbered from a given number on. -/
def number (taken : Nat) (bs : List Blueprint) : List Device :=
  bs.mapIdx fun i b => b.deviceAfter (taken + i)

theorem number_cons (taken : Nat) (b : Blueprint) (bs : List Blueprint) :
    number taken (b :: bs) = b.deviceAfter taken :: number (taken + 1) bs := by
  simp only [number, List.mapIdx_cons, Nat.add_zero, Nat.add_right_comm taken, Nat.add_assoc]

theorem mem_number {taken : Nat} {bs : List Blueprint} {device : Device}
    (member : device ∈ number taken bs) : ∃ b ∈ bs, ∃ before, device = b.deviceAfter before := by
  obtain ⟨i, inside, rfl⟩ := List.mem_mapIdx.mp member
  exact ⟨bs[i], List.getElem_mem inside, taken + i, rfl⟩

theorem reconstruct_eq (c : Catalogue) (hub : Hub) (entries : List Entry) :
    c.reconstruct hub entries =
      (number hub.sessions (c.blueprints entries),
        { hub with sessions := hub.sessions + (c.blueprints entries).length }) := by
  induction entries generalizing hub with
  | nil => rfl
  | cons e rest ih =>
    rw [reconstruct, construct]
    cases given : c.blueprint e with
    | error cause =>
      rw [blueprints_cons_of_error given]
      exact ih hub
    | ok b =>
      rw [blueprints_cons_of_ok given]
      simp only [Device.create_eq, ih, number_cons, List.length_cons]
      rw [Nat.add_assoc, Nat.add_comm 1]

end Catalogue

end RemoteDevice
