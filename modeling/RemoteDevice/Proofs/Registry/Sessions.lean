import RemoteDevice.Proofs.Registry.Reconstruction
import RemoteDevice.Registry.Basic

/-!
# Session ids

All devices of a program are numbered in the order in which they are made, in whatever way that is.
An entry of which no device is made leaves a gap in the numbers only if its factory made devices on
the way, and a factory that does nothing before it has read the payload makes none.
-/
set_option autoImplicit false

namespace RemoteDevice

/-! ## Ids in 64 bits -/

/-- The session id in the 64 bits that there are for it. -/
def Device.id (d : Device) : UInt64 := UInt64.ofNat d.session

/-- The id of the next device. After 2 ^ 64 devices the ids start over. -/
def Hub.nextId (h : Hub) : UInt64 := UInt64.ofNat (h.sessions + 1)

theorem Device.id_create (b : Blueprint) (hub : Hub) :
    (create b hub).1.id = hub.nextId ∧ (create b hub).2.nextId = hub.nextId + 1 :=
  ⟨rfl, UInt64.ofNat_add (hub.sessions + 1) 1⟩

/-! ## Factories that make devices on the way -/

namespace Device

def createAll (hub : Hub) : List Blueprint → List Device × Hub
  | [] => ([], hub)
  | b :: rest =>
    let (d, hub) := create b hub
    let (devices, hub) := createAll hub rest
    (d :: devices, hub)

end Device

/-- What a factory does with a payload. It may make devices besides the one that it hands over, and
also if it refuses the payload in the end. -/
inductive Production where
  | hands (before : List Blueprint) (b : Blueprint) (after : List Blueprint)
  | refuses (before : List Blueprint) (cause : ConstructionError)

/-- What came of one call or of several. -/
structure Produced (α : Type) where
  result : α
  /-- All devices that were made, in the order of their making. -/
  made : List Device
  hub : Hub

def Production.run (hub : Hub) : Production → Produced (Except ConstructionError Device)
  | hands before b after =>
    let (first, hub) := Device.createAll hub before
    let (d, hub) := Device.create b hub
    let (last, hub) := Device.createAll hub after
    ⟨.ok d, first ++ d :: last, hub⟩
  | refuses before cause =>
    let (devices, hub) := Device.createAll hub before
    ⟨.error cause, devices, hub⟩

abbrev Factory : Type := String → Production

/-- A constructor reads the payload before anything is made. -/
def Constructor.factory (make : Constructor) : Factory := fun payload =>
  match make payload with
  | .ok b => .hands [] b []
  | .error cause => .refuses [] cause

abbrev Factories : Type := String → Option Factory

def Catalogue.factories (c : Catalogue) : Factories := fun typeName =>
  (c.get? typeName).map Constructor.factory

namespace Factories

def construct (f : Factories) (hub : Hub) (e : Entry) : Produced (Except DeviceError Device) :=
  match f e.typeName with
  | none => ⟨.error (.reconstruction e.typeName .unregistered), [], hub⟩
  | some make =>
    let produced := (make e.payload).run hub
    ⟨produced.result.mapError (.reconstruction e.typeName), produced.made, produced.hub⟩

/-- The devices that the entries give, besides all that were made. -/
def reconstruct (f : Factories) (hub : Hub) : List Entry → Produced (List Device)
  | [] => ⟨[], [], hub⟩
  | e :: rest =>
    let first := f.construct hub e
    let later := f.reconstruct first.hub rest
    ⟨first.result.toOption.toList ++ later.result, first.made ++ later.made, later.hub⟩

end Factories

namespace Catalogue

/-- What the factories of a catalogue produce is what the catalogue makes. -/
theorem construct_factories (c : Catalogue) (hub : Hub) (e : Entry) :
    c.factories.construct hub e =
      match c.construct e hub with
      | .ok (d, next) => ⟨.ok d, [d], next⟩
      | .error error => ⟨.error error, [], hub⟩ := by
  simp only [Factories.construct, factories, construct, blueprint]
  cases c.get? e.typeName with
  | none => rfl
  | some make =>
    simp only [Option.map_some, Constructor.factory]
    cases make e.payload <;> rfl

theorem reconstruct_factories (c : Catalogue) (hub : Hub) (entries : List Entry) :
    c.factories.reconstruct hub entries =
      ⟨(c.reconstruct hub entries).1, (c.reconstruct hub entries).1,
        (c.reconstruct hub entries).2⟩ := by
  induction entries generalizing hub with
  | nil => rfl
  | cons e rest ih =>
    rw [Factories.reconstruct, construct_factories, reconstruct]
    cases c.construct e hub with
    | error error => simp only [ih]; rfl
    | ok made => simp only [ih]; rfl

end Catalogue

/-! ## Numbering -/

/-- The devices were made one after the other, starting from the hub. -/
structure Numbered (hub : Hub) (made : List Device) (next : Hub) : Prop where
  sessions : made.map Device.session = List.range' (hub.sessions + 1) made.length
  next : next.sessions = hub.sessions + made.length

namespace Numbered

variable {hub middle next : Hub} {first last : List Device}

theorem none (same : next.sessions = hub.sessions) : Numbered hub [] next := ⟨rfl, same⟩

theorem create (b : Blueprint) (hub : Hub) :
    Numbered hub [(Device.create b hub).1] (Device.create b hub).2 := ⟨rfl, rfl⟩

theorem append (h : Numbered hub first middle) (h' : Numbered middle last next) :
    Numbered hub (first ++ last) next where
  sessions := by
    rw [List.map_append, h.sessions, h'.sessions, h.next, List.length_append,
      Nat.add_right_comm, List.range'_append_1]
  next := by rw [h'.next, h.next, List.length_append, Nat.add_assoc]

theorem createAll (hub : Hub) (bs : List Blueprint) :
    Numbered hub (Device.createAll hub bs).1 (Device.createAll hub bs).2 := by
  induction bs generalizing hub with
  | nil => exact none rfl
  | cons b rest ih => exact (create b hub).append (ih _)

theorem run (hub : Hub) (p : Production) : Numbered hub (p.run hub).made (p.run hub).hub := by
  cases p with
  | hands before b after =>
    exact (createAll hub before).append ((create b _).append (createAll _ after))
  | refuses before cause => exact createAll hub before

theorem construct (f : Factories) (hub : Hub) (e : Entry) :
    Numbered hub (f.construct hub e).made (f.construct hub e).hub := by
  rw [Factories.construct]
  cases f e.typeName with
  | none => exact none rfl
  | some make => exact run hub (make e.payload)

theorem reconstruct (f : Factories) (hub : Hub) (entries : List Entry) :
    Numbered hub (f.reconstruct hub entries).made (f.reconstruct hub entries).hub := by
  induction entries generalizing hub with
  | nil => exact none rfl
  | cons e rest ih => exact (construct f hub e).append (ih _)

end Numbered

/-! ## What is handed over -/

theorem Production.sublist_run (p : Production) (hub : Hub) :
    (p.run hub).result.toOption.toList.Sublist (p.run hub).made := by
  cases p with
  | refuses before cause => exact List.nil_sublist _
  | hands before b after =>
    have handed : (Device.create b (Device.createAll hub before).2).1 ∈
        ((hands before b after).run hub).made :=
      List.mem_append_right _ List.mem_cons_self
    exact List.singleton_sublist.mpr handed

namespace Factories

theorem sublist_construct (f : Factories) (hub : Hub) (e : Entry) :
    (f.construct hub e).result.toOption.toList.Sublist (f.construct hub e).made := by
  rw [construct]
  cases f e.typeName with
  | none => exact List.nil_sublist _
  | some make =>
    have handed := (make e.payload).sublist_run hub
    dsimp only
    cases result : ((make e.payload).run hub).result with
    | error cause => exact List.nil_sublist _
    | ok d =>
      rw [result] at handed
      exact handed

/-- The devices that entries give were made for them, in the order of the entries. -/
theorem sublist_reconstruct (f : Factories) (hub : Hub) (entries : List Entry) :
    (f.reconstruct hub entries).result.Sublist (f.reconstruct hub entries).made := by
  induction entries generalizing hub with
  | nil => exact .slnil
  | cons e rest ih => exact (f.sublist_construct hub e).append (ih _)

end Factories

/-! ## Programs that make devices -/

/-- One thing that a program does, with the devices that it makes. -/
inductive Making (hub : Hub) : List Device → Hub → Prop
  | direct (b : Blueprint) : Making hub [(Device.create b hub).1] (Device.create b hub).2
  | payload {payload : String} {medium : Medium} {b : Blueprint}
      (read : Blueprint.ofPayload payload medium = .ok b) :
      Making hub [(Device.create b hub).1] (Device.create b hub).2
  | entry {c : Catalogue} {e : Entry} {d : Device} {next : Hub}
      (built : c.construct e hub = .ok (d, next)) : Making hub [d] next
  | registry (r : Registry) (c : Catalogue) :
      Making hub (r.reconstruct c hub).1 (r.reconstruct c hub).2
  | factories (f : Factories) (entries : List Entry) :
      Making hub (f.reconstruct hub entries).made (f.reconstruct hub entries).hub
  /-- Whatever makes no device: connecting, counting, or failing to make one. -/
  | elsewhere {next : Hub} (same : next.sessions = hub.sessions) : Making hub [] next

/-- A program from its start, with all devices that it has made. -/
inductive Makings : List Device → Hub → Prop
  | start : Makings [] {}
  | snoc {made more : List Device} {hub next : Hub} (run : Makings made hub)
      (step : Making hub more next) : Makings (made ++ more) next

section

variable {hub next : Hub} {made more : List Device}

theorem Registry.numbered_reconstruct (r : Registry) (c : Catalogue) (hub : Hub) :
    Numbered hub (r.reconstruct c hub).1 (r.reconstruct c hub).2 := by
  have batch := Numbered.reconstruct c.factories hub r.entries
  rw [c.reconstruct_factories] at batch
  refine ⟨batch.sessions, ?_⟩
  have next := batch.next
  simp only [reconstruct]
  split <;> exact next

theorem Making.numbered (step : Making hub made next) : Numbered hub made next := by
  cases step with
  | direct b => exact .create b hub
  | payload read => exact .create _ hub
  | @entry c e d next built =>
    have one := Numbered.construct c.factories hub e
    rw [c.construct_factories, built] at one
    exact one
  | registry r c => exact r.numbered_reconstruct c hub
  | factories f entries => exact .reconstruct f hub entries
  | elsewhere same => exact .none same

theorem Makings.numbered (run : Makings made hub) : Numbered {} made hub := by
  induction run with
  | start => exact .none rfl
  | snoc run step ih => exact ih.append step.numbered

/-- Below 2 ^ 64 devices each id is the number of the device. -/
theorem Numbered.toNat_id (h : Numbered hub made next)
    (few : hub.sessions + made.length < UInt64.size) :
    made.map (fun d => d.id.toNat) = List.range' (hub.sessions + 1) made.length := by
  rw [← h.sessions]
  apply List.map_congr_left
  intro d member
  have inside : d.session ∈ made.map Device.session := List.mem_map_of_mem member
  rw [h.sessions, List.mem_range'_1] at inside
  have fits : d.session < UInt64.size := by omega
  exact UInt64.toNat_ofNat_of_lt' fits

theorem Numbered.pairwise_id (h : Numbered hub made next)
    (few : hub.sessions + made.length < UInt64.size) : (made.map Device.id).Pairwise (· < ·) := by
  have numbers : (List.range' (hub.sessions + 1) made.length).Pairwise (· < ·) :=
    List.pairwise_lt_range'
  rw [← h.toNat_id few, List.pairwise_map] at numbers
  rw [List.pairwise_map]
  exact numbers.imp fun less => UInt64.lt_iff_toNat_lt.mpr less

end

/-- The ids come from a counter of 64 bits, and those of all devices that a program makes, fewer
than 2 ^ 64 of them, increase with the making. So do the ids of the devices that entries give,
whatever the factories do, and they are larger than all ids before. If the factories only read their
payloads, the ids of these devices follow one another without gaps, and what is refused takes
none. -/
theorem Makings.ids_ordered {made : List Device} {hub : Hub} (run : Makings made hub)
    (few : made.length < UInt64.size) :
    (∀ b, (Device.create b hub).1.id = hub.nextId ∧
      (Device.create b hub).2.nextId = hub.nextId + 1) ∧
    (made.map Device.id).Pairwise (· < ·) ∧ (made.map Device.id).Nodup ∧
    (∀ (f : Factories) entries,
      made.length + (f.reconstruct hub entries).made.length < UInt64.size →
        ((f.reconstruct hub entries).result.map Device.id).Pairwise (· < ·) ∧
        ∀ old ∈ made, ∀ d ∈ (f.reconstruct hub entries).result, old.id < d.id) ∧
    (∀ (r : Registry) (c : Catalogue), made.length + (r.reconstruct c hub).1.length < UInt64.size →
      (r.reconstruct c hub).1.map (fun d => d.id.toNat) =
          List.range' (made.length + 1) (r.reconstruct c hub).1.length ∧
        (r.reconstruct c hub).2.sessions = made.length + (r.reconstruct c hub).1.length) ∧
    (∀ (make : Constructor) payload cause, make payload = .error cause →
      (make.factory payload).run hub = ⟨.error cause, [], hub⟩) ∧
    (∀ (c : Catalogue) e error, c.construct e hub = .error error →
      c.factories.construct hub e = ⟨.error error, [], hub⟩) := by
  have numbered := run.numbered
  have taken : hub.sessions = made.length := by
    rw [numbered.next, Nat.zero_add]
  have increasing := numbered.pairwise_id (by simpa using few)
  have distinct := increasing.imp fun less => UInt64.ne_of_lt less
  refine ⟨fun b => Device.id_create b hub, increasing, distinct, ?_, ?_, ?_, ?_⟩
  · intro f entries within
    -- what is handed over is part of what was made, in the order of the making
    have batch := Numbered.reconstruct f hub entries
    have whole := (numbered.append batch).pairwise_id (by simpa using within)
    rw [List.map_append, List.pairwise_append] at whole
    obtain ⟨-, later, across⟩ := whole
    have kept := f.sublist_reconstruct hub entries
    refine ⟨later.sublist (kept.map Device.id), ?_⟩
    intro old before d given
    exact across old.id (List.mem_map_of_mem before) d.id (List.mem_map_of_mem (kept.subset given))
  · intro r c within
    have batch := r.numbered_reconstruct c hub
    rw [← taken] at within ⊢
    exact ⟨batch.toNat_id within, batch.next⟩
  · intro make payload cause refused
    rw [Constructor.factory, refused]
    rfl
  · intro c e error failed
    rw [c.construct_factories, failed]

/-- A lamp is made, and then three entries give two lamps under the next two ids, because the one in
the middle is refused and takes none. -/
theorem Makings.ids_ordered_lamps :
    let c := (∅ : Catalogue).register "lamp" (Constructor.mock "lamp" none)
    let stored : Registry := { entries :=
      [⟨"lamp", "mock://::a:h:1:"⟩, ⟨"lamp", "mock://::b:h:0:"⟩, ⟨"lamp", "mock://::d:h:4:"⟩] }
    ∃ made hub, Makings made hub ∧ made.length = 1 ∧ (made.map Device.id).Pairwise (· < ·) ∧
      (stored.reconstruct c hub).1.length = 2 ∧
      (stored.reconstruct c hub).1.map (fun d => d.id.toNat) = [2, 3] := by
  intro c stored
  let lamp : Blueprint := { typeName := "lamp", descriptor := .tcp "" "h" 80, transport := .mock }
  have run : Makings [(Device.create lamp {}).1] (Device.create lamp {}).2 :=
    Makings.start.snoc (.direct lamp)
  have two : (stored.reconstruct c (Device.create lamp {}).2).1.length = 2 := by decide
  obtain ⟨-, increasing, -, -, gapless, -⟩ := Makings.ids_ordered run (by decide)
  have ids := (gapless stored c (by rw [two]; decide)).1
  rw [two] at ids
  exact ⟨_, _, run, rfl, increasing, two, ids⟩

end RemoteDevice
