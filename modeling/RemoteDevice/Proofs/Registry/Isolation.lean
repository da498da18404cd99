import Mathlib.Algebra.GroupWithZero.Nat
import Mathlib.Data.List.Forall2
import RemoteDevice.Proofs.Registry.Reconstruction
import RemoteDevice.Registry.Basic

/-!
# Entries do not disturb one another

Which device is made of an entry depends on this entry and on what was registered last under the
name of its type. An entry that gives none is passed over and counted.
-/
set_option autoImplicit false

namespace RemoteDevice

namespace Catalogue

/-! ## What is registered -/

/-- The catalogue after constructors have been registered one after the other. -/
def registerAll (registrations : List (String × Constructor)) : Catalogue :=
  registrations.foldl (fun c entry => c.register entry.1 entry.2) ∅

/-- The constructor was registered under the name, and no other after it. -/
def Latest (registrations : List (String × Constructor)) (typeName : String)
    (make : Constructor) : Prop :=
  ∃ before after, registrations = before ++ (typeName, make) :: after ∧
    typeName ∉ after.map Prod.fst

section

variable {registrations : List (String × Constructor)}

theorem get?_registerAll (typeName : String) :
    (registerAll registrations).get? typeName = registrations.reverse.lookup typeName := by
  have replaces : ∀ (c : Catalogue) (entry : String × Constructor) (other : String),
      (c.register entry.1 entry.2).get? other =
        if other = entry.1 then some entry.2 else c.get? other :=
    fun c entry other => c.get?_register entry.1 other entry.2
  have found := Association.get_foldl replaces registrations ∅ typeName
  have nothing : (∅ : Catalogue).get? typeName = none := rfl
  rw [nothing, Option.or_none] at found
  exact found

theorem get?_registerAll_eq_some_iff {typeName : String} {make : Constructor} :
    (registerAll registrations).get? typeName = some make ↔
      Latest registrations typeName make := by
  rw [get?_registerAll, List.lookup_eq_some_iff]
  simp only [Association.forall_bne_iff]
  constructor
  · rintro ⟨after, before, split, others⟩
    refine ⟨before.reverse, after.reverse, ?_, ?_⟩
    · rw [← List.reverse_reverse registrations, split]
      simp
    · rw [List.map_reverse, List.mem_reverse]
      exact others
  · rintro ⟨before, after, rfl, others⟩
    refine ⟨after.reverse, before.reverse, by simp, ?_⟩
    rw [List.map_reverse, List.mem_reverse]
    exact others

theorem get?_registerAll_eq_none_iff {typeName : String} :
    (registerAll registrations).get? typeName = none ↔
      typeName ∉ registrations.map Prod.fst := by
  rw [get?_registerAll, Association.lookup_eq_none_iff, List.map_reverse, List.mem_reverse]

/-- The entry gives a blueprint: its type has a constructor, and that accepts the payload. -/
def Accepts (registrations : List (String × Constructor)) (e : Entry) (b : Blueprint) : Prop :=
  ∃ make, Latest registrations e.typeName make ∧ make e.payload = .ok b

theorem blueprint_eq_ok_iff {e : Entry} {b : Blueprint} :
    (registerAll registrations).blueprint e = .ok b ↔ Accepts registrations e b := by
  simp only [Accepts, ← get?_registerAll_eq_some_iff]
  rw [blueprint]
  cases (registerAll registrations).get? e.typeName <;> simp

/-- Why an entry gives no blueprint. -/
inductive Refuses (registrations : List (String × Constructor)) (e : Entry) :
    ConstructionError → Prop
  | unregistered (absent : e.typeName ∉ registrations.map Prod.fst) :
      Refuses registrations e .unregistered
  | payload {make : Constructor} {cause : ConstructionError}
      (latest : Latest registrations e.typeName make) (refused : make e.payload = .error cause) :
      Refuses registrations e cause

theorem blueprint_eq_error_iff {e : Entry} {cause : ConstructionError} :
    (registerAll registrations).blueprint e = .error cause ↔ Refuses registrations e cause := by
  rw [blueprint]
  constructor
  · intro refused
    cases known : (registerAll registrations).get? e.typeName with
    | none =>
      rw [known] at refused
      cases refused
      exact .unregistered (get?_registerAll_eq_none_iff.mp known)
    | some make =>
      rw [known] at refused
      exact .payload (get?_registerAll_eq_some_iff.mp known) refused
  · rintro (absent | ⟨latest, refused⟩)
    · rw [get?_registerAll_eq_none_iff.mpr absent]
    · rw [get?_registerAll_eq_some_iff.mpr latest]
      exact refused

/-! ## Entries and blueprints -/

/-- The blueprints are those of the entries that give one, in order. -/
inductive Gives (registrations : List (String × Constructor)) :
    List Entry → List Blueprint → Prop
  | nil : Gives registrations [] []
  | made {e : Entry} {b : Blueprint} {rest : List Entry} {bs : List Blueprint}
      (accepts : Accepts registrations e b) (later : Gives registrations rest bs) :
      Gives registrations (e :: rest) (b :: bs)
  | skipped {e : Entry} {rest : List Entry} {bs : List Blueprint}
      (refuses : ∀ b, ¬Accepts registrations e b) (later : Gives registrations rest bs) :
      Gives registrations (e :: rest) bs

theorem gives_blueprints (entries : List Entry) :
    Gives registrations entries ((registerAll registrations).blueprints entries) := by
  induction entries with
  | nil => exact .nil
  | cons e rest ih =>
    cases given : (registerAll registrations).blueprint e with
    | error cause =>
      rw [blueprints_cons_of_error given]
      refine .skipped ?_ ih
      intro b accepts
      rw [blueprint_eq_ok_iff.mpr accepts] at given
      cases given
    | ok b =>
      rw [blueprints_cons_of_ok given]
      exact .made (blueprint_eq_ok_iff.mp given) ih

theorem blueprints_skip {e : Entry} (refuses : ∀ b, ¬Accepts registrations e b)
    (xs ys : List Entry) :
    (registerAll registrations).blueprints (xs ++ e :: ys) =
      (registerAll registrations).blueprints (xs ++ ys) := by
  cases given : (registerAll registrations).blueprint e with
  | error cause => rw [blueprints_append, blueprints_append, blueprints_cons_of_error given]
  | ok b => exact absurd (blueprint_eq_ok_iff.mp given) (refuses b)

end

end Catalogue

/-- The device without its session id. -/
def Device.unnumbered (d : Device) : Device := { d with session := 0 }

namespace Catalogue

theorem map_unnumbered_number (taken : Nat) (bs : List Blueprint) :
    (number taken bs).map Device.unnumbered = bs.map fun b => (b.deviceAfter 0).unnumbered := by
  induction bs generalizing taken with
  | nil => rfl
  | cons b bs ih =>
    rw [number_cons, List.map_cons, List.map_cons, ih]
    rfl

theorem map_unnumbered_reconstruct (c : Catalogue) (hub : Hub) (entries : List Entry) :
    (c.reconstruct hub entries).1.map Device.unnumbered =
      (c.blueprints entries).map fun b => (b.deviceAfter 0).unnumbered := by
  rw [reconstruct_eq, map_unnumbered_number]

theorem construct_eq_error_iff {c : Catalogue} {e : Entry} {hub : Hub} {error : DeviceError} :
    c.construct e hub = .error error ↔
      ∃ cause, c.blueprint e = .error cause ∧ error = .reconstruction e.typeName cause := by
  rw [construct]
  cases c.blueprint e with
  | error cause => simp [eq_comm]
  | ok b => simp

/-- Every entry is on its own. -/
structure Isolates (registrations : List (String × Constructor)) : Prop where
  /-- Each entry that gives a blueprint gives a device, in order, and there are no others. -/
  devices : ∀ entries, ∃ bs, Gives registrations entries bs ∧
    ∀ hub, (registerAll registrations).reconstruct hub entries =
      (number hub.sessions bs, { hub with sessions := hub.sessions + bs.length })
  append : ∀ hub hub₁ hub₂ xs ys,
    ((registerAll registrations).reconstruct hub (xs ++ ys)).1.map Device.unnumbered =
      ((registerAll registrations).reconstruct hub₁ xs).1.map Device.unnumbered ++
        ((registerAll registrations).reconstruct hub₂ ys).1.map Device.unnumbered
  skip : ∀ hub xs e ys, (∀ b, ¬Accepts registrations e b) →
    (registerAll registrations).reconstruct hub (xs ++ e :: ys) =
      (registerAll registrations).reconstruct hub (xs ++ ys)
  failure : ∀ hub e error, (registerAll registrations).construct e hub = .error error ↔
    ∃ cause, Refuses registrations e cause ∧ error = .reconstruction e.typeName cause

theorem isolates (registrations : List (String × Constructor)) : Isolates registrations where
  devices entries := ⟨_, gives_blueprints entries, fun hub => reconstruct_eq _ hub entries⟩
  append hub hub₁ hub₂ xs ys := by
    rw [map_unnumbered_reconstruct, map_unnumbered_reconstruct, map_unnumbered_reconstruct,
      blueprints_append, List.map_append]
  skip hub xs e ys refuses := by
    rw [reconstruct_eq, reconstruct_eq, blueprints_skip refuses]
  failure hub e error := by
    simp only [construct_eq_error_iff, blueprint_eq_error_iff]

theorem length_reconstruct_le (c : Catalogue) (hub : Hub) (entries : List Entry) :
    (c.reconstruct hub entries).1.length ≤ entries.length := by
  rw [reconstruct_eq, number, List.length_mapIdx]
  exact List.length_filterMap_le _ entries

end Catalogue

/-! ## Counters -/

namespace Registry

/-- Makes the devices of several registries one after the other. -/
def reconstructEach : List (Registry × Catalogue) → Hub → List (List Device) × Hub
  | [], hub => ([], hub)
  | (r, c) :: rest, hub =>
    let (devices, hub) := r.reconstruct c hub
    let (later, hub) := reconstructEach rest hub
    (devices :: later, hub)

/-- What the counters show after some calls. -/
structure Counts (calls : List (Registry × Catalogue)) (hub : Hub) : Prop where
  /-- No call makes more devices than there are entries. -/
  bounded : List.Forall₂ (fun call devices => devices.length ≤ call.1.size) calls
    (reconstructEach calls hub).1
  loaded : (reconstructEach calls hub).2.metrics.devicesLoaded =
    ((reconstructEach calls hub).1.getLast?.map List.length).getD hub.metrics.devicesLoaded
  skipped : (reconstructEach calls hub).2.metrics.entriesSkipped +
      ((reconstructEach calls hub).1.map List.length).sum =
    hub.metrics.entriesSkipped + (calls.map fun call => call.1.size).sum

theorem length_reconstruct_le (r : Registry) (c : Catalogue) (hub : Hub) :
    (r.reconstruct c hub).1.length ≤ r.size :=
  c.length_reconstruct_le hub r.entries

theorem metrics_reconstruct {r : Registry} (metered : r.metered = true) (c : Catalogue)
    (hub : Hub) :
    (r.reconstruct c hub).2.metrics =
      { hub.metrics with
        devicesLoaded := (r.reconstruct c hub).1.length
        entriesSkipped :=
          hub.metrics.entriesSkipped + (r.size - (r.reconstruct c hub).1.length) } := by
  simp only [reconstruct, Catalogue.reconstruct_eq, if_pos metered, Hub.modifyMetrics]

theorem counts {calls : List (Registry × Catalogue)}
    (metered : ∀ call ∈ calls, call.1.metered = true) (hub : Hub) : Counts calls hub := by
  induction calls generalizing hub with
  | nil => exact ⟨.nil, rfl, rfl⟩
  | cons call rest ih =>
    obtain ⟨r, c⟩ := call
    obtain ⟨own, later⟩ := List.forall_mem_cons.mp metered
    have bound := r.length_reconstruct_le c hub
    have after := metrics_reconstruct own c hub
    have tail := ih later (r.reconstruct c hub).2
    have loaded := tail.loaded
    have skipped := tail.skipped
    rw [after] at loaded skipped
    refine ⟨.cons bound tail.bounded, ?_, ?_⟩
    · rw [reconstructEach, List.getLast?_cons]
      dsimp only
      rw [loaded]
      cases (reconstructEach rest (r.reconstruct c hub).2).1.getLast? <;> rfl
    · simp only [reconstructEach, List.map_cons, List.sum_cons] at skipped ⊢
      omega

/-- An entry that gives no device changes nothing but what is counted: of every list of entries the
others give the devices that they give alone, and every call adds what it passed over. -/
theorem reconstruct_isolated (registrations : List (String × Constructor)) :
    Catalogue.Isolates registrations ∧
      ∀ calls : List (Registry × Catalogue), (∀ call ∈ calls, call.1.metered = true) →
        ∀ hub, Counts calls hub := by
  refine ⟨Catalogue.isolates registrations, ?_⟩
  intro calls metered hub
  exact counts metered hub

/-- Two entries of four are passed over by each of two calls: the type of one is not known, and the
constructor that came last wants another tag than the other one has. -/
theorem reconstruct_isolated_lamps :
    let known := [("lamp", Constructor.mock "lamp" none),
      ("lamp", Constructor.mock "lamp" (some "mock"))]
    let stored : Registry :=
      { entries := [⟨"lamp", "mock://::a:h:1:"⟩, ⟨"bell", "mock://::b:h:2:"⟩,
          ⟨"lamp", "tcpip://::c:h:3:"⟩, ⟨"lamp", "mock://::d:h:4:"⟩]
        metered := true }
    let calls := [(stored, Catalogue.registerAll known), (stored, Catalogue.registerAll known)]
    Catalogue.Isolates known ∧ Counts calls {} ∧
      ((reconstructEach calls {}).1.map fun devices => devices.map Device.label) =
        [["a", "d"], ["a", "d"]] ∧
      (reconstructEach calls {}).2.metrics.entriesSkipped = 4 := by
  intro known stored calls
  have metered : ∀ call ∈ calls, call.1.metered = true := by
    intro call member
    simp only [calls, List.mem_cons, List.not_mem_nil, or_false, or_self] at member
    rw [member]
  obtain ⟨isolates, counts⟩ := reconstruct_isolated known
  exact ⟨isolates, counts calls metered {}, by decide, by decide⟩

end Registry

end RemoteDevice
