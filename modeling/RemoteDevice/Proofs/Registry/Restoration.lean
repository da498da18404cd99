import Mathlib.Data.List.Forall2
import RemoteDevice.Proofs.Descriptor.RoundTrip
import RemoteDevice.Proofs.Device.Live
import RemoteDevice.Proofs.Registry.Reconstruction
import RemoteDevice.Proofs.Registry.Saved

/-!
# Devices that are saved and made again

Devices are written into entries, the entries are stored and loaded, and devices are made of them.
What comes out is told apart from what went in only by its session ids and its connections, and by
empty keys, which are not kept.
-/
set_option autoImplicit false

namespace RemoteDevice

/-! ## Devices that are alike -/

namespace Descriptor

theorem hasPsk_eq (d : Descriptor) : d.hasPsk = !(d.psk.getD "").isEmpty := by
  rw [hasPsk]
  cases d.psk <;> rfl

theorem hasPsk_normal (d : Descriptor) : d.normal.hasPsk = d.hasPsk := by
  rw [hasPsk_eq, hasPsk_eq, psk_normal]

end Descriptor

namespace Device

/-- The other device is of the same type, has the same descriptor but for an empty key, and gives
the same answers. -/
structure Resembles (d made : Device) : Prop where
  typeName : made.typeName = d.typeName
  descriptor : made.descriptor = d.descriptor.normal
  label : made.label = d.label
  displayAddress : made.displayAddress = d.displayAddress
  connectionMessage : ∀ skip, made.connectionMessage skip = d.connectionMessage skip
  triesEncryption : made.triesEncryption = d.triesEncryption

/-- The blueprint is that of the device, but for how it is reached. -/
structure Follows (d : Device) (b : Blueprint) : Prop where
  typeName : b.typeName = d.typeName
  descriptor : b.descriptor = d.descriptor.normal

theorem Follows.resembles {d : Device} {b : Blueprint} (follows : d.Follows b) (live : d.Live)
    (taken : Nat) : d.Resembles (b.deviceAfter taken) := by
  have descriptor : (b.deviceAfter taken).descriptor = d.descriptor.normal := follows.descriptor
  have endpoint : (b.deviceAfter taken).connection.endpoint = d.connection.endpoint := by
    have fresh : (b.deviceAfter taken).Live := live_create b _
    rw [fresh.endpoint_eq, live.endpoint_eq, descriptor]
    rfl
  have address : (b.deviceAfter taken).displayAddress = d.displayAddress := by
    rw [displayAddress, displayAddress, endpoint]
  have label : (b.deviceAfter taken).label = d.label := by
    rw [Device.label, Device.label, descriptor, address]
    rfl
  refine ⟨follows.typeName, descriptor, label, address, ?_, ?_⟩
  · intro skip
    rw [connectionMessage, connectionMessage, label, address]
  · rw [triesEncryption, triesEncryption, descriptor, Descriptor.hasPsk_normal]

end Device

/-! ## Entries of devices -/

/-- The entry keeps the type of the device and its descriptor as it is written. -/
structure Entry.Records (e : Entry) (d : Device) : Prop where
  typeName : e.typeName = d.typeName
  payload : d.serialize = .ok e.payload

namespace Registry

theorem addDevice_eq_ok_iff {r after : Registry} {d : Device} :
    r.addDevice d = .ok after ↔ ∃ payload, d.serialize = .ok payload ∧
      r.insert ⟨d.typeName, payload⟩ = after :=
  map_eq_ok_iff

theorem exists_entries_of_added {devices : List Device} {r after : Registry}
    (added : devices.foldlM addDevice r = .ok after) :
    ∃ stored, after.entries = r.entries ++ stored ∧
      List.Forall₂ (fun d e => Entry.Records e d) devices stored := by
  induction devices generalizing r with
  | nil =>
    cases added
    exact ⟨[], (List.append_nil _).symm, .nil⟩
  | cons d rest ih =>
    rw [List.foldlM_cons, bind_eq_ok_iff] at added
    obtain ⟨next, first, later⟩ := added
    obtain ⟨payload, serialized, rfl⟩ := addDevice_eq_ok_iff.mp first
    obtain ⟨stored, entries, records⟩ := ih later
    refine ⟨⟨d.typeName, payload⟩ :: stored, ?_, .cons ⟨rfl, serialized⟩ records⟩
    rw [entries, insert, List.append_assoc]
    rfl

end Registry

/-! ## Types that are known -/

/-- The constructor makes a device of the type out of whatever is read in a payload. -/
def Constructor.Decodes (make : Constructor) (typeName : String)
    (read : String → Except FormatError Descriptor) : Prop :=
  ∀ payload d, read payload = .ok d →
    ∃ b, make payload = .ok b ∧ b.typeName = typeName ∧ b.descriptor = d

theorem Constructor.decodes_tcp (medium : Medium) :
    (tcp medium).Decodes tcpTypeName (Descriptor.decodeAs Descriptor.tcpTag) := by
  intro payload d read
  refine ⟨Blueprint.tcp d medium, ?_, rfl, rfl⟩
  rw [tcp, Blueprint.ofPayload, read]
  rfl

theorem Constructor.decodes_mock (typeName : String) :
    (mock typeName none).Decodes typeName Descriptor.decode := by
  intro payload d read
  refine ⟨{ typeName, descriptor := d, transport := .mock }, ?_, rfl, rfl⟩
  simp only [mock, read]
  rfl

namespace Catalogue

/-- The type of the device has a constructor that decodes payloads, those of every tag or those of
the tag that the device has. -/
def Knows (c : Catalogue) (d : Device) : Prop :=
  ∃ make, c.get? d.typeName = some make ∧
    (make.Decodes d.typeName Descriptor.decode ∨
      make.Decodes d.typeName (Descriptor.decodeAs d.descriptor.tag))

variable {c : Catalogue}

theorem Knows.exists_blueprint {d : Device} {e : Entry} (known : c.Knows d)
    (records : e.Records d) : ∃ b, c.blueprint e = .ok b ∧ d.Follows b := by
  obtain ⟨make, found, decodes⟩ := known
  obtain ⟨writable, printed⟩ := Descriptor.encode_eq_ok_iff.mp records.payload
  have read : Descriptor.decode e.payload = .ok d.descriptor.normal := by
    rw [← printed, Descriptor.decode_print writable]
  have readAs : Descriptor.decodeAs d.descriptor.tag e.payload = .ok d.descriptor.normal :=
    Descriptor.decodeAs_of_decode read
  have built : ∃ b, make e.payload = .ok b ∧ b.typeName = d.typeName ∧
      b.descriptor = d.descriptor.normal := by
    rcases decodes with every | own
    · exact every e.payload _ read
    · exact own e.payload _ readAs
  obtain ⟨b, made, typeName, descriptor⟩ := built
  refine ⟨b, ?_, typeName, descriptor⟩
  rw [blueprint, records.typeName, found]
  exact made

theorem forall₂_blueprints {P : Device → Blueprint → Prop} {devices : List Device}
    {entries : List Entry}
    (given : List.Forall₂ (fun d e => ∃ b, c.blueprint e = .ok b ∧ P d b) devices entries) :
    List.Forall₂ P devices (c.blueprints entries) := by
  induction given with
  | nil => exact .nil
  | cons first later ih =>
    obtain ⟨b, built, holds⟩ := first
    rw [blueprints_cons_of_ok built]
    exact .cons holds ih

theorem forall₂_number {P : Device → Blueprint → Prop} {Q : Device → Device → Prop}
    {devices : List Device} {bs : List Blueprint}
    (step : ∀ d b taken, P d b → Q d (b.deviceAfter taken))
    (given : List.Forall₂ P devices bs) (taken : Nat) :
    List.Forall₂ Q devices (number taken bs) := by
  induction given generalizing taken with
  | nil => exact .nil
  | cons first later ih =>
    rw [number_cons]
    exact .cons (step _ _ taken first) (ih (taken + 1))

theorem forall₂_reconstruct {devices : List Device} {entries : List Entry}
    (live : ∀ d ∈ devices, d.Live) (known : ∀ d ∈ devices, c.Knows d)
    (records : List.Forall₂ (fun d e => Entry.Records e d) devices entries) (hub : Hub) :
    List.Forall₂ Device.Resembles devices (c.reconstruct hub entries).1 := by
  have all : ∀ d ∈ devices, d.Live ∧ c.Knows d := fun d member => ⟨live d member, known d member⟩
  have given := (List.forall₂_and_left devices entries).mpr ⟨all, records⟩
  have built : List.Forall₂
      (fun d e => ∃ b, c.blueprint e = .ok b ∧ d.Live ∧ d.Follows b) devices entries := by
    refine given.imp ?_
    rintro d e ⟨⟨live, known⟩, records⟩
    obtain ⟨b, built, follows⟩ := known.exists_blueprint records
    exact ⟨b, built, live, follows⟩
  rw [reconstruct_eq]
  refine forall₂_number ?_ (forall₂_blueprints built) hub.sessions
  rintro d b taken ⟨live, follows⟩
  exact follows.resembles live taken

/-- The registry in the store gives devices like these, one for each and in their order. -/
def Restores (c : Catalogue) (s : Store) (devices : List Device) : Prop :=
  ∃ loaded, Registry.tryLoad s = .ok loaded ∧ Registry.load s = loaded ∧
    ∀ hub, List.Forall₂ Device.Resembles devices (loaded.reconstruct c hub).1

theorem restores_of_save {devices : List Device} {start r : Registry} {s after : Store}
    (live : ∀ d ∈ devices, d.Live) (known : ∀ d ∈ devices, c.Knows d) (empty : start.entries = [])
    (added : devices.foldlM Registry.addDevice start = .ok r) (back : s.ReadsBack r.entries)
    (saved : r.save s = .ok after) : c.Restores after devices := by
  obtain ⟨stored, entries, records⟩ := Registry.exists_entries_of_added added
  rw [empty, List.nil_append] at entries
  refine ⟨_, Registry.tryLoad_of_save back saved, Registry.load_of_save back saved, ?_⟩
  intro hub
  have made := forall₂_reconstruct live known records hub
  rw [← entries] at made
  exact made

end Catalogue

namespace Registry

/-- Devices that could all be added to an empty registry survive being saved, whatever they have
been through. The registry can be saved in memory, and in a file to which anything at all can be
written. Devices like these are made of what is loaded from memory then, and of what is loaded from
the file if the text of the entries is read as these entries. -/
theorem devices_survive {c : Catalogue} {devices : List Device} {start r : Registry}
    (live : ∀ d ∈ devices, d.Live) (known : ∀ d ∈ devices, c.Knows d) (empty : start.entries = [])
    (added : devices.foldlM addDevice start = .ok r) :
    (∀ stored, ∃ after, r.save (.memory stored) = .ok after ∧ c.Restores after devices) ∧
      ∀ path files, (Store.file path files).Writable →
        Entry.parseAll (Entry.printAll r.entries) = .ok r.entries →
        ∃ after, r.save (.file path files) = .ok after ∧ c.Restores after devices := by
  constructor
  · intro stored
    obtain ⟨after, saved⟩ := (Store.writable_memory stored).write r.entries
    have back : (Store.memory stored).ReadsBack r.entries := trivial
    exact ⟨after, saved, Catalogue.restores_of_save live known empty added back saved⟩
  · intro path files writable parsed
    obtain ⟨after, saved⟩ := writable.write r.entries
    have back : (Store.file path files).ReadsBack r.entries := parsed
    exact ⟨after, saved, Catalogue.restores_of_save live known empty added back saved⟩

/-- A lamp with an empty key, and a device reached by TCP, both of which have been connected. -/
theorem devices_survive_lamp :
    let lamp := (Device.create ⟨"lamp", ⟨"mock", "hall", "", "", "h", 1, some ""⟩, .mock, 10⟩ {}).1
    let plug := (Device.create (Blueprint.tcp (.tcp "" "h" 7) {}) {}).1
    let used := [(lamp.prepare.2.connect {}).2.1, ((plug.prepare.2.connect {}).2.1.close {}).1]
    let known := (Catalogue.standard {}).register "lamp" (Constructor.mock "lamp" none)
    let stored := Registry.ofEntries
      [⟨"lamp", "mock://::hall:h:1:"⟩, ⟨tcpTypeName, "tcpip://:::h:7:"⟩]
    (∃ after, stored.save (.memory none) = .ok after ∧ known.Restores after used) ∧
      ∃ after, stored.save (.file "kept/devices.yaml" ∅) = .ok after ∧
        known.Restores after used := by
  intro lamp plug used known stored
  have lampLive : lamp.Live := Device.live_create _ _
  have plugLive : plug.Live := Device.live_create _ _
  have live : ∀ d ∈ used, d.Live := by
    intro d member
    simp only [used, List.mem_cons, List.not_mem_nil, or_false] at member
    rcases member with rfl | rfl
    · exact lampLive.prepare.connect {}
    · exact (plugLive.prepare.connect {}).close {}
  have knows : ∀ d ∈ used, known.Knows d := by
    intro d member
    simp only [used, List.mem_cons, List.not_mem_nil, or_false] at member
    rcases member with rfl | rfl
    · exact ⟨_, rfl, .inl (Constructor.decodes_mock "lamp")⟩
    · exact ⟨_, rfl, .inr (Constructor.decodes_tcp {})⟩
  have added : used.foldlM addDevice ∅ = .ok stored := by decide
  have parsed : Entry.parseAll (Entry.printAll stored.entries) = .ok stored.entries := by
    decide +kernel
  obtain ⟨memory, file⟩ := devices_survive live knows rfl added
  exact ⟨memory none, file "kept/devices.yaml" ∅ ⟨[], _, rfl⟩ parsed⟩

end Registry

end RemoteDevice
