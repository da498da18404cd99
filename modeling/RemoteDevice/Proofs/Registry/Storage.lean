import RemoteDevice.Proofs.FileTree.Rooted
import RemoteDevice.Proofs.Registry.Restoration

/-!
# A registry and its store as two lists

Whatever is called, and whatever becomes of the files in between, a registry is a list of entries
and its store is what can be read there: a list, nothing, or an error. Only a save that succeeds
changes what is stored, and both ways of loading go by it.
-/
set_option autoImplicit false

namespace RemoteDevice

/-! ## Saves that fail -/

namespace Store

/-- Every file around the store lies in a directory, as on any disk. -/
def Sound : Store → Prop
  | memory _ => True
  | file _ files => files.Rooted

/-- A save can fail with this error and leave the store so. A store in memory takes everything. -/
inductive Fails : Store → StoreError → Store → Prop
  /-- Some of the directories on the way are made, and then one cannot be. -/
  | stuck {path : String} {files left : FileTree} {way : List String} (cause : FileError)
      (part : way <+: (FileTree.names path).dropLast) (made : files.makeDirectory way = .ok left) :
      Fails (file path files) (.noDirectory (FileTree.parent path) cause) (file path left)
  /-- The directories are all there, and the disk has something against the file. -/
  | refused {path : String} {files left : FileTree} (fault : DiskFault)
      (made : files.makeParent path = .ok left) :
      Fails (file path files) (fault.at path) (file path left)

variable {s after left : Store} {e : StoreError} {entries : List Entry}

/-- What is left of the files is what a failed save can leave. -/
theorem fails_of_putEntries {t left : FileTree} {fault : Option DiskFault} {path : String}
    (failed : t.putEntries fault path entries = (.error e, left)) :
    (file path t).Fails e (file path left) := by
  have part : DiskFault.reach (FileTree.names path).dropLast fault <+:
      (FileTree.names path).dropLast := by
    unfold DiskFault.reach
    split
    next first _ => exact List.take_prefix _ _
    next => exact List.prefix_rfl
  unfold FileTree.putEntries at failed
  split at failed
  next cause _ =>
    cases failed
    exact .stuck cause List.nil_prefix rfl
  next made fault reached =>
    cases failed
    cases fault with
    | noDirectory first cause => exact .stuck cause part reached
    | noDraft cause => exact .refused (.noDraft cause) reached
    | notWritten draft cause => exact .refused (.notWritten draft cause) reached
    | notReplaced cause => exact .refused (.notReplaced cause) reached
  next made reached =>
    split at failed
    next cause _ =>
      cases failed
      exact .refused (.notReplaced cause) reached
    next => cases failed

theorem fails_of_write (failed : s.write entries = .error e) : ∃ left, s.Fails e left := by
  cases s with
  | memory stored => cases failed
  | file path files =>
    rw [Store.write, map_eq_error_iff, FileTree.writeEntries, map_eq_error_iff] at failed
    exact ⟨_, fails_of_putEntries (Prod.ext failed rfl)⟩

/-- What is stored is not what is wrong. -/
theorem Fails.isCorrupt_eq (h : s.Fails e left) : e.isCorrupt = false := by
  cases h with
  | stuck cause part made => rfl
  | refused fault made => cases fault <;> rfl

/-- Directories have been made at most, from the start of the way on. -/
theorem Fails.exists_makeDirectory (h : s.Fails e left) :
    ∃ path files left' way, s = file path files ∧ left = file path left' ∧
      way <+: (FileTree.names path).dropLast ∧ files.makeDirectory way = .ok left' := by
  cases h with
  | stuck cause part made => exact ⟨_, _, _, _, rfl, rfl, part, made⟩
  | refused fault made => exact ⟨_, _, _, _, rfl, rfl, List.prefix_rfl, made⟩

theorem Fails.read_eq (h : s.Fails e left) (sound : s.Sound) : left.read = s.read := by
  obtain ⟨path, files, left', way, rfl, rfl, part, made⟩ := h.exists_makeDirectory
  have rooted : files.Rooted := sound
  simp only [Store.read, FileTree.readEntries, rooted.readText_makeDirectory part made]

theorem Fails.sameFiles (h : s.Fails e left) (sound : s.Sound) :
    s.files.SameFiles left.files := by
  obtain ⟨path, files, left', way, rfl, rfl, part, made⟩ := h.exists_makeDirectory
  exact (FileTree.Rooted.extends_extend sound files.node?_nil made).files

theorem Fails.sound (h : s.Fails e left) (sound : s.Sound) : left.Sound := by
  obtain ⟨path, files, left', way, rfl, rfl, part, made⟩ := h.exists_makeDirectory
  exact (FileTree.Rooted.extends_extend sound files.node?_nil made).rooted

theorem Sound.write (sound : s.Sound) (written : s.write entries = .ok after) : after.Sound := by
  cases s with
  | memory stored =>
    cases written
    trivial
  | file path files =>
    rw [Store.write, map_eq_ok_iff] at written
    obtain ⟨tree, wrote, rfl⟩ := written
    obtain ⟨made, parent, replaced⟩ := FileTree.writeEntries_eq_ok_iff.mp wrote
    have rooted : made.Rooted := FileTree.Rooted.makeParent sound parent
    exact rooted.replaceFile replaced

/-- Whether texts are read back does not depend on what is stored. -/
theorem readsBack_write (written : s.write entries = .ok after) (others : List Entry) :
    after.ReadsBack others ↔ s.ReadsBack others := by
  cases s with
  | memory stored =>
    cases written
    rfl
  | file path files =>
    rw [Store.write, map_eq_ok_iff] at written
    obtain ⟨tree, -, rfl⟩ := written
    rfl

end Store

/-! ## Calls and what they do -/

namespace Registry

section

variable {r after : Registry} {s : Store} {e : StoreError}

theorem remove_eq_some_iff {index : Nat} {entry : Entry} :
    r.remove index = some (entry, after) ↔
      r.entries[index]? = some entry ∧ { r with entries := r.entries.eraseIdx index } = after := by
  simp [remove]

theorem remove_eq_none_iff {index : Nat} : r.remove index = none ↔ r.size ≤ index := by
  simp [remove, size]

theorem tryLoad_eq_ok_iff :
    tryLoad s = .ok r ↔ ∃ stored, s.read = .ok stored ∧ ofEntries (stored.getD []) = r :=
  map_eq_ok_iff

theorem load_of_tryLoad (loaded : tryLoad s = .ok r) : load s = r := by
  obtain ⟨stored, found, rfl⟩ := tryLoad_eq_ok_iff.mp loaded
  rw [load, found]
  cases stored <;> rfl

theorem load_of_tryLoad_error (failed : tryLoad s = .error e) : load s = ∅ := by
  have unreadable : s.read = .error e := map_eq_error_iff.mp failed
  rw [load, unreadable]

end

/-- A registry, and the store that it is loaded from and saved to. -/
structure Situation where
  registry : Registry
  store : Store

inductive Event where
  | insert (e : Entry)
  | addDevice (d : Device)
  | remove (index : Nat)
  | saved (entries : List Entry)
  | notSaved (e : StoreError)
  | load
  | tryLoad
  | read
  /-- Somebody else changes the files around the store. -/
  | disturbed (now : Store)

/-- What can happen. A call that fails gives no registry, so that its caller keeps the one there
is. -/
inductive Step : Situation → Event → Situation → Prop
  | insert (r : Registry) (s : Store) (e : Entry) : Step ⟨r, s⟩ (.insert e) ⟨r.insert e, s⟩
  | added {r after : Registry} {d : Device} (s : Store) (added : r.addDevice d = .ok after) :
      Step ⟨r, s⟩ (.addDevice d) ⟨after, s⟩
  | notAdded {r : Registry} {d : Device} {e : FieldError} (s : Store)
      (failed : r.addDevice d = .error e) : Step ⟨r, s⟩ (.addDevice d) ⟨r, s⟩
  | removed {r after : Registry} {index : Nat} {entry : Entry} (s : Store)
      (removed : r.remove index = some (entry, after)) : Step ⟨r, s⟩ (.remove index) ⟨after, s⟩
  | notRemoved {r : Registry} {index : Nat} (s : Store) (failed : r.remove index = none) :
      Step ⟨r, s⟩ (.remove index) ⟨r, s⟩
  | saved {r : Registry} {s after : Store} (saved : r.save s = .ok after) :
      Step ⟨r, s⟩ (.saved r.entries) ⟨r, after⟩
  | notSaved {s left : Store} {e : StoreError} (r : Registry) (failed : s.Fails e left) :
      Step ⟨r, s⟩ (.notSaved e) ⟨r, left⟩
  | loaded (r : Registry) (s : Store) : Step ⟨r, s⟩ .load ⟨load s, s⟩
  | triedLoad {s : Store} {loaded : Registry} (r : Registry) (found : tryLoad s = .ok loaded) :
      Step ⟨r, s⟩ .tryLoad ⟨loaded, s⟩
  | notLoaded {s : Store} {e : StoreError} (r : Registry) (failed : tryLoad s = .error e) :
      Step ⟨r, s⟩ .tryLoad ⟨r, s⟩
  | read (r : Registry) (s : Store) : Step ⟨r, s⟩ .read ⟨r, s⟩
  | disturbed (r : Registry) (path : String) (before : FileTree) {now : FileTree}
      (rooted : now.Rooted) :
      Step ⟨r, .file path before⟩ (.disturbed (.file path now)) ⟨r, .file path now⟩

/-- A registry and what is stored of it, as plain lists. -/
@[ext]
structure Ledger where
  entries : List Entry
  stored : Except StoreError (Option (List Entry))

namespace Ledger

/-- The entries that a load gives which does not complain. -/
def loaded (l : Ledger) : List Entry :=
  match l.stored with
  | .ok (some entries) => entries
  | _ => []

def next (l : Ledger) : Event → Ledger
  | .insert e => { l with entries := l.entries ++ [e] }
  | .addDevice d =>
    match d.serialize with
    | .ok payload => { l with entries := l.entries ++ [⟨d.typeName, payload⟩] }
    | .error _ => l
  | .remove index => { l with entries := l.entries.eraseIdx index }
  | .saved _ => { l with stored := .ok (some l.entries) }
  | .load => { l with entries := l.loaded }
  | .tryLoad =>
    match l.stored with
    | .ok entries => { l with entries := entries.getD [] }
    | .error _ => l
  | .notSaved _ | .read => l
  | .disturbed now => { l with stored := now.read }

end Ledger

def Situation.ledger (x : Situation) : Ledger := ⟨x.registry.entries, x.store.read⟩

/-- What an event leaves as it was, and what it makes of the rest. -/
def Event.Does (before after : Situation) : Event → Prop
  | .insert _ | .load | .tryLoad | .read => after.store = before.store
  | .addDevice d =>
    after.store = before.store ∧ ∀ e, d.serialize = .error e → after.registry = before.registry
  | .remove index =>
    after.store = before.store ∧
      (before.registry.size ≤ index → after.registry = before.registry)
  | .saved entries =>
    entries = before.registry.entries ∧ after.registry = before.registry ∧
      (before.store.ReadsBack entries →
        Registry.tryLoad after.store = .ok (ofEntries entries) ∧
          Registry.load after.store = ofEntries entries)
  | .notSaved e =>
    e.isCorrupt = false ∧ after.registry = before.registry ∧
      after.store.read = before.store.read ∧ before.store.files.SameFiles after.store.files
  | .disturbed now => after = ⟨before.registry, now⟩

namespace Step

variable {before after : Situation} {event : Event}

theorem does (h : Step before event after) (sound : before.store.Sound) :
    event.Does before after := by
  cases h with
  | insert r s e => exact rfl
  | added s added =>
    refine ⟨rfl, ?_⟩
    intro e failed
    obtain ⟨payload, serialized, -⟩ := addDevice_eq_ok_iff.mp added
    rw [failed] at serialized
    cases serialized
  | notAdded s failed => exact ⟨rfl, fun _ _ => rfl⟩
  | @removed r after index entry s removed =>
    refine ⟨rfl, ?_⟩
    intro beyond
    rw [remove_eq_none_iff.mpr beyond] at removed
    cases removed
  | notRemoved s failed => exact ⟨rfl, fun _ => rfl⟩
  | saved saved =>
    refine ⟨rfl, rfl, ?_⟩
    intro back
    exact ⟨tryLoad_of_save back saved, load_of_save back saved⟩
  | notSaved r failed =>
    exact ⟨failed.isCorrupt_eq, rfl, failed.read_eq sound, failed.sameFiles sound⟩
  | loaded r s => exact rfl
  | triedLoad r found => exact rfl
  | notLoaded r failed => exact rfl
  | read r s => exact rfl
  | disturbed r path files rooted => exact rfl

theorem sound (h : Step before event after) (sound : before.store.Sound) :
    after.store.Sound := by
  cases h with
  | saved saved => exact Store.Sound.write sound saved
  | notSaved r failed => exact failed.sound sound
  | disturbed r path files rooted => exact rooted
  | _ => exact sound

theorem readsBack_iff (h : Step before event after) (entries : List Entry) :
    after.store.ReadsBack entries ↔ before.store.ReadsBack entries := by
  cases h with
  | saved saved => exact Store.readsBack_write saved entries
  | notSaved r failed =>
    obtain ⟨path, files, left, way, rfl, rfl, -⟩ := failed.exists_makeDirectory
    rfl
  | _ => rfl

theorem ledger_eq (h : Step before event after) (sound : before.store.Sound)
    (back : ∀ entries, event = .saved entries → before.store.ReadsBack entries) :
    after.ledger = before.ledger.next event := by
  cases h with
  | insert r s e => rfl
  | added s added =>
    obtain ⟨payload, serialized, rfl⟩ := addDevice_eq_ok_iff.mp added
    simp only [Situation.ledger, Ledger.next, serialized]
    rfl
  | notAdded s failed =>
    have unserialized := map_eq_error_iff.mp failed
    simp only [Ledger.next, unserialized]
  | removed s removed =>
    obtain ⟨-, rfl⟩ := remove_eq_some_iff.mp removed
    rfl
  | @notRemoved r index s failed =>
    have beyond : r.entries.length ≤ index := remove_eq_none_iff.mp failed
    simp only [Situation.ledger, Ledger.next, List.eraseIdx_of_length_le beyond]
  | @saved r s after saved =>
    have stored := Store.read_of_write (back _ rfl) saved
    simp only [Situation.ledger, Ledger.next, stored]
  | notSaved r failed => simp only [Situation.ledger, Ledger.next, failed.read_eq sound]
  | loaded r s =>
    simp only [Situation.ledger, Ledger.next, Ledger.loaded, load]
    cases s.read with
    | error e => rfl
    | ok stored => cases stored <;> rfl
  | triedLoad r found =>
    obtain ⟨stored, readable, rfl⟩ := tryLoad_eq_ok_iff.mp found
    simp only [Situation.ledger, Ledger.next, readable]
    rfl
  | notLoaded r failed =>
    have unreadable := map_eq_error_iff.mp failed
    simp only [Situation.ledger, Ledger.next, unreadable]
  | read r s => rfl
  | disturbed r path files rooted => rfl

end Step

/-! ## Runs -/

/-- From the start, these events have led here. -/
inductive Run (start : Situation) : List Event → Situation → Prop
  | nil : Run start [] start
  | snoc {past : List Event} {now next : Situation} {event : Event} (run : Run start past now)
      (step : Step now event next) : Run start (past ++ [event]) next

namespace Run

variable {start now : Situation} {events : List Event}

theorem sound (run : Run start events now) (sound : start.store.Sound) : now.store.Sound := by
  induction run with
  | nil => exact sound
  | snoc run step ih => exact step.sound ih

theorem readsBack_iff (run : Run start events now) (entries : List Entry) :
    now.store.ReadsBack entries ↔ start.store.ReadsBack entries := by
  induction run with
  | nil => rfl
  | snoc run step ih => rw [step.readsBack_iff, ih]

theorem ledger_eq (run : Run start events now) (sound : start.store.Sound)
    (back : ∀ entries, .saved entries ∈ events → start.store.ReadsBack entries) :
    now.ledger = events.foldl Ledger.next start.ledger := by
  induction run with
  | nil => rfl
  | @snoc past now next event run step ih =>
    rw [List.foldl_append, ← ih fun entries member => back entries (List.mem_append_left _ member)]
    apply step.ledger_eq (run.sound sound)
    intro entries same
    rw [run.readsBack_iff]
    apply back
    simp [same]

/-- A registry and its store are what the events make of two plain lists, provided that the texts
of the entries that were saved are read as these entries. Wherever they have come to, the load that
complains and the one that does not give the same registry, or the one complains and the other
gives an empty registry. Of all that can happen next only a save that succeeds, or somebody else,
changes what is stored; both loads then give what was saved. A save that fails is never put down to
what is stored: it leaves that, every file and the registry as they were, as do an addition and a
removal that fail. -/
theorem loads_agree (run : Run start events now) (sound : start.store.Sound)
    (back : ∀ entries, .saved entries ∈ events → start.store.ReadsBack entries) :
    now.ledger = events.foldl Ledger.next start.ledger ∧
    (∀ r, tryLoad now.store = .ok r → load now.store = r) ∧
    (∀ e, tryLoad now.store = .error e → load now.store = ∅) ∧
    (∀ e, now.registry.save now.store = .error e → ∃ left, Step now (.notSaved e) left) ∧
    ∀ event next, Step now event next → event.Does now next := by
  refine ⟨run.ledger_eq sound back, fun r loaded => load_of_tryLoad loaded,
    fun e failed => load_of_tryLoad_error failed, ?_, ?_⟩
  · intro e failed
    obtain ⟨left, fails⟩ := Store.fails_of_write failed
    exact ⟨⟨now.registry, left⟩, .notSaved now.registry fails⟩
  · intro event next step
    exact step.does (run.sound sound)

/-- Nothing yet, and a file in a directory that is not there. -/
def outset : Situation := ⟨∅, .file "d/r.yaml" ∅⟩

/-- The file, when somebody else has written into it. -/
def garbled : FileTree := ⟨[(["d", "r.yaml"], .file (.text "- ]")), (["d"], .directory)]⟩

/-- A save fails for want of space, which leaves the directory; the next one succeeds. Then the file
is garbled, and the load that complains and a removal past the end keep the entry. -/
theorem loads_agree_of_garbled :
    ∃ now, Run outset
        [.insert ⟨"lost", "?"⟩, .notSaved (.notWritten ".tmp" (.refused "No space left on device")),
          .saved [⟨"lost", "?"⟩], .disturbed (.file "d/r.yaml" garbled), .tryLoad, .remove 1] now ∧
      now.ledger = ⟨[⟨"lost", "?"⟩], .error (.malformed "d/r.yaml" .unexpectedToken)⟩ ∧
      tryLoad now.store = .error (.malformed "d/r.yaml" .unexpectedToken) ∧ load now.store = ∅ := by
  have garbledRead : (Store.file "d/r.yaml" garbled).read =
      .error (.malformed "d/r.yaml" .unexpectedToken) := by decide +kernel
  have failing : tryLoad (.file "d/r.yaml" garbled) =
      .error (.malformed "d/r.yaml" .unexpectedToken) := by
    rw [tryLoad, garbledRead]
    rfl
  have made : (∅ : FileTree).makeParent "d/r.yaml" = .ok ⟨[(["d"], .directory)]⟩ := by
    decide +kernel
  have wrote : (insert ∅ ⟨"lost", "?"⟩).save (.file "d/r.yaml" ⟨[(["d"], .directory)]⟩) =
      .ok (.file "d/r.yaml" ⟨[(["d", "r.yaml"], .file (.text (Entry.printAll [⟨"lost", "?"⟩]))),
        (["d"], .directory)]⟩) := by decide +kernel
  have rooted : garbled.Rooted := FileTree.rooted_of_nodes (by decide)
  have inserted := Run.nil.snoc (.insert ∅ outset.store ⟨"lost", "?"⟩)
  have unsaved := inserted.snoc
    (.notSaved _ (.refused (.notWritten ".tmp" (.refused "No space left on device")) made))
  have saved := unsaved.snoc (.saved wrote)
  have disturbed := saved.snoc (.disturbed _ _ _ rooted)
  have kept := disturbed.snoc (.notLoaded _ failing)
  have beyond : (insert ∅ ⟨"lost", "?"⟩).remove 1 = none := rfl
  have run := kept.snoc (.notRemoved _ beyond)
  have sound : outset.store.Sound := FileTree.rooted_of_nodes fun _ member => by cases member
  have back : Entry.parseAll (Entry.printAll [⟨"lost", "?"⟩]) = .ok [⟨"lost", "?"⟩] := by
    decide +kernel
  obtain ⟨ledger, -, agree, -⟩ := loads_agree run sound (by
    intro entries member
    have which : entries = (insert ∅ ⟨"lost", "?"⟩).entries := by simpa using member
    rw [which]
    exact back)
  refine ⟨_, run, ?_, failing, agree _ failing⟩
  rw [ledger]
  simp only [List.foldl_append, List.foldl_cons, List.foldl_nil, Ledger.next, garbledRead]
  rfl

end Run

end Registry

end RemoteDevice
