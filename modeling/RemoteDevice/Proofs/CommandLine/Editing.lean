import RemoteDevice.CommandLine.Program
import RemoteDevice.Proofs.Registry.Storage

/-!
# Commands that edit a registry

A command that edits the registry in a file reads all of it, edits the list and writes all of it
back. Whatever goes wrong on the way, every file is left as it is; otherwise the file holds the
edited list, with every entry that the edit is not about as it was.
-/
set_option autoImplicit false

namespace RemoteDevice.CommandLine

/-- What a command is to do with the entries of a registry. -/
inductive Edit where
  | add (payload : String)
  | remove (index : Nat)

namespace Edit

def command (path : String) : Edit → Command
  | add payload => .addDevice path payload
  | remove index => .removeDevice path index

/-- The entries after the edit, unless it cannot be made. -/
def apply (entries : List Entry) : Edit → Option (List Entry)
  | add payload => do
    let d ← (Descriptor.decodeAs Descriptor.tcpTag payload).toOption
    let text ← d.encode.toOption
    return entries ++ [⟨tcpTypeName, text⟩]
  | remove index => if index < entries.length then some (entries.eraseIdx index) else none

theorem apply_add_eq_some_iff {entries after : List Entry} {payload : String} :
    (add payload).apply entries = some after ↔
      ∃ d text, Descriptor.decodeAs Descriptor.tcpTag payload = .ok d ∧ d.encode = .ok text ∧
        after = entries ++ [⟨tcpTypeName, text⟩] := by
  simp only [apply, Option.bind_eq_bind, Option.bind_eq_some_iff, toOption_eq_some_iff,
    Option.pure_def, Option.some.injEq]
  constructor
  · rintro ⟨d, read, text, written, rfl⟩
    exact ⟨d, text, read, written, rfl⟩
  · rintro ⟨d, text, read, written, rfl⟩
    exact ⟨d, read, text, written, rfl⟩

theorem apply_remove_eq_some_iff {entries after : List Entry} {index : Nat} :
    (remove index).apply entries = some after ↔
      index < entries.length ∧ after = entries.eraseIdx index := by
  rw [apply]
  split
  next inside => simp [inside, eq_comm]
  next outside => simp [outside]

/-- What the command does with the registry once it has been read. -/
def change : Edit → Registry → Except Failure (Registry × String)
  | add payload => addDevice payload
  | remove index => removeDevice index

theorem change_eq_ok_iff {e : Edit} {r : Registry} {edited : List Entry} :
    (∃ changed output, e.change r = .ok (changed, output) ∧ changed.entries = edited) ↔
      e.apply r.entries = some edited := by
  cases e with
  | add payload =>
    simp only [change, addDevice, bind_eq_ok_iff, mapError_eq_ok_iff, Blueprint.ofPayload,
      map_eq_ok_iff, Registry.addDevice, Device.serialize, apply_add_eq_some_iff]
    constructor
    · rintro ⟨changed, output, ⟨_, ⟨d, read, rfl⟩, _, ⟨text, written, rfl⟩, ended⟩, rfl⟩
      cases ended
      exact ⟨d, text, read, written, rfl⟩
    · rintro ⟨d, text, read, written, rfl⟩
      exact ⟨_, _, ⟨_, ⟨d, read, rfl⟩, _, ⟨text, written, rfl⟩, rfl⟩, rfl⟩
  | remove index =>
    rw [apply_remove_eq_some_iff]
    simp only [change, removeDevice]
    constructor
    · rintro ⟨changed, output, ended, rfl⟩
      split at ended
      next => cases ended
      next removed registry taken =>
        cases ended
        obtain ⟨there, rfl⟩ := Registry.remove_eq_some_iff.mp taken
        exact ⟨(List.getElem?_eq_some_iff.mp there).1, rfl⟩
    · rintro ⟨inside, rfl⟩
      have taken : r.remove index =
          some (r.entries[index], { r with entries := r.entries.eraseIdx index }) :=
        Registry.remove_eq_some_iff.mpr ⟨List.getElem?_eq_getElem inside, rfl⟩
      rw [taken]
      exact ⟨_, _, rfl, rfl⟩

/-- The registry at the path can be read, and the edit makes `edited` of its entries. -/
def Yields (e : Edit) (files : FileTree) (path : String) (edited : List Entry) : Prop :=
  ∃ stored, files.readEntries path = .ok stored ∧ e.apply (stored.getD []) = some edited

variable {e : Edit} {files : FileTree} {path : String} {edited : List Entry}

theorem Yields.unique (h : e.Yields files path edited) {edited' : List Entry}
    (h' : e.Yields files path edited') : edited = edited' := by
  obtain ⟨stored, read, applied⟩ := h
  obtain ⟨stored', read', applied'⟩ := h'
  rw [read] at read'
  cases read'
  exact Option.some.inj (applied.symm.trans applied')

theorem yields_iff :
    e.Yields files path edited ↔
      ∃ changed output, (loadForUpdate files path >>= e.change) = .ok (changed, output) ∧
        changed.entries = edited := by
  have loads : ∀ r, loadForUpdate files path = .ok r ↔
      ∃ stored, files.readEntries path = .ok stored ∧ Registry.ofEntries (stored.getD []) = r := by
    intro r
    rw [loadForUpdate, mapError_eq_ok_iff, Registry.tryLoad, map_eq_ok_iff]
    rfl
  simp only [bind_eq_ok_iff, loads]
  constructor
  · rintro ⟨stored, read, applied⟩
    have applied : e.apply (Registry.ofEntries (stored.getD [])).entries = some edited := applied
    obtain ⟨changed, output, made, same⟩ := change_eq_ok_iff.mpr applied
    exact ⟨changed, output, ⟨_, ⟨stored, read, rfl⟩, made⟩, same⟩
  · rintro ⟨changed, output, ⟨_, ⟨stored, read, rfl⟩, made⟩, same⟩
    exact ⟨stored, read, change_eq_ok_iff.mp ⟨changed, output, made, same⟩⟩

/-- A command comes as far as writing, or it fails before it has touched anything. -/
theorem updateRegistry_cases (s : Surroundings) (path : String) (e : Edit) :
    (∀ edited, ¬ e.Yields s.files path edited) ∧
        (∃ f, updateRegistry s path e.change = (.error f, s.files)) ∨
      ∃ edited output, e.Yields s.files path edited ∧
        updateRegistry s path e.change =
          (((s.files.putEntries s.diskFault path edited).1.mapError .store).map fun _ => output,
            (s.files.putEntries s.diskFault path edited).2) := by
  cases planned : loadForUpdate s.files path >>= e.change with
  | error f =>
    refine .inl ⟨?_, f, by rw [updateRegistry, planned]⟩
    intro edited yields
    obtain ⟨changed, output, made, -⟩ := yields_iff.mp yields
    rw [planned] at made
    cases made
  | ok plan =>
    obtain ⟨changed, output⟩ := plan
    exact .inr ⟨changed.entries, output, yields_iff.mpr ⟨changed, output, planned, rfl⟩,
      by rw [updateRegistry, planned]⟩

end Edit

/-- Whatever is asked of the program and answered to it, only an edit touches the files. -/
theorem files_eq_or_edit (s : Surroundings) (arguments : List String) (answer : String) :
    ((run s arguments).settle answer).files = s.files ∨
      ∃ path e, Request.parse arguments = .run (Edit.command path e) := by
  cases asked : Request.parse arguments with
  | help verb => cases verb <;> exact .inl (by rw [run, asked]; rfl)
  | version => exact .inl (by rw [run, asked]; rfl)
  | misuse => exact .inl (by rw [run, asked]; rfl)
  | run command =>
    have same : run s arguments = command.run s := by rw [run, asked]
    rw [same]
    cases command with
    | addDevice path payload => exact .inr ⟨path, .add payload, rfl⟩
    | removeDevice path index => exact .inr ⟨path, .remove index, rfl⟩
    | encodeDescriptor d => simp [Command.run, Progress.settle]
    | decodeDescriptor text asJson => simp [Command.run, Progress.settle]
    | listDevices path withMetrics => simp [Command.run, Progress.settle]
    | formatValue path unit raw => simp [Command.run, Progress.settle]
    | connectDevice target timeout probe skip =>
      refine .inl ?_
      rw [Command.run, connectDevice]
      cases targetDevice s target timeout with
      | error f => rfl
      | ok d =>
        cases asks : d.connectionMessage skip with
        | none => simp [Progress.settle, asks]
        | some question => simp [Progress.settle, asks]

/-! ## One invocation -/

/-- The registry at the path can be read, the edit makes `edited` of its entries, and they can be
written back, after which the files are `after`. -/
def Edit.Makes (e : Edit) (s : Surroundings) (path : String) (edited : List Entry)
    (after : FileTree) : Prop :=
  ∃ stored, s.files.readEntries path = .ok stored ∧ e.apply (stored.getD []) = some edited ∧
    s.diskFault = none ∧ s.files.writeEntries path edited = .ok after

/-- The program was run with arguments that ask for an edit. -/
structure Invocation where
  surroundings : Surroundings
  arguments : List String
  edit : Edit
  outcome : Outcome

namespace Invocation

/-- The invocation edits the registry at the path, and ends as the program does. -/
structure Happens (i : Invocation) (path : String) : Prop where
  parsed : Request.parse i.arguments = .run (i.edit.command path)
  finished : run i.surroundings i.arguments = .finished i.outcome

/-- The invocation with these arguments, which ask for the edit. -/
def perform (s : Surroundings) (arguments : List String) (e : Edit) : Invocation :=
  ⟨s, arguments, e, (run s arguments).settle ""⟩

/-- An edit never asks anything back. -/
theorem happens_perform {s : Surroundings} {arguments : List String} {e : Edit} {path : String}
    (parsed : Request.parse arguments = .run (e.command path)) :
    (perform s arguments e).Happens path where
  parsed := parsed
  finished := by
    simp only [perform, run, parsed]
    cases e <;> rfl

def Makes (i : Invocation) (path : String) (edited : List Entry) (after : FileTree) : Prop :=
  i.edit.Makes i.surroundings path edited after

def succeeded (i : Invocation) : Bool := i.outcome.exitCode = 0

variable {i : Invocation} {path : String}

theorem Happens.outcome_eq (h : i.Happens path) :
    i.outcome = .ofResult (updateRegistry i.surroundings path i.edit.change).2
      (updateRegistry i.surroundings path i.edit.change).1 := by
  have finished := h.finished
  rw [run, h.parsed] at finished
  cases edit : i.edit with
  | add payload =>
    rw [edit] at finished
    exact (Progress.finished.inj finished).symm
  | remove index =>
    rw [edit] at finished
    exact (Progress.finished.inj finished).symm

theorem makes_iff {edited : List Entry} {after : FileTree} :
    i.Makes path edited after ↔ i.edit.Yields i.surroundings.files path edited ∧
      i.surroundings.files.putEntries i.surroundings.diskFault path edited = (.ok (), after) := by
  rw [FileTree.putEntries_eq_ok_iff, ← FileTree.writeEntries_eq_ok_iff]
  constructor
  · rintro ⟨stored, read, applied, whole, wrote⟩
    exact ⟨⟨stored, read, applied⟩, whole, wrote⟩
  · rintro ⟨⟨stored, read, applied⟩, whole, wrote⟩
    exact ⟨stored, read, applied, whole, wrote⟩

/-- An invocation makes its edit; or there is nothing for it to write, and it touches nothing; or
the disk does not take what it writes. -/
theorem Happens.cases (h : i.Happens path) :
    i.outcome.exitCode = 0 ∧ (∃ edited, i.Makes path edited i.outcome.files) ∨
      i.outcome.exitCode = 1 ∧ (¬ ∃ edited after, i.Makes path edited after) ∧
        ((∀ edited, ¬ i.edit.Yields i.surroundings.files path edited) ∧
            i.outcome.files = i.surroundings.files ∨
          (∃ edited, i.edit.Yields i.surroundings.files path edited) ∧
            ∃ e, (Store.file path i.surroundings.files).Fails e (.file path i.outcome.files)) := by
  have ended := h.outcome_eq
  simp only [makes_iff]
  rcases Edit.updateRegistry_cases i.surroundings path i.edit with
    ⟨none, f, failed⟩ | ⟨edited, output, yields, written⟩
  · rw [failed] at ended
    rw [ended]
    refine .inr ⟨rfl, ?_, .inl ⟨none, rfl⟩⟩
    rintro ⟨edited, -, yields, -⟩
    exact none edited yields
  · rw [written] at ended
    rw [ended]
    rcases put : i.surroundings.files.putEntries i.surroundings.diskFault path edited with
      ⟨result, left⟩
    cases result with
    | ok done => exact .inl ⟨rfl, edited, yields, put⟩
    | error e =>
      refine .inr ⟨rfl, ?_, .inr ⟨⟨edited, yields⟩, e, Store.fails_of_putEntries put⟩⟩
      rintro ⟨edited', after, yields', put'⟩
      rw [yields'.unique yields, put] at put'
      cases put'

theorem Happens.makes_of_succeeded (h : i.Happens path) (succeeded : i.outcome.exitCode = 0) :
    ∃ edited, i.Makes path edited i.outcome.files := by
  rcases h.cases with ⟨-, makes⟩ | ⟨failed, -⟩
  · exact makes
  · rw [succeeded] at failed
    cases failed

theorem Happens.exitCode_eq_zero_iff (h : i.Happens path) :
    i.outcome.exitCode = 0 ↔ ∃ edited after, i.Makes path edited after := by
  constructor
  · intro ended
    obtain ⟨edited, makes⟩ := h.makes_of_succeeded ended
    exact ⟨edited, _, makes⟩
  · intro possible
    rcases h.cases with ⟨ended, -⟩ | ⟨-, impossible, -⟩
    · exact ended
    · exact absurd possible impossible

/-- With nothing to write, everything is left as it is. -/
theorem Happens.files_eq_of_not_yields (h : i.Happens path)
    (none : ∀ edited, ¬ i.edit.Yields i.surroundings.files path edited) :
    i.outcome.files = i.surroundings.files := by
  rcases h.cases with ⟨-, edited, makes⟩ | ⟨-, -, ⟨-, kept⟩ | ⟨⟨edited, yields⟩, -⟩⟩
  · exact absurd (makes_iff.mp makes).1 (none edited)
  · exact kept
  · exact absurd yields (none edited)

/-- What a failed invocation leaves of the files. -/
structure Spares (i : Invocation) (path : String) : Prop where
  /-- Directories have been made at most, and only on the way to the registry. -/
  directories : ∃ way, way <+: (FileTree.names path).dropLast ∧
    i.surroundings.files.makeDirectory way = .ok i.outcome.files
  files : i.surroundings.files.SameFiles i.outcome.files
  text : i.outcome.files.readText path = i.surroundings.files.readText path

theorem Happens.spares (h : i.Happens path) (rooted : i.surroundings.files.Rooted)
    (failed : i.outcome.exitCode ≠ 0) : i.Spares path := by
  rcases h.cases with ⟨ended, -⟩ | ⟨-, -, ⟨-, same⟩ | ⟨-, e, fails⟩⟩
  · exact absurd ended failed
  · have kept : i.surroundings.files.SameFiles i.outcome.files := by
      rw [same]
      exact fun _ _ => Iff.rfl
    exact ⟨⟨[], List.nil_prefix, by rw [same]; rfl⟩, kept, by rw [same]⟩
  · obtain ⟨_, _, _, way, stored, left, part, made⟩ := fails.exists_makeDirectory
    cases stored
    cases left
    exact ⟨⟨way, part, made⟩, fails.sameFiles rooted, rooted.readText_makeDirectory part made⟩

theorem Happens.rooted (h : i.Happens path) (rooted : i.surroundings.files.Rooted) :
    i.outcome.files.Rooted := by
  rcases h.cases with ⟨-, edited, -, -, -, -, wrote⟩ | ⟨-, -, ⟨-, same⟩ | ⟨-, e, fails⟩⟩
  · obtain ⟨made, parent, replaced⟩ := FileTree.writeEntries_eq_ok_iff.mp wrote
    exact (rooted.makeParent parent).replaceFile replaced
  · rw [same]
    exact rooted
  · exact fails.sound rooted

/-- What an invocation can make is determined. -/
theorem Makes.unique {edited edited' : List Entry} {after after' : FileTree}
    (h : i.Makes path edited after) (h' : i.Makes path edited' after') :
    edited = edited' ∧ after = after' := by
  obtain ⟨stored, read, applied, -, wrote⟩ := h
  obtain ⟨stored', read', applied', -, wrote'⟩ := h'
  rw [read] at read'
  cases read'
  rw [applied] at applied'
  cases applied'
  rw [wrote] at wrote'
  exact ⟨rfl, Except.ok.inj wrote'⟩

/-- Made of the entries that were found, the edited ones are in the file as text. -/
theorem Makes.readText {edited : List Entry} {after : FileTree} (h : i.Makes path edited after) :
    after.readText path = .ok (Entry.printAll edited) := by
  obtain ⟨stored, -, -, -, wrote⟩ := h
  obtain ⟨made, -, replaced⟩ := FileTree.writeEntries_eq_ok_iff.mp wrote
  exact FileTree.readText_of_replaceFile replaced

theorem Makes.readEntries {edited : List Entry} {after : FileTree} (h : i.Makes path edited after)
    (back : Entry.parseAll (Entry.printAll edited) = .ok edited) :
    after.readEntries path = .ok (some edited) := by
  simp only [FileTree.readEntries, h.readText, Entry.trim_printAll_ne_empty, back]
  rfl

end Invocation

/-! ## Invocations one after the other -/

/-- Each invocation finds the files as the one before it left them. -/
inductive Invoked (path : String) (start : FileTree) : List Invocation → FileTree → Prop
  | nil : Invoked path start [] start
  | snoc {past : List Invocation} {files : FileTree} {i : Invocation}
      (run : Invoked path start past files) (found : i.surroundings.files = files)
      (happens : i.Happens path) : Invoked path start (past ++ [i]) i.outcome.files

section

variable {path : String} {start files : FileTree} {past : List Invocation}

theorem Invoked.happens (run : Invoked path start past files) : ∀ i ∈ past, i.Happens path := by
  induction run with
  | nil => simp
  | snoc run found happens ih =>
    intro i member
    rcases List.mem_append.mp member with earlier | last
    · exact ih i earlier
    · rw [List.mem_singleton.mp last]
      exact happens

/-- What cannot be read is never overwritten. -/
theorem Invoked.files_eq_of_unreadable (run : Invoked path start past files) {e : StoreError}
    (unreadable : start.readEntries path = .error e) :
    files = start ∧ ∀ i ∈ past, i.outcome.exitCode ≠ 0 := by
  induction run with
  | nil => simp
  | @snoc past files i run found happens ih =>
    obtain ⟨same, failed⟩ := ih
    have none : ∀ edited, ¬ i.edit.Yields i.surroundings.files path edited := by
      rintro edited ⟨stored, readable, -⟩
      rw [found, same, unreadable] at readable
      cases readable
    refine ⟨by rw [happens.files_eq_of_not_yields none, found, same], ?_⟩
    intro other member
    rcases List.mem_append.mp member with earlier | last
    · exact failed other earlier
    · rw [List.mem_singleton.mp last, Ne, happens.exitCode_eq_zero_iff]
      rintro ⟨edited, after, makes⟩
      exact none edited (Invocation.makes_iff.mp makes).1

theorem Invoked.rooted (run : Invoked path start past files) (rooted : start.Rooted) :
    files.Rooted ∧ ∀ i ∈ past, i.surroundings.files.Rooted := by
  induction run with
  | nil => exact ⟨rooted, by simp⟩
  | @snoc past files i run found happens ih =>
    obtain ⟨before, earlier⟩ := ih
    have own : i.surroundings.files.Rooted := found ▸ before
    refine ⟨happens.rooted own, ?_⟩
    intro other member
    rcases List.mem_append.mp member with among | last
    · exact earlier other among
    · rw [List.mem_singleton.mp last]
      exact own

/-- The entries in the file are those of the start with every edit made that succeeded. -/
theorem Invoked.entries_eq (run : Invoked path start past files) (rooted : start.Rooted)
    {stored : Option (List Entry)} (readable : start.readEntries path = .ok stored)
    (back : ∀ i ∈ past, ∀ edited, i.Makes path edited i.outcome.files →
      Entry.parseAll (Entry.printAll edited) = .ok edited) :
    ∃ kept, files.readEntries path = .ok kept ∧
      (past.filter Invocation.succeeded).foldlM (fun entries i => i.edit.apply entries)
        (stored.getD []) = some (kept.getD []) := by
  induction run with
  | nil => exact ⟨stored, readable, rfl⟩
  | @snoc past files i run found happens ih =>
    obtain ⟨kept, there, folded⟩ := ih fun j member =>
      back j (List.mem_append_left _ member)
    rw [List.filter_append, List.foldlM_append, folded]
    by_cases ended : i.outcome.exitCode = 0
    · obtain ⟨edited, makes⟩ := happens.makes_of_succeeded ended
      have parsed := back i (List.mem_append_right _ (List.mem_singleton_self i)) edited makes
      have now := makes.readEntries parsed
      obtain ⟨before, read, applied, -⟩ := makes
      rw [found, there] at read
      cases read
      refine ⟨some edited, now, ?_⟩
      simp [Invocation.succeeded, ended, applied]
    · have own : i.surroundings.files.Rooted := found ▸ (run.rooted rooted).1
      have same := (happens.spares own ended).text
      refine ⟨kept, ?_, ?_⟩
      · rw [FileTree.readEntries, same, ← FileTree.readEntries, found, there]
      · simp [Invocation.succeeded, ended]

/-- Each invocation succeeds exactly if the registry can be read, the edit can be made of its
entries and they can be written back; the file then holds the edited list as text. With nothing to
write it touches nothing, and a registry that cannot be read stays as it is for good. In files of
which each lies in a directory, an invocation that fails leaves every file as it was; and a registry
that can be read is, after all invocations, what it was at first with the edits of those made that
succeeded, provided that the texts written are read as the entries they were written for. -/
theorem Invoked.atomic (run : Invoked path start past files) :
    (∀ i ∈ past,
      (i.outcome.exitCode = 0 ↔ ∃ edited after, i.Makes path edited after) ∧
      (∀ edited after, i.Makes path edited after → i.outcome.files = after ∧
        after.readText path = .ok (Entry.printAll edited)) ∧
      ((∀ edited, ¬ i.edit.Yields i.surroundings.files path edited) →
        i.outcome.files = i.surroundings.files)) ∧
    (∀ e, start.readEntries path = .error e →
      files = start ∧ ∀ i ∈ past, i.outcome.exitCode ≠ 0) ∧
    (start.Rooted →
      (∀ i ∈ past, i.outcome.exitCode ≠ 0 → i.Spares path) ∧
      ∀ stored, start.readEntries path = .ok stored →
        (∀ i ∈ past, ∀ edited, i.Makes path edited i.outcome.files →
          Entry.parseAll (Entry.printAll edited) = .ok edited) →
        ∃ kept, files.readEntries path = .ok kept ∧
          (past.filter Invocation.succeeded).foldlM (fun entries i => i.edit.apply entries)
            (stored.getD []) = some (kept.getD [])) := by
  refine ⟨?_, fun e unreadable => run.files_eq_of_unreadable unreadable, ?_⟩
  · intro i member
    have happens := run.happens i member
    refine ⟨happens.exitCode_eq_zero_iff, ?_, happens.files_eq_of_not_yields⟩
    intro edited after makes
    refine ⟨?_, makes.readText⟩
    obtain ⟨other, makes'⟩ := happens.makes_of_succeeded
      (happens.exitCode_eq_zero_iff.mpr ⟨edited, after, makes⟩)
    exact (makes'.unique makes).2
  · intro rooted
    refine ⟨?_, fun stored readable back => run.entries_eq rooted readable back⟩
    intro i member failed
    exact (run.happens i member).spares ((run.rooted rooted).2 i member) failed

/-- A registry with an entry of a type that nobody knows. -/
def lostRegistry : FileTree :=
  ⟨[(["r.yaml"], .file (.text (Entry.printAll [⟨"lost", "?"⟩])))]⟩

theorem rooted_lostRegistry : lostRegistry.Rooted :=
  FileTree.rooted_of_nodes (by simp [lostRegistry, FileTree.node?])

namespace Invocation

@[irreducible] def addition : Invocation :=
  .perform { files := lostRegistry, now := 0 }
    ["device-add", "--registry", "r.yaml", "tcpip://:::h:1:"] (.add "tcpip://:::h:1:")

/-- There are entries 0 and 1 only. -/
@[irreducible] def removalBeyond : Invocation :=
  .perform { files := addition.outcome.files, now := 1 }
    ["device-remove", "--registry=r.yaml", "--index", "2"] (.remove 2)

@[irreducible] def removalUnwritten : Invocation :=
  .perform
    { files := removalBeyond.outcome.files, now := 2
      diskFault := some (.notWritten ".tmp" (.refused "No space left on device")) }
    ["device-remove", "--registry", "r.yaml", "--index=0"] (.remove 0)

theorem addition_makes :
    addition.Makes "r.yaml" [⟨"lost", "?"⟩, ⟨tcpTypeName, "tcpip://:::h:1:"⟩]
      ⟨[(["r.yaml"], .file (.text
        (Entry.printAll [⟨"lost", "?"⟩, ⟨tcpTypeName, "tcpip://:::h:1:"⟩])))]⟩ := by
  rw [addition]
  exact ⟨some [⟨"lost", "?"⟩], by decide +kernel, by decide +kernel, rfl, by decide +kernel⟩

theorem removalBeyond_files : removalBeyond.surroundings.files = addition.outcome.files := by
  rw [removalBeyond, perform]

theorem removalUnwritten_files :
    removalUnwritten.surroundings.files = removalBeyond.outcome.files := by
  rw [removalUnwritten, perform]

theorem not_makes_removalBeyond {entries : List Entry}
    (read : addition.outcome.files.readEntries "r.yaml" = .ok (some entries))
    (short : entries.length = 2) (edited : List Entry) (after : FileTree) :
    ¬ removalBeyond.Makes "r.yaml" edited after := by
  rintro ⟨stored, found, applied, -⟩
  rw [removalBeyond_files, read] at found
  cases found
  rw [removalBeyond] at applied
  have inside := (Edit.apply_remove_eq_some_iff.mp applied).1
  rw [Option.getD_some, short] at inside
  exact absurd inside (Nat.lt_irrefl 2)

theorem not_makes_removalUnwritten (edited : List Entry) (after : FileTree) :
    ¬ removalUnwritten.Makes "r.yaml" edited after := by
  rw [removalUnwritten]
  rintro ⟨-, -, -, whole, -⟩
  cases whole

end Invocation

theorem invoked_removals :
    Invoked "r.yaml" lostRegistry
      [.addition, .removalBeyond, .removalUnwritten] Invocation.removalUnwritten.outcome.files := by
  have addition : Invocation.addition.Happens "r.yaml" := by
    rw [Invocation.addition]
    exact Invocation.happens_perform (by decide +kernel)
  have beyond : Invocation.removalBeyond.Happens "r.yaml" := by
    rw [Invocation.removalBeyond]
    exact Invocation.happens_perform (by decide +kernel)
  have unwritten : Invocation.removalUnwritten.Happens "r.yaml" := by
    rw [Invocation.removalUnwritten]
    exact Invocation.happens_perform (by decide +kernel)
  have start : Invocation.addition.surroundings.files = lostRegistry := by
    rw [Invocation.addition, Invocation.perform]
  have added : Invoked "r.yaml" lostRegistry [.addition] Invocation.addition.outcome.files :=
    Invoked.nil.snoc start addition
  have failed : Invoked "r.yaml" lostRegistry [.addition, .removalBeyond]
      Invocation.removalBeyond.outcome.files := added.snoc Invocation.removalBeyond_files beyond
  exact failed.snoc Invocation.removalUnwritten_files unwritten

/-- The lost entry outlives an addition and two removals that fail: one past the end, and one when
there is no space left. -/
theorem Invoked.atomic_of_lost :
    Invoked "r.yaml" lostRegistry [.addition, .removalBeyond, .removalUnwritten]
      Invocation.removalUnwritten.outcome.files ∧
    Invocation.addition.outcome.exitCode = 0 ∧
    Invocation.removalBeyond.outcome.exitCode ≠ 0 ∧
    Invocation.removalUnwritten.outcome.exitCode ≠ 0 ∧
    Invocation.removalUnwritten.outcome.files.readEntries "r.yaml" =
      .ok (some [⟨"lost", "?"⟩, ⟨tcpTypeName, "tcpip://:::h:1:"⟩]) := by
  obtain ⟨each, -, whole⟩ := Invoked.atomic invoked_removals
  obtain ⟨-, sound⟩ := whole rooted_lostRegistry
  obtain ⟨added, left, -⟩ := each .addition (by simp)
  obtain ⟨beyond, -⟩ := each .removalBeyond (by simp)
  obtain ⟨unwritten, -⟩ := each .removalUnwritten (by simp)
  have back : Entry.parseAll (Entry.printAll
      [⟨"lost", "?"⟩, ⟨tcpTypeName, "tcpip://:::h:1:"⟩]) =
      .ok [⟨"lost", "?"⟩, ⟨tcpTypeName, "tcpip://:::h:1:"⟩] := by decide +kernel
  have read := Invocation.addition_makes.readEntries back
  rw [← (left _ _ Invocation.addition_makes).1] at read
  have impossible := Invocation.not_makes_removalBeyond read rfl
  have succeeds := added.mpr ⟨_, _, Invocation.addition_makes⟩
  have beyond_fails : Invocation.removalBeyond.outcome.exitCode ≠ 0 := by
    rintro ended
    obtain ⟨edited, after, makes⟩ := beyond.mp ended
    exact impossible edited after makes
  have unwritten_fails : Invocation.removalUnwritten.outcome.exitCode ≠ 0 := by
    rintro ended
    obtain ⟨edited, after, makes⟩ := unwritten.mp ended
    exact Invocation.not_makes_removalUnwritten edited after makes
  refine ⟨invoked_removals, succeeds, beyond_fails, unwritten_fails, ?_⟩
  have edited : Invocation.addition.edit.apply [⟨"lost", "?"⟩] =
      some [⟨"lost", "?"⟩, ⟨tcpTypeName, "tcpip://:::h:1:"⟩] := by
    rw [Invocation.addition]
    decide +kernel
  obtain ⟨kept, there, folded⟩ := sound (some [⟨"lost", "?"⟩]) (by decide +kernel) (by
    intro i member edited makes
    have which : i = .addition ∨ i = .removalBeyond ∨ i = .removalUnwritten := by
      simpa using member
    rcases which with rfl | rfl | rfl
    · rw [(makes.unique Invocation.addition_makes).1]
      exact back
    · exact absurd makes (impossible _ _)
    · exact absurd makes (Invocation.not_makes_removalUnwritten _ _))
  simp only [List.filter_cons, List.filter_nil, Invocation.succeeded, succeeds, beyond_fails,
    unwritten_fails, decide_true, decide_false, Bool.false_eq_true, if_true, if_false,
    List.foldlM_cons, List.foldlM_nil, Option.getD_some, edited] at folded
  cases kept with
  | none => cases folded
  | some entries =>
    cases folded
    exact there

end

end RemoteDevice.CommandLine
