import RemoteDevice.FileTree.Lemmas
import RemoteDevice.Proofs.Outcome
import RemoteDevice.Proofs.Text.Blank
import RemoteDevice.Registry.Basic

/-!
# What has been saved is loaded again

Whether a store takes entries does not depend on the entries. What it took is read back from it; a
file is read back as far as the text of the entries is.
-/
set_option autoImplicit false

namespace RemoteDevice

/-! ## Writing -/

namespace FileTree

/-- Whether a file can be put somewhere does not depend on what is in it. -/
theorem replaceFile_other {t after : FileTree} {path : String} {content : FileContent}
    (replaced : t.replaceFile path content = .ok after) (other : FileContent) :
    ∃ after', t.replaceFile path other = .ok after' := by
  unfold replaceFile at replaced ⊢
  split at replaced
  next => cases replaced
  next named =>
    split at replaced
    next => cases replaced
    next => cases replaced
    next => cases replaced
    next way free => exact ⟨_, if_neg named⟩

theorem putEntries_eq_ok_iff {t after : FileTree} {fault : Option DiskFault} {path : String}
    {entries : List Entry} :
    t.putEntries fault path entries = (.ok (), after) ↔
      fault = none ∧ ∃ made, t.makeParent path = .ok made ∧
        made.replaceFile path (.text (Entry.printAll entries)) = .ok after := by
  unfold putEntries
  cases fault with
  | some fault =>
    cases t.makeDirectory (DiskFault.reach (names path).dropLast (some fault)) <;> simp
  | none =>
    have whole : t.makeDirectory (DiskFault.reach (names path).dropLast none) =
        t.makeParent path := rfl
    rw [whole]
    cases t.makeParent path with
    | error e => simp
    | ok made =>
      simp only [Except.ok.injEq, true_and, exists_eq_left']
      cases made.replaceFile path (.text (Entry.printAll entries)) <;> simp

theorem writeEntries_eq_ok_iff {t after : FileTree} {path : String} {entries : List Entry} :
    t.writeEntries path entries = .ok after ↔ ∃ made, t.makeParent path = .ok made ∧
      made.replaceFile path (.text (Entry.printAll entries)) = .ok after := by
  have put : t.writeEntries path entries = .ok after ↔
      t.putEntries none path entries = (.ok (), after) := by
    rw [writeEntries]
    cases t.putEntries none path entries with
    | mk written left => cases written <;> simp [Except.map]
  rw [put, putEntries_eq_ok_iff]
  simp

end FileTree

namespace Store

/-- The store takes entries. -/
def Writable (s : Store) : Prop := ∃ entries after, s.write entries = .ok after

theorem writable_memory (stored : Option (List Entry)) : (memory stored).Writable :=
  ⟨[], _, rfl⟩

theorem Writable.write {s : Store} (writable : s.Writable) (entries : List Entry) :
    ∃ after, s.write entries = .ok after := by
  obtain ⟨others, written, taken⟩ := writable
  cases s with
  | memory stored => exact ⟨_, rfl⟩
  | file path files =>
    rw [Store.write, map_eq_ok_iff] at taken
    obtain ⟨tree, wrote, -⟩ := taken
    obtain ⟨made, parent, replaced⟩ := FileTree.writeEntries_eq_ok_iff.mp wrote
    obtain ⟨after, again⟩ := FileTree.replaceFile_other replaced (.text (Entry.printAll entries))
    refine ⟨file path after, ?_⟩
    rw [Store.write, map_eq_ok_iff]
    exact ⟨after, FileTree.writeEntries_eq_ok_iff.mpr ⟨made, parent, again⟩, rfl⟩

end Store

/-! ## Reading back -/

namespace Entry

theorem exists_printChars_eq_cons (e : Entry) : ∃ rest, printChars e = '-' :: rest := by
  have dash : "- type_name: ".toList = '-' :: " type_name: ".toList := rfl
  unfold printChars
  rw [dash]
  simp only [List.cons_append]
  exact ⟨_, rfl⟩

theorem head?_printAll (entries : List Entry) :
    ∃ c, (printAll entries).toList.head? = some c ∧ Text.isBlank c = false := by
  cases entries with
  | nil => exact ⟨'[', rfl, by decide⟩
  | cons e rest =>
    obtain ⟨more, printed⟩ := exists_printChars_eq_cons e
    refine ⟨'-', ?_, by decide⟩
    rw [printAll, List.isEmpty_cons, if_neg Bool.false_ne_true, String.toList_ofList,
      List.flatMap_cons, printed]
    rfl

theorem trim_printAll_ne_empty (entries : List Entry) :
    (Text.trim (printAll entries)).isEmpty = false := by
  obtain ⟨c, first, unblank⟩ := head?_printAll entries
  rw [Bool.eq_false_iff]
  intro empty
  have nothing : Text.trimChars (printAll entries).toList = [] := by
    rw [← Text.toList_trim, String.isEmpty_iff.mp empty]
    rfl
  have blank := Text.trims_nil_iff.mp (Text.trimChars_eq_iff.mp nothing)
  rw [blank c (List.mem_of_head? first)] at unblank
  cases unblank

end Entry

namespace Store

/-- The text of the entries, where there is one, is read as these entries. -/
def ReadsBack (entries : List Entry) : Store → Prop
  | memory _ => True
  | file _ _ => Entry.parseAll (Entry.printAll entries) = .ok entries

theorem read_of_write {s after : Store} {entries : List Entry} (back : s.ReadsBack entries)
    (written : s.write entries = .ok after) : after.read = .ok (some entries) := by
  cases s with
  | memory stored =>
    cases written
    rfl
  | file path files =>
    rw [Store.write, map_eq_ok_iff] at written
    obtain ⟨tree, wrote, rfl⟩ := written
    obtain ⟨made, -, replaced⟩ := FileTree.writeEntries_eq_ok_iff.mp wrote
    have parsed : Entry.parseAll (Entry.printAll entries) = .ok entries := back
    have text := FileTree.readText_of_replaceFile replaced
    simp only [Store.read, FileTree.readEntries, text, Entry.trim_printAll_ne_empty, parsed]
    rfl

end Store

/-! ## Registries -/

namespace Registry

variable {r : Registry} {s after : Store}

theorem tryLoad_of_save (back : s.ReadsBack r.entries) (saved : r.save s = .ok after) :
    tryLoad after = .ok (ofEntries r.entries) := by
  rw [tryLoad, Store.read_of_write back saved]
  rfl

theorem load_of_save (back : s.ReadsBack r.entries) (saved : r.save s = .ok after) :
    load after = ofEntries r.entries := by
  rw [load, Store.read_of_write back saved]

end Registry

end RemoteDevice
