import RemoteDevice.Association
import RemoteDevice.FileTree.Basic

/-!
What has been put into a tree is found there again.
-/
set_option autoImplicit false

namespace RemoteDevice.FileTree

/-- A put changes what lies at its own place only. -/
theorem node?_put (t : FileTree) {place : List String} (other : List String) (n : FileNode)
    (h : place ≠ []) :
    (t.put place n).node? other = if other = place then some n else t.node? other := by
  by_cases same : other = place
  · simp [node?, put, same, h]
  · simp only [node?, put, Association.lookup_cons_filter, if_neg same]

/-- What is put at the end of a way is found there. -/
theorem walk_put {t : FileTree} {here rest : List String} (n : FileNode) (h : rest ≠ [])
    (way : t.walk here rest.dropLast = .ok .directory) :
    (t.put (here ++ rest) n).walk here rest = .ok n := by
  induction rest generalizing here with
  | nil => exact absurd rfl h
  | cons name rest ih =>
    have full : here ++ name :: rest ≠ [] := by simp
    have apart : here ≠ here ++ name :: rest := by simp
    cases rest with
    | nil =>
      simp only [List.dropLast_singleton, walk] at way
      split at way
      next found =>
        cases way
        simp only [walk, node?_put t _ n full, if_neg apart, found, if_true]
      next => cases way
    | cons next rest =>
      simp only [List.dropLast_cons_cons, walk] at way
      split at way
      next found =>
        rw [walk, node?_put t _ n full, if_neg apart, found]
        have again := ih (by simp) way
        rwa [List.append_assoc] at again
      next => cases way
      next => cases way

/-- A file that has been put somewhere can be read there. -/
theorem readText_of_replaceFile {t after : FileTree} {path text : String}
    (h : t.replaceFile path (.text text) = .ok after) : after.readText path = .ok text := by
  unfold replaceFile at h
  split at h
  next => cases h
  next named =>
    split at h
    next => cases h
    next => cases h
    next => cases h
    next way free =>
      cases h
      have some_name : names path ≠ [] := by
        intro none
        simp [none, node?] at free
      have found := walk_put (.file (.text text)) some_name way
      rw [List.nil_append] at found
      simp [readText, named, find, found]

end RemoteDevice.FileTree
