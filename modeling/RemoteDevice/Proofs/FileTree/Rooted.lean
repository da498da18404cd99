import Mathlib.Data.List.Basic
import RemoteDevice.FileTree.Lemmas

/-!
# Trees in which everything lies in a directory

Making directories leaves every file where it is. It also keeps what is found further along the
way: nothing can lie in a directory that was missing, so what was not found there before is not
found there after.
-/
set_option autoImplicit false

namespace RemoteDevice.FileTree

/-- Whatever is there lies in a directory. -/
def Rooted (t : FileTree) : Prop :=
  ∀ place name, t.node? (place ++ [name]) ≠ none → t.node? place = some .directory

theorem rooted_of_nodes {t : FileTree}
    (held : ∀ entry ∈ t.nodes, t.node? entry.1.dropLast = some .directory) : t.Rooted := by
  intro place name there
  have listed : t.nodes.lookup (place ++ [name]) ≠ none := by simpa [node?] using there
  rw [Ne, Association.lookup_eq_none_iff, not_not, List.mem_map] at listed
  obtain ⟨entry, among, own⟩ := listed
  have holder := held entry among
  rwa [own, List.dropLast_concat] at holder

theorem node?_nil (t : FileTree) : t.node? [] = some .directory := rfl

variable {t : FileTree} {here place rest : List String} {name : String}

theorem node?_put_self (t : FileTree) (n : FileNode) (placed : place ≠ []) :
    (t.put place n).node? place = some n := by
  rw [node?_put t _ _ placed, if_pos rfl]

theorem Rooted.node?_below (rooted : t.Rooted) (missing : t.node? place = none) (name : String) :
    t.node? (place ++ [name]) = none := by
  by_contra there
  rw [rooted place name there] at missing
  cases missing

/-- Everything on the way to what is there is a directory. -/
theorem Rooted.node?_of_append (rooted : t.Rooted)
    (there : t.node? (place ++ name :: rest) ≠ none) : t.node? place = some .directory := by
  induction rest generalizing place name with
  | nil => exact rooted place name there
  | cons next rest ih =>
    have inside : t.node? (place ++ [name]) = some .directory := by
      apply ih
      rwa [List.append_assoc]
    apply rooted place name
    rw [inside]
    exact Option.some_ne_none _

/-! ## Ways -/

theorem node?_of_walk {n : FileNode} (walked : t.walk here rest = .ok n) :
    t.node? (here ++ rest) = some n := by
  induction rest generalizing here with
  | nil =>
    rw [walk] at walked
    split at walked
    next found =>
      cases walked
      rwa [List.append_nil]
    next => cases walked
  | cons name rest ih =>
    rw [walk] at walked
    split at walked
    next =>
      have further := ih walked
      rwa [List.append_assoc] at further
    next => cases walked
    next => cases walked

/-- The way to a directory can be walked, and goes on from there. -/
theorem Rooted.walk_append (rooted : t.Rooted)
    (inside : t.node? (here ++ place) = some .directory) (rest : List String) :
    t.walk here (place ++ rest) = t.walk (here ++ place) rest := by
  induction place generalizing here with
  | nil => rw [List.append_nil, List.nil_append]
  | cons name place ih =>
    have there : t.node? (here ++ name :: place) ≠ none := by
      rw [inside]
      exact Option.some_ne_none _
    have onward : t.node? (here ++ [name] ++ place) = some .directory := by
      rwa [List.append_assoc]
    rw [List.cons_append, walk, rooted.node?_of_append there]
    simp only [ih onward, List.append_assoc, List.cons_append, List.nil_append]

theorem Rooted.find_missing (rooted : t.Rooted) (inside : t.node? place = some .directory)
    (missing : t.node? (place ++ [name]) = none) (rest : List String) :
    t.find (place ++ name :: rest) = .error .missing := by
  rw [find, rooted.walk_append (by rwa [List.nil_append]), List.nil_append, walk, inside]
  cases rest with
  | nil => simp only [walk, missing]
  | cons next rest => simp only [walk, missing]

/-! ## Directories that are made -/

/-- The files are the same ones. -/
def SameFiles (t after : FileTree) : Prop :=
  ∀ place content, after.node? place = some (.file content) ↔ t.node? place = some (.file content)

section

variable (rooted : t.Rooted) (inside : t.node? place = some .directory)
  (missing : t.node? (place ++ [name]) = none)

include rooted inside in
theorem Rooted.put_directory : (t.put (place ++ [name]) .directory).Rooted := by
  have placed : place ++ [name] ≠ [] := by simp
  intro other last there
  rw [node?_put t _ _ placed] at there ⊢
  by_cases made : other = place ++ [name]
  · rw [if_pos made]
  · rw [if_neg made]
    by_cases own : other ++ [last] = place ++ [name]
    · rw [(List.append_inj' own rfl).1]
      exact inside
    · rw [if_neg own] at there
      exact rooted other last there

include missing in
theorem sameFiles_put_directory : t.SameFiles (t.put (place ++ [name]) .directory) := by
  intro other content
  rw [node?_put t other _ (by simp)]
  by_cases made : other = place ++ [name]
  · simp [made, missing]
  · rw [if_neg made]

include rooted inside missing in
/-- Behind a directory that was missing there is nothing. -/
theorem Rooted.find_put_directory (next : String) (rest : List String) :
    (t.put (place ++ [name]) .directory).find (place ++ name :: next :: rest) =
      t.find (place ++ name :: next :: rest) := by
  have placed : place ++ [name] ≠ [] := by simp
  have made := node?_put_self t .directory placed
  have empty : (t.put (place ++ [name]) .directory).node? (place ++ [name] ++ [next]) = none := by
    rw [node?_put t _ _ placed, if_neg (by simp)]
    exact rooted.node?_below missing next
  have beyond := (rooted.put_directory inside).find_missing made empty rest
  rw [rooted.find_missing inside missing (next :: rest)]
  rwa [List.append_assoc] at beyond

end

/-- A tree with directories made, seen from the places behind them. -/
structure Extends (t : FileTree) (way : List String) (after : FileTree) : Prop where
  rooted : after.Rooted
  files : t.SameFiles after
  find_eq : ∀ name rest, after.find (way ++ name :: rest) = t.find (way ++ name :: rest)

theorem Rooted.extends_self (rooted : t.Rooted) (way : List String) : t.Extends way t where
  rooted := rooted
  files := fun _ _ => Iff.rfl
  find_eq := fun _ _ => rfl

theorem Rooted.extends_extend {after : FileTree} (rooted : t.Rooted)
    (inside : t.node? here = some .directory) (made : t.extend here rest = .ok after) :
    t.Extends (here ++ rest) after := by
  induction rest generalizing t here with
  | nil =>
    cases made
    exact rooted.extends_self _
  | cons name rest ih =>
    rw [extend] at made
    split at made
    next found =>
      have further := ih rooted found made
      rwa [List.append_assoc] at further
    next => cases made
    next missing =>
      have placed : here ++ [name] ≠ [] := by simp
      have further := ih (rooted.put_directory inside) (node?_put_self t _ placed) made
      rw [List.append_assoc, List.singleton_append] at further
      refine ⟨further.rooted, ?_, ?_⟩
      · intro place content
        rw [further.files, sameFiles_put_directory missing]
      · intro last more
        have some : rest ++ last :: more ≠ [] := by simp
        obtain ⟨next, others, split⟩ := List.exists_cons_of_ne_nil some
        have kept := rooted.find_put_directory inside missing next others
        rw [further.find_eq]
        simpa [split] using kept

/-- What a path leads to lies behind any first part of the way to it. -/
theorem exists_behind {way : List String} (part : way <+: place.dropLast) (some : place ≠ []) :
    ∃ first others, place = way ++ first :: others := by
  obtain ⟨more, parts⟩ := part
  have whole := List.dropLast_concat_getLast some
  rw [← parts, List.append_assoc] at whole
  cases more with
  | nil => exact ⟨_, [], whole.symm⟩
  | cons first more => exact ⟨first, more ++ [place.getLast some], whole.symm⟩

/-- However many of the directories on the way are made, the file at its end is read as before. -/
theorem Rooted.readText_makeDirectory {after : FileTree} {way : List String} {path : String}
    (rooted : t.Rooted) (part : way <+: (names path).dropLast)
    (made : t.makeDirectory way = .ok after) : after.readText path = t.readText path := by
  have further := rooted.extends_extend t.node?_nil made
  have same : after.find (names path) = t.find (names path) := by
    by_cases nameless : names path = []
    · rw [nameless, List.dropLast_nil, List.prefix_nil] at part
      rw [part] at made
      cases made
      rfl
    · obtain ⟨first, others, split⟩ := exists_behind part nameless
      rw [split]
      exact further.find_eq first others
  rw [readText, readText, same]

theorem Rooted.makeParent {after : FileTree} {path : String} (rooted : t.Rooted)
    (made : t.makeParent path = .ok after) : after.Rooted :=
  (rooted.extends_extend t.node?_nil made).rooted

/-! ## Files that are put in place -/

theorem Rooted.replaceFile {after : FileTree} {path : String} {content : FileContent}
    (rooted : t.Rooted) (replaced : t.replaceFile path content = .ok after) : after.Rooted := by
  unfold FileTree.replaceFile at replaced
  split at replaced
  next => cases replaced
  next named =>
    split at replaced
    next => cases replaced
    next => cases replaced
    next => cases replaced
    next way free =>
      cases replaced
      have placed : names path ≠ [] := by
        intro nameless
        simp [nameless, node?_nil] at free
      have holder := node?_of_walk way
      rw [List.nil_append] at holder
      intro other last there
      rw [node?_put t _ _ placed] at there ⊢
      by_cases own : other ++ [last] = names path
      · have apart : other ≠ names path := by
          intro same
          have lengths := congrArg List.length (own.trans same.symm)
          rw [List.length_append, List.length_singleton] at lengths
          omega
        rw [if_neg apart]
        rwa [← own, List.dropLast_concat] at holder
      · rw [if_neg own] at there
        have directory := rooted other last there
        by_cases same : other = names path
        · rw [same] at directory
          exact absurd directory free
        · rwa [if_neg same]

end RemoteDevice.FileTree
