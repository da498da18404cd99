import RemoteDevice.Proofs.DisplayUnit.Definitions

/-!
# Loading documents into a cache

Loading is done on a cache in place: all pairs of the document are read first, and the units that
they define are then inserted one after the other. A fault therefore finds the cache as it was. A
document without one is answered with the unit that each of its names has from then on.
-/
set_option autoImplicit false

namespace RemoteDevice.UnitCache

/-! ## Units inserted one after the other -/

section

variable {c : UnitCache} {units known : List DisplayUnit}

theorem get?_insert (c : UnitCache) (u : DisplayUnit) (name : String) :
    (c.insert u).2.get? name = (c.get? name).or (if u.name = name then some u else none) := by
  cases own : c.get? u.name with
  | some first =>
    rw [insert_of_known own]
    by_cases same : u.name = name
    · rw [← same, own, Option.some_or]
    · rw [if_neg same, Option.or_none]
  | none =>
    rw [insert_of_unknown own, get?_append, Association.lookup_cons_eq_ite, List.lookup_nil]
    simp only [eq_comm]

/-- What is known of a name, or else the first unit of that name. -/
theorem get?_insertAll (c : UnitCache) (units : List DisplayUnit) (name : String) :
    (c.insertAll units).2.get? name =
      (c.get? name).or (units.find? fun u => u.name = name) := by
  induction units generalizing c with
  | nil => rw [insertAll, List.find?_nil, Option.or_none]
  | cons u rest ih =>
    have inserted : (c.insertAll (u :: rest)).2 = ((c.insert u).2.insertAll rest).2 := rfl
    rw [inserted, ih, get?_insert, Option.or_assoc, List.find?_cons]
    by_cases same : u.name = name
    · simp [same]
    · simp [same]

theorem known_insertAll (c : UnitCache) (units : List DisplayUnit) :
    List.Forall₂ (fun u k => (c.insertAll units).2.get? u.name = some k) units
      (c.insertAll units).1 := by
  induction units generalizing c with
  | nil => exact .nil
  | cons u rest ih =>
    have inserted : c.insertAll (u :: rest) =
        ((c.insert u).1 :: ((c.insert u).2.insertAll rest).1,
          ((c.insert u).2.insertAll rest).2) := rfl
    rw [inserted]
    refine .cons ?_ (ih (c.insert u).2)
    rw [get?_insertAll, get?_insert_self, Option.some_or]

/-- Units of names that are known are not taken in. -/
theorem insertAll_of_known
    (there : List.Forall₂ (fun u k => c.get? u.name = some k) units known) :
    c.insertAll units = (known, c) := by
  induction there with
  | nil => rfl
  | cons first later ih => simp only [insertAll, insert_of_known first, ih]

/-- Each unit is answered with the one that its name has afterwards. A name that was known keeps its
unit, a new one has the first unit that was to be inserted under it, and no other name changes. -/
structure Takes (c : UnitCache) (units known : List DisplayUnit) (after : UnitCache) : Prop where
  answered : List.Forall₂ (fun u k => after.get? u.name = some k) units known
  kept : ∀ name u, c.get? name = some u → after.get? name = some u
  first : ∀ before u later, units = before ++ u :: later → (∀ b ∈ before, b.name ≠ u.name) →
    c.get? u.name = none → after.get? u.name = some u
  others : ∀ name, (∀ u ∈ units, u.name ≠ name) → after.get? name = c.get? name

theorem takes_insertAll (c : UnitCache) (units : List DisplayUnit) :
    c.Takes units (c.insertAll units).1 (c.insertAll units).2 where
  answered := known_insertAll c units
  kept := by
    intro name u there
    rw [get?_insertAll, there, Option.some_or]
  first := by
    intro before u later parts fresh unknown
    have passed : (before.find? fun b => b.name = u.name) = none := by
      rw [List.find?_eq_none]
      intro b member
      simpa using fresh b member
    rw [get?_insertAll, unknown, Option.none_or, parts, List.find?_append, passed, Option.none_or,
      List.find?_cons_of_pos (by simp)]
  others := by
    intro name absent
    have passed : (units.find? fun u => u.name = name) = none := by
      rw [List.find?_eq_none]
      intro u member
      simpa using absent u member
    rw [get?_insertAll, passed, Option.or_none]

/-- Where no name comes twice, each unit is answered with the one known before or with itself. -/
theorem Takes.known_or_own {after : UnitCache} (h : c.Takes units known after)
    (once : (units.map DisplayUnit.name).Nodup) :
    List.Forall₂ (fun u k => k = (c.get? u.name).getD u) units known := by
  have each : ∀ u ∈ units, ∀ k, after.get? u.name = some k → k = (c.get? u.name).getD u := by
    intro u member k answer
    cases unknown : c.get? u.name with
    | some first =>
      rw [h.kept u.name first unknown] at answer
      exact (Option.some.inj answer).symm
    | none =>
      obtain ⟨before, later, parts⟩ := List.append_of_mem member
      have fresh : ∀ b ∈ before, b.name ≠ u.name := by
        intro b among same
        rw [parts, List.map_append, List.nodup_append] at once
        exact once.2.2 b.name (List.mem_map_of_mem among) u.name (by simp) same
      rw [h.first before u later parts fresh unknown] at answer
      exact (Option.some.inj answer).symm
  have answered := (List.forall₂_and_left units known).mpr ⟨fun u member => member, h.answered⟩
  exact answered.imp fun u k both => each u both.1 k both.2

end

/-! ## Loading in place -/

/-- Programs that change the units known as they go. What they did before they failed stays done. -/
abbrev InPlace (α : Type) : Type := ExceptT DefinitionError (StateM UnitCache) α

def takeIn (u : DisplayUnit) : InPlace DisplayUnit := modifyGet fun c => c.insert u

def loadInPlace (v : Yaml.Value) : InPlace (List DisplayUnit) := do
  let pairs ← match v with
    | .null => pure []
    | .mapping pairs => pure pairs
    | other => throw (.notMapping other.kind)
  let units ← pairs.mapM fun pair => liftM (DisplayUnit.ofDefinition pair)
  units.mapM takeIn

section

variable {α β : Type} {c after : UnitCache}

theorem run_bind_ok {m : InPlace α} {f : α → InPlace β} {a : α}
    (done : m.run.run c = (.ok a, after)) : (m >>= f).run.run c = (f a).run.run after := by
  rw [ExceptT.run_bind, StateT.run_bind, done]
  rfl

theorem run_bind_error {m : InPlace α} {f : α → InPlace β} {e : DefinitionError}
    (failed : m.run.run c = (.error e, after)) : (m >>= f).run.run c = (.error e, after) := by
  rw [ExceptT.run_bind, StateT.run_bind, failed]
  rfl

/-- Reading leaves the cache alone. -/
theorem run_mapM_lift (read : α → Except DefinitionError β) (l : List α) (c : UnitCache) :
    (l.mapM fun a => (liftM (read a) : InPlace β)).run.run c = (l.mapM read, c) := by
  induction l with
  | nil => rfl
  | cons a l ih =>
    rw [List.mapM_cons, List.mapM_cons]
    cases first : read a with
    | error e =>
      have failed : (liftM (Except.error e : Except DefinitionError β) : InPlace β).run.run c =
          (.error e, c) := rfl
      exact run_bind_error failed
    | ok b =>
      have done : (liftM (Except.ok b : Except DefinitionError β) : InPlace β).run.run c =
          (.ok b, c) := rfl
      rw [run_bind_ok done]
      cases later : l.mapM read with
      | error e =>
        rw [later] at ih
        exact run_bind_error ih
      | ok bs =>
        rw [later] at ih
        exact run_bind_ok ih

theorem run_mapM_takeIn (units : List DisplayUnit) (c : UnitCache) :
    (units.mapM takeIn).run.run c = (.ok (c.insertAll units).1, (c.insertAll units).2) := by
  induction units generalizing c with
  | nil => rfl
  | cons u rest ih =>
    have done : (takeIn u).run.run c = (.ok (c.insert u).1, (c.insert u).2) := rfl
    rw [List.mapM_cons, run_bind_ok done, run_bind_ok (ih (c.insert u).2)]
    rfl

theorem loadInPlace_eq {v : Yaml.Value} {pairs : List (Yaml.Value × Yaml.Value)}
    (lists : DisplayUnit.Lists v pairs) :
    loadInPlace v =
      (pairs.mapM fun pair => (liftM (DisplayUnit.ofDefinition pair) : InPlace DisplayUnit)) >>=
        fun units => units.mapM takeIn := by
  cases lists with
  | empty => rfl
  | mapping pairs => rfl

theorem run_loadInPlace_of_ok {v : Yaml.Value} {units : List DisplayUnit}
    (read : DisplayUnit.ofValue v = .ok units) (c : UnitCache) :
    (loadInPlace v).run.run c = (.ok (c.insertAll units).1, (c.insertAll units).2) := by
  obtain ⟨pairs, lists, -⟩ := DisplayUnit.ofValue_eq_ok_iff.mp read
  rw [lists.ofValue_eq] at read
  have all := run_mapM_lift DisplayUnit.ofDefinition pairs c
  rw [read] at all
  rw [loadInPlace_eq lists, run_bind_ok all, run_mapM_takeIn]

theorem run_loadInPlace_of_error {v : Yaml.Value} {e : DefinitionError}
    (refused : DisplayUnit.ofValue v = .error e) (c : UnitCache) :
    (loadInPlace v).run.run c = (.error e, c) := by
  by_cases listed : ∃ pairs, DisplayUnit.Lists v pairs
  · obtain ⟨pairs, lists⟩ := listed
    rw [lists.ofValue_eq] at refused
    have all := run_mapM_lift DisplayUnit.ofDefinition pairs c
    rw [refused] at all
    rw [loadInPlace_eq lists, run_bind_error all]
  · have unlisted := not_exists.mp listed
    rw [DisplayUnit.ofValue_unlisted unlisted] at refused
    cases refused
    cases v with
    | null => exact absurd .empty (unlisted [])
    | mapping pairs => exact absurd (.mapping pairs) (unlisted pairs)
    | _ => rfl

end

/-! ## All or nothing -/

/-- The keys are pairwise different and have no tags. -/
structure Keyed (pairs : List (Yaml.Value × Yaml.Value)) : Prop where
  distinct : (pairs.map Prod.fst).Nodup
  untagged : ∀ pair ∈ pairs, ∀ tag v, pair.1 ≠ .tagged tag v

theorem Keyed.names_nodup {pairs : List (Yaml.Value × Yaml.Value)} {units : List DisplayUnit}
    (h : Keyed pairs) (defines : List.Forall₂ DisplayUnit.Defines pairs units) :
    (units.map DisplayUnit.name).Nodup := by
  have keys : pairs.map Prod.fst = (units.map DisplayUnit.name).map Yaml.Value.text := by
    have untagged := h.untagged
    clear h
    induction defines with
    | nil => rfl
    | @cons pair u pairs units first later ih =>
      obtain ⟨plain, untagged⟩ := List.forall_mem_cons.mp untagged
      rw [List.map_cons, List.map_cons, List.map_cons, ← ih untagged]
      congr 1
      cases spelled : pair.1 with
      | tagged tag v => exact absurd spelled (plain tag v)
      | text s =>
        have named := first.named
        rw [spelled] at named
        cases named
        rfl
      | _ =>
        have named := first.named
        rw [spelled] at named
        cases named
  have distinct := h.distinct
  rw [keys] at distinct
  exact distinct.of_map

/-- A faulty document fails with its first fault, whatever is known, and the cache stays as it was.
Any other document defines a unit with each of its pairs. It is answered with one unit for each, the
one that its name has afterwards: that is the one known before, or else the first of the document,
and with it all of them if the keys are pairwise different and have no tags. Other names keep what
they had, and loading the document once more gives the same units and changes nothing. -/
theorem load_all_or_nothing (c : UnitCache) (v : Yaml.Value) :
    (∀ e, DisplayUnit.Mislists v e →
      c.loadValue v = .error e ∧ (loadInPlace v).run.run c = (.error e, c)) ∧
    ((¬∃ e, DisplayUnit.Mislists v e) →
      ∃ pairs units known after, DisplayUnit.Lists v pairs ∧
        List.Forall₂ DisplayUnit.Defines pairs units ∧
        c.loadValue v = .ok (known, after) ∧ (loadInPlace v).run.run c = (.ok known, after) ∧
        c.Takes units known after ∧
        (Keyed pairs → List.Forall₂ (fun u k => k = (c.get? u.name).getD u) units known) ∧
        after.loadValue v = .ok (known, after) ∧
        (loadInPlace v).run.run after = (.ok known, after)) := by
  constructor
  · intro e faulty
    have refused := DisplayUnit.ofValue_eq_error_iff.mpr faulty
    exact ⟨map_eq_error_iff.mpr refused, run_loadInPlace_of_error refused c⟩
  · intro sound
    cases read : DisplayUnit.ofValue v with
    | error e => exact absurd ⟨e, DisplayUnit.ofValue_eq_error_iff.mp read⟩ sound
    | ok units =>
      obtain ⟨pairs, lists, defines⟩ := DisplayUnit.ofValue_eq_ok_iff.mp read
      have takes := takes_insertAll c units
      have again := insertAll_of_known takes.answered
      have rerun := run_loadInPlace_of_ok read (c.insertAll units).2
      rw [again] at rerun
      refine ⟨pairs, units, _, _, lists, defines, map_eq_ok_iff.mpr ⟨units, read, rfl⟩,
        run_loadInPlace_of_ok read c, takes, ?_, map_eq_ok_iff.mpr ⟨units, read, again⟩, rerun⟩
      intro keyed
      exact takes.known_or_own (keyed.names_nodup defines)

def speedKnown : UnitCache := ⟨[("speed", labelled "speed" "km/h")]⟩

/-- Defines a new unit, and then again the one that is known. -/
def speedDocument (config : String) : Yaml.Value :=
  .mapping [(.text "count", .null), (.text "speed", .text config)]

/-- A sound configuration of a known name is answered with the unit that is known, and a broken one
spoils the whole document. -/
theorem load_all_or_nothing_speed :
    (∃ e, DisplayUnit.Mislists (speedDocument "denominator=0") e ∧
      (loadInPlace (speedDocument "denominator=0")).run.run speedKnown =
        (.error e, speedKnown)) ∧
    (¬∃ e, DisplayUnit.Mislists (speedDocument "label=mph") e) ∧
    ∃ known after, known.map DisplayUnit.label = ["count", "km/h"] ∧
      (loadInPlace (speedDocument "label=mph")).run.run speedKnown = (.ok known, after) ∧
      (loadInPlace (speedDocument "label=mph")).run.run after = (.ok known, after) := by
  have refused : DisplayUnit.ofValue (speedDocument "denominator=0") =
      .error (.config ⟨"speed", "denominator", .notPositive 0⟩) := by decide +kernel
  have read : DisplayUnit.ofValue (speedDocument "label=mph") =
      .ok [labelled "count" "count", labelled "speed" "mph"] := by decide +kernel
  have broken := DisplayUnit.ofValue_eq_error_iff.mp refused
  have sound : ¬∃ e, DisplayUnit.Mislists (speedDocument "label=mph") e := by
    rintro ⟨e, faulty⟩
    rw [DisplayUnit.ofValue_eq_error_iff.mpr faulty] at read
    cases read
  obtain ⟨nothing, -⟩ := load_all_or_nothing speedKnown (speedDocument "denominator=0")
  obtain ⟨-, all⟩ := load_all_or_nothing speedKnown (speedDocument "label=mph")
  obtain ⟨pairs, units, known, after, lists, defines, -, run, -, own, -, rerun⟩ := all sound
  refine ⟨⟨_, broken, (nothing _ broken).2⟩, sound, known, after, ?_, run, rerun⟩
  cases lists.unique (.mapping _)
  have same : units = [labelled "count" "count", labelled "speed" "mph"] := by
    have again := DisplayUnit.ofValue_eq_ok_iff.mpr ⟨_, lists, defines⟩
    exact Except.ok.inj (again.symm.trans read)
  subst same
  have keyed : Keyed [(.text "count", .null), (.text "speed", .text "label=mph")] :=
    ⟨by simp, by simp⟩
  cases own keyed with
  | cons first rest =>
    cases rest with
    | cons second rest =>
      cases rest
      rw [first, second]
      decide +kernel

end RemoteDevice.UnitCache
