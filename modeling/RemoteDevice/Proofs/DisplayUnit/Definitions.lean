import RemoteDevice.DisplayUnit.Definitions
import RemoteDevice.Proofs.DisplayUnit.Agreement
import RemoteDevice.Proofs.Outcome

/-!
# Documents of unit definitions

A document lists pairs of a name and a configuration. Each pair defines a unit or has a fault, the
first pair at fault decides the error, and what is known already has no part in this. Only where
every pair defines a unit are units taken into the cache, and the first one of a name wins.
-/
set_option autoImplicit false

namespace RemoteDevice

/-! ## Single definitions -/

/-- The value is a text, tags apart. -/
inductive Yaml.Value.Spells : Value → String → Prop
  | text (s : String) : Spells (.text s) s
  | tagged (tag : String) {v : Value} {s : String} (inside : v.Spells s) : Spells (.tagged tag v) s

theorem Yaml.Value.text?_eq_some_iff {v : Value} {s : String} : v.text? = some s ↔ v.Spells s := by
  constructor
  · intro read
    fun_induction untagged v with
    | case1 tag v ih => exact .tagged tag (ih read)
    | case2 v plain =>
      cases v with
      | text t =>
        cases read
        exact .text s
      | tagged tag v => exact absurd rfl (plain tag v)
      | _ => cases read
  · intro spells
    induction spells with
    | text s => rfl
    | tagged tag inside ih => exact ih

namespace DisplayUnit

/-- A configuration that is left out is empty. -/
inductive Configures : Yaml.Value → String → Prop
  | text (config : String) : Configures (.text config) config
  | omitted : Configures .null ""

/-- The pair gives the unit its name and a configuration that makes it. -/
structure Defines (pair : Yaml.Value × Yaml.Value) (u : DisplayUnit) : Prop where
  named : pair.1.Spells u.name
  configured : ∃ config, Configures pair.2 config ∧ parse u.name config = .ok u

inductive Misdefines : Yaml.Value × Yaml.Value → DefinitionError → Prop
  | name {key value : Yaml.Value} (unnamed : ∀ name, ¬ key.Spells name) :
      Misdefines (key, value) (.nameNotText key.kind)
  | config {key value : Yaml.Value} {name : String} (named : key.Spells name)
      (unfit : ∀ config, ¬ Configures value config) :
      Misdefines (key, value) (.configNotText name value.kind)
  | unit {key value : Yaml.Value} {name config : String} {e : ConfigError}
      (named : key.Spells name) (configured : Configures value config)
      (refused : parse name config = .error e) : Misdefines (key, value) (.config e)

section

variable {key value : Yaml.Value} {name config : String}

theorem ofDefinition_unnamed (unnamed : ∀ name, ¬ key.Spells name) :
    ofDefinition (key, value) = .error (.nameNotText key.kind) := by
  have nothing : key.text? = none := by
    rw [Option.eq_none_iff_forall_ne_some]
    intro name read
    exact unnamed name (Yaml.Value.text?_eq_some_iff.mp read)
  simp only [ofDefinition, nothing]

theorem ofDefinition_unfit (named : key.Spells name) (unfit : ∀ config, ¬ Configures value config) :
    ofDefinition (key, value) = .error (.configNotText name value.kind) := by
  simp only [ofDefinition, Yaml.Value.text?_eq_some_iff.mpr named]
  cases value with
  | text config => exact absurd (.text config) (unfit config)
  | null => exact absurd .omitted (unfit "")
  | _ => rfl

theorem ofDefinition_configured (named : key.Spells name) (configured : Configures value config) :
    ofDefinition (key, value) = (parse name config).mapError .config := by
  simp only [ofDefinition, Yaml.Value.text?_eq_some_iff.mpr named]
  cases configured with
  | text config => rfl
  | omitted => rfl

end

variable {pair : Yaml.Value × Yaml.Value} {u : DisplayUnit} {e : DefinitionError}

theorem Defines.ofDefinition_eq (h : Defines pair u) : ofDefinition pair = .ok u := by
  obtain ⟨config, configured, accepted⟩ := h.configured
  rw [ofDefinition_configured h.named configured, accepted]
  rfl

theorem Misdefines.ofDefinition_eq (h : Misdefines pair e) : ofDefinition pair = .error e := by
  cases h with
  | name unnamed => exact ofDefinition_unnamed unnamed
  | config named unfit => exact ofDefinition_unfit named unfit
  | unit named configured refused =>
    rw [ofDefinition_configured named configured, refused]
    rfl

theorem defines_or_misdefines (pair : Yaml.Value × Yaml.Value) :
    (∃ u, Defines pair u) ∨ ∃ e, Misdefines pair e := by
  obtain ⟨key, value⟩ := pair
  by_cases named : ∃ name, key.Spells name
  · obtain ⟨name, named⟩ := named
    by_cases configured : ∃ config, Configures value config
    · obtain ⟨config, configured⟩ := configured
      cases parsed : parse name config with
      | ok u =>
        have own := name_of_parse parsed
        exact .inl ⟨u, own ▸ named, config, configured, own.symm ▸ parsed⟩
      | error e => exact .inr ⟨_, .unit named configured parsed⟩
    · exact .inr ⟨_, .config named (not_exists.mp configured)⟩
  · exact .inr ⟨_, .name (not_exists.mp named)⟩

theorem ofDefinition_eq_ok_iff : ofDefinition pair = .ok u ↔ Defines pair u := by
  constructor
  · intro read
    rcases defines_or_misdefines pair with ⟨other, defines⟩ | ⟨e, misdefines⟩
    · rw [defines.ofDefinition_eq] at read
      exact Except.ok.inj read ▸ defines
    · rw [misdefines.ofDefinition_eq] at read
      cases read
  · exact Defines.ofDefinition_eq

theorem ofDefinition_eq_error_iff : ofDefinition pair = .error e ↔ Misdefines pair e := by
  constructor
  · intro read
    rcases defines_or_misdefines pair with ⟨u, defines⟩ | ⟨other, misdefines⟩
    · rw [defines.ofDefinition_eq] at read
      cases read
    · rw [misdefines.ofDefinition_eq] at read
      exact Except.error.inj read ▸ misdefines
  · exact Misdefines.ofDefinition_eq

/-! ## Whole documents -/

theorem ofDefinitions_eq_mapM (pairs : List (Yaml.Value × Yaml.Value)) :
    ofDefinitions pairs = pairs.mapM ofDefinition := by
  induction pairs with
  | nil => rfl
  | cons pair rest ih =>
    rw [ofDefinitions, List.mapM_cons, ih]
    cases ofDefinition pair with
    | error e => rfl
    | ok u => cases rest.mapM ofDefinition <;> rfl

/-- An empty document lists nothing. -/
inductive Lists : Yaml.Value → List (Yaml.Value × Yaml.Value) → Prop
  | empty : Lists .null []
  | mapping (pairs : List (Yaml.Value × Yaml.Value)) : Lists (.mapping pairs) pairs

/-- The document is no list of definitions, or the first faulty one of them has this fault. -/
inductive Mislists : Yaml.Value → DefinitionError → Prop
  | notMapping {v : Yaml.Value} (unlisted : ∀ pairs, ¬ Lists v pairs) :
      Mislists v (.notMapping v.kind)
  | definition {v : Yaml.Value} {before after : List (Yaml.Value × Yaml.Value)}
      {pair : Yaml.Value × Yaml.Value} {e : DefinitionError}
      (lists : Lists v (before ++ pair :: after)) (sound : ∀ b ∈ before, ∃ u, Defines b u)
      (bad : Misdefines pair e) : Mislists v e

variable {v : Yaml.Value} {pairs : List (Yaml.Value × Yaml.Value)}

theorem Lists.unique {others : List (Yaml.Value × Yaml.Value)} (h : Lists v pairs)
    (h' : Lists v others) : pairs = others := by
  cases h with
  | empty =>
    cases h'
    rfl
  | mapping pairs =>
    cases h'
    rfl

theorem ofValue_unlisted (unlisted : ∀ pairs, ¬ Lists v pairs) :
    ofValue v = .error (.notMapping v.kind) := by
  cases v with
  | null => exact absurd .empty (unlisted [])
  | mapping pairs => exact absurd (.mapping pairs) (unlisted pairs)
  | _ => rfl

theorem Lists.ofValue_eq (h : Lists v pairs) : ofValue v = pairs.mapM ofDefinition := by
  cases h with
  | empty => rfl
  | mapping pairs => exact ofDefinitions_eq_mapM pairs

theorem ofValue_eq_ok_iff {units : List DisplayUnit} :
    ofValue v = .ok units ↔ ∃ pairs, Lists v pairs ∧ List.Forall₂ Defines pairs units := by
  by_cases listed : ∃ pairs, Lists v pairs
  · obtain ⟨pairs, lists⟩ := listed
    rw [lists.ofValue_eq, mapM_eq_ok_iff]
    simp only [ofDefinition_eq_ok_iff]
    constructor
    · intro defines
      exact ⟨pairs, lists, defines⟩
    · rintro ⟨others, lists', defines⟩
      exact lists.unique lists' ▸ defines
  · rw [ofValue_unlisted (not_exists.mp listed)]
    constructor
    · intro read
      cases read
    · rintro ⟨pairs, lists, -⟩
      exact absurd ⟨pairs, lists⟩ listed

theorem ofValue_eq_error_iff : ofValue v = .error e ↔ Mislists v e := by
  by_cases listed : ∃ pairs, Lists v pairs
  · obtain ⟨pairs, lists⟩ := listed
    rw [lists.ofValue_eq, mapM_eq_error_iff]
    simp only [ofDefinition_eq_ok_iff, ofDefinition_eq_error_iff]
    constructor
    · rintro ⟨before, pair, after, rfl, sound, bad⟩
      exact .definition lists sound bad
    · intro mislists
      cases mislists with
      | notMapping unlisted => exact absurd lists (unlisted pairs)
      | definition lists' sound bad => exact ⟨_, _, _, lists.unique lists', sound, bad⟩
  · have unlisted := not_exists.mp listed
    rw [ofValue_unlisted unlisted]
    constructor
    · intro read
      cases read
      exact .notMapping unlisted
    · intro mislists
      cases mislists with
      | notMapping unlisted => rfl
      | definition lists sound bad => exact absurd lists (unlisted _)

end DisplayUnit

end RemoteDevice
