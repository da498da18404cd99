import RemoteDevice.Proofs.Descriptor.RoundTrip

/-!
# Why a descriptor is not written

Several things can be wrong with a descriptor at once. All that a descriptor can be refused for
stands in one list, and the check stops at the first of them that is the case. The host has two
places in it: one among the other texts, and one for what only a host has to satisfy.
-/
set_option autoImplicit false

namespace RemoteDevice.Descriptor

/-- What is wrong with a descriptor. -/
inductive Offends (d : Descriptor) : FieldError → Prop
  | badTag (improper : d.tag = "" ∨ ∃ c ∈ d.tag.toList, c.isAlphanum = false) :
      Offends d ⟨.tag, .badTag d.tag⟩
  | zeroPort (zero : d.port = 0) : Offends d ⟨.port, .zeroPort⟩
  | delimiter {field : DescriptorField} {text : String} (entry : (field, text) ∈ d.texts)
      (there : ':' ∈ text.toList) : Offends d ⟨field, .delimiter⟩
  | lineBreak {field : DescriptorField} {text : String} (entry : (field, text) ∈ d.texts)
      (there : '\n' ∈ text.toList ∨ '\r' ∈ text.toList) : Offends d ⟨field, .lineBreak⟩
  | blankHost (blank : ∀ c ∈ d.host.toList, Text.isBlank c = true) : Offends d ⟨.host, .blankHost⟩
  | paddedHost (padded : Text.trim d.host ≠ d.host) : Offends d ⟨.host, .paddedHost⟩

/-- What a descriptor can be refused for, in the order in which it is told. -/
def grounds (d : Descriptor) : List FieldError :=
  [⟨.tag, .badTag d.tag⟩, ⟨.port, .zeroPort⟩,
    ⟨.user, .delimiter⟩, ⟨.user, .lineBreak⟩, ⟨.password, .delimiter⟩, ⟨.password, .lineBreak⟩,
    ⟨.name, .delimiter⟩, ⟨.name, .lineBreak⟩, ⟨.host, .delimiter⟩, ⟨.host, .lineBreak⟩,
    ⟨.psk, .delimiter⟩, ⟨.psk, .lineBreak⟩,
    ⟨.host, .blankHost⟩, ⟨.host, .paddedHost⟩]

/-! ## One ground after the other -/

section

variable {d : Descriptor} {field : DescriptorField}

theorem offends_badTag_iff {tag : String} :
    d.Offends ⟨field, .badTag tag⟩ ↔ field = .tag ∧ tag = d.tag ∧ isTag d.tag = false := by
  have improper : isTag d.tag = false ↔ d.tag = "" ∨ ∃ c ∈ d.tag.toList, c.isAlphanum = false := by
    rw [← Bool.not_eq_true, isTag_iff, not_and_or, not_ne_iff]
    simp
  rw [improper]
  constructor
  · intro offends
    cases offends with
    | badTag improper => exact ⟨rfl, rfl, improper⟩
  · rintro ⟨rfl, rfl, improper⟩
    exact .badTag improper

theorem offends_zeroPort_iff : d.Offends ⟨field, .zeroPort⟩ ↔ field = .port ∧ d.port = 0 := by
  constructor
  · intro offends
    cases offends with
    | zeroPort zero => exact ⟨rfl, zero⟩
  · rintro ⟨rfl, zero⟩
    exact .zeroPort zero

theorem offends_delimiter_iff :
    d.Offends ⟨field, .delimiter⟩ ↔
      ∃ entry ∈ d.texts, entry.1 = field ∧ entry.2.toList.contains ':' = true := by
  simp only [List.contains_iff_mem]
  constructor
  · intro offends
    cases offends with
    | delimiter entry there => exact ⟨_, entry, rfl, there⟩
  · rintro ⟨⟨_, text⟩, entry, rfl, there⟩
    exact .delimiter entry there

theorem offends_lineBreak_iff :
    d.Offends ⟨field, .lineBreak⟩ ↔
      ∃ entry ∈ d.texts, entry.1 = field ∧ entry.2.toList.any isLineBreak = true := by
  simp only [any_isLineBreak_iff]
  constructor
  · intro offends
    cases offends with
    | lineBreak entry there => exact ⟨_, entry, rfl, there⟩
  · rintro ⟨⟨_, text⟩, entry, rfl, there⟩
    exact .lineBreak entry there

theorem offends_blankHost_iff :
    d.Offends ⟨field, .blankHost⟩ ↔ field = .host ∧ (Text.trim d.host).isEmpty = true := by
  rw [String.isEmpty_iff, Text.trim, String.ofList_eq_empty_iff, Text.trimChars_eq_iff,
    Text.trims_nil_iff]
  constructor
  · intro offends
    cases offends with
    | blankHost blank => exact ⟨rfl, blank⟩
  · rintro ⟨rfl, blank⟩
    exact .blankHost blank

theorem offends_paddedHost_iff :
    d.Offends ⟨field, .paddedHost⟩ ↔ field = .host ∧ Text.trim d.host ≠ d.host := by
  constructor
  · intro offends
    cases offends with
    | paddedHost padded => exact ⟨rfl, padded⟩
  · rintro ⟨rfl, padded⟩
    exact .paddedHost padded

end

instance (d : Descriptor) : DecidablePred d.Offends
  | ⟨_, .badTag _⟩ => decidable_of_iff' _ offends_badTag_iff
  | ⟨_, .zeroPort⟩ => decidable_of_iff' _ offends_zeroPort_iff
  | ⟨_, .delimiter⟩ => decidable_of_iff' _ offends_delimiter_iff
  | ⟨_, .lineBreak⟩ => decidable_of_iff' _ offends_lineBreak_iff
  | ⟨_, .blankHost⟩ => decidable_of_iff' _ offends_blankHost_iff
  | ⟨_, .paddedHost⟩ => decidable_of_iff' _ offends_paddedHost_iff

/-- The check for one ground. -/
def refuse (d : Descriptor) (e : FieldError) : Except FieldError Unit :=
  if d.Offends e then .error e else .ok ()

section

variable {d : Descriptor} {e : FieldError}

theorem refuse_eq_ok_iff : d.refuse e = .ok () ↔ ¬d.Offends e := by
  rw [refuse]
  split <;> simp_all

theorem refuse_eq_error_iff {e' : FieldError} : d.refuse e = .error e' ↔ d.Offends e ∧ e = e' := by
  rw [refuse]
  split <;> simp_all

theorem refuse_eq_ite {p : Prop} [Decidable p] (same : d.Offends e ↔ p) :
    d.refuse e = if p then .error e else .ok () := by
  rw [refuse]
  simp only [same]

theorem checkTag_eq : checkTag d.tag = d.refuse ⟨.tag, .badTag d.tag⟩ := by
  rw [refuse_eq_ite offends_badTag_iff, checkTag]
  cases isTag d.tag <;> simp

theorem checkPort_eq : checkPort d.port = d.refuse ⟨.port, .zeroPort⟩ := by
  rw [refuse_eq_ite offends_zeroPort_iff, checkPort]
  simp only [true_and]

/-- A field has one text. -/
theorem exists_texts_iff {field : DescriptorField} {text : String} {p : String → Prop}
    (entry : (field, text) ∈ d.texts) :
    (∃ entry ∈ d.texts, entry.1 = field ∧ p entry.2) ↔ p text := by
  constructor
  · rintro ⟨⟨_, other⟩, entry', rfl, there⟩
    have same : other = text := by
      simp only [texts, List.mem_cons, Prod.mk.injEq, List.not_mem_nil, or_false] at entry entry'
      grind
    exact same ▸ there
  · intro there
    exact ⟨_, entry, rfl, there⟩

theorem checkText_eq {field : DescriptorField} {text : String} (entry : (field, text) ∈ d.texts) :
    checkText field text =
      d.refuse ⟨field, .delimiter⟩ >>= fun _ => d.refuse ⟨field, .lineBreak⟩ := by
  have delimiter := (offends_delimiter_iff (d := d)).trans
    (exists_texts_iff (p := fun text => text.toList.contains ':' = true) entry)
  have lineBreak := (offends_lineBreak_iff (d := d)).trans
    (exists_texts_iff (p := fun text => text.toList.any isLineBreak = true) entry)
  rw [refuse_eq_ite delimiter, refuse_eq_ite lineBreak, checkText]
  split <;> rfl

theorem checkHost_eq :
    checkHost d.host = d.refuse ⟨.host, .blankHost⟩ >>= fun _ => d.refuse ⟨.host, .paddedHost⟩ := by
  rw [refuse_eq_ite offends_blankHost_iff, refuse_eq_ite offends_paddedHost_iff, checkHost]
  simp only [true_and]
  split <;> rfl

/-- The checks of some of the texts go through the grounds that these texts can give. -/
theorem forM_checkText {entries : List (DescriptorField × String)} (among : entries ⊆ d.texts) :
    (entries.forM fun (field, text) => checkText field text) =
      (entries.flatMap fun entry => [⟨entry.1, .delimiter⟩, ⟨entry.1, .lineBreak⟩]).forM
        d.refuse := by
  induction entries with
  | nil => rfl
  | cons entry entries ih =>
    obtain ⟨here, later⟩ := List.cons_subset.mp among
    have first := checkText_eq (d := d) here
    have rest := ih later
    simp only [List.flatMap_cons, List.forM_eq_forM, List.forM_append, List.forM_cons,
      List.forM_nil, bind_assoc, pure_bind] at rest ⊢
    rw [first, rest, bind_assoc]

end

theorem check_eq_forM (d : Descriptor) : d.check = d.grounds.forM d.refuse := by
  have parts : d.grounds =
      [⟨.tag, .badTag d.tag⟩, ⟨.port, .zeroPort⟩] ++
        d.texts.flatMap (fun entry => [⟨entry.1, .delimiter⟩, ⟨entry.1, .lineBreak⟩]) ++
        [⟨.host, .blankHost⟩, ⟨.host, .paddedHost⟩] := rfl
  rw [check, checkTag_eq, checkPort_eq, checkHost_eq, forM_checkText (List.Subset.refl _), parts]
  simp only [List.forM_eq_forM, List.forM_append, List.forM_cons, List.forM_nil, bind_assoc,
    bind_pure_unit]

theorem encode_eq_error_iff {d : Descriptor} {e : FieldError} :
    d.encode = .error e ↔
      ∃ before after, d.grounds = before ++ e :: after ∧ d.Offends e ∧
        ∀ earlier ∈ before, ¬d.Offends earlier := by
  have refused : d.encode = .error e ↔ d.check = .error e := by
    rw [encode]
    cases d.check <;> simp [bind, Except.bind, pure, Except.pure]
  rw [refused, check_eq_forM, forM_eq_error_iff]
  simp only [refuse_eq_ok_iff, refuse_eq_error_iff]
  constructor
  · rintro ⟨before, _, after, parts, passed, offends, rfl⟩
    exact ⟨before, after, parts, offends, passed⟩
  · rintro ⟨before, after, parts, offends, passed⟩
    exact ⟨before, e, after, parts, passed, offends, rfl⟩

/-! ## What is written -/

/-- Six fields are written, and no field holds a colon. -/
theorem Writable.count_delimiter {d : Descriptor} (h : d.Writable) :
    ([':'].intercalate (d.fields.map String.toList)).count ':' = 5 := by
  have fields := Text.split_intercalate h.delimiter_not_mem_fields (by simp [Descriptor.fields])
  have length := Text.length_split ':' ([':'].intercalate (d.fields.map String.toList))
  rw [fields, List.length_map] at length
  exact (Nat.succ.inj length).symm

/-- A descriptor is written exactly if its tag is made of letters and digits, its port is not zero,
no text of it holds a colon or a line break, and its host is there without blanks around it. What
is written has five colons after the tag and its separator. Every other descriptor is refused with
the first ground that is the case. -/
theorem encode_exact (d : Descriptor) :
    ((∃ text, d.encode = .ok text) ↔
      (d.tag ≠ "" ∧ ∀ c ∈ d.tag.toList, c.isAlphanum = true) ∧ d.port ≠ 0 ∧
      (∀ text ∈ [d.user, d.password, d.name, d.host, d.psk.getD ""],
        ∀ c ∈ text.toList, c ≠ ':' ∧ c ≠ '\n' ∧ c ≠ '\r') ∧
      d.host ≠ "" ∧ Text.trim d.host = d.host) ∧
    (∀ text, d.encode = .ok text →
      ∃ rest, text = d.tag ++ "://" ++ rest ∧ rest.toList.count ':' = 5) ∧
    ∀ e, d.encode = .error e ↔
      ∃ before after, d.grounds = before ++ e :: after ∧ d.Offends e ∧
        ∀ earlier ∈ before, ¬d.Offends earlier := by
  refine ⟨?_, ?_, fun e => encode_eq_error_iff⟩
  · simp only [encode_eq_ok_iff, exists_and_left, exists_eq', and_true]
    constructor
    · intro h
      exact ⟨⟨h.tag_ne, h.alphanum⟩, h.port_ne, h.plain, h.host_ne, h.host_trimmed⟩
    · rintro ⟨⟨tag_ne, alphanum⟩, port_ne, plain, host_ne, host_trimmed⟩
      exact ⟨tag_ne, alphanum, port_ne, plain, host_ne, host_trimmed⟩
  · intro text written
    obtain ⟨h, rfl⟩ := encode_eq_ok_iff.mp written
    refine ⟨String.intercalate ":" d.fields, rfl, ?_⟩
    have colons := h.count_delimiter
    simpa using colons

/-- A line break in the user comes before the colon in the name, and both before the blank host. -/
example :
    let d : Descriptor := { tag := "tcpip", user := "a\nb", name := "x:y", host := " ", port := 1 }
    d.encode = .error ⟨.user, .lineBreak⟩ ∧ d.Offends ⟨.name, .delimiter⟩ ∧
      d.Offends ⟨.host, .blankHost⟩ := by
  decide

end RemoteDevice.Descriptor
