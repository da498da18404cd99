import RemoteDevice.Proofs.Outcome
import RemoteDevice.Proofs.Property.Ordered
import RemoteDevice.Property.Parser

/-!
# Property texts in passes

The text is first taken apart into marks, each a plain or an escaped character; the marks are cut
into segments at every plain `;`; a segment is cut at its first plain `=`; and only then is it read.
The parser does all of this in one pass and comes to the same (`parse_eq_readSegments`), because
what it has at hand of a segment is what the passes make of the marks so far.
-/
set_option autoImplicit false

namespace RemoteDevice.Properties

/-! ## The passes -/

/-- One character of the text, plain or with a backslash before it. -/
inductive Mark where
  | plain (c : Char)
  | escaped (c : Char)
deriving DecidableEq, Repr

namespace Mark

/-- The character that the mark stands for. -/
def char : Mark → Char
  | plain c => c
  | escaped c => c

/-- The mark as it was written. -/
def source : Mark → List Char
  | plain c => [c]
  | escaped c => ['\\', c]

/-- The marks of a text, and whether it ends in a backslash that escapes nothing. -/
def scan : List Char → List Mark × Bool
  | [] => ([], false)
  | ['\\'] => ([], true)
  | '\\' :: c :: rest => let (marks, dangling) := scan rest; (escaped c :: marks, dangling)
  | c :: rest => let (marks, dangling) := scan rest; (plain c :: marks, dangling)

end Mark

/-- The runs of marks between the plain semicolons. -/
def segments : List Mark → List (List Mark)
  | [] => [[]]
  | m :: rest =>
    if m = .plain ';' then [] :: segments rest
    else
      match segments rest with
      | [] => [[m]]
      | s :: more => (m :: s) :: more

/-- The marks before the first plain `=`, and those after it if there is one. -/
def separate : List Mark → List Mark × Option (List Mark)
  | [] => ([], none)
  | m :: rest =>
    if m = .plain '=' then ([], some rest)
    else let (key, value) := separate rest; (m :: key, value)

/-- The characters of some marks without the blanks around them. -/
def content (marks : List Mark) : String :=
  String.ofList (Text.trimChars (marks.map Mark.char))

/-- The written form of some marks without the blanks around it. -/
def sourceText (marks : List Mark) : String :=
  String.ofList (Text.trimChars (marks.flatMap Mark.source))

/-- What a complete segment says: nothing if it is blank, otherwise a pair. -/
def readSegment (marks : List Mark) : Except PropertyError (Option (String × String)) :=
  let (key, value) := separate marks
  match value with
  | none =>
    if (content key).isEmpty then .ok none else .error (.missingSeparator (sourceText marks))
  | some value =>
    if (content key).isEmpty then .error (.emptyKey (sourceText marks))
    else .ok (some (content key, content value))

/-- Reads the segments from the left; a dangling escape spoils the last of them. -/
def readSegments (dangling : Bool) :
    List (List Mark) → Except PropertyError (List (String × String))
  | [] => .ok []
  | [last] =>
    if dangling then .error .trailingEscape else (readSegment last).map Option.toList
  | first :: rest =>
    match readSegment first with
    | .error e => .error e
    | .ok pair => (readSegments dangling rest).map (pair.toList ++ ·)

/-! ## Marks of a segment so far -/

variable {done marks : List Mark}

theorem separate_of_open (undivided : (separate done).2 = none) : (separate done).1 = done := by
  induction done with
  | nil => rfl
  | cons m rest ih =>
    rw [separate] at undivided ⊢
    split at undivided
    next => cases undivided
    next inside =>
      rw [if_neg inside]
      exact congrArg (m :: ·) (ih undivided)

theorem separate_concat_of_divided {value : List Mark} (divided : (separate done).2 = some value)
    (m : Mark) : separate (done ++ [m]) = ((separate done).1, some (value ++ [m])) := by
  induction done with
  | nil => cases divided
  | cons first rest ih =>
    rw [separate] at divided
    rw [List.cons_append, separate, separate]
    split at divided
    next ends =>
      cases divided
      rw [if_pos ends, if_pos ends]
    next inside => rw [if_neg inside, if_neg inside, ih divided]

theorem separate_concat_of_open (undivided : (separate done).2 = none) (m : Mark) :
    separate (done ++ [m]) = if m = .plain '=' then (done, some []) else (done ++ [m], none) := by
  induction done with
  | nil => rfl
  | cons first rest ih =>
    rw [separate] at undivided
    split at undivided
    next => cases undivided
    next inside =>
      rw [List.cons_append, separate, if_neg inside, ih undivided]
      by_cases ends : m = .plain '=' <;> simp [ends]

namespace Segment

/-- What the parser has at hand of a segment with these marks. -/
def ofMarks (done : List Mark) : Segment where
  key := (Properties.separate done).1.map Mark.char
  value := ((Properties.separate done).2.getD []).map Mark.char
  raw := done.flatMap Mark.source
  hasSeparator := (Properties.separate done).2.isSome

theorem push_ofMarks (m : Mark)
    (kept : m = .plain '=' → (Properties.separate done).2.isSome = true) :
    (ofMarks done).push m.char m.source = ofMarks (done ++ [m]) := by
  cases divided : (Properties.separate done).2 with
  | none =>
    have inside : m ≠ .plain '=' := by
      intro same
      have found := kept same
      simp [divided] at found
    have key := separate_of_open divided
    simp [ofMarks, push, divided, separate_concat_of_open divided, inside, key]
  | some value =>
    simp [ofMarks, push, divided, separate_concat_of_divided divided]

theorem separate_ofMarks (undivided : (Properties.separate done).2 = none) :
    (ofMarks done).separate = ofMarks (done ++ [.plain '=']) := by
  have key := separate_of_open undivided
  simp [ofMarks, separate, undivided, separate_concat_of_open undivided, key, Mark.source]

theorem finish_ofMarks (done : List Mark) (p : Properties) :
    (ofMarks done).finish p = (readSegment done).map fun pair => p.insertAll pair.toList := by
  cases parts : Properties.separate done with
  | mk key value =>
  cases value with
  | none =>
    have finished : (ofMarks done).finish p =
        if (content key).isEmpty then .ok p
        else .error (.missingSeparator (sourceText done)) := by
      simp only [finish, ofMarks, parts]
      rfl
    rw [finished, readSegment, parts]
    dsimp only
    split <;> rfl
  | some value =>
    have finished : (ofMarks done).finish p =
        if (content key).isEmpty then .error (.emptyKey (sourceText done))
        else .ok (p.insert (content key) (content value)) := by
      simp only [finish, ofMarks, parts]
      rfl
    rw [finished, readSegment, parts]
    dsimp only
    split <;> rfl

end Segment

/-! ## The marks to come -/

theorem Mark.scan_of_ne {c : Char} (plainly : c ≠ '\\') (rest : List Char) :
    scan (c :: rest) = (plain c :: (scan rest).1, (scan rest).2) := by
  cases rest with
  | nil => simp [scan, plainly]
  | cons next rest => simp [scan, plainly]

theorem parseFrom_of_ne {c : Char} (plainly : c ≠ '\\') (seg : Segment) (p : Properties)
    (rest : List Char) :
    parseFrom seg p (c :: rest) =
      if c = ';' then seg.finish p >>= fun p => parseFrom {} p rest
      else if c = '=' && !seg.hasSeparator then parseFrom seg.separate p rest
      else parseFrom (seg.push c [c]) p rest := by
  cases rest with
  | nil => simp [parseFrom, plainly]
  | cons next rest => simp [parseFrom, plainly]

theorem segments_ne_nil (marks : List Mark) : segments marks ≠ [] := by
  cases marks with
  | nil => simp [segments]
  | cons m rest =>
    rw [segments]
    split
    · simp
    · split <;> simp

theorem segments_of_closed (closed : .plain ';' ∉ done) : segments done = [done] := by
  induction done with
  | nil => rfl
  | cons m rest ih =>
    have inside : m ≠ .plain ';' := fun same => closed (same ▸ List.mem_cons_self)
    rw [segments, if_neg inside, ih fun member => closed (List.mem_cons_of_mem m member)]

theorem segments_append (closed : .plain ';' ∉ done) (marks : List Mark) :
    segments (done ++ .plain ';' :: marks) = done :: segments marks := by
  induction done with
  | nil => rfl
  | cons m rest ih =>
    have inside : m ≠ .plain ';' := fun same => closed (same ▸ List.mem_cons_self)
    rw [List.cons_append, segments, if_neg inside,
      ih fun member => closed (List.mem_cons_of_mem m member)]

theorem readSegments_cons {dangling : Bool} {first : List Mark} {rest : List (List Mark)}
    (more : rest ≠ []) :
    readSegments dangling (first :: rest) =
      match readSegment first with
      | .error e => .error e
      | .ok pair => (readSegments dangling rest).map (pair.toList ++ ·) := by
  cases rest with
  | nil => exact absurd rfl more
  | cons second rest => rfl

/-- From any place in a segment, the parser reads on as the passes do. -/
theorem parseFrom_ofMarks (l : List Char) (closed : .plain ';' ∉ done) (p : Properties) :
    parseFrom (.ofMarks done) p l =
      (readSegments (Mark.scan l).2 (segments (done ++ (Mark.scan l).1))).map p.insertAll := by
  fun_induction Mark.scan l generalizing done p with
  | case1 =>
    rw [parseFrom, Segment.finish_ofMarks, List.append_nil, segments_of_closed closed]
    simp only [readSegments]
    cases readSegment done <;> rfl
  | case2 =>
    rw [parseFrom, List.append_nil, segments_of_closed closed]
    rfl
  | case3 c rest marks dangling read ih =>
    have pushed : (Segment.ofMarks done).push c ['\\', c] = .ofMarks (done ++ [.escaped c]) :=
      Segment.push_ofMarks (.escaped c) (by simp)
    have still : .plain ';' ∉ done ++ [.escaped c] := by simpa using closed
    rw [parseFrom, pushed, ih still p, read, List.append_assoc]
    rfl
  | case4 c rest alone followed marks dangling read ih =>
    have plainly : c ≠ '\\' := by
      rintro rfl
      cases rest with
      | nil => exact alone rfl rfl
      | cons next rest => exact followed next rest rfl rfl
    rw [parseFrom_of_ne plainly]
    by_cases ends : c = ';'
    · subst ends
      rw [if_pos rfl, segments_append closed, readSegments_cons (segments_ne_nil _),
        Segment.finish_ofMarks]
      cases readSegment done with
      | error e => rfl
      | ok pair =>
        have none : Mark.plain ';' ∉ [] := List.not_mem_nil
        have onward := ih none (p.insertAll pair.toList)
        rw [read, List.nil_append] at onward
        refine onward.trans ?_
        cases readSegments dangling (segments marks) with
        | error e => rfl
        | ok pairs => exact congrArg Except.ok (insertAll_append p pair.toList pairs).symm
    · have still : .plain ';' ∉ done ++ [.plain c] := by
        simpa [eq_comm, ends] using closed
      have onward := ih still p
      rw [read, List.append_assoc] at onward
      rw [if_neg ends]
      split
      next divides =>
        rw [Bool.and_eq_true, decide_eq_true_eq, Bool.not_eq_true'] at divides
        obtain ⟨rfl, undivided⟩ := divides
        rw [Segment.separate_ofMarks (by simpa [Segment.ofMarks] using undivided)]
        exact onward
      next kept =>
        have pushed : (Segment.ofMarks done).push c [c] = .ofMarks (done ++ [.plain c]) :=
          Segment.push_ofMarks (.plain c) (by
            rintro ⟨rfl⟩
            simpa [Segment.ofMarks, Option.isSome_iff_ne_none] using kept)
        rw [pushed]
        exact onward

theorem parse_eq_readSegments (s : String) :
    parse s =
      (readSegments (Mark.scan s.toList).2 (segments (Mark.scan s.toList).1)).map
        (insertAll ∅) :=
  parseFrom_ofMarks s.toList List.not_mem_nil ∅

end RemoteDevice.Properties
