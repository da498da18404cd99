import Mathlib.Data.String.Basic
import RemoteDevice.Proofs.Template.Grammar
import RemoteDevice.Template.Render

/-!
# Templates read by offset

A reader that knows of each character at which byte it begins can cut the texts for its errors out
of the template. Such a cut fails inside a character. `renderAt` renders in this way, and it comes
to the same as rendering by pieces, so none of its cuts ever fails.
-/
set_option autoImplicit false

namespace RemoteDevice.Template

open String (utf8Len)

/-- The characters of a text and the offsets at which they begin. -/
def indexed (offset : Nat) : List Char → List (Nat × Char)
  | [] => []
  | c :: rest => (offset, c) :: indexed (offset + c.utf8Size) rest

/-- The text between two offsets, unless one of them is inside a character or past the end. -/
def slice? (text : String) (start stop : Nat) : Option String :=
  if start ≤ stop ∧ String.Pos.Raw.IsValid text ⟨start⟩ ∧ String.Pos.Raw.IsValid text ⟨stop⟩ then
    some (String.Pos.Raw.extract text ⟨start⟩ ⟨stop⟩)
  else none

/-- Renders what is left of a template; there is no result if a cut fails. A directive goes from
the offset of its `%` to the end of its conversion. -/
def renderAt (template : String) (arg : Argument) (spent : Bool) (l : List (Nat × Char)) :
    Option (Except TemplateError (List Char)) :=
  match l with
  | [] => some (.ok [])
  | (start, c) :: rest =>
    if c ≠ '%' then (renderAt template arg spent rest).map (·.map (c :: ·))
    else
      let layout := readLayout (rest.map Prod.snd)
      if isOversize layout.1 then
        (slice? template start template.utf8ByteSize).map fun text => .error (.oversize text)
      else
        match _left : rest.drop (rest.length - layout.2.length) with
        | [] =>
          (slice? template start template.utf8ByteSize).map fun text =>
            .error (.unknownConversion text)
        | (offset, conversion) :: after =>
          let stop := offset + conversion.utf8Size
          if conversion = '%' then
            (renderAt template arg spent after).map (·.map (layout.1.pad [] ['%'] ++ ·))
          else if conversion = 'n' then
            (renderAt template arg spent after).map (·.map ('\n' :: ·))
          else if consumes conversion then
            if spent then
              (slice? template start stop).map fun text => .error (.missingArgument text)
            else
              match layout.1.field conversion arg with
              | .error e => some (.error e)
              | .ok field => (renderAt template arg true after).map (·.map (field ++ ·))
          else (slice? template start stop).map fun text => .error (.unknownConversion text)
termination_by l.length
decreasing_by
  · simp
  all_goals
    have shorter := congrArg List.length _left
    simp only [List.length_drop, List.length_cons] at shorter ⊢
    omega

theorem map_snd_indexed (offset : Nat) (l : List Char) :
    (indexed offset l).map Prod.snd = l := by
  induction l generalizing offset with
  | nil => rfl
  | cons c rest ih => rw [indexed, List.map_cons, ih]

theorem length_indexed (offset : Nat) (l : List Char) :
    (indexed offset l).length = l.length := by
  rw [← List.length_map Prod.snd, map_snd_indexed]

theorem indexed_append (offset : Nat) (l rest : List Char) :
    indexed offset (l ++ rest) = indexed offset l ++ indexed (offset + utf8Len l) rest := by
  induction l generalizing offset with
  | nil => rfl
  | cons c l ih =>
    have next : offset + c.utf8Size + utf8Len l = offset + utf8Len (c :: l) := by
      rw [String.utf8Len_cons]
      omega
    rw [List.cons_append, indexed, ih, next]
    rfl

theorem drop_indexed (offset : Nat) (l rest : List Char) :
    (indexed offset (l ++ rest)).drop ((indexed offset (l ++ rest)).length - rest.length) =
      indexed (offset + utf8Len l) rest := by
  rw [length_indexed, List.length_append, Nat.add_sub_cancel, indexed_append]
  exact List.drop_left' (length_indexed offset l)

theorem isValid_of_append {template : String} {l rest : List Char}
    (split : template.toList = l ++ rest) :
    String.Pos.Raw.IsValid template ⟨utf8Len l⟩ := by
  rw [String.Pos.Raw.isValid_iff_exists_append]
  refine ⟨String.ofList l, String.ofList rest, ?_, ?_⟩
  · rw [← String.ofList_append, ← split, String.ofList_toList]
  · rw [String.rawEndPos_ofList]

theorem slice?_eq {template : String} {before l after : List Char} {stop : Nat}
    (split : template.toList = before ++ (l ++ after)) (ends : stop = utf8Len before + utf8Len l) :
    slice? template (utf8Len before) stop = some (String.ofList l) := by
  subst ends
  have start := isValid_of_append split
  rw [← List.append_assoc] at split
  have stop := isValid_of_append split
  rw [String.utf8Len_append] at stop
  rw [slice?, if_pos ⟨Nat.le_add_right _ _, start, stop⟩]
  have extracted := String.extract_of_valid before l after
  rw [← split, String.ofList_toList] at extracted
  rw [extracted]

theorem slice?_end {template : String} {before l : List Char}
    (split : template.toList = before ++ l) :
    slice? template (utf8Len before) template.utf8ByteSize = some (String.ofList l) := by
  have ends : template.utf8ByteSize = utf8Len before + utf8Len l := by
    rw [← String.utf8Len_append, ← split, ← String.utf8ByteSize_ofList, String.ofList_toList]
  rw [← List.append_nil l] at split
  exact slice?_eq split ends

section Directive

variable {template : String} {arg : Argument} {spent : Bool} {before : List Char} {s : Spelling}
  {rest : List Char}

theorem renderAt_oversize (proper : s.Proper) (stops : s.Stops rest) (oversize : s.Oversize)
    (split : template.toList = before ++ '%' :: (s.text ++ rest)) :
    renderAt template arg spent (indexed (utf8Len before) ('%' :: (s.text ++ rest))) =
      some (.error (.oversize (String.ofList ('%' :: (s.text ++ rest))))) := by
  have above := (proper.isOversize_iff stops).mpr oversize
  rw [indexed, renderAt, if_neg (not_not_intro rfl), map_snd_indexed, if_pos above,
    slice?_end split]
  rfl

theorem renderAt_unfinished (proper : s.Proper) (within : ¬s.Oversize)
    (split : template.toList = before ++ '%' :: s.text) :
    renderAt template arg spent (indexed (utf8Len before) ('%' :: s.text)) =
      some (.error (.unknownConversion (String.ofList ('%' :: s.text)))) := by
  have layout := mt (proper.isOversize_iff s.stops_nil).mp within
  have left := proper.readLayout_rest s.stops_nil
  rw [List.append_nil] at layout left
  rw [indexed, renderAt, if_neg (not_not_intro rfl), map_snd_indexed, if_neg layout]
  split
  next =>
    rw [slice?_end split]
    rfl
  next eq =>
    rw [left, List.length_nil, Nat.sub_zero, List.drop_length] at eq
    cases eq

/-- What happens at a complete directive, with its text cut out of the template. -/
theorem renderAt_directive {conversion : Char} (proper : s.Proper) (stops : s.StopsAt conversion)
    (within : ¬s.Oversize)
    (split : template.toList = before ++ '%' :: (s.text ++ conversion :: rest)) :
    let text := (Segment.directive s (some conversion)).text
    let after := indexed (utf8Len (before ++ text)) rest
    renderAt template arg spent (indexed (utf8Len before) ('%' :: (s.text ++ conversion :: rest))) =
      if conversion = '%' then
        (renderAt template arg spent after).map (·.map (s.layout.pad [] ['%'] ++ ·))
      else if conversion = 'n' then (renderAt template arg spent after).map (·.map ('\n' :: ·))
      else if consumes conversion then
        if spent then some (.error (.missingArgument (String.ofList text)))
        else
          match s.layout.field conversion arg with
          | .error e => some (.error e)
          | .ok field => (renderAt template arg true after).map (·.map (field ++ ·))
      else some (.error (.unknownConversion (String.ofList text))) := by
  intro text after
  have stops := stops.stops rest
  have layout := mt (proper.isOversize_iff stops).mp within
  have left := proper.readLayout_rest stops
  have split' : template.toList = before ++ (text ++ rest) := by
    rw [split]
    simp [text, Segment.text]
  have length : utf8Len text = utf8Len ['%'] + utf8Len s.text + utf8Len [conversion] := by
    simp only [text, Segment.text, Option.toList_some, String.utf8Len_cons,
      String.utf8Len_append, String.utf8Len_nil]
    omega
  have ends : utf8Len before + '%'.utf8Size + utf8Len s.text + conversion.utf8Size =
      utf8Len before + utf8Len text := by
    rw [length]
    simp only [String.utf8Len_cons, String.utf8Len_nil]
    omega
  rw [indexed, renderAt, if_neg (not_not_intro rfl), map_snd_indexed, if_neg layout,
    proper.readLayout_layout stops within]
  split
  next eq =>
    rw [left, drop_indexed] at eq
    cases eq
  next offset first tail eq =>
    rw [left, drop_indexed] at eq
    cases eq
    dsimp only
    rw [ends, slice?_eq split' rfl, ← String.utf8Len_append]
    rfl

end Directive

/-- A reader by offset does what the reader by pieces does. -/
theorem renderAt_indexed (template : String) (arg : Argument) {l : List Char} {cut : List Segment}
    (cuts : Cuts l cut) (spent : Bool) (before : List Char)
    (split : template.toList = before ++ l) :
    renderAt template arg spent (indexed (utf8Len before) l) =
      some (renderPieces arg spent (pieces l)) := by
  induction cuts generalizing spent before with
  | nil => simp [indexed, renderAt, pieces, renderPieces]
  | @literal c rest cut plain more ih =>
    have next := ih spent (before ++ [c]) (by rw [split, List.append_cons])
    have size : utf8Len (before ++ [c]) = utf8Len before + c.utf8Size := by simp
    rw [size] at next
    rw [pieces_literal plain, renderPieces, indexed, renderAt, if_pos plain, next]
    rfl
  | @unfinished s proper =>
    by_cases oversize : s.Oversize
    · have stops := s.stops_nil
      rw [← List.append_nil s.text] at split ⊢
      rw [pieces_oversize proper stops oversize, renderAt_oversize proper stops oversize split]
      rfl
    · rw [pieces_unfinished proper oversize, renderAt_unfinished proper oversize split]
      rfl
  | @directive s conversion rest cut proper stops more ih =>
    by_cases oversize : s.Oversize
    · have stops := stops.stops rest
      rw [pieces_oversize proper stops oversize, renderAt_oversize proper stops oversize split]
      rfl
    · have next := fun spent =>
        ih spent (before ++ (Segment.directive s (some conversion)).text)
          (by rw [split]; simp [Segment.text])
      rw [pieces_directive proper stops oversize, renderPieces,
        renderAt_directive proper stops oversize split]
      simp only [next]
      split
      next => rfl
      split
      next => rfl
      split
      next =>
        split
        next => rfl
        next =>
          cases s.layout.field conversion arg <;> rfl
      next => rfl

end RemoteDevice.Template
