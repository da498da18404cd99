import RemoteDevice.Proofs.Outcome
import RemoteDevice.Template.Render

/-!
# Whether a template renders

A template renders or not, and with which error, by the kind of its argument alone: `verdict` says
it without the argument's value, and rendering agrees with it for every value.
-/
set_option autoImplicit false

namespace RemoteDevice.Template

/-- The conversions that format an argument of the kind. -/
def takes (kind : ArgumentKind) (conversion : Char) : Bool :=
  match kind with
  | .integer => ['d', 'i', 'x', 'X', 'o', 's'].contains conversion
  | .float => ['f', 'e', 'E', 's'].contains conversion

/-- Whether pieces render with an argument of the kind, or the error. -/
def verdict (kind : ArgumentKind) (spent : Bool) : List Piece → Except TemplateError Unit
  | [] => .ok ()
  | .literal _ :: rest => verdict kind spent rest
  | .oversize text :: _ => .error (.oversize (String.ofList text))
  | .unfinished text :: _ => .error (.unknownConversion (String.ofList text))
  | .directive _ conversion text :: rest =>
    if conversion = '%' ∨ conversion = 'n' then verdict kind spent rest
    else if !consumes conversion then .error (.unknownConversion (String.ofList text))
    else if spent then .error (.missingArgument (String.ofList text))
    else if takes kind conversion then verdict kind true rest
    else .error (.illegalConversion conversion kind)

theorem outcome_field (d : Directive) (conversion : Char) (arg : Argument) :
    outcome (d.field conversion arg) =
      if takes arg.kind conversion then .ok ()
      else .error (.illegalConversion conversion arg.kind) := by
  unfold Directive.field
  split
  case h_11 =>
    -- the pairs that no branch before is for
    have refused : takes arg.kind conversion = false := by
      cases arg with
      | int v | float v =>
        simp only [takes, Argument.kind, List.contains_cons, List.contains_nil, Bool.or_false,
          Bool.or_eq_false_iff, beq_eq_false_iff_ne]
        grind
    rw [refused]
    rfl
  all_goals rfl

theorem outcome_renderPieces (arg : Argument) (spent : Bool) (pieces : List Piece) :
    outcome (renderPieces arg spent pieces) = verdict arg.kind spent pieces := by
  induction pieces generalizing spent with
  | nil => rfl
  | cons piece rest ih =>
    cases piece with
    | literal c => rw [renderPieces, verdict, outcome_map, ih]
    | oversize text => rfl
    | unfinished text => rfl
    | directive d conversion text =>
      rw [renderPieces, verdict]
      by_cases percent : conversion = '%'
      · rw [if_pos percent, if_pos (.inl percent), outcome_map, ih]
      by_cases newline : conversion = 'n'
      · rw [if_neg percent, if_pos newline, if_pos (.inr newline), outcome_map, ih]
      rw [if_neg percent, if_neg newline, if_neg (not_or.mpr ⟨percent, newline⟩)]
      cases consumes conversion with
      | false => rfl
      | true =>
        cases spent with
        | true => rfl
        | false =>
          -- the argument is formatted here, if its kind allows it
          have formatted := outcome_field d conversion arg
          cases taken : takes arg.kind conversion with
          | false =>
            rw [taken] at formatted
            have failed := outcome_eq_error_iff.mp formatted
            simp [failed, outcome, Except.map]
          | true =>
            rw [taken] at formatted
            obtain ⟨field, done⟩ := outcome_eq_ok_iff.mp formatted
            simp [done, outcome_map, ih]

theorem outcome_render (template : String) (arg : Argument) :
    outcome (render template arg) = verdict arg.kind false (pieces template.toList) := by
  rw [render, outcome_map, outcome_renderPieces]

/-- Rendering has the same outcome with any two arguments of one kind. -/
theorem outcome_render_congr {template : String} {a b : Argument} (same : a.kind = b.kind) :
    outcome (render template a) = outcome (render template b) := by
  rw [outcome_render, outcome_render, same]

end RemoteDevice.Template
