import RemoteDevice.Template.Piece

/-!
Rendering a template with its single argument. The pieces are rendered from the left, so the error
is that of the leftmost piece that cannot be rendered.
-/
set_option autoImplicit false

namespace RemoteDevice.Template

/-- The conversions that consume the argument. -/
def consumes (conversion : Char) : Bool :=
  ['d', 'i', 'x', 'X', 'o', 'f', 'e', 'E', 's'].contains conversion

/-- Renders the pieces; `spent` tells that the argument is already used up. -/
def renderPieces (arg : Argument) (spent : Bool) : List Piece → Except TemplateError (List Char)
  | [] => .ok []
  | .literal c :: rest => (renderPieces arg spent rest).map (c :: ·)
  | .oversize text :: _ => .error (.oversize (String.ofList text))
  | .unfinished text :: _ => .error (.unknownConversion (String.ofList text))
  | .directive d conversion text :: rest =>
    if conversion = '%' then (renderPieces arg spent rest).map (d.pad [] ['%'] ++ ·)
    else if conversion = 'n' then (renderPieces arg spent rest).map ('\n' :: ·)
    else if consumes conversion then
      if spent then .error (.missingArgument (String.ofList text))
      else
        match d.field conversion arg with
        | .error e => .error e
        | .ok field => (renderPieces arg true rest).map (field ++ ·)
    else .error (.unknownConversion (String.ofList text))

def render (template : String) (arg : Argument) : Except TemplateError String :=
  (renderPieces arg false (pieces template.toList)).map String.ofList

end RemoteDevice.Template
