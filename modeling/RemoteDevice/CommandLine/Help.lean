import RemoteDevice.CommandLine.Form

/-!
The help about the program and about each command: what it is for, how it is called, and what can
be given to it.
-/
set_option autoImplicit false

namespace RemoteDevice.CommandLine

def programName : String := "opdi"

def programVersion : String := "0.1.0"

def programPurpose : String := "Remote device registry and connection tool"

/-- Names and explanations in two columns. -/
def columns (rows : List (String × String)) : String :=
  let width := rows.foldl (fun n row => max n row.1.length) 0
  String.join (rows.map fun row =>
    "  " ++ row.1 ++ String.ofList (List.replicate (width + 2 - row.1.length) ' ') ++ row.2 ++ "\n")

/-- How a value is called in the help. -/
def placeholder (name : String) : String :=
  "<" ++ String.ofList (name.toList.map fun c => if c = '-' then '_' else c.toUpper) ++ ">"

namespace OptionForm

def call (o : OptionForm) : String :=
  "--" ++ o.name ++ if o.kind.isSome then " " ++ placeholder o.name else ""

def explanation (o : OptionForm) : String :=
  match o.fallback with
  | none => o.help
  | some value =>
    (if o.help.isEmpty then "" else o.help ++ " ") ++ "[default: " ++ value ++ "]"

end OptionForm

namespace CommandForm

/-- The call with everything that has to be given. -/
def usage (f : CommandForm) : String :=
  let required := f.options.filter OptionForm.required
  String.intercalate " " ([programName, f.name] ++
    (if required.length < f.options.length then ["[OPTIONS]"] else []) ++
    required.map OptionForm.call ++ f.operand.toList.map fun o => placeholder o.name)

def helpText (f : CommandForm) : String :=
  f.help ++ "\n\nUsage: " ++ f.usage ++ "\n\n" ++
    (match f.operand with
      | some o => "Arguments:\n" ++ columns [(placeholder o.name, o.help)] ++ "\n"
      | none => "") ++
    "Options:\n" ++ columns ((f.options.map fun o => ("    " ++ o.call, o.explanation)) ++
      [("-h, --help", "Print help")])

end CommandForm

/-- The help about the program. -/
def programHelp : String :=
  programPurpose ++ "\n\nUsage: " ++ programName ++ " <COMMAND>\n\nCommands:\n" ++
    columns (Verb.all.map fun v => (v.form.name, v.form.help)) ++ "\nOptions:\n" ++
    columns [("-h, --help", "Print help"), ("-V, --version", "Print version")]

end RemoteDevice.CommandLine
