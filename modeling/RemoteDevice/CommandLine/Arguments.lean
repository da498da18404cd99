import RemoteDevice.CommandLine.Form
import RemoteDevice.Text.Split

/-!
Reading the arguments of a command from the left. A value follows its option as the next argument
or after an equals sign; after two dashes alone no more options are looked for. The first argument
that is out of place, or that asks for help, ends the reading.
-/
set_option autoImplicit false

namespace RemoteDevice.CommandLine

/-- Why reading arguments ends early. -/
inductive Interruption where
  | help
  | version
  | misuse
deriving DecidableEq, Repr

/-- What an argument looks like. -/
inductive Shape where
  | operand (text : String)
  /-- Two dashes and nothing else. -/
  | separator
  /-- Two dashes and a name, perhaps with a value after an equals sign. -/
  | long (name : String) (value : Option String)
  /-- One dash and letters, of which this is the first. -/
  | short (letter : Char)
deriving DecidableEq, Repr

def Shape.of (argument : String) : Shape :=
  match argument.toList with
  | ['-', '-'] => separator
  | '-' :: '-' :: rest =>
    match Text.cutAt ['='] rest with
    | some (name, value) => long (String.ofList name) (some (String.ofList value))
    | none => long (String.ofList rest) none
  | '-' :: letter :: _ => short letter
  | _ => operand argument

/-- The options that were given, a flag with no text, and the operand. -/
structure Arguments where
  options : List (String × String) := []
  operand : Option String := none
deriving DecidableEq, Repr

namespace Arguments

/-- Adds a value of an option, which has to be acceptable and the first one. -/
def addValue (a : Arguments) (o : OptionForm) (value : String) : Except Interruption Arguments :=
  if (a.options.lookup o.name).isSome then .error .misuse
  else if o.kind.all fun kind => kind.accepts value then
    .ok { a with options := a.options ++ [(o.name, value)] }
  else .error .misuse

def addOperand (f : CommandForm) (a : Arguments) (value : String) :
    Except Interruption Arguments :=
  if f.operand.isSome && a.operand.isNone then .ok { a with operand := some value }
  else .error .misuse

/-- Whether an argument can be the value of an option before it. -/
def isValue (kind : ValueKind) (argument : String) : Bool :=
  match kind, Shape.of argument with
  | .value, _ | _, .operand _ => true
  | _, _ => false

/-- What the next argument may be. -/
inductive Expected where
  | anything
  | valueOf (o : OptionForm) (kind : ValueKind)
  | operand
deriving DecidableEq, Repr

/-- Takes an option by its name. -/
def addOption (f : CommandForm) (a : Arguments) (name : String) (value : Option String) :
    Except Interruption (Expected × Arguments) :=
  match f.option? name with
  | none => .error (if name = "help" ∧ value.isNone then .help else .misuse)
  | some o =>
    match o.kind, value with
    | none, none => (a.addValue o "").map (.anything, ·)
    | none, some _ => .error .misuse
    | some _, some value => (a.addValue o value).map (.anything, ·)
    | some kind, none => .ok (.valueOf o kind, a)

/-- Takes one argument. -/
def step (f : CommandForm) (state : Expected × Arguments) (argument : String) :
    Except Interruption (Expected × Arguments) :=
  let (expected, a) := state
  match expected with
  | .operand => (addOperand f a argument).map (.operand, ·)
  | .valueOf o kind =>
    if isValue kind argument then (a.addValue o argument).map (.anything, ·) else .error .misuse
  | .anything =>
    match Shape.of argument with
    | .separator => .ok (.operand, a)
    | .short letter => .error (if letter = 'h' then .help else .misuse)
    | .operand value => (addOperand f a value).map (.anything, ·)
    | .long name value => addOption f a name value

/-- Reads all arguments; no option may be left without its value. -/
def read (f : CommandForm) (arguments : List String) : Except Interruption Arguments :=
  match arguments.foldlM (step f) (.anything, {}) with
  | .error e => .error e
  | .ok (.valueOf _ _, _) => .error .misuse
  | .ok (_, a) => .ok a

/-- The value of an option, or what counts in its place. -/
def get? (f : CommandForm) (a : Arguments) (name : String) : Option String :=
  (a.options.lookup name).or (f.fallback? name)

def has (a : Arguments) (name : String) : Bool := (a.options.lookup name).isSome

end Arguments

end RemoteDevice.CommandLine
