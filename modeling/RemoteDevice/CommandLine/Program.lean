import RemoteDevice.CommandLine.Command
import RemoteDevice.CommandLine.Help
import RemoteDevice.CommandLine.Report
import RemoteDevice.Descriptor.Json
import RemoteDevice.DisplayUnit.Display
import RemoteDevice.Registry.Basic

/-!
What the commands do with the files around them and what they print.
-/
set_option autoImplicit false

namespace RemoteDevice.CommandLine

/-- What comes back from the other side of a connection. -/
structure Reply where
  /-- How many milliseconds it takes. -/
  delay : Nat
  /-- The first line, with nothing in it where the other side closes; none if reading fails. -/
  line : Option String
deriving DecidableEq, Repr

/-- What the program runs in. -/
structure Surroundings where
  files : FileTree
  /-- The current time in seconds. -/
  now : Int
  network : Transport := .tcp
  /-- What is sent back to the program, if anything. -/
  reply : Option Reply := none
  /-- What the disk has against writing, if anything. -/
  diskFault : Option DiskFault := none
deriving DecidableEq, Repr

/-- How the program ends. -/
structure Outcome where
  exitCode : Nat := 0
  output : String := ""
  diagnostics : String := ""
  files : FileTree
deriving DecidableEq, Repr

/-- The program runs through, or it asks a question first and goes on with the answer. -/
inductive Progress where
  | finished (o : Outcome)
  | asks (question : String) (resume : String → Outcome)

namespace Outcome

/-- Ends with what was printed on the way, and with why the command failed if it did. -/
def ended (files : FileTree) (output : String) : Option Failure → Outcome
  | none => { output, files }
  | some f => { exitCode := 1, output, diagnostics := f.report, files }

/-- Prints what a command has to say, or why it failed, and leaves the files as they are then. -/
def ofResult (files : FileTree) : Except Failure String → Outcome
  | .ok output => ended files output none
  | .error f => ended files "" (some f)

def printed (files : FileTree) (output : String) : Outcome := { output, files }

@[simp]
theorem files_ended (files : FileTree) (output : String) (failure : Option Failure) :
    (ended files output failure).files = files := by
  cases failure <;> rfl

@[simp]
theorem files_ofResult (files : FileTree) (result : Except Failure String) :
    (ofResult files result).files = files := by
  cases result <;> simp [ofResult]

end Outcome

/-! ### Descriptors -/

def describe (d : Descriptor) (asJson : Bool) : String :=
  if asJson then d.toJson.pretty ++ "\n"
  else
    "ok: " ++ d.name ++ " (" ++ d.tag ++ "://" ++ d.host ++ ":" ++ toString d.port.toNat ++
      ", encryption=" ++ (if d.hasPsk then "psk" else "off") ++ ")\n"

def encodeDescriptor (d : Descriptor) : Except Failure String :=
  match d.encode with
  | .ok text => .ok (text ++ "\n")
  | .error e => .error (.device (.field e))

def decodeDescriptor (text : String) (asJson : Bool) : Except Failure String :=
  match Descriptor.decode text with
  | .ok d => .ok (describe d asJson)
  | .error e => .error (.device (.format e))

/-! ### Registries -/

def deviceLine (d : Device) : String :=
  d.sessionText ++ "\t" ++ d.label ++ "\t" ++ d.displayAddress ++ "\tencryption=" ++
    (if d.triesEncryption then "true" else "false") ++ "\n"

/-- The devices of a registry, as far as they can be made. -/
def listDevices (files : FileTree) (path : String) (withMetrics : Bool) : String :=
  let registry := (Registry.load (.file path files)).withMetrics
  let (devices, hub) := registry.reconstruct (.standard {}) {}
  String.join (devices.map deviceLine) ++ if withMetrics then hub.metrics.text else ""

def loadForUpdate (files : FileTree) (path : String) : Except Failure Registry :=
  (Registry.tryLoad (.file path files)).mapError (.unreadable path)

/-- Appends the device that a payload describes, and says which one that is. -/
def addDevice (payload : String) (r : Registry) : Except Failure (Registry × String) := do
  let blueprint ← (Blueprint.ofPayload payload {}).mapError fun e => .device (.format e)
  let (d, _) := Device.create blueprint {}
  let registry ← (r.addDevice d).mapError fun e => .device (.field e)
  return (registry, "added: " ++ d.label ++ " (" ++ d.displayAddress ++ ")\n")

/-- Takes out the entry at a position, and says what was in it. -/
def removeDevice (index : Nat) (r : Registry) : Except Failure (Registry × String) :=
  match r.remove index with
  | none => .error (.noSuchEntry index r.size)
  | some (removed, registry) => .ok (registry, "removed: " ++ removed.payload ++ "\n")

/-- Changes the registry in a file. It is written back only once it has been changed; if that fails,
directories may have been made for it. -/
def updateRegistry (s : Surroundings) (path : String)
    (change : Registry → Except Failure (Registry × String)) : Except Failure String × FileTree :=
  match loadForUpdate s.files path >>= change with
  | .error f => (.error f, s.files)
  | .ok (registry, output) =>
    let (written, files) := s.files.putEntries s.diskFault path registry.entries
    ((written.mapError .store).map fun _ => output, files)

/-! ### Connections -/

/-- The payload of the device to connect to. -/
def targetPayload (files : FileTree) (t : Target) : Except Failure String :=
  match t.index, t.descriptor with
  | some index, none =>
    match (Registry.load (.file t.registry files)).entries[index]? with
    | none => .error (.noSuchDevice index)
    | some e =>
      if e.typeName = tcpTypeName then .ok e.payload else .error (.notTcp index e.typeName)
  | none, some payload => .ok payload
  | _, _ => .error .noTarget

/-- A device over the network at hand. -/
def targetDevice (s : Surroundings) (t : Target) (timeout : Nat) : Except Failure Device := do
  let payload ← targetPayload s.files t
  let blueprint ← (Blueprint.ofPayload payload {}).mapError fun e => .device (.format e)
  return (Device.create { blueprint with transport := s.network, timeout } {}).1

def stateLine (verb : String) (d : Device) : String :=
  verb ++ ": " ++ d.label ++ " (" ++ d.state.name ++ ")\n"

/-- What is printed of a reply; that reading it failed is not. -/
def Probe.answer (p : Probe) (reply : Option Reply) : String :=
  match reply.filter fun r => r.delay ≤ p.wait with
  | none => "no reply within " ++ toString p.wait ++ " ms\n"
  | some r =>
    match r.line with
    | none => ""
    | some line =>
      if line.isEmpty then "peer closed the connection\n"
      else "reply: " ++ String.ofList (Text.trimEnd line.toList) ++ "\n"

/-- Sends the line over an open connection and prints what comes back. -/
def Probe.send (p : Probe) (d : Device) (reply : Option Reply) :
    Except Failure (String × Device) := do
  let (output, d) := d.obtain .output
  let output ← output.mapError .handle
  let (sent, connection) := d.connection.write output (p.line ++ "\n").toUTF8.toList
  let _ ← sent.mapError .stream
  let (input, d) := { d with connection }.obtain .input
  let _ ← input.mapError .handle
  return (p.answer reply, d)

/-- Connects, sends the probe if there is one, and closes the connection again: what is printed
meanwhile, and why it failed if it did. -/
def connect (d : Device) (probe : Option Probe) (reply : Option Reply) :
    String × Option Failure :=
  match d.prepare with
  | (false, d) => ("", some (.noNetwork d.label))
  | (true, d) =>
    match d.connect {} with
    | (.error e, _, _) => ("", some (.device (.connection e)))
    | (.ok _, d, hub) =>
      let connected := stateLine "connected" d
      match probe.elim (.ok ("", d)) fun p => p.send d reply with
      | .error f => (connected, some f)
      | .ok (answer, d) =>
        let (closed, _) := d.close hub
        (connected ++ answer ++ stateLine "closed" closed, none)

/-- Only the letter for yes is an agreement; blanks around it do not matter. -/
def isAgreement (answer : String) : Bool :=
  let word := Text.trim answer
  word == "y" || word == "Y"

def connectDevice (s : Surroundings) (t : Target) (timeout : Nat) (probe : Option Probe)
    (skipConfirmation : Bool) : Progress :=
  let ended : String × Option Failure → Outcome := fun (output, failure) =>
    .ended s.files output failure
  match targetDevice s t timeout with
  | .error f => .finished (ended ("", some f))
  | .ok d =>
    match d.connectionMessage skipConfirmation with
    | none => .finished (ended (connect d probe s.reply))
    | some question => .asks (question ++ " [y/N] ") fun answer =>
      ended (if isAgreement answer then connect d probe s.reply else ("aborted\n", none))

/-! ### Units -/

/-- Shows a value where the clock is the one of the prime meridian. -/
def formatValue (files : FileTree) (now : Int) (path unit : String) (raw : Int64) :
    Except Failure String := do
  let (_, cache) ←
    (UnitCache.loadFile ∅ path (files.readText path).toOption).mapError .definitions
  match cache.get? unit with
  | none => throw (.unknownUnit path unit)
  | some u =>
    let shown := (u.print raw .utc).shown.getD ""
    return u.label ++ ": " ++ shown ++ " (" ++ (u.activityAt raw now).name ++ ")\n"

/-! ### The program -/

def Command.run (s : Surroundings) (c : Command) : Progress :=
  let printed (result : Except Failure String) : Progress := .finished (.ofResult s.files result)
  let updated (path : String) (change : Registry → Except Failure (Registry × String)) : Progress :=
    let (result, files) := updateRegistry s path change
    .finished (.ofResult files result)
  match c with
  | .encodeDescriptor d => printed (CommandLine.encodeDescriptor d)
  | .decodeDescriptor text asJson => printed (CommandLine.decodeDescriptor text asJson)
  | .listDevices registry withMetrics =>
    printed (.ok (CommandLine.listDevices s.files registry withMetrics))
  | .addDevice registry payload => updated registry (CommandLine.addDevice payload)
  | .removeDevice registry index => updated registry (CommandLine.removeDevice index)
  | .connectDevice target timeout probe skipConfirmation =>
    CommandLine.connectDevice s target timeout probe skipConfirmation
  | .formatValue path unit raw => printed (CommandLine.formatValue s.files s.now path unit raw)

def misuseText : String :=
  "error: the arguments do not make a command\n\nFor more information, try '--help'.\n"

/-- Runs the program with its arguments. -/
def run (s : Surroundings) (arguments : List String) : Progress :=
  match Request.parse arguments with
  | .run command => command.run s
  | .help none => .finished (.printed s.files programHelp)
  | .help (some verb) => .finished (.printed s.files verb.form.helpText)
  | .version =>
    .finished (.printed s.files (programName ++ " " ++ programVersion ++ "\n"))
  | .misuse => .finished { exitCode := 2, diagnostics := misuseText, files := s.files }

/-- The outcome with an answer at hand, in case that a question is asked. -/
def Progress.settle (answer : String) : Progress → Outcome
  | finished o => o
  | asks question resume =>
    let o := resume answer
    { o with output := question ++ o.output }

end RemoteDevice.CommandLine
