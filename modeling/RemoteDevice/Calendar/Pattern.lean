/-!
Patterns for dates and times: literal text and components in brackets, each with modifiers of the
form `key:value`. A doubled opening bracket stands for one bracket. Names, keys and values are
read without regard to case, the last of several equal keys counts, and a modifier that a
component does not have is an error.
-/
set_option autoImplicit false

namespace RemoteDevice.Calendar

inductive Padding where
  | zero
  | space
  | none
deriving DecidableEq, Repr

inductive MonthStyle where
  | numerical
  | long
  | short
deriving DecidableEq, Repr

inductive WeekdayStyle where
  | short
  | long
  | fromSunday
  | fromMonday
deriving DecidableEq, Repr

inductive WeekStyle where
  | iso
  | sunday
  | monday
deriving DecidableEq, Repr

inductive YearStyle where
  | full
  | century
  | lastTwo
deriving DecidableEq, Repr

/-- One component of a date, a time or an offset. -/
inductive Component where
  | day (padding : Padding)
  | month (padding : Padding) (style : MonthStyle)
  | ordinal (padding : Padding)
  | weekday (style : WeekdayStyle) (oneIndexed : Bool)
  | weekNumber (padding : Padding) (style : WeekStyle)
  | year (padding : Padding) (style : YearStyle) (ofWeek signed : Bool)
  | hour (padding : Padding) (twelve : Bool)
  | minute (padding : Padding)
  | second (padding : Padding)
  | period (upper : Bool)
  /-- Decimal places of the second; `none` stands for as many as are needed, one at least. -/
  | subsecond (digits : Option Nat)
  | offsetHour (padding : Padding) (signed : Bool)
  | offsetMinute (padding : Padding)
  | offsetSecond (padding : Padding)
  /-- The instant itself, in seconds times a power of ten. -/
  | unixTimestamp (places : Nat) (signed : Bool)
  /-- Skips characters when a text is read; writes nothing. -/
  | ignore
  /-- Marks the end of a text that is read; writes nothing. -/
  | finish
deriving DecidableEq, Repr

inductive Item where
  | literal (c : Char)
  | component (c : Component)
deriving DecidableEq, Repr

/-- Why a pattern is refused. -/
inductive PatternError where
  | unclosedBracket
  | missingName
  | nestedDescription
  | unknownComponent (name : String)
  | malformedModifier (text : String)
  | unknownModifier (key : String)
  | invalidValue (key value : String)
  | missingModifier (key : String)
deriving DecidableEq, Repr

def PatternError.message : PatternError → String
  | unclosedBracket => "unclosed opening bracket"
  | missingName => "missing component name"
  | nestedDescription => "nested descriptions are not supported"
  | unknownComponent name => "invalid component name '" ++ name ++ "'"
  | malformedModifier text => "modifier '" ++ text ++ "' must be of the form 'key:value'"
  | unknownModifier key => "invalid modifier '" ++ key ++ "'"
  | invalidValue key value => "invalid value '" ++ value ++ "' of modifier '" ++ key ++ "'"
  | missingModifier key => "missing required modifier '" ++ key ++ "'"

structure Modifier where
  key : String
  value : String
deriving DecidableEq, Repr

namespace Pattern

/-- The blanks that separate the parts of a component. -/
def isSeparator (c : Char) : Bool :=
  c = ' ' || c = '\t' || c = '\n' || c = '\x0c' || c = '\r'

/-- The runs of characters between separators. -/
def words : List Char → List (List Char)
  | [] => []
  | c :: rest =>
    if isSeparator c then words rest
    else
      match rest with
      | [] => [[c]]
      | d :: _ =>
        if isSeparator d then [c] :: words rest
        else
          match words rest with
          | [] => [[c]]
          | w :: more => (c :: w) :: more

def lower (l : List Char) : String := String.ofList (l.map Char.toLower)

def readModifier (word : List Char) : Except PatternError Modifier :=
  let key := word.takeWhile (· ≠ ':')
  match word.dropWhile (· ≠ ':') with
  | ':' :: v :: value =>
    if key.isEmpty then .error (.malformedModifier (String.ofList word))
    else .ok ⟨lower key, lower (v :: value)⟩
  | _ => .error (.malformedModifier (String.ofList word))

/-- The value of the last modifier under `key`; all of them have to be among the options. -/
def choose {α : Type} (key : String) (options : List (String × α)) (standard : α)
    (modifiers : List Modifier) : Except PatternError α :=
  modifiers.foldlM (fun current m =>
    if m.key = key then
      match options.lookup m.value with
      | some chosen => .ok chosen
      | none => .error (.invalidValue key m.value)
    else .ok current) standard

def allow (keys : List String) (modifiers : List Modifier) : Except PatternError Unit :=
  match modifiers.find? fun m => !keys.contains m.key with
  | some m => .error (.unknownModifier m.key)
  | none => .ok ()

def padding (modifiers : List Modifier) : Except PatternError Padding :=
  choose "padding" [("space", .space), ("zero", .zero), ("none", .none)] .zero modifiers

def switch (key : String) (standard : Bool) (modifiers : List Modifier) :
    Except PatternError Bool :=
  choose key [("true", true), ("false", false)] standard modifiers

def sign (modifiers : List Modifier) : Except PatternError Bool :=
  choose "sign" [("automatic", false), ("mandatory", true)] false modifiers

/-- A number of characters: decimal digits with a value from 1 to 65535, or a plus before them. -/
def isCount (value : String) : Bool :=
  let digits := match value.toList with
    | '+' :: rest => rest
    | other => other
  let n := Nat.ofDigitChars 10 digits 0
  !digits.isEmpty && digits.all Char.isDigit && 1 ≤ n && n ≤ 65535

def checkCount (modifiers : List Modifier) : Except PatternError Unit :=
  match modifiers.filter fun m => m.key = "count" with
  | [] => .error (.missingModifier "count")
  | counts =>
    match counts.find? fun m => !isCount m.value with
    | some m => .error (.invalidValue m.key m.value)
    | none => .ok ()

def readComponent (name : String) (ms : List Modifier) : Except PatternError Component :=
  match name with
  | "day" => do
    allow ["padding"] ms
    return .day (← padding ms)
  | "month" => do
    allow ["padding", "repr", "case_sensitive"] ms
    let _ ← switch "case_sensitive" true ms
    let style ← choose "repr" [("numerical", .numerical), ("long", .long), ("short", .short)]
      .numerical ms
    return .month (← padding ms) style
  | "ordinal" => do
    allow ["padding"] ms
    return .ordinal (← padding ms)
  | "weekday" => do
    allow ["repr", "one_indexed", "case_sensitive"] ms
    let _ ← switch "case_sensitive" true ms
    let style ← choose "repr" [("short", .short), ("long", .long), ("sunday", .fromSunday),
      ("monday", .fromMonday)] .long ms
    return .weekday style (← switch "one_indexed" true ms)
  | "week_number" => do
    allow ["padding", "repr"] ms
    let style ← choose "repr" [("iso", .iso), ("sunday", .sunday), ("monday", .monday)] .iso ms
    return .weekNumber (← padding ms) style
  | "year" => do
    allow ["padding", "repr", "range", "base", "sign"] ms
    let style ← choose "repr" [("full", .full), ("century", .century), ("last_two", .lastTwo)]
      .full ms
    let _ ← choose "range" [("standard", ()), ("extended", ())] () ms
    let ofWeek ← choose "base" [("calendar", false), ("iso_week", true)] false ms
    return .year (← padding ms) style ofWeek (← sign ms)
  | "hour" => do
    allow ["padding", "repr"] ms
    return .hour (← padding ms) (← choose "repr" [("12", true), ("24", false)] false ms)
  | "minute" => do
    allow ["padding"] ms
    return .minute (← padding ms)
  | "second" => do
    allow ["padding"] ms
    return .second (← padding ms)
  | "period" => do
    allow ["case", "case_sensitive"] ms
    let _ ← switch "case_sensitive" true ms
    return .period (← choose "case" [("lower", false), ("upper", true)] true ms)
  | "subsecond" => do
    allow ["digits"] ms
    let fixed := (List.range 9).map fun n => (toString (n + 1), some (n + 1))
    return .subsecond (← choose "digits" (("1+", none) :: fixed) none ms)
  | "offset_hour" => do
    allow ["sign", "padding"] ms
    return .offsetHour (← padding ms) (← sign ms)
  | "offset_minute" => do
    allow ["padding"] ms
    return .offsetMinute (← padding ms)
  | "offset_second" => do
    allow ["padding"] ms
    return .offsetSecond (← padding ms)
  | "unix_timestamp" => do
    allow ["precision", "sign"] ms
    let places ← choose "precision" [("second", 0), ("millisecond", 3), ("microsecond", 6),
      ("nanosecond", 9)] 0 ms
    return .unixTimestamp places (← sign ms)
  | "ignore" => do
    allow ["count"] ms
    checkCount ms
    return .ignore
  | "end" => do
    allow ["trailing_input"] ms
    let _ ← choose "trailing_input" [("prohibit", ()), ("discard", ())] () ms
    return .finish
  | other => .error (.unknownComponent other)

/-- Reads what stands between a pair of brackets. -/
def readBracket (inner : List Char) : Except PatternError Component :=
  if inner.contains '[' then .error .nestedDescription
  else
    match words inner with
    | [] => .error .missingName
    | name :: modifiers => do readComponent (lower name) (← modifiers.mapM readModifier)

/-- The items of a pattern. A closing bracket outside a component is literal. -/
def parseChars (l : List Char) : Except PatternError (List Item) :=
  match l with
  | [] => .ok []
  | '[' :: '[' :: rest => (parseChars rest).map (.literal '[' :: ·)
  | '[' :: rest =>
    match _cut : rest.dropWhile (· ≠ ']') with
    | [] => .error .unclosedBracket
    | _ :: after =>
      match readBracket (rest.takeWhile (· ≠ ']')) with
      | .error e => .error e
      | .ok c => (parseChars after).map (.component c :: ·)
  | c :: rest => (parseChars rest).map (.literal c :: ·)
termination_by l.length
decreasing_by
  · simp only [List.length_cons]
    omega
  · have shorter := (List.dropWhile_sublist (l := rest) (· ≠ ']')).length_le
    simp only [_cut, List.length_cons] at shorter ⊢
    omega
  · simp

def parse (pattern : String) : Except PatternError (List Item) := parseChars pattern.toList

end Pattern

end RemoteDevice.Calendar
