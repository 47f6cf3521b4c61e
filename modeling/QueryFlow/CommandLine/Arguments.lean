import QueryFlow.Decimal.Read
import QueryFlow.Keyed
import QueryFlow.Text.Quoted

/-!
Reading command lines by rules: options with and without a value, and at most one positional
argument or a command with arguments of its own. Long options may be shortened as long as only one
option is meant, and a value may follow behind an equals sign. Behind `--` nothing is an option.
-/

namespace QueryFlow.CommandLine

inductive OptionKind where
  /-- Ask for help. -/
  | help
  /-- Say yes. -/
  | flag
  /-- Give a text. -/
  | text
  /-- Give one of some texts. -/
  | choice (values : List String)
  /-- Give a whole number. -/
  | number
  deriving Repr, DecidableEq

/-- An option with its names, the main one last. -/
structure OptionRule where
  names : List String
  kind : OptionKind
  deriving Repr, DecidableEq

namespace OptionRule

def label (r : OptionRule) : String := "/".intercalate r.names

def name (r : OptionRule) : String := r.names.getLast?.getD ""

end OptionRule

/-- What may stand besides options. -/
inductive PositionalRule where
  | nothing
  /-- One argument, which has to be there. -/
  | single (name : String)
  /-- A command, with everything behind it, which may be missing. -/
  | command (name : String) (choices : List String)
  deriving Repr, DecidableEq

structure Rules where
  options : List OptionRule
  positional : PositionalRule
  deriving Repr, DecidableEq

inductive UsageFault where
  | ambiguous (given : String) (candidates : List String)
  | unwantedValue (option value : String)
  | missingValue (option : String)
  | badChoice (argument given : String) (choices : List String)
  | badNumber (argument given : String)
  | required (name : String)
  | unrecognized (arguments : List String)
  deriving Repr, DecidableEq

def UsageFault.message : UsageFault → String
  | .ambiguous given candidates =>
    "ambiguous option: " ++ given ++ " could match " ++ ", ".intercalate candidates
  | .unwantedValue option value =>
    "argument " ++ option ++ ": ignored explicit argument " ++ Text.quoted value
  | .missingValue option => "argument " ++ option ++ ": expected one argument"
  | .badChoice argument given choices =>
    "argument " ++ argument ++ ": invalid choice: " ++ Text.quoted given ++ " (choose from "
      ++ ", ".intercalate (choices.map Text.quoted) ++ ")"
  | .badNumber argument given =>
    "argument " ++ argument ++ ": invalid int value: " ++ Text.quoted given
  | .required name => "the following arguments are required: " ++ name
  | .unrecognized arguments => "unrecognized arguments: " ++ " ".intercalate arguments

/-- An option as it stands on the command line, under its full name. -/
structure Found where
  rule : OptionRule
  name : String
  value : Option String

inductive Word where
  | plain (text : String)
  | dashes
  /-- Something that looks like an option; the rules may not know it. -/
  | option (text : String) (found : Option Found)

def Word.text : Word → String
  | .plain s => s
  | .dashes => "--"
  | .option s _ => s

namespace Rules

def names (rules : Rules) : List (String × OptionRule) :=
  rules.options.flatMap fun r => r.names.map fun n => (n, r)

def named? (rules : Rules) (name : String) : Option OptionRule := rules.names.lookup name

/-- A text up to its first equals sign, and what stands behind it, if there is one. -/
def splitEquals (s : String) : String × Option String :=
  let cs := s.toList
  let before := cs.takeWhile (· != '=')
  match cs.drop before.length with
  | [] => (s, none)
  | _ :: value => (String.ofList before, some (String.ofList value))

def startsWith (s start : String) : Bool := start.toList.isPrefixOf s.toList

/-- The options that a shortened name can mean. Behind the letter of a one-letter option its value
may follow at once. -/
def candidates (rules : Rules) (s : String) : List Found :=
  if startsWith s "--" then
    let (start, value) := splitEquals s
    (rules.names.filter fun (n, _) => startsWith n start).map fun (n, r) => ⟨r, n, value⟩
  else
    rules.names.filterMap fun (n, r) =>
      if n.toList == s.toList.take 2 then some ⟨r, n, some (String.ofList (s.toList.drop 2))⟩
      else if startsWith n s then some ⟨r, n, none⟩
      else none

def isNegativeNumber (s : String) : Bool :=
  match s.toList with
  | '-' :: cs =>
    let whole := cs.takeWhile fun c => (Text.digitValue? c).isSome
    match cs.drop whole.length with
    | [] => !whole.isEmpty
    | '.' :: part => !part.isEmpty && part.all fun c => (Text.digitValue? c).isSome
    | _ => false
  | _ => false

/-- The option that a text names exactly, alone or in front of an equals sign. -/
def fullyNamed? (rules : Rules) (s : String) : Option Found :=
  match rules.named? s with
  | some r => some ⟨r, s, none⟩
  | none =>
    match splitEquals s with
    | (name, some value) => (rules.named? name).map fun r => ⟨r, name, some value⟩
    | _ => none

/-- The role of an argument in front of `--`. -/
def word (rules : Rules) (s : String) : Except UsageFault Word :=
  if !startsWith s "-" || s.length ≤ 1 then .ok (.plain s)
  else
    match rules.fullyNamed? s with
    | some found => .ok (.option s (some found))
    | none =>
      match rules.candidates s with
      | [found] => .ok (.option s (some found))
      | [] =>
        if isNegativeNumber s || s.toList.contains ' ' then .ok (.plain s)
        else .ok (.option s none)
      | several => .error (.ambiguous s (several.map (·.name)))

def words (rules : Rules) : List String → Except UsageFault (List Word)
  | [] => .ok []
  | s :: rest =>
    if s == "--" then .ok (.dashes :: rest.map .plain)
    else
      match rules.word s with
      | .error f => .error f
      | .ok w => (rules.words rest).map (w :: ·)

end Rules

/-- Why reading ends early. -/
inductive Stop where
  | help
  | fault (fault : UsageFault)
  deriving Repr, DecidableEq

structure Reading where
  /-- The values of options, by their main names. -/
  given : List (String × Option String) := []
  /-- The positional argument, or the command and its arguments. -/
  positional : Option (List String) := none
  /-- Arguments that nothing asks for. -/
  extras : List String := []
  deriving Repr, DecidableEq

namespace Reading

/-- The value of an option, unless it has none. -/
def value? (r : Reading) (name : String) : Option String := (r.given.lookup name).join

def has (r : Reading) (name : String) : Bool := (r.given.lookup name).isSome

/-- Note the value of an option. The value `--` counts as none. -/
def note (r : Reading) (rule : OptionRule) (value : String) : Reading :=
  { r with given := Keyed.assign rule.name (if value == "--" then none else some value) r.given }

/-- Note one more argument that nothing asks for. -/
def extra (r : Reading) (s : String) : Reading := { r with extras := r.extras ++ [s] }

end Reading

/-- The whole number that a text writes, blanks around it aside. -/
def wholeNumber? (s : String) : Option Int :=
  let (negative, cs) := Decimal.splitSign (Text.strip s).toList
  match Decimal.digitRun cs with
  | ([], _) => none
  | (ds, []) =>
    if ds.length > Decimal.digitLimit then none
    else some (if negative then -(Text.digitsValue ds : Int) else Text.digitsValue ds)
  | _ => none

def checkValue (rule : OptionRule) (value : String) : Except UsageFault Unit :=
  match rule.kind with
  | .choice values =>
    if value == "--" || values.contains value then .ok ()
    else .error (.badChoice rule.label value values)
  | .number =>
    if value == "--" || (wholeNumber? value).isSome then .ok ()
    else .error (.badNumber rule.label value)
  | _ => .ok ()

/-- Letters behind a one-letter option are more options of one letter, which take no values. -/
def checkLetters (rules : Rules) (last : OptionRule) : List Char → Except UsageFault Unit
  | [] => .ok ()
  | c :: r =>
    match rules.named? (String.ofList ['-', c]) with
    | some rule => checkLetters rules rule r
    | none => .error (.unwantedValue last.label (String.ofList (c :: r)))

/-- An option that takes no value was given one. -/
def checkUnwanted (rules : Rules) (found : Found) (value : String) : Except UsageFault Unit :=
  if Rules.startsWith found.name "--" || value.isEmpty then
    .error (.unwantedValue found.rule.label value)
  else checkLetters rules found.rule value.toList

def withValue (r : Reading) (rule : OptionRule) (value : String) : Except Stop Reading :=
  match checkValue rule value with
  | .ok () => .ok (r.note rule value)
  | .error f => .error (.fault f)

def withoutValue (rules : Rules) (r : Reading) (found : Found) : Except Stop Reading :=
  match found.value.map (checkUnwanted rules found) with
  | some (.error f) => .error (.fault f)
  | _ =>
    match found.rule.kind with
    | .help => .error .help
    | _ => .ok (r.note found.rule "")

def OptionKind.takesValue : OptionKind → Bool
  | .help | .flag => false
  | .text | .choice _ | .number => true

def withCommand (r : Reading) (name : String) (choices arguments : List String) :
    Except Stop Reading :=
  let given := arguments.head?.getD ""
  if choices.contains given then .ok { r with positional := some arguments }
  else .error (.fault (.badChoice name given choices))

/-- What follows behind `--`. -/
def behindDashes (rules : Rules) (r : Reading) (rest : List String) : Except Stop Reading :=
  match rules.positional, r.positional, rest with
  | .single _, none, v :: more =>
    .ok { r with positional := some [v], extras := r.extras ++ more }
  | .command name choices, none, _ :: _ => withCommand r name choices ("--" :: rest)
  | _, _, _ => .ok { r with extras := r.extras ++ "--" :: rest }

def readWords (rules : Rules) (r : Reading) : List Word → Except Stop Reading
  | [] => .ok r
  | .dashes :: rest => behindDashes rules r (rest.map Word.text)
  | .plain s :: rest =>
    match rules.positional, r.positional with
    | .single _, none =>
      let r := { r with positional := some [s] }
      match rest with
      | .dashes :: rest => readWords rules r rest
      | rest => readWords rules r rest
    | .command name choices, none => withCommand r name choices (s :: rest.map Word.text)
    | _, _ => readWords rules (r.extra s) rest
  | .option s none :: rest => readWords rules (r.extra s) rest
  | .option _ (some found) :: rest =>
    if found.rule.kind.takesValue then
      match found.value, rest with
      | some value, rest => do readWords rules (← withValue r found.rule value) rest
      | none, .plain value :: rest => do readWords rules (← withValue r found.rule value) rest
      | none, _ => .error (.fault (.missingValue found.rule.label))
    else do readWords rules (← withoutValue rules r found) rest

def readArguments (rules : Rules) (arguments : List String) : Except Stop Reading :=
  match rules.words arguments with
  | .error f => .error (.fault f)
  | .ok ws =>
    match readWords rules {} ws with
    | .error stop => .error stop
    | .ok r =>
      match rules.positional, r.positional with
      | .single name, none => .error (.fault (.required name))
      | _, _ => .ok r

end QueryFlow.CommandLine
