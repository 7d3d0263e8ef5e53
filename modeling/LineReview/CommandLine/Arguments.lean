set_option autoImplicit false

/-! Arguments of a command. A grammar lists the parameters that are written with dashes and says
whether a path may stand by itself. A value follows its parameter, in the next argument or in the
same one; no parameter is given twice; and after a double dash every argument stands by itself. A
parameter is settled when the next one is met, so a fault in the last one is reported only if
nothing worse follows. -/

namespace LineReview.CommandLine

/-- Why arguments do not tell what to run. Two of the reasons are requests for information. -/
inductive UsageError where
  | help
  | version
  | nothingGiven
  | missingCommand
  | unknownCommand
  | unknownArgument
  | unusableValue
  | needlessValue
  | givenTwice
  deriving DecidableEq

def UsageError.exitCode : UsageError → Nat
  | .help | .version => 0
  | _ => 2

inductive Role where
  | flag
  | text
  /-- The value is a path and therefore not empty. -/
  | path
  | help
  | version
  deriving DecidableEq

def Role.takesValue : Role → Bool
  | .text | .path => true
  | _ => false

/-- A parameter that is written with dashes. -/
structure Parameter where
  name : String
  letter : Option Char
  role : Role
  deriving DecidableEq

structure Grammar where
  parameters : List Parameter
  /-- A path may stand by itself. -/
  takesPath : Bool

namespace Grammar

def named? (grammar : Grammar) (name : String) : Option Parameter :=
  grammar.parameters.find? fun parameter => parameter.name == name

def lettered? (grammar : Grammar) (letter : Char) : Option Parameter :=
  grammar.parameters.find? fun parameter => parameter.letter == some letter

end Grammar

/-- The path that stands by itself, as a parameter. No parameter with dashes has its name. -/
def ownPath : Parameter where
  name := ""
  letter := none
  role := .path

structure Reading where
  /-- The settled parameters by name, with their values. -/
  given : List (String × String) := []
  /-- The parameter that is not settled yet, with its value if that has been met. -/
  pending : Option (Parameter × Option String) := none
  deriving DecidableEq

namespace Reading

def has (reading : Reading) (name : String) : Bool :=
  (reading.given.lookup name).isSome

def add (reading : Reading) (parameter : Parameter) (value : String) : Except UsageError Reading :=
  if reading.has parameter.name then .error .givenTwice
  else if parameter.role == .path && value == "" then .error .unusableValue
  else .ok { given := reading.given ++ [(parameter.name, value)] }

/-- Settles the parameter that is pending. -/
def settle (reading : Reading) : Except UsageError Reading :=
  match reading.pending with
  | none => .ok reading
  | some (_, none) => .error .unusableValue
  | some (parameter, some value) => { given := reading.given : Reading }.add parameter value

/-- The path that stands by itself has been met. -/
def hasOwnPath (reading : Reading) : Bool :=
  reading.has ownPath.name || (reading.pending.map Prod.fst == some ownPath)

def meetFlag (reading : Reading) (parameter : Parameter) : Except UsageError Reading := do
  let settled ← reading.settle
  match parameter.role with
  | .help => throw .help
  | .version => throw .version
  | _ => settled.add parameter ""

/-- Meets a parameter that takes a value, which may come with it. -/
def meetValued (reading : Reading) (parameter : Parameter) (value : Option String) :
    Except UsageError Reading := do
  let settled ← reading.settle
  match value with
  | some value => settled.add parameter value
  | none => return { settled with pending := some (parameter, none) }

def meetOwnPath (grammar : Grammar) (reading : Reading) (argument : String) :
    Except UsageError Reading := do
  if grammar.takesPath && !reading.hasOwnPath then
    let settled ← reading.settle
    return { settled with pending := some (ownPath, some argument) }
  else throw .unknownArgument

end Reading

inductive Form where
  /-- Two dashes alone. -/
  | separator
  /-- A name after two dashes, with a value after an equals sign if there is one. -/
  | long (name : String) (value : Option String)
  /-- Letters after one dash. -/
  | short (letters : List Char)
  /-- Anything else, a dash alone included. -/
  | word
  deriving DecidableEq

def Form.ofArgument (argument : String) : Form :=
  match argument.toList with
  | ['-', '-'] => .separator
  | '-' :: '-' :: rest =>
    let name := String.ofList (rest.takeWhile (· != '='))
    match rest.dropWhile (· != '=') with
    | [] => .long name none
    | _ :: value => .long name (some (String.ofList value))
  | '-' :: letter :: letters => .short (letter :: letters)
  | _ => .word

/-- The value that is written right after a letter, less the equals sign between them. -/
def attached : List Char → Option String
  | [] => none
  | '=' :: value => some (String.ofList value)
  | value => some (String.ofList value)

namespace Reading

def meetLong (grammar : Grammar) (reading : Reading) (name : String) (value : Option String) :
    Except UsageError Reading :=
  match grammar.named? name with
  | none => .error .unknownArgument
  | some parameter =>
    if parameter.role.takesValue then reading.meetValued parameter value
    else if value.isSome then .error .needlessValue
    else reading.meetFlag parameter

/-- Meets letters, of which the first one that takes a value takes the rest for it. -/
def meetLetters (grammar : Grammar) (reading : Reading) : List Char → Except UsageError Reading
  | [] => .ok reading
  | letter :: rest =>
    match grammar.lettered? letter with
    | none => .error .unknownArgument
    | some parameter =>
      if parameter.role.takesValue then reading.meetValued parameter (attached rest)
      else do meetLetters grammar (← reading.meetFlag parameter) rest

/-- Meets an argument that does not start with a dash: the value that is waited for, or the path. -/
def meetWord (grammar : Grammar) (reading : Reading) (argument : String) :
    Except UsageError Reading :=
  match reading.pending with
  | some (parameter, none) => .ok { reading with pending := some (parameter, some argument) }
  | _ => reading.meetOwnPath grammar argument

end Reading

def readFrom (grammar : Grammar) (reading : Reading) : List String → Except UsageError Reading
  | [] => reading.settle
  | argument :: rest =>
    match Form.ofArgument argument with
    | .separator => do (← rest.foldlM (Reading.meetOwnPath grammar) reading).settle
    | .long name value => do readFrom grammar (← reading.meetLong grammar name value) rest
    | .short letters => do readFrom grammar (← reading.meetLetters grammar letters) rest
    | .word => do readFrom grammar (← reading.meetWord grammar argument) rest

/-- The parameters that the arguments of a command give, by name, with their values. -/
def read (grammar : Grammar) (arguments : List String) :
    Except UsageError (List (String × String)) :=
  (readFrom grammar {} arguments).map Reading.given

end LineReview.CommandLine
