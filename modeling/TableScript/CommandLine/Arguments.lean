import TableScript.Service.Endpoint

set_option autoImplicit false

namespace TableScript.CommandLine

inductive Argument where
  | operand (text : String)
  | short (first : Char) (more : List Char)
  | long (name : String) (value : Option String)
  | endOfOptions
deriving DecidableEq, Repr

def splitValue : List Char → List Char × Option (List Char)
  | [] => ([], none)
  | '=' :: value => ([], some value)
  | c :: rest => (c :: (splitValue rest).1, (splitValue rest).2)

def Argument.ofText (s : String) : Argument :=
  match s.toList with
  | ['-', '-'] => .endOfOptions
  | '-' :: '-' :: cs => .long (String.ofList (splitValue cs).1) ((splitValue cs).2.map String.ofList)
  | '-' :: c :: more => .short c more
  | _ => .operand s

inductive Setting where
  | host
  | port
deriving DecidableEq, Repr

namespace Setting

def name : Setting → String
  | .host => "host"
  | .port => "port"

def envName : Setting → String
  | .host => "MERCU_HOST"
  | .port => "MERCU_PORT"

def ofName? (name : String) : Option Setting :=
  [Setting.host, .port].find? fun s => s.name == name

end Setting

inductive UsageError where
  | missingFile
  | unexpected (argument : String)
  | missingValue (setting : Setting)
  | repeated (name : String)
  | invalidFile
  | invalidValue (setting : Setting) (value : String)
deriving DecidableEq, Repr

def UsageError.message : UsageError → String
  | .missingFile => "error: a file is required"
  | .unexpected argument => "error: unexpected argument '" ++ argument ++ "'"
  | .missingValue setting => "error: a value is required for '--" ++ setting.name ++ "'"
  | .repeated name => "error: '--" ++ name ++ "' cannot be used multiple times"
  | .invalidFile => "error: the name of the file is empty"
  | .invalidValue setting value =>
    "error: invalid value '" ++ value ++ "' for '--" ++ setting.name ++ "'"

def portValue? (cs : List Char) : Option Nat :=
  match cs with
  | '-' :: digits => (digits? digits).filter (· == 0)
  | '+' :: digits => digits? digits
  | digits => digits? digits
where
  digits? (cs : List Char) : Option Nat :=
    if !cs.isEmpty && cs.all Numeral.isDigit then
      (some (Decimal.ofDigitChars cs)).filter (· ≤ 65535)
    else none

structure Draft where
  file : Option String
  host : Option IpAddress
  port : Option Nat
  plain : Bool
deriving DecidableEq, Repr

namespace Draft

def empty : Draft := ⟨none, none, none, false⟩

def addFile (d : Draft) (s : String) : Except UsageError Draft :=
  if d.file.isSome then .error (.unexpected s)
  else if s.isEmpty then .error .invalidFile
  else .ok { d with file := some s }

def addFiles (d : Draft) : List String → Except UsageError Draft
  | [] => .ok d
  | s :: rest => do (← d.addFile s).addFiles rest

def has (d : Draft) : Setting → Bool
  | .host => d.host.isSome
  | .port => d.port.isSome

def assign (d : Draft) (setting : Setting) (value : String) : Except UsageError Draft :=
  match setting with
  | .host =>
    match IpAddress.parse? value.toList with
    | some ip => .ok { d with host := some ip }
    | none => .error (.invalidValue .host value)
  | .port =>
    match portValue? value.toList with
    | some port => .ok { d with port := some port }
    | none => .error (.invalidValue .port value)

def addSetting (d : Draft) (setting : Setting) (value : String) : Except UsageError Draft :=
  if d.has setting then .error (.repeated setting.name) else d.assign setting value

def addPlain (d : Draft) : Except UsageError Draft :=
  if d.plain then .error (.repeated "no-color") else .ok { d with plain := true }

def complete (d : Draft) (env : List (String × String)) (setting : Setting) :
    Except UsageError Draft :=
  if d.has setting then .ok d
  else
    match env.reverse.lookup setting.envName with
    | some value => d.assign setting value
    | none => .ok d

end Draft

inductive Reading where
  | finished (d : Draft)
  | version
  | help
deriving DecidableEq, Repr

def isOperand (s : String) : Bool :=
  match Argument.ofText s with
  | .operand _ => true
  | _ => false

def read (d : Draft) : List String → Except UsageError Reading
  | [] => .ok (.finished d)
  | s :: rest =>
    match Argument.ofText s with
    | .operand file => do read (← d.addFile file) rest
    | .endOfOptions => do return .finished (← d.addFiles rest)
    | .short 'V' _ => .ok .version
    | .short 'h' _ => .ok .help
    | .short _ _ => .error (.unexpected s)
    | .long "version" none => .ok .version
    | .long "help" none => .ok .help
    | .long "no-color" none => do read (← d.addPlain) rest
    | .long name value =>
      match Setting.ofName? name, value, rest with
      | some setting, some v, rest => do read (← d.addSetting setting v) rest
      | some setting, none, v :: later =>
        if isOperand v then do read (← d.addSetting setting v) later
        else .error (.missingValue setting)
      | some setting, none, [] => .error (.missingValue setting)
      | none, _, _ => .error (.unexpected s)

structure Options where
  file : String
  endpoint : Endpoint
  color : Bool
deriving DecidableEq, Repr

def defaultPort : Nat := 8000

def Options.ofDraft (d : Draft) (env : List (String × String)) : Except UsageError Options := do
  let d ← d.complete env .host
  let d ← d.complete env .port
  match d.file with
  | none => .error .missingFile
  | some file =>
    let fallback := Endpoint.loopback defaultPort
    return ⟨file, ⟨d.host.getD fallback.ip, d.port.getD fallback.port⟩, !d.plain⟩

inductive Command where
  | run (options : Options)
  | version
  | help
deriving DecidableEq, Repr

def Command.ofArguments (args : List String) (env : List (String × String)) :
    Except UsageError Command := do
  match ← read .empty args with
  | .version => return .version
  | .help => return .help
  | .finished d => return .run (← Options.ofDraft d env)

end TableScript.CommandLine
