import TableScript.CommandLine.Arguments
import TableScript.Service.Endpoint
import TableScript.Session.Basic
import TableScript.Session.Run
import TableScript.Text.Basic

set_option autoImplicit false

namespace TableScript.CommandLine

inductive ReadError where
  | refused (e : OsError)
  | notText
deriving DecidableEq, Repr

def ReadError.message : ReadError → String
  | .refused e => e.message
  | .notText => "stream did not contain valid UTF-8"

abbrev Directory := List (String × String)

namespace Directory

def names (path : String) : List (List Char) :=
  (Text.splitOn '/' path.toList).filter fun name => name ≠ [] && name ≠ ['.']

def isAbsolute (path : String) : Bool := path.toList.head? == some '/'

def find? (d : Directory) (path : List (List Char)) : Option String :=
  (d.reverse.find? fun file => names file.1 == path).map (·.2)

def passesFile (d : Directory) (path : List (List Char)) : Bool :=
  (List.range path.length).any fun n => (d.find? (path.take n)).isSome

def read (d : Directory) (path : String) : Except ReadError String :=
  if isAbsolute path then .error (.refused .noSuchFile)
  else
    match d.find? (names path) with
    | some contents => .ok contents
    | none => .error (.refused (if d.passesFile (names path) then .notADirectory else .noSuchFile))

end Directory

inductive Channel where
  | output
  | error
deriving DecidableEq, Repr

inductive Style where
  | boldGreen
  | boldYellow
  | boldBlue
  | red
deriving DecidableEq, Repr

def Style.code : Style → String
  | .boldGreen => "\x1b[1;32m"
  | .boldYellow => "\x1b[1;33m"
  | .boldBlue => "\x1b[1;34m"
  | .red => "\x1b[31m"

def plainCode : String := "\x1b[0m"

def paint (color : Bool) (style : Style) (text : String) : String :=
  if color then style.code ++ text ++ plainCode else text

structure Line where
  channel : Channel
  text : String
deriving DecidableEq, Repr

def Line.ofEvent (color : Bool) : Event → Line
  | .print line => ⟨.output, paint color .boldGreen line⟩
  | .row line => ⟨.output, paint color .boldYellow line⟩
  | .step heading => ⟨.error, paint color .red ("── " ++ heading ++ " ──")⟩
  | .done message => ⟨.error, paint color .boldBlue message⟩

def shown (channel : Channel) (lines : List Line) : String :=
  String.join ((lines.filter (·.channel == channel)).map (·.text ++ "\n"))

variable {E : Engine}

def programName : String := "mercu"

def extension : String := ".mer"

structure Outcome (E : Engine) where
  exitCode : Nat
  lines : List Line
  session : Session E

namespace Outcome

def stdout (o : Outcome E) : String := shown .output o.lines

def stderr (o : Outcome E) : String := shown .error o.lines

def success (lines : List Line) (session : Session E) : Outcome E := ⟨0, lines, session⟩

def failure (lines : List Line) (message : String) (session : Session E) : Outcome E :=
  ⟨1, lines ++ [⟨.error, "Error: " ++ message⟩], session⟩

def rejected (e : UsageError) : Outcome E := ⟨2, [⟨.error, e.message⟩], .empty⟩

end Outcome

inductive Failure where
  | extension (file : String)
  | reading (file : String) (e : ReadError)
  | running (e : RunError)
deriving DecidableEq, Repr

def Failure.message : Failure → String
  | .extension file => "File extension must be " ++ CommandLine.extension ++ ", got " ++ file
  | .reading file e => "Reading " ++ file ++ "\n\nCaused by:\n    " ++ e.message
  | .running e => e.kind.label ++ " error: " ++ e.message

def hasExtension (file : String) : Bool := extension.toList.isSuffixOf file.toList

def source (readFile : String → Except ReadError String) (file : String) : Except Failure String :=
  if !hasExtension file then .error (.extension file)
  else
    match readFile file with
    | .ok text => .ok text
    | .error e => .error (.reading file e)

def runSource (host : Host) (options : Options) (text : String) : Outcome E :=
  let (result, session) := Session.empty.runSource ⟨host, options.endpoint⟩ text
  let lines := session.events.map (Line.ofEvent options.color)
  match result with
  | .ok () => .success lines session
  | .error e => .failure lines (Failure.running e).message session

def sources (env : List (String × String)) (setting : Setting) (fallback : String) : String :=
  let value := (env.reverse.lookup setting.envName).getD ""
  "[env: " ++ setting.envName ++ "=" ++ value ++ "] [default: " ++ fallback ++ "]"

def usage (env : List (String × String)) : List String :=
  ["Run Mercu (" ++ extension ++ ") programs",
    "",
    "Usage: " ++ programName ++ " [OPTIONS] <FILE>",
    "",
    "Arguments:",
    "  <FILE>  ",
    "",
    "Options:",
    "      --host <HOST>  Address the API started by `create_api` binds to " ++
      sources env .host "127.0.0.1",
    "      --port <PORT>  " ++ sources env .port s!"{defaultPort}",
    "      --no-color     Print without ANSI colours",
    "  -h, --help         Print help",
    "  -V, --version      Print version"]

def run (host : Host) (readFile : String → Except ReadError String) (env : List (String × String))
    (args : List String) : Outcome E :=
  match Command.ofArguments args env with
  | .error e => .rejected e
  | .ok .version => .success [⟨.output, programName ++ " " ++ Service.version⟩] .empty
  | .ok .help => .success ((usage env).map (⟨.output, ·⟩)) .empty
  | .ok (.run options) =>
    match source readFile options.file with
    | .error e => .failure [] e.message .empty
    | .ok text => runSource host options text

end TableScript.CommandLine
