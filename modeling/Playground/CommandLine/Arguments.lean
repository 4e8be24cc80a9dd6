import Playground.Net.SocketAddress
import Playground.Text.Basic

/-! The arguments of the program: a command, options that every command takes, and options of its
own. An option that is not given may come from a variable of the environment. -/
namespace Playground.CommandLine

inductive Parameter where
  | config | clientId | clientSecret | logFormat | bindAddr | language | stdin
  deriving DecidableEq, Repr

inductive Level where
  | top | serve | run | terminal
  deriving DecidableEq, Repr

namespace Parameter

def long : Parameter → String
  | .config => "config"
  | .clientId => "client-id"
  | .clientSecret => "client-secret"
  | .logFormat => "log-format"
  | .bindAddr => "bind-addr"
  | .language => "language"
  | .stdin => "stdin"

def short? : Parameter → Option Char
  | .config => some 'c'
  | .language => some 'l'
  | _ => none

def environmentName? : Parameter → Option String
  | .config => some "WORKBENCH_CONFIG"
  | .clientId => some "JDOODLE_CLIENT_ID"
  | .clientSecret => some "JDOODLE_CLIENT_SECRET"
  | .bindAddr => some "BIND_ADDR"
  | _ => none

def environmentNames : List String :=
  [config,clientId,clientSecret,bindAddr].filterMap environmentName?

def accepts (parameter : Parameter) (value : String) : Bool :=
  match parameter with
  | .config => !value.isEmpty
  | .logFormat => value == "text" || value == "json"
  | .bindAddr => (Net.SocketAddress.parse? value).isSome
  | _ => true

end Parameter

def Level.parameters : Level → List Parameter
  | .top | .terminal => [.config,.clientId,.clientSecret,.logFormat]
  | .serve => [.config,.clientId,.clientSecret,.logFormat,.bindAddr]
  | .run => [.config,.clientId,.clientSecret,.logFormat,.language,.stdin]

def Level.ofCommand? : String → Option Level
  | "serve" => some .serve
  | "run" => some .run
  | "terminal" => some .terminal
  | _ => none

inductive Stop where
  | misuse
  | help
  | version
  deriving DecidableEq, Repr

def usageLines : List String :=
  ["Multi-language code execution workbench","","Usage: workbench [OPTIONS] <COMMAND>","","Commands:",
    "  serve [--bind-addr <ADDR>]                   Run the HTTP server",
    "  run <FILE> [-l <LANGUAGE>] [--stdin <TEXT>]  Run one source file and print the report",
    "  terminal                                     Start the interactive terminal","","Options:",
    "  -c, --config <FILE>           Settings",
    "      --client-id <ID>          Remote execution client id",
    "      --client-secret <SECRET>  Remote execution client secret",
    "      --log-format <FORMAT>     text or json",
    "  -h, --help                    Print help",
    "  -V, --version                 Print version"]

def usage : String := String.join (usageLines.map (· ++ "\n"))

abbrev Given := List (Parameter × String)

structure Reading where
  level : Level
  given : Given := []
  file : Option String := none
  onlyPositional : Bool := false

namespace Reading

def give (r : Reading) (parameter : Parameter) (value : String) : Except Stop Reading :=
  if (r.given.lookup parameter).isSome || !parameter.accepts value then .error .misuse
  else .ok { r with given := (parameter,value) :: r.given }

def position (r : Reading) (value : String) : Except Stop Reading :=
  if r.level = .run && r.file.isNone && !value.isEmpty then .ok { r with file := some value }
  else .error .misuse

end Reading

inductive Word where
  | separator
  | long (name : String) (value : Option String)
  | short (letter : Char) (value : Option String)
  | plain (text : String)
  deriving DecidableEq, Repr

def Word.ofArgument (argument : String) : Word :=
  match argument.toList with
  | ['-','-'] => .separator
  | '-' :: '-' :: name =>
    match Text.splitOnce ['='] name with
    | some (name,value) => .long (String.ofList name) (some (String.ofList value))
    | none => .long (String.ofList name) none
  | ['-'] => .plain argument
  | ['-',letter] => .short letter none
  | '-' :: letter :: '=' :: value => .short letter (some (String.ofList value))
  | '-' :: letter :: value => .short letter (some (String.ofList value))
  | _ => .plain argument

def asked (level : Level) (word : Word) : Except Stop Parameter :=
  match word with
  | .long "help" none => .error .help
  | .long "version" none => .error (if level = .top then .version else .misuse)
  | .long name _ => (level.parameters.find? fun p => p.long == name).elim (.error .misuse) .ok
  | .short 'h' _ => .error .help
  | .short letter _ =>
    if letter == 'V' && level = .top then .error .version
    else (level.parameters.find? fun p => p.short? == some letter).elim (.error .misuse) .ok
  | _ => .error .misuse

def Word.value? : Word → Option String
  | .long _ value | .short _ value => value
  | _ => none

def Word.isPlain : Word → Bool
  | .plain _ => true
  | _ => false

def helpOn : List String → Stop
  | [] => .help
  | [command] => if (Level.ofCommand? command).isSome || command == "help" then .help else .misuse
  | _ => .misuse

def readLevel (r : Reading) : List String → Except Stop (Reading × Option (Level × List String))
  | [] => .ok (r,none)
  | argument :: rest =>
    if r.onlyPositional then do readLevel (← r.position argument) rest
    else match Word.ofArgument argument with
      | .separator => readLevel { r with onlyPositional := true } rest
      | .plain text =>
        if r.level = .top then
          if text == "help" then .error (helpOn rest)
          else match Level.ofCommand? text with
            | some level => .ok (r,some (level,rest))
            | none => .error .misuse
        else do readLevel (← r.position text) rest
      | word =>
        match asked r.level word,word.value?,rest with
        | .error stop,_,_ => .error stop
        | .ok parameter,some value,rest => do readLevel (← r.give parameter value) rest
        | .ok _,none,[] => .error .misuse
        | .ok parameter,none,value :: rest =>
          if (Word.ofArgument value).isPlain then do readLevel (← r.give parameter value) rest
          else .error .misuse

abbrev Environment := List (String × String)

def fromEnvironment (environment : Environment) (r : Reading) : Except Stop Given :=
  let missing := r.level.parameters.filter fun p => (r.given.lookup p).isNone
  let found := missing.filterMap fun p =>
    ((p.environmentName?).bind fun name => environment.lookup name).map fun value => (p,value)
  if found.all fun (p,value) => p.accepts value then .ok found else .error .misuse

inductive LogFormat where
  | text | json
  deriving DecidableEq, Repr

inductive Command where
  | serve (bindAddr : Option Net.SocketAddress)
  | run (file : String) (language stdin : Option String)
  | terminal
  deriving DecidableEq, Repr

structure Invocation where
  config : Option String := none
  clientId : Option String := none
  clientSecret : Option String := none
  logFormat : LogFormat := .text
  command : Command
  deriving DecidableEq, Repr

def commandOf (r : Reading) (given : Given) : Except Stop Command :=
  match r.level with
  | .top => .error .misuse
  | .serve => .ok (.serve ((given.lookup .bindAddr).bind Net.SocketAddress.parse?))
  | .terminal => .ok .terminal
  | .run =>
    match r.file with
    | some file => .ok (.run file (given.lookup .language) (given.lookup .stdin))
    | none => .error .misuse

def logFormatOf (given : Given) : LogFormat :=
  if given.lookup .logFormat = some "json" then .json else .text

/- Reads the arguments. Values given after the command go before those given ahead of it, and these before the
environment's. -/
def parse (environment : Environment) (arguments : List String) : Except Stop Invocation := do
  let (top,next) ← readLevel { level := .top } arguments
  match next with
  | none => throw .misuse
  | some (level,rest) =>
    let (inner,_) ← readLevel { level } rest
    let found ← fromEnvironment environment inner
    let _ ← fromEnvironment environment top
    let given := inner.given ++ top.given ++ found
    let command ← commandOf inner given
    return {
      config := given.lookup .config
      clientId := given.lookup .clientId
      clientSecret := given.lookup .clientSecret
      logFormat := logFormatOf given
      command }

end Playground.CommandLine
