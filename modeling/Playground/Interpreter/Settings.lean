import Playground.Config

/-! How the embedded interpreter is launched: its arguments, its variables, the directory it sees,
and its limits. The program's text is added as the last argument. -/
namespace Playground.Interpreter

structure Mount where
  host : String
  guest : String
  deriving DecidableEq, Repr

structure Settings where
  argv : List String := ["guest"]
  env : List (String × String) := []
  mount : Option Mount := none
  maxOutputBytes : Nat := 1024 * 1024
  fuel : Option Nat := none
  deriving DecidableEq, Repr

def launcher : String :=
  "import sys\n" ++
  "_source = sys.argv.pop(1)\n" ++
  "try:\n" ++
  "    exec(compile(_source, \"<workbench>\", \"exec\"), \x7b\"__name__\": \"__main__\"\x7d)\n" ++
  "except SystemExit:\n" ++
  "    raise\n" ++
  "except BaseException as _exc:\n" ++
  "    sys.stdout.flush()\n" ++
  "    print(f\"\x7btype(_exc).__name__\x7d: \x7b_exc\x7d\", file=sys.stderr)\n" ++
  "    sys.exit(1)\n"

def Settings.python (config : Config.Components) : Settings where
  argv := ["python","-c",launcher]
  env := [("PYTHONDONTWRITEBYTECODE","1"),("PYTHONIOENCODING","utf-8")]
  mount := config.interpreter.stdlibDir.map fun host =>
    { host, guest := config.interpreter.stdlibGuestPath }
  maxOutputBytes := config.execution.maxOutputBytes
  fuel := if config.engine.fuelMetering then some config.execution.maxFuel else none

end Playground.Interpreter
