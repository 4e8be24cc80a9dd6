import Playground.Config
import Playground.Fault
import Playground.Net.SocketAddress

/-! The settings a server starts with: the address it binds, the time it gives a request, and how it
stops. -/
namespace Playground.Server

structure Settings where
  bindAddr : Net.SocketAddress
  timeoutSecs : Nat
  graceful : Bool
  deriving DecidableEq, Repr

def Settings.ofConfig (config : Config.Server) : Except Fault Settings :=
  match Net.SocketAddress.parse? config.bindAddr with
  | some address =>
    .ok { bindAddr := address, timeoutSecs := config.requestTimeoutSecs,
          graceful := config.gracefulShutdown }
  | none =>
    .error (.invalidConfig s!"bind address '{config.bindAddr}': invalid socket address syntax")

end Playground.Server
