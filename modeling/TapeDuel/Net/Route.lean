import TapeDuel.Config.Loader
import TapeDuel.Config.Precedence
import TapeDuel.Log.Record
import TapeDuel.Mode
import TapeDuel.Net.Url

/-!
# Routes

Connections to local addresses are made directly. All others go through a proxy, if
one is given: on the command line, in a configuration file or in the environment.
-/

namespace TapeDuel.Net

open Log (Record)

/-! ## The proxy -/

/-- The variables that may name a proxy, the strongest first. -/
def proxyVariables : List String :=
  ["ALL_PROXY", "all_proxy", "HTTP_PROXY", "http_proxy", "SOCKS_PROXY", "socks_proxy"]

/-- The address of the proxy, empty for none, with the record of having found one. In
development there is none. -/
def proxyAddress (mode : Mode) (flag : String) (loader : Config.Loader)
    (variable_ : String → Text) : Except Failure (Text × List Record) := do
  if mode = .development then return ([], [])
  let filed ← loader.first Config.Value.toText? [] "proxy_addr"
  let address := firstGiven []
    (Text.ofString flag :: filed :: proxyVariables.map variable_)
  let found : Record :=
    { level := .info, message := "proxy", attrs := [("addr", .text address)] }
  return (address, if address.isEmpty then [] else [found])

/-- How a connection is made. -/
inductive Route where
  | direct
  | proxy
deriving DecidableEq, Repr

/-- The name of a route. -/
def Route.name : Route → String
  | direct => "direct"
  | proxy => "proxy"

/-- The schemes of proxies that can be used. -/
def proxySchemes : List Text :=
  ["socks", "socks5", "socks5h"]

/-- How addresses that are not local are reached, given the address of the proxy. -/
def proxyRoute (address : Text) : Except Failure Route :=
  if address.isEmpty then .ok .direct
  else
    match Url.read address with
    | .error words => .error (.plain ((words.toString?).getD "bad proxy address"))
    | .ok url =>
      if proxySchemes.contains url.scheme then .ok .proxy
      else .error (.within "proxy: unknown scheme"
        (.plain ((url.scheme.toString?).getD "")))

/-! ## Dialing -/

/-- How connections are made, with what comes of them. -/
structure Dialer (α : Type) where
  direct : Text → Except Failure α
  /-- The way through the proxy, if it can be used. -/
  proxy : Except Failure (Text → Except Failure α)

/-- The record of making a connection. -/
def dialRecord (address : Text) (route : Route) : Record :=
  { level := .debug
    message := "dial"
    attrs := [("addr", .text address), ("route", .text route.name)] }

/-- Makes a connection. -/
def Dialer.dial {α : Type} (d : Dialer α) (address : Text) :
    Except Failure α × List Record :=
  if isLocal address then (d.direct address, [dialRecord address .direct])
  else
    match d.proxy with
    | .error failure => (.error failure, [])
    | .ok connect => (connect address, [dialRecord address .proxy])

end TapeDuel.Net
