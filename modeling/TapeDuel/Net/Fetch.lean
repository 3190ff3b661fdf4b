import TapeDuel.Failure
import TapeDuel.Log.Record
import TapeDuel.Net.Domain.Name
import TapeDuel.Net.Status
import TapeDuel.Net.Url

/-!
# Fetching from the web

A fetch asks a transport for an address and takes the body of the answer, if the
answer is good and the body is not too large.
-/

namespace TapeDuel.Net

open Log (Record)

/-- The largest body that is taken, in bytes. -/
def maxFetchSize : Nat :=
  1048576

/-- What a server answers. -/
structure Response where
  status : Int
  body : Text
  /-- Why the body breaks off behind what is there, if it does. -/
  broken : Option Failure := none

/-- How addresses are asked for. -/
abbrev Transport := Url → Except Failure Response

/-- A text as a string, for messages. -/
def shown (t : Text) : String :=
  t.toString?.getD ""

/-- The record of an answer. -/
def fetchRecord (address : String) (status : Int) : Record :=
  { level := .debug
    message := "fetch"
    attrs := [("url", .text address), ("status", .int status)] }

/-- Takes the body of an answer. -/
def takeBody (address : String) (response : Response) : Except Failure Text :=
  if response.status ≠ 200 then
    .error (.plain s!"fetch {address}: {statusLine response.status}")
  else if maxFetchSize < response.body.length then
    .error (.within s!"fetch {address}" (.fetchTooLarge maxFetchSize))
  else
    match response.broken with
    | some failure => .error failure
    | none => .ok response.body

/-- Fetches an address. -/
def fetch (transport : Transport) (address : String) :
    Except Failure Text × List Record :=
  match Url.read address with
  | .error words => (.error (.plain (shown words)), [])
  | .ok url =>
    let url := url.dropEmptyPort
    match transport url with
    | .error failure =>
      (.error (.within s!"Get {shown url.writeHidden.quote}" failure), [])
    | .ok response => (takeBody address response, [fetchRecord address response.status])

/-- The port of a scheme. -/
def portOf? (scheme : Text) : Option Text :=
  if scheme = Text.ofString "http" then some "80"
  else if scheme = Text.ofString "https" then some "443"
  else none

/-- The host and port that an address is asked at. -/
def endpoint (url : Url) : Except Failure Text :=
  match portOf? url.scheme with
  | none =>
      .error (.plain s!"unsupported protocol scheme {shown (Text.quote url.scheme)}")
  | some usual =>
    if url.host.isEmpty then .error (.plain "http: no Host in request URL")
    else
      let (host, port) := url.hostAndPort
      .ok (joinPort (Domain.lookupName host) (if port.isEmpty then usual else port))

end TapeDuel.Net
