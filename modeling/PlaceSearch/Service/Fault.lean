-- SUMMARY: What can go wrong with a remote service, and the error replies of services.
import PlaceSearch.Json.Reader

/-!
# Service faults
-/

namespace PlaceSearch

open Json (Reader)

/-- Faults of the transport, whose texts belong to it. -/
inductive TransportFault where
  /-- A reply with the status of an error. -/
  | status
  /-- A reply that cannot be decoded. -/
  | decode
  /-- A request that cannot be sent. -/
  | request
deriving DecidableEq, Repr

inductive ServiceFault where
  | transport (fault : TransportFault)
  /-- A text that is not of the expected form. -/
  | unreadable
  | api (status : Nat) (message : String)
  | noRoutes
  | geocoding (status message : String)
  | malformed (text : String)
deriving DecidableEq, Repr

namespace ServiceFault

def message : ServiceFault → String
  | .transport .status => "HTTP error: status"
  | .transport .decode => "HTTP error: decode"
  | .transport .request => "HTTP error: request"
  | .unreadable => "Serialization error"
  | .api status message => s!"API error ({status}): {message}"
  | .noRoutes => "No routes found between the selected origin and destination."
  | .geocoding status message => s!"Geocoding failed with status {status}: {message}"
  | .malformed text => s!"Malformed response: {text}"

end ServiceFault

/-- An error reply: an object `error` that may hold a code, a message and a
    status. Yields the message, if there is one. -/
def errorReplyReader : Reader (Option String) :=
  .record ["error"] fun room fields => do
    let [error] := fields | none
    let message ← Reader.optional
      (.record ["code", "message", "status"] fun room fields => do
        let [code, message, status] := fields | none
        let _ ← Reader.optional (.natUpTo 65535) room code
        let message ← Reader.optional .text room message
        let _ ← Reader.optional .text room status
        return message) room error
    return message.join

/-- The message of an error reply, or the fallback if it has none or cannot be read. -/
def errorReplyMessage (body fallback : String) : String :=
  ((errorReplyReader.run body).join).getD fallback

end PlaceSearch
