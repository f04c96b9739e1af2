-- SUMMARY: HTTP requests and replies, and exchanges: a request with the way its reply is read.
import PlaceSearch.Json.Value
import PlaceSearch.Service.Fault
import PlaceSearch.Service.Url

/-!
# Exchanges

An exchange is data: what is sent, and a function from the reply to an answer.
Nothing is sent if a header cannot be written; nothing is tried twice.
-/

namespace PlaceSearch

open Json (Reader Value)

inductive HttpVerb where
  | get
  | post
deriving DecidableEq, Repr

def HttpVerb.render : HttpVerb → String
  | .get => "GET"
  | .post => "POST"

structure HttpRequest where
  verb : HttpVerb
  /-- The path and the query. -/
  target : String
  /-- Names in small letters. -/
  headers : List (String × String)
  body : Option Value

structure HttpReply where
  status : Nat
  body : String
deriving DecidableEq, Repr

namespace HttpReply

def isSuccess (r : HttpReply) : Bool := 200 ≤ r.status && r.status < 300

/-- A status that reports an error of the client or of the server. -/
def isError (r : HttpReply) : Bool := 400 ≤ r.status && r.status < 600

/-- The text of a reply; some statuses carry none. -/
def text (r : HttpReply) : String := if r.status = 204 ∨ r.status = 304 then "" else r.body

/-- The text as the reply of an error, where a byte order mark is passed over. -/
def errorText (r : HttpReply) : String :=
  match r.text.toList with
  | '\uFEFF' :: rest => String.ofList rest
  | cs => String.ofList cs

/-- Decode the text. -/
def decode {α : Type} (reader : Reader α) (r : HttpReply) : Except ServiceFault α :=
  match reader.run r.text with
  | some a => .ok a
  | none => .error (.transport .decode)

/-- The fault that an error reply stands for; without a message of its own it
    gets the fallback. -/
def fault (r : HttpReply) (fallback : String) : ServiceFault :=
  .api r.status (errorReplyMessage r.errorText fallback)

end HttpReply

/-- A character that may stand in a header. -/
def isHeaderChar (c : Char) : Bool := c == '\t' || (' ' ≤ c && c != '\x7f')

/-- Headers that name the key and the parts of a reply that are asked for. -/
def keyHeaders (key mask : String) : List (String × String) :=
  [("x-goog-api-key", key), ("x-goog-fieldmask", mask)]

/-- The header of a JSON body. -/
def jsonHeader : String × String := ("content-type", "application/json")

/-- What is sent, and how the reply is read. -/
structure Exchange (α : Type) where
  request : HttpRequest
  read : HttpReply → Except ServiceFault α

namespace Exchange

variable {α : Type}

/-- All headers can be written. -/
def isSendable (e : Exchange α) : Bool :=
  e.request.headers.all fun h => h.2.toList.all isHeaderChar

/-- Send the request, if it can be sent, and read the reply. -/
def run (e : Exchange α) (server : HttpRequest → HttpReply) : Except ServiceFault α :=
  if e.isSendable then e.read (server e.request) else .error (.transport .request)

end Exchange

end PlaceSearch
