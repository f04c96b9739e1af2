-- SUMMARY: Queries: the request that carries a statement, and the exchange for it.
import PlaceSearch.Service.Exchange
import PlaceSearch.Table.Reply

/-!
# Queries
-/

namespace PlaceSearch

/-- Where queries are taken. -/
def queryBase : String := "https://bigquery.googleapis.com/bigquery/v2"

/-- The address for the queries of a project. -/
def queryEndpoint (base projectId : String) : String :=
  s!"{Url.withoutTrailingSlashes base}/projects/{projectId}/queries"

/-- The request for a statement, with a limit for the rows of the reply. -/
def queryRequest (statement : String) (maxResults : Nat) : Json.Value :=
  .ofMembers [
    ("query", .text statement),
    ("useLegacySql", .bool false),
    ("maxResults", .number (.int maxResults))]

/-- Execute a statement. -/
def queryExchange (base projectId : String) (maxResults : Nat) (statement token : String) :
    Exchange Table where
  request := {
    verb := .post
    target := Url.target (queryEndpoint base projectId) []
    headers := [("authorization", "Bearer " ++ token), jsonHeader]
    body := some (queryRequest statement maxResults) }
  read reply :=
    if reply.isSuccess then (reply.decode QueryReply.reader).map Table.ofReply
    else .error (reply.fault "API request failed.")

end PlaceSearch
