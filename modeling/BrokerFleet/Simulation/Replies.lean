import BrokerFleet.ApiServer.Answer
import BrokerFleet.Json.Writer

/-! # A scripted API server

A script lists the answers to come. Where it says nothing, no object exists, every deletion goes
well and every write is answered with what was written. -/

namespace BrokerFleet.Simulation

/-- The answers to come and the requests that were made. -/
structure Replies where
  coming : List (Option ApiAnswer) := []
  requests : List ApiRequest := []

namespace Replies

/-- The answer where the script says nothing. -/
def unscripted (r : ApiRequest) : ApiAnswer :=
  match r.method with
  | .get =>
    ⟨404, (ApiStatus.toJson { message := "NotFound", reason := "NotFound", code := 404 }).render⟩
  | .delete =>
    ⟨200, (Json.obj [("apiVersion", .str "v1"), ("kind", .str "Status"), ("metadata", .obj []),
      ("status", .str "Success")]).render⟩
  | .post | .patch => ⟨200, (Json.orNull r.body).render⟩

def answer : Handler apiServer Replies := fun (r : ApiRequest) s =>
  let noted := { s with requests := s.requests ++ [r] }
  match s.coming with
  | [] => (unscripted r, noted)
  | none :: rest => (unscripted r, { noted with coming := rest })
  | some a :: rest => (a, { noted with coming := rest })

end Replies

end BrokerFleet.Simulation
