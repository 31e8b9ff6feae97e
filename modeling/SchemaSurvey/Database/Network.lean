/-
  `Network` — the databases in reach, and work with a database named by a connection string.

  A network says which server listens at an address. An address is looked up as it stands; one where
  nobody listens is read as a connection string all the same, since a string that cannot be read, or
  that does not say where to connect, fails for that reason.
-/
import SchemaSurvey.Configuration.Refresh
import SchemaSurvey.Configuration.Validation
import SchemaSurvey.Database.ConnectionString
import SchemaSurvey.Database.Loading

namespace SchemaSurvey.Database

/-- The servers in reach, by address. -/
abbrev Network := String → Option Server

/-- The network without servers. -/
def Network.none : Network := fun _ => Option.none

namespace Network

/-- Finds the server that a connection string names. -/
def find (network : Network) (uri : String) : Except ConnectionError Server :=
  match network uri with
  | some server => .ok server
  | Option.none => do
    let _ ← Endpoints.ofString uri
    .error .unreachable

/-- Loads a snapshot from the server that a connection string names. -/
def load (network : Network) (uri : String) : Run Failure Catalog.Snapshot := do
  let server ← .of ((network.find uri).mapError ConnectionError.toFailure)
  server.visit.mapError LoadError.toFailure

/-- Surveys the database that a connection string names. -/
def introspect (network : Network) (uri : String) (excluded : List String) : Run Failure Document :=
  network.load uri >>= exposed excluded

/-- Brings a configuration up to date with the first database that it names. -/
def configure (network : Network) (c : Configuration) : Run Failure Configuration := do
  .of c.validate
  let uri ← .of c.connections.select
  let snapshot ← network.load uri
  let _ ← exposed c.excluded snapshot
  let refreshed := c.refresh snapshot
  .report [.configurationRefreshed refreshed.metadata.tables.size
    refreshed.metadata.nativeQueries.size]
  return refreshed

end Network

end SchemaSurvey.Database
