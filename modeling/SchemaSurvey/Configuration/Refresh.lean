/-
  `Refresh` — bringing a configuration up to date with a database.

  Tables and aggregate functions are replaced by what the survey finds; connections, pool settings,
  native queries and excluded schemas belong to the user and are carried over.
-/
import SchemaSurvey.Configuration.Basic
import SchemaSurvey.Survey.Basic

namespace SchemaSurvey.Configuration

/-- Replaces what comes from the database. -/
def withDocument (c : Configuration) (d : Document) : Configuration :=
  { c with
    version := currentVersion
    metadata := { c.metadata with tables := d.tables }
    aggregates := d.aggregates }

/-- The configuration brought up to date with a snapshot of its database. -/
def refresh (c : Configuration) (s : Catalog.Snapshot) : Configuration :=
  c.withDocument (s.resolve c.excluded)

end SchemaSurvey.Configuration
