import SchemaSurvey.SortedMap.Lemmas
import SchemaSurvey.Catalog.Row
import SchemaSurvey.Catalog.SystemTable
import SchemaSurvey.Document.Basic
import SchemaSurvey.Survey.Schema
import SchemaSurvey.Survey.ScalarType
import SchemaSurvey.Survey.Relation
import SchemaSurvey.Survey.Column
import SchemaSurvey.Survey.Comment
import SchemaSurvey.Survey.Constraint
import SchemaSurvey.Survey.Aggregate
import SchemaSurvey.Event
import SchemaSurvey.Survey.Basic
import SchemaSurvey.Catalog.Sample
import SchemaSurvey.Binary64
import SchemaSurvey.Text.Unprintable
import SchemaSurvey.Text.Shown
import SchemaSurvey.Json.Value
import SchemaSurvey.Json.Fault
import SchemaSurvey.Json.Reading
import SchemaSurvey.Json.Quoted
import SchemaSurvey.Json.Numeral
import SchemaSurvey.Json.Token
import SchemaSurvey.Json.Tree
import SchemaSurvey.Json.Codec
import SchemaSurvey.Json.Record
import SchemaSurvey.Json.Enumeration
import SchemaSurvey.Document.Format
import SchemaSurvey.Failure
import SchemaSurvey.Configuration.Basic
import SchemaSurvey.Configuration.Format
import SchemaSurvey.Configuration.Validation
import SchemaSurvey.Configuration.Refresh
import SchemaSurvey.Configuration.ScalarTypes
import SchemaSurvey.Database.Cell
import SchemaSurvey.Database.Server
import SchemaSurvey.Database.Run
import SchemaSurvey.Database.Loading
import SchemaSurvey.Text.Blank
import SchemaSurvey.Text.PercentCoding
import SchemaSurvey.Database.IpAddress
import SchemaSurvey.Database.ConnectionString
import SchemaSurvey.Database.Network
import SchemaSurvey.FileTree.Basic
import SchemaSurvey.FileTree.Access
import SchemaSurvey.Deployment
import SchemaSurvey.LogFilter
import SchemaSurvey.CommandLine.Arguments
import SchemaSurvey.CommandLine.Program
import SchemaSurvey.Main
import SchemaSurvey.Proofs.Sorting
import SchemaSurvey.Proofs.SortedMap.Building
import SchemaSurvey.Proofs.Survey.Choice
import SchemaSurvey.Proofs.Survey.Stages
import SchemaSurvey.Proofs.Survey.Tables
import SchemaSurvey.Proofs.Survey.Dependence
import SchemaSurvey.Proofs.Survey.RowOrder
import SchemaSurvey.Proofs.Survey.Hidden
import SchemaSurvey.Proofs.Survey.Closure
import SchemaSurvey.Proofs.Json.Lexing
import SchemaSurvey.Proofs.Json.Writing
import SchemaSurvey.Proofs.Survey.ExposureRule
import SchemaSurvey.Proofs.Survey.ForeignKeys
import SchemaSurvey.Proofs.Json.RoundTrip
import SchemaSurvey.Proofs.Json.Record
import SchemaSurvey.Proofs.Json.Abridging
import SchemaSurvey.Proofs.Formats
import SchemaSurvey.Proofs.FileTree.Replace
import SchemaSurvey.Proofs.Deployment.Updates
import SchemaSurvey.Proofs.Deployment.Atomicity
import SchemaSurvey.Proofs.Survey.Record
import SchemaSurvey.Proofs.Survey.ReturnTypes
import SchemaSurvey.Proofs.Survey.Renumbering
import SchemaSurvey.Proofs.Survey.Exclusion
import SchemaSurvey.Proofs.Survey.Locality
import SchemaSurvey.Proofs.Database.Steps
import SchemaSurvey.Proofs.Database.AllOrNothing
import SchemaSurvey.Proofs.Survey.Unread
import SchemaSurvey.Proofs.Database.Decoding
import SchemaSurvey.Proofs.Database.FailureKind
import SchemaSurvey.Proofs.Survey.AggregateRule
import SchemaSurvey.Proofs.Survey.ConstraintRule
import SchemaSurvey.Proofs.Survey.ColumnRule
import SchemaSurvey.Proofs.Survey.CommentRule
import SchemaSurvey.Proofs.Survey.Accounting
import SchemaSurvey.Proofs.Deployment.Defaults
import SchemaSurvey.Proofs.Survey.TieBreak
import SchemaSurvey.Proofs.Configuration.TypeCatalog
import SchemaSurvey.Proofs.Catalog.SampleKeys
import SchemaSurvey.Proofs.CommandLine.PrintOptions
