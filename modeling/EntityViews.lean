import EntityViews.Calendar.Clock
import EntityViews.Calendar.Date
import EntityViews.Calendar.DateTime
import EntityViews.Calendar.Reader
import EntityViews.Calendar.Zone
import EntityViews.Command.Run
import EntityViews.Command.Usage
import EntityViews.Fault
import EntityViews.Fetch.Context
import EntityViews.Fetch.Declaration
import EntityViews.Fetch.Execution
import EntityViews.Fetch.Plan
import EntityViews.Fetch.Registry
import EntityViews.Fetch.Rehearsal
import EntityViews.Fetch.Source
import EntityViews.Filter
import EntityViews.Folder
import EntityViews.Json.Reader
import EntityViews.Json.Tagged
import EntityViews.Json.Writer
import EntityViews.Learning.Annotators
import EntityViews.Learning.Entities
import EntityViews.Learning.Level
import EntityViews.Learning.Sources
import EntityViews.Learning.Views
import EntityViews.Learning.Visibility
import EntityViews.Log.Journal
import EntityViews.Log.Level
import EntityViews.Log.Message
import EntityViews.Log.Record
import EntityViews.Main
import EntityViews.Number.Binary64
import EntityViews.Number.Decimal
import EntityViews.Number.Places
import EntityViews.Number.Shortest
import EntityViews.Number.Text
import EntityViews.Proofs.Distinct
import EntityViews.Proofs.Tour
import EntityViews.Record
import EntityViews.Record.Path
import EntityViews.Record.Tagged
import EntityViews.Schema
import EntityViews.Schema.ColumnKind
import EntityViews.Schema.Reader
import EntityViews.Schema.Template
import EntityViews.Schema.Template.MemberTable
import EntityViews.Schema.Template.Reached
import EntityViews.Settings
import EntityViews.Sql.Condition
import EntityViews.Sql.Filter
import EntityViews.Sql.Name
import EntityViews.Sql.Operand
import EntityViews.Sql.Query
import EntityViews.Sql.Statement
import EntityViews.Storage.Cell
import EntityViews.Storage.Connection
import EntityViews.Storage.Loader
import EntityViews.Storage.Repository
import EntityViews.Storage.Script
import EntityViews.Storage.World
import EntityViews.Text.Classes
import EntityViews.Text.Directive
import EntityViews.Text.Literal
import EntityViews.Text.Markup
import EntityViews.Text.Picture
import EntityViews.Text.Printed
import EntityViews.Text.Quoted
import EntityViews.Text.Split
import EntityViews.Text.Style
import EntityViews.Text.Surrogate
import EntityViews.Text.Table.CaseMap
import EntityViews.Text.Table.Cased
import EntityViews.Text.Table.CellWidth
import EntityViews.Text.Table.Colours
import EntityViews.Text.Table.Digits
import EntityViews.Text.Table.IdentifierPart
import EntityViews.Text.Table.IdentifierStart
import EntityViews.Text.Table.Pictures
import EntityViews.Text.Table.Unprintable
import EntityViews.Text.Table.WordPart
import EntityViews.Text.Width
import EntityViews.Value
import EntityViews.Value.Key
import EntityViews.Value.Number
import EntityViews.Value.Text
import EntityViews.View
import EntityViews.View.Reader
import EntityViews.Proofs.Traversal
import EntityViews.Proofs.Demand
import EntityViews.Proofs.Truth
import EntityViews.Proofs.Meaning
import EntityViews.Proofs.Satisfaction
import EntityViews.Proofs.Negation
import EntityViews.Proofs.Trail
import EntityViews.Proofs.Schedule
import EntityViews.Proofs.Keyed
import EntityViews.Proofs.Populations
import EntityViews.Proofs.Lookup
import EntityViews.Proofs.Answers
import EntityViews.Proofs.Selection
import EntityViews.Proofs.Restriction
import EntityViews.Proofs.Fields
import EntityViews.Proofs.Loading
import EntityViews.Proofs.Attachment
import EntityViews.Proofs.Population
import EntityViews.Proofs.Annotation
import EntityViews.Proofs.Linking
import EntityViews.Proofs.Narrowing
import EntityViews.Proofs.Scope
import EntityViews.Proofs.Columns
import EntityViews.Proofs.Effects
import EntityViews.Proofs.Paging
import EntityViews.Proofs.Keysets
import EntityViews.Proofs.Levels
import EntityViews.Proofs.Provision
import EntityViews.Proofs.Registrations
import EntityViews.Proofs.Resolution
import EntityViews.Proofs.Exposure
import EntityViews.Proofs.Precedence
import EntityViews.Proofs.Roots
import EntityViews.Proofs.Marks
import EntityViews.Proofs.Wording
import EntityViews.Proofs.Operands
import EntityViews.Proofs.Shapes
import EntityViews.Proofs.Drafts
import EntityViews.Proofs.Batches
import EntityViews.Proofs.Absence
import EntityViews.Proofs.Walks
import EntityViews.Proofs.Course
import EntityViews.Proofs.Descent
import EntityViews.Proofs.StrictWalks
import EntityViews.Proofs.Vacancy
import EntityViews.Proofs.Faults
import EntityViews.Proofs.Origins
import EntityViews.Proofs.Barriers
import EntityViews.Proofs.Sessions
import EntityViews.Proofs.Transactions
import EntityViews.Proofs.Visibility
import EntityViews.Proofs.Templates
import EntityViews.Proofs.Acceptance
import EntityViews.Proofs.Grammar
import EntityViews.Proofs.Phrasing
import EntityViews.Proofs.Combination
import EntityViews.Proofs.Aliases
import EntityViews.Proofs.Unknowns
import EntityViews.Proofs.Reorderings
import EntityViews.Proofs.Numerals
import EntityViews.Proofs.Timestamps
import EntityViews.Proofs.Cells
import EntityViews.Proofs.Quotation
import EntityViews.Proofs.Rereading
import EntityViews.Proofs.Documents
import EntityViews.Proofs.Targets
import EntityViews.Proofs.Unfiltered
import EntityViews.Proofs.Merging
import EntityViews.Proofs.Enquiries
import EntityViews.Proofs.Tallies
import EntityViews.Proofs.Atomicity
import EntityViews.Proofs.Terms
import EntityViews.Proofs.Interpretation
import EntityViews.Proofs.Placeholders
import EntityViews.Proofs.Building
import EntityViews.Proofs.Expressions
import EntityViews.Proofs.Lexemes
import EntityViews.Proofs.Definitions
import EntityViews.Proofs.Identifiers
import EntityViews.Proofs.Loggers
import EntityViews.Proofs.Rounding
import EntityViews.Proofs.Shortest
import EntityViews.Proofs.Figures
import EntityViews.Proofs.Lines
import EntityViews.Proofs.Entries
