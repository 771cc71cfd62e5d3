import EntityModel.NameMap
import EntityModel.Text.Blank
import EntityModel.Text.Letter
import EntityModel.Text.LetterCase
import EntityModel.Text.Lines
import EntityModel.Text.Quoted
import EntityModel.Json.Number
import EntityModel.Naming
import EntityModel.Schema.Json
import EntityModel.Go.Layout
import EntityModel.Sql.Split
import EntityModel.Yaml.Encode
import EntityModel.Schema.States
import EntityModel.Types.Resolve
import EntityModel.Sql.Script
import EntityModel.Go.File
import EntityModel.OpenApi.Text
import EntityModel.Files.Disk
import EntityModel.Settings.CommandLine
import EntityModel.Settings.Json
import EntityModel.Main
import EntityModel.Proofs.NameMap
import EntityModel.Proofs.Outcome
import EntityModel.Proofs.Types.References
import EntityModel.Proofs.Types.Following
import EntityModel.Proofs.Types.Chains
import EntityModel.Proofs.Naming
import EntityModel.Proofs.Capitals
import EntityModel.Proofs.Relational.CreationOrder
import EntityModel.Proofs.Relational.Links
import EntityModel.Proofs.Relational.Passes
import EntityModel.Proofs.Relational.JoinTables
import EntityModel.Proofs.Relational.Storage
import EntityModel.Proofs.Relational.RequiredJoins
import EntityModel.Proofs.Relational.SharedJoins
import EntityModel.Proofs.Relational.Columns
import EntityModel.Proofs.Relational.ReferenceTypes
import EntityModel.Proofs.Relational.WellFormed
import EntityModel.Proofs.Relational.RelationNames
import EntityModel.Proofs.Sql.Script
import EntityModel.Proofs.Sql.TriggerArguments
import EntityModel.Proofs.Sql.Triggers
import EntityModel.Proofs.Sql.Lexemes
import EntityModel.Proofs.Sql.Grammar
import EntityModel.Proofs.Sql.Chunks
import EntityModel.Proofs.Sql.Names
import EntityModel.Proofs.Sql.StatementText
import EntityModel.Proofs.Sql.Split
import EntityModel.Proofs.Text.Trim
import EntityModel.Proofs.Sql.SplitAgain
import EntityModel.Proofs.Sql.CheckClauses
import EntityModel.Proofs.Sql.Dialects
import EntityModel.Proofs.Sql.StatementNames
import EntityModel.Proofs.Go.Fields
import EntityModel.Proofs.OpenApi.Components
import EntityModel.Proofs.OpenApi.ComponentNames
import EntityModel.Proofs.OpenApi.References
import EntityModel.Proofs.Number.Shortest
import EntityModel.Proofs.Yaml.Numbers
import EntityModel.Proofs.Yaml.Decode
import EntityModel.Proofs.Yaml.Lines
import EntityModel.Proofs.Yaml.RoundTrip
import EntityModel.Proofs.Required
import EntityModel.Proofs.Go.Declarations
import EntityModel.Proofs.FieldKinds
import EntityModel.Proofs.Go.References
import EntityModel.Proofs.Relational.References
import EntityModel.Proofs.UnknownReferences
import EntityModel.Proofs.Go.Types
import EntityModel.Proofs.Go.Endless
import EntityModel.Proofs.Go.Text
import EntityModel.Proofs.Go.Layout
import EntityModel.Proofs.Go.Delimiters
import EntityModel.Proofs.Go.TypeNames
import EntityModel.Proofs.Go.LaidOut
import EntityModel.Proofs.Files.Disk
import EntityModel.Proofs.Artifacts
import EntityModel.Proofs.Run.Write
import EntityModel.Proofs.Run.Check
import EntityModel.Proofs.Relational.Cycles
import EntityModel.Proofs.Relational.Turns
import EntityModel.Proofs.Relational.ForwardKeys
import EntityModel.Proofs.Relational.LooseTables
import EntityModel.Proofs.Relational.Extension
import EntityModel.Proofs.Yaml.CoreSchema
import EntityModel.Proofs.Json.Restore
import EntityModel.Proofs.Json.Yields
import EntityModel.Proofs.Schema.RoundTrip
import EntityModel.Proofs.Aliases
import EntityModel.Proofs.OpenApi.EntityComponents
import EntityModel.Proofs.Go.Scanning
import EntityModel.Proofs.Go.NormalForm
import EntityModel.Proofs.Go.Spacing
import EntityModel.Proofs.Go.Neighbours
import EntityModel.Proofs.Schema.States
import EntityModel.Proofs.Settings
import EntityModel.Proofs.Go.Identifiers
import EntityModel.Proofs.Go.Brackets
import EntityModel.Proofs.Go.Columns
import EntityModel.Proofs.Go.Quoting
import EntityModel.Proofs.SnakeCase
