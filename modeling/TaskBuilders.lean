import TaskBuilders.Alias.Basic
import TaskBuilders.Alias.Entry
import TaskBuilders.Alias.PropertyLines
import TaskBuilders.Alias.Source
import TaskBuilders.Builder.AttributeMapping
import TaskBuilders.Builder.Plan
import TaskBuilders.Bundle.Archive
import TaskBuilders.Bundle.Basic
import TaskBuilders.Bundle.Classpath
import TaskBuilders.Bundle.Descriptor
import TaskBuilders.Bundle.EntryName
import TaskBuilders.Command.CommaList
import TaskBuilders.Command.Flag
import TaskBuilders.Command.Run
import TaskBuilders.Command.Version
import TaskBuilders.Config.Load
import TaskBuilders.Config.Settings
import TaskBuilders.Config.Value
import TaskBuilders.Cue.Document
import TaskBuilders.Cue.Evaluation
import TaskBuilders.Cue.Parser
import TaskBuilders.Cue.Syntax
import TaskBuilders.Cue.Token
import TaskBuilders.Cue.Value
import TaskBuilders.Definition.Basic
import TaskBuilders.Definition.Provider
import TaskBuilders.Definition.Registry
import TaskBuilders.Definition.TypeDescription
import TaskBuilders.Dict
import TaskBuilders.Files.Packed
import TaskBuilders.Files.Tree
import TaskBuilders.Generator.Basic
import TaskBuilders.Generator.Containers
import TaskBuilders.Generator.Preload
import TaskBuilders.Generator.Render
import TaskBuilders.Generator.Resolve
import TaskBuilders.Generator.Run
import TaskBuilders.Json.Basic
import TaskBuilders.Json.Parser
import TaskBuilders.Json.Printer
import TaskBuilders.Library.Basic
import TaskBuilders.Library.NodeSource
import TaskBuilders.Library.ProjectSource
import TaskBuilders.Library.PropertySource
import TaskBuilders.Library.ReferenceSource
import TaskBuilders.Log.Line
import TaskBuilders.Log.Record
import TaskBuilders.Main
import TaskBuilders.Module.Manifest
import TaskBuilders.Naming.FreeName
import TaskBuilders.Naming.Identifier
import TaskBuilders.Naming.ImportTable
import TaskBuilders.Naming.Namer
import TaskBuilders.Naming.Qualified
import TaskBuilders.Number.Binary64
import TaskBuilders.Number.Format
import TaskBuilders.Number.Reading
import TaskBuilders.Number.Shortest
import TaskBuilders.Proofs.Command.Writing
import TaskBuilders.Proofs.Definition.Provider
import TaskBuilders.Proofs.Dict.Lookup
import TaskBuilders.Proofs.Files.Placing
import TaskBuilders.Proofs.Generator.Account
import TaskBuilders.Proofs.Generator.Adoption
import TaskBuilders.Proofs.Generator.Agreement
import TaskBuilders.Proofs.Generator.Blocks
import TaskBuilders.Proofs.Generator.Catalogue
import TaskBuilders.Proofs.Generator.Declarations
import TaskBuilders.Proofs.Generator.Effects
import TaskBuilders.Proofs.Generator.Growth
import TaskBuilders.Proofs.Generator.Integrity
import TaskBuilders.Proofs.Generator.Loading
import TaskBuilders.Proofs.Generator.LoadingOrder
import TaskBuilders.Proofs.Generator.Methods
import TaskBuilders.Proofs.Generator.Move
import TaskBuilders.Proofs.Generator.Names
import TaskBuilders.Proofs.Generator.NamingStep
import TaskBuilders.Proofs.Generator.Notes
import TaskBuilders.Proofs.Generator.OutputPaths
import TaskBuilders.Proofs.Generator.Ownership
import TaskBuilders.Proofs.Generator.Request
import TaskBuilders.Proofs.Generator.Resolution
import TaskBuilders.Proofs.Generator.Settlement
import TaskBuilders.Proofs.Generator.Skipping
import TaskBuilders.Proofs.Generator.Stability
import TaskBuilders.Proofs.Generator.Step
import TaskBuilders.Proofs.Generator.Written
import TaskBuilders.Proofs.Json.RoundTrip
import TaskBuilders.Proofs.Module.Discovery
import TaskBuilders.Proofs.Module.Settling
import TaskBuilders.Proofs.Naming.AliasForm
import TaskBuilders.Proofs.Naming.FreeName
import TaskBuilders.Proofs.Naming.History
import TaskBuilders.Proofs.Naming.ImportTable
import TaskBuilders.Proofs.Naming.Namer
import TaskBuilders.Proofs.Naming.Qualified
import TaskBuilders.Proofs.Naming.Shape
import TaskBuilders.Proofs.Script.BuilderCall
import TaskBuilders.Proofs.Script.BuilderRun
import TaskBuilders.Proofs.Script.Declaration
import TaskBuilders.Proofs.Script.Dependency
import TaskBuilders.Proofs.Script.Forest
import TaskBuilders.Proofs.Script.Growth
import TaskBuilders.Proofs.Script.Placement
import TaskBuilders.Proofs.Script.References
import TaskBuilders.Proofs.Script.TargetFailure
import TaskBuilders.Proofs.Script.TargetOrder
import TaskBuilders.Proofs.Script.Walk
import TaskBuilders.Proofs.Source.Emission
import TaskBuilders.Proofs.Source.Package
import TaskBuilders.Proofs.Structure.Functions
import TaskBuilders.Proofs.Structure.Growth
import TaskBuilders.Proofs.Structure.Merge
import TaskBuilders.Proofs.Structure.RoundTrip
import TaskBuilders.Proofs.Text.LowerCase
import TaskBuilders.Proofs.Text.Path
import TaskBuilders.Script.Project
import TaskBuilders.Script.Property
import TaskBuilders.Script.Run
import TaskBuilders.Script.Statement
import TaskBuilders.Script.Value
import TaskBuilders.Source.Block
import TaskBuilders.Source.Emission
import TaskBuilders.Source.File
import TaskBuilders.Source.Grammar
import TaskBuilders.Source.Layout
import TaskBuilders.Source.Token
import TaskBuilders.Structure.AttributeDescriptor
import TaskBuilders.Structure.Basic
import TaskBuilders.Structure.Codec
import TaskBuilders.Text.Affix
import TaskBuilders.Text.Blank
import TaskBuilders.Text.CaseTable
import TaskBuilders.Text.CodeRange
import TaskBuilders.Text.Digest
import TaskBuilders.Text.Letter
import TaskBuilders.Text.LetterTable
import TaskBuilders.Text.Path
import TaskBuilders.Text.PrintTable
import TaskBuilders.Text.Quoted
import TaskBuilders.Toml.Document
import TaskBuilders.Toml.Value
import TaskBuilders.Xml.Element
import TaskBuilders.Xml.Markup
import TaskBuilders.Yaml.Fields
import TaskBuilders.Yaml.Lexer
import TaskBuilders.Yaml.Node
import TaskBuilders.Yaml.Reader
import TaskBuilders.Yaml.ScalarText
import TaskBuilders.Yaml.Token
import TaskBuilders.Proofs.Generator.Repetition
import TaskBuilders.Proofs.Generator.Breakdown
import TaskBuilders.Proofs.Generator.Registration
import TaskBuilders.Proofs.Generator.Turns
import TaskBuilders.Proofs.Source.LineCount
import TaskBuilders.Proofs.Structure.Keys
import TaskBuilders.Proofs.Generator.Imports
import TaskBuilders.Proofs.Structure.Union
import TaskBuilders.Proofs.Generator.Runtime
import TaskBuilders.Proofs.Generator.Nesting
import TaskBuilders.Proofs.Generator.DefaultAliases
import TaskBuilders.Proofs.Generator.NestedElements
import TaskBuilders.Proofs.Bundle.Classpath
import TaskBuilders.Proofs.Definition.Composition
import TaskBuilders.Proofs.Source.FieldNames
import TaskBuilders.Proofs.Structure.Visits
import TaskBuilders.Proofs.Naming.CamelCase
import TaskBuilders.Proofs.Number.Integer
import TaskBuilders.Proofs.Script.Properties
import TaskBuilders.Proofs.Naming.Candidates
import TaskBuilders.Proofs.Naming.Splitting
