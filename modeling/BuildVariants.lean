import BuildVariants.BuildPlan
import BuildVariants.BuildType
import BuildVariants.CacheEntry
import BuildVariants.CacheName
import BuildVariants.CommandLine.Arguments
import BuildVariants.CommandLine.Manual
import BuildVariants.CommandLine.Outcome
import BuildVariants.CommandLine.Run
import BuildVariants.Compiler
import BuildVariants.Condition
import BuildVariants.Config
import BuildVariants.Config.Reading
import BuildVariants.Data
import BuildVariants.Data.Reading
import BuildVariants.Decimal.Rounding
import BuildVariants.Decimal.Shortest
import BuildVariants.Decimal.Stepwise
import BuildVariants.Dependency
import BuildVariants.Derived
import BuildVariants.Diagnostic
import BuildVariants.Domain
import BuildVariants.Environment
import BuildVariants.FieldLimit
import BuildVariants.Files
import BuildVariants.Files.Tree
import BuildVariants.Json.Parser
import BuildVariants.Json.Printer
import BuildVariants.Legion
import BuildVariants.Listing
import BuildVariants.Main
import BuildVariants.NameMap
import BuildVariants.Package
import BuildVariants.Planner
import BuildVariants.Proofs.CacheEntry
import BuildVariants.Proofs.CommandLine.Agreement
import BuildVariants.Proofs.CommandLine.Arguments
import BuildVariants.Proofs.Condition
import BuildVariants.Proofs.Condition.Clauses
import BuildVariants.Proofs.Condition.Text
import BuildVariants.Proofs.Config.Layers
import BuildVariants.Proofs.Data.Arrangement
import BuildVariants.Proofs.Data.Reading
import BuildVariants.Proofs.Domain
import BuildVariants.Proofs.Environment
import BuildVariants.Proofs.FieldLimit
import BuildVariants.Proofs.FirstIn
import BuildVariants.Proofs.Flags
import BuildVariants.Proofs.Json.Reading
import BuildVariants.Proofs.Json.Tokens
import BuildVariants.Proofs.Legion.Clash
import BuildVariants.Proofs.Legion.Configuration
import BuildVariants.Proofs.Legion.Features
import BuildVariants.Proofs.Legion.Form
import BuildVariants.Proofs.Legion.Kokkos
import BuildVariants.Proofs.Legion.Values
import BuildVariants.Proofs.NameMap
import BuildVariants.Proofs.Planner
import BuildVariants.Proofs.Planner.Answers
import BuildVariants.Proofs.Planner.Inputs
import BuildVariants.Proofs.Schema
import BuildVariants.Proofs.Schema.Resolution
import BuildVariants.Proofs.Spec.Exchange
import BuildVariants.Proofs.Spec.Layers
import BuildVariants.Proofs.Spec.Tokens
import BuildVariants.Proofs.Text.ByteOrder
import BuildVariants.Proofs.Text.Lines
import BuildVariants.Rule
import BuildVariants.Schema
import BuildVariants.Spec
import BuildVariants.Spec.File
import BuildVariants.Spec.Reading
import BuildVariants.Spec.Token
import BuildVariants.Text.Blank
import BuildVariants.Text.Numeral
import BuildVariants.Text.Pieces
import BuildVariants.Text.Quoted
import BuildVariants.Text.Shell
import BuildVariants.Text.Unprintable
import BuildVariants.Text.Upper
import BuildVariants.Text.UpperTable
import BuildVariants.Toml.Lexical
import BuildVariants.Toml.Number
import BuildVariants.Toml.Parser
import BuildVariants.Toml.Reading
import BuildVariants.Toml.Table
import BuildVariants.ValidationError
import BuildVariants.Value
import BuildVariants.Proofs.Planner.Defaults
import BuildVariants.Proofs.Planner.Parts
import BuildVariants.Proofs.Flags.Order
import BuildVariants.Proofs.Toml.Table
import BuildVariants.Proofs.Spec.File
import BuildVariants.Proofs.Domain.Spelling
import BuildVariants.Proofs.Compiler
import BuildVariants.Proofs.CommandLine.Lines
import BuildVariants.Proofs.Schema.Domains
import BuildVariants.Proofs.Domain.Selection
import BuildVariants.Proofs.Domain.Integer
import BuildVariants.Proofs.Planner.Overlooked
import BuildVariants.Proofs.Legion.Bindings
import BuildVariants.Proofs.Dependency
import BuildVariants.Proofs.Diagnostic
import BuildVariants.Proofs.Config.Faults
