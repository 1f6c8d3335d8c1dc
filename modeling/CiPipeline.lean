import CiPipeline.Command.Action
import CiPipeline.Command.Basic
import CiPipeline.Command.Codec
import CiPipeline.Command.Document
import CiPipeline.Command.Error
import CiPipeline.Command.Parameter
import CiPipeline.CommandLine.Args
import CiPipeline.CommandLine.Basic
import CiPipeline.CommandLine.Guide
import CiPipeline.Config
import CiPipeline.Data.Datum
import CiPipeline.Data.Decode
import CiPipeline.Data.Problem
import CiPipeline.Definition.Basic
import CiPipeline.Definition.Load
import CiPipeline.Dump.Format
import CiPipeline.Dump.Outline
import CiPipeline.Dump.Tree
import CiPipeline.Export.Provider
import CiPipeline.Export.Travis
import CiPipeline.Identifier
import CiPipeline.IoProblem
import CiPipeline.Job
import CiPipeline.Json.Number
import CiPipeline.Json.Reader
import CiPipeline.Json.Writer
import CiPipeline.Log
import CiPipeline.Machine.Changes
import CiPipeline.Machine.FileSystem
import CiPipeline.Machine.Launch
import CiPipeline.Machine.Programs
import CiPipeline.Machine.ShellScript
import CiPipeline.Machine.World
import CiPipeline.Main
import CiPipeline.Number.Binary64
import CiPipeline.Number.Literal
import CiPipeline.Number.Notation
import CiPipeline.Number.Shortest
import CiPipeline.Path
import CiPipeline.Pipeline.Basic
import CiPipeline.Pipeline.Build
import CiPipeline.Pipeline.Error
import CiPipeline.Run.Environment
import CiPipeline.Run.Sequence
import CiPipeline.Script
import CiPipeline.Slug
import CiPipeline.Stage
import CiPipeline.State
import CiPipeline.Store.Basic
import CiPipeline.Store.Value
import CiPipeline.Text.Lossy
import CiPipeline.Text.LowerCase
import CiPipeline.Text.Quoted
import CiPipeline.Text.Runs
import CiPipeline.Text.WordCharacter
import CiPipeline.Yaml.Character
import CiPipeline.Yaml.Content
import CiPipeline.Yaml.Decode
import CiPipeline.Yaml.Mark
import CiPipeline.Yaml.Node
import CiPipeline.Yaml.Scalar
import CiPipeline.Yaml.Schema
import CiPipeline.Yaml.Token
import CiPipeline.Yaml.Tokens
import CiPipeline.Yaml.Writer
import CiPipeline.Proofs.Run.Order
import CiPipeline.Proofs.Run.Walk
import CiPipeline.Proofs.Run.Reach
import CiPipeline.Proofs.Run.Taint
import CiPipeline.Proofs.Machine.Follow
import CiPipeline.Proofs.Run.Lookup
import CiPipeline.Proofs.Definition.Build
import CiPipeline.Proofs.Definition.Search
import CiPipeline.Proofs.Definition.Acceptance
import CiPipeline.Proofs.Definition.Calls
import CiPipeline.Proofs.Definition.Flattening
import CiPipeline.Proofs.Run.Trace
import CiPipeline.Proofs.Run.Binding
import CiPipeline.Proofs.Run.Frame
import CiPipeline.Proofs.Run.Masking
import CiPipeline.Proofs.Run.Flags
import CiPipeline.Proofs.Run.Lockstep
import CiPipeline.Proofs.Run.Forgetting
import CiPipeline.Proofs.Store.Extension
import CiPipeline.Proofs.Run.Repetition
import CiPipeline.Proofs.Definition.Origins
import CiPipeline.Proofs.History.Edit
import CiPipeline.Proofs.History.Workspace
import CiPipeline.Proofs.History.Account
import CiPipeline.Proofs.Run.Relocation
import CiPipeline.Proofs.Building.Guard
import CiPipeline.Proofs.Building.Masking
import CiPipeline.Proofs.Building.Standing
import CiPipeline.Proofs.Definition.Splicing
import CiPipeline.Proofs.CommandLine.Verdict
import CiPipeline.Proofs.Export.Skeleton
import CiPipeline.Proofs.Number.Interval
import CiPipeline.Proofs.Number.Spelling
import CiPipeline.Proofs.Json.Text
import CiPipeline.Proofs.Dump.Faithful
import CiPipeline.Proofs.Data.Fields
import CiPipeline.Proofs.Data.Equality
import CiPipeline.Proofs.Definition.Parse
import CiPipeline.Proofs.Definition.Raw
import CiPipeline.Proofs.Definition.Wholeness
import CiPipeline.Proofs.Definition.Strictness
import CiPipeline.Proofs.Machine.Layout
import CiPipeline.Proofs.Definition.Naming
import CiPipeline.Proofs.Text.Words
import CiPipeline.Proofs.Run.Listing
import CiPipeline.Proofs.History.Lines
import CiPipeline.Proofs.Json.Reading
import CiPipeline.Proofs.Command.Codec
import CiPipeline.Proofs.Yaml.Plain
import CiPipeline.Proofs.Yaml.Quoted
import CiPipeline.Proofs.Yaml.Block
import CiPipeline.Proofs.Yaml.Fetch
import CiPipeline.Proofs.Yaml.Scan
import CiPipeline.Proofs.Yaml.Written
import CiPipeline.Proofs.Yaml.Tree
import CiPipeline.Proofs.Export.ReadBack
import CiPipeline.Proofs.Run.Extent
import CiPipeline.Proofs.Run.Leniency
import CiPipeline.Proofs.Text.MaximalRuns
import CiPipeline.Proofs.Slug.NormalForm
import CiPipeline.Proofs.Dump.NodeLines
import CiPipeline.Proofs.Text.Lowering
import CiPipeline.Proofs.Slug.Stability
import CiPipeline.Proofs.Run.Contents
import CiPipeline.Proofs.Text.Spacing
import CiPipeline.Proofs.Store.History
import CiPipeline.Proofs.Definition.Journal
