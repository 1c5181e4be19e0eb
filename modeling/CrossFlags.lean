import CrossFlags.Text.Pieces
import CrossFlags.Text.Spelling
import CrossFlags.Text.Utf8
import CrossFlags.Text.Alphanumeric
import CrossFlags.Axis
import CrossFlags.Library
import CrossFlags.Key
import CrossFlags.Bag
import CrossFlags.Path
import CrossFlags.Log.Event
import CrossFlags.Log.Pattern
import CrossFlags.Log.Directive
import CrossFlags.Log.Filter
import CrossFlags.Options
import CrossFlags.Options.Read
import CrossFlags.Options.Write
import CrossFlags.Rule
import CrossFlags.Profile
import CrossFlags.Profile.Symbian
import CrossFlags.FlagSet
import CrossFlags.Assembly
import CrossFlags.Flag.Pair
import CrossFlags.Flag.Argument
import CrossFlags.Discovery
import CrossFlags.Resolution
import CrossFlags.Json
import CrossFlags.Json.Encode
import CrossFlags.Json.Read
import CrossFlags.Json.Decode
import CrossFlags.Shell
import CrossFlags.Render
import CrossFlags.OptionFile.Number
import CrossFlags.OptionFile.Quoted
import CrossFlags.OptionFile
import CrossFlags.OptionFile.Write
import CrossFlags.Environment
import CrossFlags.Host.Script
import CrossFlags.Host
import CrossFlags.FileSystem
import CrossFlags.Loading
import CrossFlags.PkgConfig
import CrossFlags.CommandLine.Arguments
import CrossFlags.CommandLine.Run
import CrossFlags.CommandLine.Survey
import CrossFlags.Main
import CrossFlags.Proofs.Bag.Runs
import CrossFlags.Proofs.Options.Normal
import CrossFlags.Proofs.Rule.Settling
import CrossFlags.Proofs.Rule.Deciding
import CrossFlags.Proofs.Rule.Forcing
import CrossFlags.Proofs.Resolution.Fixpoint
import CrossFlags.Proofs.Resolution.Invariant
import CrossFlags.Proofs.Discovery.Answers
import CrossFlags.Proofs.Discovery.LinkOrder
import CrossFlags.Proofs.Discovery.Rerun
import CrossFlags.Proofs.Assembly.Dependence
import CrossFlags.Proofs.Options.Offence
import CrossFlags.Proofs.Options.Independence
import CrossFlags.Proofs.Shell.Quoting
import CrossFlags.Proofs.Discovery.Shadowing
import CrossFlags.Proofs.Flag.Merging
import CrossFlags.Proofs.Flag.Sorting
import CrossFlags.Proofs.Flag.Concatenation
import CrossFlags.Proofs.Environment.Layering
import CrossFlags.Proofs.Loading
import CrossFlags.Proofs.PkgConfig.Tool
import CrossFlags.Proofs.CommandLine.AllOrNothing
import CrossFlags.Proofs.OptionFile.Number
import CrossFlags.Proofs.OptionFile.RoundTrip
import CrossFlags.Proofs.Json.Grammar
import CrossFlags.Proofs.Json.ReadBack
import CrossFlags.Proofs.Rule.Reordering
import CrossFlags.Proofs.Discovery.Asking
import CrossFlags.Proofs.Discovery.Rounds
import CrossFlags.Proofs.Flag.Rereading
import CrossFlags.Proofs.Rule.Acyclic
import CrossFlags.Proofs.Environment.Stopping
import CrossFlags.Proofs.Options.SideBySide
import CrossFlags.Proofs.Options.Defaulting
import CrossFlags.Proofs.Options.Spelling
import CrossFlags.Proofs.Bag.Layers
import CrossFlags.Proofs.Bag.History
import CrossFlags.Proofs.Path.Installation
import CrossFlags.Proofs.Profile.Check
import CrossFlags.Proofs.Discovery.Defines
import CrossFlags.Proofs.PkgConfig.Settings
