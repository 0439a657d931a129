import AbilityHooks.Text.Blank
import AbilityHooks.Text.Word
import AbilityHooks.Text.LowerCase
import AbilityHooks.Text.Printable
import AbilityHooks.Pattern.Search
import AbilityHooks.Decimal.Layout
import AbilityHooks.Json.Printer
import AbilityHooks.Json.Reader
import AbilityHooks.Signal.Multiplier
import AbilityHooks.Signal.MoveFlag
import AbilityHooks.Signal.Weather
import AbilityHooks.Hook.Catalog
import AbilityHooks.Ability.Hint
import AbilityHooks.Detector.Standard
import AbilityHooks.Roster.Basic
import AbilityHooks.Extraction.Basic
import AbilityHooks.Extraction.Schedule
import AbilityHooks.Log.Line
import AbilityHooks.Files.System
import AbilityHooks.Json.Merge
import AbilityHooks.Json.Refusal
import AbilityHooks.Files.Document
import AbilityHooks.Settings.Basic
import AbilityHooks.Document.Reader
import AbilityHooks.Settings.Source
import AbilityHooks.Download.Plan
import AbilityHooks.Command.Run
import AbilityHooks.Main
import AbilityHooks.Proofs.FirstOccurrences
import AbilityHooks.Proofs.EventStream
import AbilityHooks.Proofs.StandardRegistry
import AbilityHooks.Proofs.RelevantParts
import AbilityHooks.Proofs.PatternRuns
import AbilityHooks.Proofs.IntegerText
import AbilityHooks.Proofs.PriorityShift
import AbilityHooks.Proofs.RosterSearch
import AbilityHooks.Proofs.ShortestDecimal
import AbilityHooks.Proofs.PositiveDouble
import AbilityHooks.Proofs.Multipliers
import AbilityHooks.Proofs.SameTypeBonus
import AbilityHooks.Proofs.PairedRecords
import AbilityHooks.Proofs.RecordReading
import AbilityHooks.Proofs.Schedules
import AbilityHooks.Proofs.FaithfulOutput
import AbilityHooks.Proofs.Inspection
import AbilityHooks.Proofs.BodilessProperties
import AbilityHooks.Proofs.Vocabulary
import AbilityHooks.Proofs.SettingsLayers
import AbilityHooks.Proofs.OrderlyDocuments
import AbilityHooks.Proofs.MergePaths
import AbilityHooks.Proofs.HintSpelling
import AbilityHooks.Proofs.FilePlaces
import AbilityHooks.Proofs.NotedAccess
import AbilityHooks.Proofs.WholeDocuments
import AbilityHooks.Proofs.PathNames
import AbilityHooks.Proofs.WritableTargets
import AbilityHooks.Proofs.RequestWords
import AbilityHooks.Proofs.UnreadableFiles
import AbilityHooks.Proofs.CommandPrecedence
import AbilityHooks.Proofs.DoubleBits
import AbilityHooks.Proofs.NearestDouble
import AbilityHooks.Proofs.KeptStretches
import AbilityHooks.Proofs.ChainCalls
import AbilityHooks.Proofs.ChainForms
import AbilityHooks.Proofs.ChainReading
import AbilityHooks.Proofs.TerrainNames
import AbilityHooks.Proofs.ReturnedNames
import AbilityHooks.Proofs.AllFinds
import AbilityHooks.Proofs.AnsweredDrops
import AbilityHooks.Proofs.FirstCandidates
import AbilityHooks.Proofs.CutNumbers
import AbilityHooks.Proofs.HealthComparisons
import AbilityHooks.Proofs.TreeWalk
import AbilityHooks.Proofs.WrittenLiterals
import AbilityHooks.Proofs.LoweredViews
import AbilityHooks.Proofs.AddedLines
