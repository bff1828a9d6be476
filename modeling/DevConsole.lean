import DevConsole.Ansi
import DevConsole.Arguments
import DevConsole.Boot
import DevConsole.Command
import DevConsole.Completion
import DevConsole.Console.Basic
import DevConsole.Console.Builtin
import DevConsole.Console.Dispatch
import DevConsole.Console.Frontend
import DevConsole.Console.Help
import DevConsole.Console.Package
import DevConsole.Console.Panel
import DevConsole.Decimal.Nearest
import DevConsole.Decimal.Shortest
import DevConsole.Dictionary
import DevConsole.Failure
import DevConsole.Fault
import DevConsole.Files
import DevConsole.InputLine
import DevConsole.Journal
import DevConsole.Logger
import DevConsole.Main
import DevConsole.Moment
import DevConsole.Program
import DevConsole.Registry
import DevConsole.Script
import DevConsole.ScrollLog
import DevConsole.Settings.Basic
import DevConsole.Settings.Dotenv
import DevConsole.Settings.Ini
import DevConsole.Settings.Json
import DevConsole.Settings.Lexical
import DevConsole.Settings.Sources
import DevConsole.Settings.Toml
import DevConsole.Settings.Validation
import DevConsole.Table
import DevConsole.Text.Blank
import DevConsole.Text.Case
import DevConsole.Text.CaseData
import DevConsole.Text.Numeral
import DevConsole.Text.Pieces
import DevConsole.Text.Printable
import DevConsole.Text.Quoted
import DevConsole.Text.Utf8
import DevConsole.Value
import DevConsole.Wait
import DevConsole.Proofs.Told
import DevConsole.Proofs.Console.Step
import DevConsole.Proofs.Console.Tick
import DevConsole.Proofs.Console.WaitGate
import DevConsole.Proofs.Console.Dispatch
import DevConsole.Proofs.Console.ScriptTiming
import DevConsole.Proofs.Console.Containment
import DevConsole.Proofs.ScrollLog.Refinement
import DevConsole.Proofs.InputLine.Zipper
import DevConsole.Proofs.Wait.Coherence
import DevConsole.Proofs.Wait.Muting
import DevConsole.Proofs.Console.FailedCondition
import DevConsole.Proofs.Console.Builtin
import DevConsole.Proofs.Console.Routine
import DevConsole.Proofs.Console.Conservation
import DevConsole.Proofs.Registry.NameSpace
import DevConsole.Proofs.Text.Fold
import DevConsole.Proofs.Console.Resolution
import DevConsole.Proofs.Console.Entry
import DevConsole.Proofs.Console.AliasChains
import DevConsole.Proofs.Console.History
import DevConsole.Proofs.Console.Recall
import DevConsole.Proofs.Console.RegistrationOrder
import DevConsole.Proofs.Console.Registration
import DevConsole.Proofs.Console.ScriptLoading
import DevConsole.Proofs.Console.HistoryWalk
import DevConsole.Proofs.Text.Upper
import DevConsole.Proofs.Settings.Precedence
import DevConsole.Proofs.Settings.Refusals
import DevConsole.Proofs.Boot.Report
import DevConsole.Proofs.Completion.Suggestions
import DevConsole.Proofs.Completion.Replacement
import DevConsole.Proofs.Console.BatchRegistration
import DevConsole.Proofs.Settings.TextForms
import DevConsole.Proofs.Text.Lines
import DevConsole.Proofs.Settings.Dotenv.Reading
import DevConsole.Proofs.Settings.Dotenv.Layout
import DevConsole.Proofs.Settings.Dotenv.Spellings
import DevConsole.Proofs.Registry.Categories
import DevConsole.Proofs.Console.CategoryHelp
import DevConsole.Proofs.Ansi.Strip
import DevConsole.Proofs.Ansi.Residue
import DevConsole.Proofs.Table.Alignment
import DevConsole.Proofs.Console.Display
import DevConsole.Proofs.Console.Panel
import DevConsole.Proofs.Console.PanelHeight
import DevConsole.Proofs.Completion.CommonStart
import DevConsole.Proofs.Text.Layout
import DevConsole.Proofs.Wait.Release
import DevConsole.Proofs.Console.LineWords
