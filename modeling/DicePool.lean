import DicePool.Bot.Commands
import DicePool.Bot.Help
import DicePool.Bot.Recent
import DicePool.Bot.Roll
import DicePool.Bot.Session
import DicePool.Cli.App
import DicePool.Cli.Param
import DicePool.Cli.Parser
import DicePool.Cli.Run
import DicePool.Cli.Station
import DicePool.Command.Basic
import DicePool.Dice.Face
import DicePool.Dice.Source
import DicePool.Dice.Twister
import DicePool.Digest.Sha2
import DicePool.Discord.Arrival
import DicePool.Discord.Dispatch
import DicePool.Discord.Followup
import DicePool.Discord.Gateway
import DicePool.Discord.Interaction
import DicePool.Discord.Payload
import DicePool.Form.Basic
import DicePool.Form.Shape
import DicePool.Form.Spelling
import DicePool.Journal
import DicePool.Json.Basic
import DicePool.Json.Order
import DicePool.Json.Printer
import DicePool.Json.Reader
import DicePool.Json.Template
import DicePool.Logging
import DicePool.Main
import DicePool.Metrics
import DicePool.Named
import DicePool.Network
import DicePool.Network.Address
import DicePool.Network.DomainName
import DicePool.Network.DomainName.Table
import DicePool.Network.Url
import DicePool.Number.Exact
import DicePool.Number.Fraction
import DicePool.Number.Numeral
import DicePool.Number.Places
import DicePool.Number.Shortest
import DicePool.Pool.Modifier
import DicePool.Pool.RollText
import DicePool.Pool.Sum
import DicePool.Proofs.Pool.Grammar
import DicePool.Proofs.Pool.RollText
import DicePool.Proofs.Roll.Course
import DicePool.Proofs.Roll.Generosity
import DicePool.Proofs.Roll.Layout
import DicePool.Proofs.Roll.Playing
import DicePool.Proofs.Text.Classes
import DicePool.Proofs.Text.Words
import DicePool.Registration.Arguments
import DicePool.Registration.Run
import DicePool.Registration.Status
import DicePool.Roll.Audit
import DicePool.Roll.Record
import DicePool.Roll.Render
import DicePool.Roll.Request
import DicePool.Roll.Resolve
import DicePool.Roll.Result
import DicePool.Roll.Ruleset
import DicePool.Settings.Basic
import DicePool.Settings.Dotenv
import DicePool.Settings.Sources
import DicePool.Signature.Ed25519
import DicePool.Text.Base64
import DicePool.Text.Blank
import DicePool.Text.Case
import DicePool.Text.Case.Table
import DicePool.Text.Columns
import DicePool.Text.Columns.Table
import DicePool.Text.Composed
import DicePool.Text.Composed.Table
import DicePool.Text.Digit
import DicePool.Text.Encoding
import DicePool.Text.Escapes
import DicePool.Text.Fill
import DicePool.Text.Hex
import DicePool.Text.Identifier
import DicePool.Text.Likeness
import DicePool.Text.Percent
import DicePool.Text.Printable
import DicePool.Text.Punycode
import DicePool.Text.Quoted
import DicePool.Text.Table
import DicePool.Text.Utf8
import DicePool.Toml.Basic
import DicePool.Toml.Document
import DicePool.Toml.Value
import DicePool.Proofs.Roll.Draws
import DicePool.Proofs.Roll.Limit
import DicePool.Proofs.Pool.Refusal
import DicePool.Proofs.Roll.Replay
import DicePool.Proofs.Bot.Running
import DicePool.Proofs.Roll.Telling
import DicePool.Proofs.Bot.Answers
import DicePool.Proofs.Number.Decimal
import DicePool.Proofs.Roll.Endings
import DicePool.Proofs.Roll.Line
import DicePool.Proofs.Text.Runs
import DicePool.Proofs.Json.Canonical
import DicePool.Proofs.Roll.Fingerprint
import DicePool.Proofs.Named
import DicePool.Proofs.Json.Text
import DicePool.Proofs.Metrics.Flat
import DicePool.Proofs.Discord.Accounts
import DicePool.Proofs.Roll.Bound
import DicePool.Proofs.Bot.Bound
import DicePool.Proofs.Command.Registry
import DicePool.Proofs.Discord.Options
import DicePool.Proofs.Discord.Offered
import DicePool.Proofs.Discord.Reach
import DicePool.Proofs.Discord.Admission
import DicePool.Proofs.Roll.Need
import DicePool.Proofs.Bot.Options
import DicePool.Proofs.Bot.Flags
import DicePool.Proofs.Bot.Recent
import DicePool.Proofs.Bot.Shared
import DicePool.Proofs.Bot.Askers
import DicePool.Proofs.Number.Reading
import DicePool.Proofs.Cli.Words
import DicePool.Proofs.Cli.Agreement
import DicePool.Proofs.Metrics.Operations
import DicePool.Proofs.Metrics.Totals
import DicePool.Proofs.Discord.Bracket
import DicePool.Proofs.Network.Sending
import DicePool.Proofs.Network.Place
import DicePool.Proofs.Network.Spelling
import DicePool.Proofs.Discord.Followups
import DicePool.Proofs.Registration.Running
import DicePool.Proofs.Registration.Requests
import DicePool.Proofs.Registration.Scope
import DicePool.Proofs.Bot.Limit
import DicePool.Proofs.Command.Groups
import DicePool.Proofs.Discord.Listed
import DicePool.Proofs.Cli.Tree
import DicePool.Proofs.Command.Lookup
import DicePool.Proofs.Roll.Label
import DicePool.Proofs.Dice.Recording
import DicePool.Proofs.Form.Checking
import DicePool.Proofs.Settings.Record
import DicePool.Proofs.Settings.Entries
import DicePool.Proofs.Settings.Precedence
import DicePool.Proofs.Toml.Long
