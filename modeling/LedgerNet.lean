import LedgerNet.Acceptance
import LedgerNet.Api.Call
import LedgerNet.Api.Contract
import LedgerNet.Api.Error
import LedgerNet.Api.Http
import LedgerNet.Api.Quantity
import LedgerNet.Api.Status
import LedgerNet.Api.Wire
import LedgerNet.Balance
import LedgerNet.Container.Command
import LedgerNet.Container.Deployment
import LedgerNet.Container.Runner
import LedgerNet.Container.Subnet
import LedgerNet.Container.WordSubnet
import LedgerNet.Conventions
import LedgerNet.Definition.Basic
import LedgerNet.Definition.InPlace
import LedgerNet.Definition.Indexed
import LedgerNet.Definition.Node
import LedgerNet.Definition.Preset
import LedgerNet.Duration
import LedgerNet.Environment.Basic
import LedgerNet.Environment.Timing
import LedgerNet.Files
import LedgerNet.Fleet
import LedgerNet.Genesis
import LedgerNet.Json.Access
import LedgerNet.Json.Basic
import LedgerNet.Json.Decode
import LedgerNet.Json.Printer
import LedgerNet.Json.Reader
import LedgerNet.Lane
import LedgerNet.Launch
import LedgerNet.Log.Filter
import LedgerNet.Main
import LedgerNet.Manifest
import LedgerNet.Net.Ip
import LedgerNet.Number.Binary
import LedgerNet.Number.Checked
import LedgerNet.Number.Decimal
import LedgerNet.Number.Power
import LedgerNet.Number.Rate
import LedgerNet.Number.Word
import LedgerNet.Program.Action
import LedgerNet.Program.Basic
import LedgerNet.Program.Failure
import LedgerNet.Program.Network
import LedgerNet.Program.Timed
import LedgerNet.Program.Together
import LedgerNet.Proofs.Acceptance.Conversation
import LedgerNet.Proofs.Acceptance.Minutes
import LedgerNet.Proofs.Acceptance.Polling
import LedgerNet.Proofs.Api.Quantity
import LedgerNet.Proofs.Balance.Batch
import LedgerNet.Proofs.Container.Allocation
import LedgerNet.Proofs.Container.Block
import LedgerNet.Proofs.Container.Bookkeeping
import LedgerNet.Proofs.Container.Calls
import LedgerNet.Proofs.Container.Clearing
import LedgerNet.Proofs.Container.SubnetText
import LedgerNet.Proofs.Definition.Agreement
import LedgerNet.Proofs.Definition.Edits
import LedgerNet.Proofs.Definition.InPlace
import LedgerNet.Proofs.Definition.Indexed
import LedgerNet.Proofs.Definition.Insertions
import LedgerNet.Proofs.Definition.Manifest
import LedgerNet.Proofs.Definition.Preset
import LedgerNet.Proofs.Definition.Snapshots
import LedgerNet.Proofs.Files.Writing
import LedgerNet.Proofs.Fleet.Completion
import LedgerNet.Proofs.Fleet.Creating
import LedgerNet.Proofs.Fleet.Faults
import LedgerNet.Proofs.Fleet.Independence
import LedgerNet.Proofs.Fleet.Registry
import LedgerNet.Proofs.Fleet.Rounds
import LedgerNet.Proofs.Fleet.Starting
import LedgerNet.Proofs.Fleet.Waiting
import LedgerNet.Proofs.Fleet.Waves
import LedgerNet.Proofs.Launch.Identity
import LedgerNet.Proofs.Launch.Quoting
import LedgerNet.Proofs.Ledger.Calls
import LedgerNet.Proofs.Ledger.Endings
import LedgerNet.Proofs.Ledger.Funding
import LedgerNet.Proofs.Ledger.Holdings
import LedgerNet.Proofs.Ledger.Worth
import LedgerNet.Proofs.Ledger.Writing
import LedgerNet.Proofs.LocalNetwork.Addresses
import LedgerNet.Proofs.LocalNetwork.Completion
import LedgerNet.Proofs.LocalNetwork.ContractFunding
import LedgerNet.Proofs.LocalNetwork.ContractKey
import LedgerNet.Proofs.LocalNetwork.Failing
import LedgerNet.Proofs.LocalNetwork.Funding
import LedgerNet.Proofs.LocalNetwork.Joining
import LedgerNet.Proofs.LocalNetwork.Leaving
import LedgerNet.Proofs.LocalNetwork.Leftover
import LedgerNet.Proofs.LocalNetwork.Moments
import LedgerNet.Proofs.LocalNetwork.Money
import LedgerNet.Proofs.LocalNetwork.Registering
import LedgerNet.Proofs.LocalNetwork.Stages
import LedgerNet.Proofs.LocalNetwork.Stakers
import LedgerNet.Proofs.LocalNetwork.Staking
import LedgerNet.Proofs.LocalNetwork.Starting
import LedgerNet.Proofs.Net.Canonical
import LedgerNet.Proofs.Net.Ip
import LedgerNet.Proofs.Net.Ipv4
import LedgerNet.Proofs.Number.Checked
import LedgerNet.Proofs.Program.Acting
import LedgerNet.Proofs.Program.Apart
import LedgerNet.Proofs.Program.Conversation
import LedgerNet.Proofs.Program.History
import LedgerNet.Proofs.Program.Interleaving
import LedgerNet.Proofs.Program.Invariants
import LedgerNet.Proofs.Program.Journal
import LedgerNet.Proofs.Program.Looking
import LedgerNet.Proofs.Program.Minutes
import LedgerNet.Proofs.Program.Onlooking
import LedgerNet.Proofs.Program.Pausing
import LedgerNet.Proofs.Program.Recording
import LedgerNet.Proofs.Program.Reporting
import LedgerNet.Proofs.Program.Running
import LedgerNet.Proofs.Program.Scheduling
import LedgerNet.Proofs.Shell.Words
import LedgerNet.Proofs.Staking.Amounts
import LedgerNet.Proofs.Staking.Fitting
import LedgerNet.Proofs.Staking.Growing
import LedgerNet.Proofs.Staking.Orderly
import LedgerNet.Proofs.Staking.Peers
import LedgerNet.Proofs.Staking.Punctual
import LedgerNet.Proofs.Staking.Retrying
import LedgerNet.Proofs.Staking.Stages
import LedgerNet.Proofs.Staking.TakingOut
import LedgerNet.Proofs.Text.Numeral
import LedgerNet.Readiness
import LedgerNet.Rehearsal.Book
import LedgerNet.Rehearsal.ContainerSteps
import LedgerNet.Rehearsal.ContractLine
import LedgerNet.Rehearsal.FleetSteps
import LedgerNet.Rehearsal.Ledger
import LedgerNet.Rehearsal.LocalNetwork
import LedgerNet.Rehearsal.Plan
import LedgerNet.Rehearsal.PlannedHost
import LedgerNet.Rehearsal.Script
import LedgerNet.Rehearsal.ScriptedRunner
import LedgerNet.Rehearsal.Shell
import LedgerNet.Rehearsal.Shell.Arithmetic
import LedgerNet.Rehearsal.Shell.Format
import LedgerNet.Rehearsal.Shell.Script
import LedgerNet.Rehearsal.Shell.Utility
import LedgerNet.Rehearsal.Sources
import LedgerNet.Rehearsal.StakingSteps
import LedgerNet.Rehearsal.Step
import LedgerNet.Rehearsal.Waiting
import LedgerNet.Report
import LedgerNet.Report.Rehearsal
import LedgerNet.Service
import LedgerNet.Staking.Amounts
import LedgerNet.Staking.Error
import LedgerNet.Staking.Expansion
import LedgerNet.Staking.Funder
import LedgerNet.Staking.Participant
import LedgerNet.Staking.Peers
import LedgerNet.Staking.Roster
import LedgerNet.Staking.Scenario
import LedgerNet.StakingRun
import LedgerNet.Text.Blank
import LedgerNet.Text.Numeral
import LedgerNet.Text.Quoted
import LedgerNet.Text.Utf8
import LedgerNet.Text.Visible
import LedgerNet.Yaml.Cursor
import LedgerNet.Yaml.Node
import LedgerNet.Yaml.Scalar
import LedgerNet.Yaml.Token
import LedgerNet.Yaml.Typed
