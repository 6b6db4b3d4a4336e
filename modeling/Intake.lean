import Intake.Attempt.Memory
import Intake.Config.Written
import Intake.Main
import Intake.Settings.Written
import Intake.Proofs.Attempt.Exchange
import Intake.Proofs.Attempt.Protocol
import Intake.Proofs.Results
import Intake.Proofs.XPath.Order
import Intake.Proofs.Query.Order
import Intake.Proofs.Mapping.Apply
import Intake.Proofs.Mapping.Accounts
import Intake.Proofs.Attempt.Lines
import Intake.Proofs.Mapping.Faults
import Intake.Proofs.Mapping.Header
import Intake.Proofs.Attempt.Isolation
import Intake.Proofs.Path.Name
import Intake.Proofs.Path.Named
import Intake.Proofs.XPath.Reading
import Intake.Proofs.XPath.Forms
import Intake.Proofs.Path.Selection
import Intake.Proofs.XPath.Selecting
import Intake.Proofs.Xml.Declared
import Intake.Proofs.Query.NamePaths
import Intake.Proofs.Chain.Composition
import Intake.Proofs.Chain.Names
import Intake.Proofs.Config.Accepted
import Intake.Proofs.Mapping.Alike
import Intake.Proofs.Mapping.FirstGroup
import Intake.Proofs.Attempt.Discovery
import Intake.Proofs.Database.Calls
import Intake.Proofs.Attempt.Writing
import Intake.Proofs.Service
import Intake.Proofs.Database.Consistency
import Intake.Proofs.Database.History
import Intake.Proofs.Database.Loading
import Intake.Proofs.Plan.Grouping
import Intake.Proofs.Database.Tenancy
import Intake.Proofs.Schema.Slots
import Intake.Proofs.Database.RuleOrder
import Intake.Proofs.Attempt.Filling
import Intake.Proofs.Database.Reloading
import Intake.Proofs.Attempt.Verdict
import Intake.Proofs.Attempt.Lineless
import Intake.Proofs.Attempt.Messages
import Intake.Proofs.Service.Replies
import Intake.Proofs.Database.Atomic
import Intake.Proofs.Path.Scan
import Intake.Proofs.Path.Location
import Intake.Proofs.Chain.Failures
import Intake.Proofs.Chain.Refusals
import Intake.Proofs.Number.Rounding
import Intake.Proofs.Calendar.Faults
import Intake.Proofs.Chain.Outcomes
import Intake.Proofs.Chain.Numbers
import Intake.Proofs.Chain.LeadingZeros
import Intake.Proofs.Chain.Moments
import Intake.Proofs.Attempt.HeaderBinding
import Intake.Proofs.Calendar.Distinct
import Intake.Proofs.Calendar.Offsets
import Intake.Proofs.Path.Relative
import Intake.Proofs.Mapping.Typing
import Intake.Proofs.Query.LinePatterns
import Intake.Proofs.Query.Repeating
import Intake.Proofs.Query.SpaceTable
import Intake.Proofs.Record.Table
import Intake.Proofs.Trail
import Intake.Proofs.Path.Division
import Intake.Proofs.Path.Rewriting
import Intake.Proofs.Config.Faults
import Intake.Proofs.Command.Loading
