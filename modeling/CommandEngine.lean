import CommandEngine.Ambient
import CommandEngine.Chain
import CommandEngine.Codec
import CommandEngine.Config
import CommandEngine.Election
import CommandEngine.Executor
import CommandEngine.Failure
import CommandEngine.Handler
import CommandEngine.Hierarchy
import CommandEngine.History
import CommandEngine.Host.Basic
import CommandEngine.Host.Settle
import CommandEngine.Host.Shared
import CommandEngine.Job
import CommandEngine.Json
import CommandEngine.Kind
import CommandEngine.Message
import CommandEngine.Object
import CommandEngine.Pool
import CommandEngine.Program
import CommandEngine.Registry.Builder
import CommandEngine.Registry.Descriptor
import CommandEngine.SanitizedError
import CommandEngine.Scenario.Application
import CommandEngine.Scenario.Check
import CommandEngine.Scenario.Report
import CommandEngine.Scenario.Script
import CommandEngine.ScopeData
import CommandEngine.Text.Invisible
import CommandEngine.Text.Quoted
import CommandEngine.Token
import CommandEngine.Traced
import CommandEngine.Validation
import CommandEngine.Proofs.Crew.Basic
import CommandEngine.Proofs.Crew.Coverage
import CommandEngine.Proofs.Crew.Drain
import CommandEngine.Proofs.Crew.Convergence
import CommandEngine.Proofs.Election
import CommandEngine.Proofs.Election.Conflict
import CommandEngine.Proofs.Election.Reordering
import CommandEngine.Proofs.Run
import CommandEngine.Proofs.Records
import CommandEngine.Proofs.Validation
import CommandEngine.Proofs.Chain.Ends
import CommandEngine.Proofs.Chain.Bubbling
import CommandEngine.Proofs.Chain.Congruence
import CommandEngine.Proofs.Chain.Frames
import CommandEngine.Proofs.Chain.Validated
import CommandEngine.Proofs.Job.Course
import CommandEngine.Proofs.Job.Hooks
import CommandEngine.Proofs.Job.Refinement
import CommandEngine.Proofs.Job.Records
import CommandEngine.Proofs.Registry.Distribution
import CommandEngine.Proofs.Registry.Building
import CommandEngine.Proofs.Registry.Table
import CommandEngine.Proofs.Hierarchy.Declarations
import CommandEngine.Proofs.Hierarchy.Attempts
import CommandEngine.Proofs.Hierarchy.Walk
import CommandEngine.Proofs.Registry.Rearrangement
import CommandEngine.Proofs.Registry.Acceptance
import CommandEngine.Proofs.Registry.Typed
import CommandEngine.Proofs.Chain.Callers
import CommandEngine.Proofs.Chain.Variants
import CommandEngine.Proofs.Chain.Records
import CommandEngine.Proofs.Chain.Exchange
import CommandEngine.Proofs.Chain.FinalEvents
import CommandEngine.Proofs.Chain.Protocol
import CommandEngine.Proofs.Workshop.Basic
import CommandEngine.Proofs.Host.Mirror
import CommandEngine.Proofs.Host.Simulation
import CommandEngine.Proofs.Crew.Bounds
import CommandEngine.Proofs.Workshop.Runners
import CommandEngine.Proofs.Workshop.Ledger
import CommandEngine.Proofs.Workshop.Reports
import CommandEngine.Proofs.Chain.Renewal
import CommandEngine.Proofs.Chain.Emission
import CommandEngine.Proofs.Chain.Forest
import CommandEngine.Proofs.Chain.Deliveries
import CommandEngine.Proofs.Job.Sanitization
import CommandEngine.Proofs.Workshop.Isolation
import CommandEngine.Proofs.Token.Alike
import CommandEngine.Proofs.Token.Parallel
import CommandEngine.Proofs.Validation.Incoming
import CommandEngine.Proofs.Validation.Records
import CommandEngine.Proofs.Token.Validation
import CommandEngine.Proofs.Token.Chain
import CommandEngine.Proofs.Token.Job
import CommandEngine.Proofs.Token.Crew
import CommandEngine.Proofs.Token.Workshop
import CommandEngine.Proofs.Job.Typed
import CommandEngine.Proofs.Chain.Requests
import CommandEngine.Proofs.Chain.Stamps
import CommandEngine.Proofs.Election.Irrelevance
import CommandEngine.Proofs.Election.Rivals
import CommandEngine.Proofs.Chain.Containment
import CommandEngine.Proofs.Validation.Agreement
import CommandEngine.Proofs.Validation.Results
import CommandEngine.Proofs.Validation.Preparation
import CommandEngine.Proofs.Job.Restoring
import CommandEngine.Proofs.Host.Reception
import CommandEngine.Proofs.Job.ReportedValidation
import CommandEngine.Proofs.Job.Outputs
import CommandEngine.Proofs.Codec
import CommandEngine.Proofs.Job.Streaming
import CommandEngine.Proofs.Host.Channel
import CommandEngine.Proofs.Host.Streams
import CommandEngine.Proofs.Host.Delivery
import CommandEngine.Proofs.Host.Sharing
