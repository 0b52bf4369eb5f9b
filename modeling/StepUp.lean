import StepUp.Engine.Service
import StepUp.Json.Printer
import StepUp.Proofs.Composite.Methods
import StepUp.Proofs.Flow.Agreement
import StepUp.Proofs.Flow.Atomicity
import StepUp.Proofs.Flow.Enforcement
import StepUp.Proofs.Flow.UnknownSession
import StepUp.Proofs.Ranking.Coverage
import StepUp.Proofs.Resolution.Cached
import StepUp.Proofs.Resolution.Gathering
import StepUp.Proofs.Resolution.SessionId
import StepUp.Settings.Load
import StepUp.Proofs.Flow.Effects
import StepUp.Proofs.Flow.Selection
import StepUp.Proofs.Flow.Target
import StepUp.Proofs.Flow.Deferral
import StepUp.Proofs.Flow.Identity
import StepUp.Proofs.Flow.Progress
import StepUp.Proofs.Flow.Independence
import StepUp.Proofs.Regex.Escape
import StepUp.Proofs.Regex.Search
import StepUp.Proofs.Regex.Brackets
import StepUp.Proofs.Regex.Group
import StepUp.Proofs.Regex.Bounds
import StepUp.Proofs.Resolution.FullMatch
import StepUp.Proofs.Flow.ResolverOrder
import StepUp.Proofs.Flow.Credentials
import StepUp.Proofs.Flow.Growth
import StepUp.Proofs.Flow.InstalledRanking
import StepUp.Proofs.Json.WrittenForm
import StepUp.Proofs.Composite.Contents
import StepUp.Proofs.Flow.Escalation
import StepUp.Proofs.Flow.Rejection
import StepUp.Proofs.Flow.Reevaluation
import StepUp.Proofs.Login.ChainHistory
import StepUp.Proofs.Login.RequestHistory
import StepUp.Proofs.Resolution.Translation
import StepUp.Proofs.Ranking.Strongest
import StepUp.Proofs.Resolution.RoleRule
import StepUp.Proofs.Settings.Registration
import StepUp.Proofs.Settings.Layers
