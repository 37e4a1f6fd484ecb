import SeekTalent.Retrieval.LocationFairness
import SeekTalent.Retrieval.RoundTarget
import SeekTalent.Retrieval.Exhaustion
import SeekTalent.Flywheel.HitStore
import SeekTalent.Identity.Strength
import SeekTalent.Identity.LaneOrder
import SeekTalent.Liepin.DetailLedger
import SeekTalent.Liepin.DetailBudget
import SeekTalent.Liepin.CardPolicy
import SeekTalent.Scoring.PoolOfRun
import SeekTalent.Liepin.ConnectionRuns
import SeekTalent.Liepin.EventLog
import SeekTalent.Query.KeywordQuery
import SeekTalent.Feedback.NegativeSupport
import SeekTalent.Feedback.PrfPolicy
import SeekTalent.Round.ReflectionTerms
import SeekTalent.Round.Ladder
import SeekTalent.Workbench.CandidateGraphIds
import SeekTalent.Workbench.Extraction
import SeekTalent.Workbench.Wake
import SeekTalent.Maintenance.RestoreOutcome
import SeekTalent.Requirements.ChineseNumerals
import SeekTalent.PiAgent.ToolEnvelope
import SeekTalent.PiAgent.BrowserExtension
import SeekTalent.PiAgent.IdleWatch
import SeekTalent.Workbench.FinalTopOrder
import SeekTalent.Workbench.LeaseBlocks
import SeekTalent.Workbench.StartAgain
import SeekTalent.Workbench.NoteLease
import SeekTalent.Workbench.SourceStateRuns
import SeekTalent.Workbench.LoginLockout
import SeekTalent.Worker.DetailSubjects
import SeekTalent.Worker.LoginRelay
import SeekTalent.Liepin.PageAcceptance
import SeekTalent.Liepin.PayloadFirewall
import SeekTalent.Liepin.CardKeys
import SeekTalent.Artifacts.BoundSession
import SeekTalent.Requirements.RequirementCache
import SeekTalent.Workbench.CardRows
import SeekTalent.Corpus.RoundObservations
import SeekTalent.Round.ExploreQuery
import SeekTalent.Feedback.PooledSupport
import SeekTalent.Query.FilterAccount
import SeekTalent.Liepin.StreamToken
import SeekTalent.Worker.CardSearch
import SeekTalent.Evaluation.RunDirectory
import SeekTalent.Artifacts.Sessions
import SeekTalent.Graph.LayoutApart
import SeekTalent.Retrieval.HitOrder
import SeekTalent.Diagnostics.TermSurface
import SeekTalent.Workbench.CtsRows
import SeekTalent.Workbench.UserSessions
import SeekTalent.Workbench.HandOuts
import SeekTalent.Round.ControllerStage
