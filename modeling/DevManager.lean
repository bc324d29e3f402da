import DevManager.Kernel.Lifecycle
import DevManager.Kernel.Provider
import DevManager.Kernel.ReplayExact
import DevManager.Remote.Handover
import DevManager.Connect.Channel
import DevManager.Connect.WireEnvelope
import DevManager.Connect.SessionRetry
import DevManager.Connect.RelaySafe
import DevManager.Services.Fencing
import DevManager.Services.DependencyOrder
import DevManager.Terminal.Watched
import DevManager.Prompts.IndexRun
import DevManager.Kernel.DispatchReadable
import DevManager.Domain.BrowserPages
import DevManager.Git.RecoveredDiff
import DevManager.Kernel.BookProjection
import DevManager.Kernel.Redacted
import DevManager.Org.FailsClosed
import DevManager.Org.Restart
import DevManager.Terminal.InputRoom
import DevManager.Kernel.StoredDecided
import DevManager.Domain.Codec
import DevManager.Domain.WorkspaceFingerprint
import DevManager.Kernel.ApplyAll
import DevManager.Kernel.PlanDecided
import DevManager.Protocol.Limits
import DevManager.Ui.LayoutGrid
import DevManager.Prompts.DiffCorrect
import DevManager.Prompts.SearchText
import DevManager.Connect.PayloadJson
import DevManager.Connect.TicketCodec
import DevManager.Prompts.DiffCache
import DevManager.Prompts.DiffSpans
import DevManager.Services.HealthRun
import DevManager.Ui.LayoutSize
import DevManager.Git.QuotedPath
import DevManager.Org.LocalActionRun
import DevManager.Browser.OperationQueue
