import ThinkPixelAR.Guarantees.AttemptHistory
import ThinkPixelAR.Guarantees.AttemptOrdinals
import ThinkPixelAR.Guarantees.CaptureQueue
import ThinkPixelAR.Guarantees.ClaimHistory
import ThinkPixelAR.Guarantees.ClaimRefinement
import ThinkPixelAR.Guarantees.CleanupHistory
import ThinkPixelAR.Guarantees.CodexRequests
import ThinkPixelAR.Guarantees.CommandDispatch
import ThinkPixelAR.Guarantees.EventGrammar
import ThinkPixelAR.Guarantees.FrameSequences
import ThinkPixelAR.Guarantees.HandshakeAgreement
import ThinkPixelAR.Guarantees.InterruptInterleaving
import ThinkPixelAR.Guarantees.JsonLimits
import ThinkPixelAR.Guarantees.LeaseFencing
import ThinkPixelAR.Guarantees.LineCapture
import ThinkPixelAR.Guarantees.LocalGrants
import ThinkPixelAR.Guarantees.OperationLedger
import ThinkPixelAR.Guarantees.OutboxIntegrity
import ThinkPixelAR.Guarantees.ReconcilerProgress
import ThinkPixelAR.Guarantees.ReconnectDiscipline
import ThinkPixelAR.Guarantees.RestoreDestination
import ThinkPixelAR.Guarantees.ServiceLoop
import ThinkPixelAR.Guarantees.SessionHistory
import ThinkPixelAR.Guarantees.SessionStorage
import ThinkPixelAR.Guarantees.StreamLimits
import ThinkPixelAR.Guarantees.SuspendResume
import ThinkPixelAR.Guarantees.TurnCodec
import ThinkPixelAR.Guarantees.VendorSizes
import ThinkPixelAR.Guarantees.WorkspaceHistory
