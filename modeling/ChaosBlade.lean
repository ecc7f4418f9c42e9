import ChaosBlade.Server.RecoverGuardTheorems
import ChaosBlade.Agent.GateTheorems
import ChaosBlade.Agent.TerminationTheorems
import ChaosBlade.Server.OutcomeTheorems
import ChaosBlade.Tools.CreateFlagsTheorems
import ChaosBlade.Nodes.ScreenerAnswerTheorems
import ChaosBlade.TargetGuard.FlagTheorems
import ChaosBlade.TargetGuard.SpellingTheorems
import ChaosBlade.Nodes.DriftCorrectionTheorems
import ChaosBlade.Persistence.TaskStoreTheorems
import ChaosBlade.Memory.StripRoute
import ChaosBlade.Memory.MetricTimeline
import ChaosBlade.Memory.SessionStoreTheorems
import ChaosBlade.Nodes.MethodTheorems
import ChaosBlade.Agent.VerdictLoopTheorems
import ChaosBlade.Nodes.DirectCreateTheorems
import ChaosBlade.Server.InterruptTheorems
import ChaosBlade.Cmd.AsyncTheorems
import ChaosBlade.Exec.KubernetesTheorems
import ChaosBlade.Server.ClusterChoice
import ChaosBlade.L4.Agent
import ChaosBlade.Tools.FileAccessTheorems
import ChaosBlade.Skills.Scripts
import ChaosBlade.Nodes.BaselineCaptureTheorems
import ChaosBlade.Nodes.BaselinePairs
import ChaosBlade.Observability.Tracer
import ChaosBlade.Mcp.Adapter
import ChaosBlade.Tui.Cursor
import ChaosBlade.Tui.Stepper
import ChaosBlade.Tui.Transcript
import ChaosBlade.Nodes.ConflictCheckTheorems
import ChaosBlade.Nodes.IntentConfirm
import ChaosBlade.Nodes.IntentMergeTheorems
import ChaosBlade.Nodes.SubmitRoundTheorems
import ChaosBlade.Tools.DurationTheorems
import ChaosBlade.Tools.VerbTheorems
