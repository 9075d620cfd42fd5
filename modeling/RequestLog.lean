import RequestLog.Main
import RequestLog.Output.Chain
import RequestLog.Pattern.Renderer
import RequestLog.Proofs.Boundary
import RequestLog.Proofs.EndToEnd
import RequestLog.Proofs.Firings
import RequestLog.Proofs.Grammar
import RequestLog.Proofs.HoldingBack
import RequestLog.Proofs.LineBreaks
import RequestLog.Proofs.Malformed
import RequestLog.Proofs.Overrides
import RequestLog.Proofs.Rotations
import RequestLog.Proofs.Scripts
import RequestLog.Proofs.StateMachine
import RequestLog.Proofs.Substitution
import RequestLog.Proofs.Escaping
import RequestLog.Proofs.Rejections
import RequestLog.Proofs.Barriers
import RequestLog.Proofs.Memory
import RequestLog.Proofs.Precedence
import RequestLog.Proofs.SourceAccount
import RequestLog.Proofs.Spellings
import RequestLog.Proofs.Launching
import RequestLog.Proofs.RequestLine
import RequestLog.Proofs.FormData
import RequestLog.Proofs.Calendar
import RequestLog.Proofs.Clocks
import RequestLog.Proofs.TimeNotation
import RequestLog.Proofs.EpochTimes
import RequestLog.Proofs.RateLimit
import RequestLog.Proofs.TargetNames
import RequestLog.Proofs.PayloadSizes
import RequestLog.Proofs.Chains
import RequestLog.Proofs.Draining
import RequestLog.Proofs.ByteScan
import RequestLog.Proofs.KindSets
