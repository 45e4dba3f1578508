import CachePurge.Main
import CachePurge.Proofs.Header
import CachePurge.Proofs.History
import CachePurge.Proofs.Host
import CachePurge.Proofs.Isolation
import CachePurge.Proofs.Preview
import CachePurge.Proofs.Progress
import CachePurge.Proofs.Schedule
import CachePurge.Service
import CachePurge.Tag.Tagged
import CachePurge.Text.Lines
import CachePurge.Proofs.Specificity
import CachePurge.Proofs.Agreement
import CachePurge.Proofs.Completion
import CachePurge.Proofs.Secret
import CachePurge.Proofs.Bounds
import CachePurge.Proofs.Bundle
import CachePurge.Proofs.Token
import CachePurge.Proofs.Query
import CachePurge.Proofs.BundledPreview
import CachePurge.Proofs.FrontEnds
import CachePurge.Proofs.Halves
import CachePurge.Proofs.Notices
import CachePurge.Proofs.Pools
import CachePurge.Proofs.Alternatives
import CachePurge.Proofs.Partition
import CachePurge.Proofs.Verdicts
import CachePurge.Proofs.Overlap
import CachePurge.Proofs.Compilable
import CachePurge.Proofs.Size
import CachePurge.Proofs.NormalForm
import CachePurge.Proofs.Conjunction
import CachePurge.Proofs.Filling
import CachePurge.Proofs.Precedence
import CachePurge.Proofs.Classification
import CachePurge.Proofs.HeaderValue
import CachePurge.Proofs.Transparency
import CachePurge.Proofs.SlidingMean
