import HostTelemetry.Text.Blank
import HostTelemetry.Text.Cut
import HostTelemetry.Text.LowerCase
import HostTelemetry.Text.Quoted
import HostTelemetry.Text.Letter
import HostTelemetry.Text.Pattern
import HostTelemetry.Text.NormalForm
import HostTelemetry.Decimal.Natural
import HostTelemetry.Decimal.Numeral
import HostTelemetry.Decimal.Shortest
import HostTelemetry.Decimal.Layout
import HostTelemetry.Log
import HostTelemetry.Log.Filter
import HostTelemetry.Duration
import HostTelemetry.Url
import HostTelemetry.Network.Host
import HostTelemetry.Row
import HostTelemetry.Files
import HostTelemetry.Counter.Value
import HostTelemetry.Counter.Source
import HostTelemetry.Counter.Derive
import HostTelemetry.Kernel.Source
import HostTelemetry.Store.Basic
import HostTelemetry.Chunk
import HostTelemetry.Delivery.Post
import HostTelemetry.Delivery.Target
import HostTelemetry.Round
import HostTelemetry.Agent
import HostTelemetry.Portable
import HostTelemetry.Main
import HostTelemetry.Proofs.Outcome
import HostTelemetry.Proofs.StoreContents
import HostTelemetry.Proofs.Chunking
import HostTelemetry.Proofs.Delivery
import HostTelemetry.Proofs.BodyReading
import HostTelemetry.Proofs.FlushCourse
import HostTelemetry.Proofs.FlushCoverage
import HostTelemetry.Proofs.FlushBoundary
import HostTelemetry.Proofs.Collecting
import HostTelemetry.Proofs.RoundCourse
import HostTelemetry.Proofs.RoundHistory
import HostTelemetry.Proofs.StoreLedger
import HostTelemetry.Proofs.OwedClears
import HostTelemetry.Proofs.SamplingPass
import HostTelemetry.Proofs.NumberText
import HostTelemetry.Proofs.JsonReading
import HostTelemetry.Proofs.PushHistory
import HostTelemetry.Proofs.BodyDecoding
import HostTelemetry.Proofs.BodySize
import HostTelemetry.Proofs.Ceiling
import HostTelemetry.Proofs.LicenseSecrecy
import HostTelemetry.Proofs.DerivedRows
import HostTelemetry.Proofs.MatchedReads
import HostTelemetry.Proofs.MissingFields
import HostTelemetry.Proofs.MemberSums
import HostTelemetry.Proofs.DistinctSeries
import HostTelemetry.Proofs.ProcessorRows
import HostTelemetry.Proofs.NearestDouble
import HostTelemetry.Proofs.DoubleArithmetic
import HostTelemetry.Proofs.TextParts
import HostTelemetry.Proofs.KernelColumns
import HostTelemetry.Proofs.FiniteRows
import HostTelemetry.Proofs.ShippedNumbers
import HostTelemetry.Proofs.ChunkSizes
import HostTelemetry.Proofs.LargerThreshold
import HostTelemetry.Proofs.EmptiedBody
import HostTelemetry.Proofs.RetryBudget
import HostTelemetry.Proofs.AcceptedSettings
import HostTelemetry.Proofs.NonnegativeRows
import HostTelemetry.Proofs.ProcessorUsage
import HostTelemetry.Proofs.ListedProcesses
import HostTelemetry.Proofs.ZoneNames
import HostTelemetry.Proofs.TextEnds
import HostTelemetry.Proofs.ByteSlices
import HostTelemetry.Proofs.LaidOutLines
import HostTelemetry.Proofs.AbsoluteUrls
import HostTelemetry.Proofs.NumberWords
import HostTelemetry.Proofs.DurationGrammar
import HostTelemetry.Proofs.ProcessStat
import HostTelemetry.Proofs.ColumnTables
import HostTelemetry.Proofs.ProcessorColumns
import HostTelemetry.Proofs.TransportCounters
