import TwoWay.Session
import TwoWay.Description
import TwoWay.Json.Stored
import TwoWay.Format.Collections
import TwoWay.Format.Http
import TwoWay.Format.Table
import TwoWay.Proofs.Reading.Chain
import TwoWay.Proofs.Reading.Rollback
import TwoWay.Proofs.Reading.Suffix
import TwoWay.Proofs.Reading.Repetition
import TwoWay.Proofs.Writing.Append
import TwoWay.Proofs.Writing.Repetition
import TwoWay.Proofs.Writing.Marks
import TwoWay.Proofs.Reading.Run
import TwoWay.Proofs.RoundTrip.Repetition
import TwoWay.Proofs.Lockstep
import TwoWay.Proofs.Equivalence
import TwoWay.Proofs.Bridge.Spelling
import TwoWay.Proofs.Bridge.Ascii
import TwoWay.Proofs.Bridge.Composition
import TwoWay.Proofs.Bridge.Hoisting
import TwoWay.Proofs.Bridge.Portable
import TwoWay.Proofs.Bridge.LongestText
import TwoWay.Proofs.Reading.Consumption
import TwoWay.Proofs.Reading.Guarded
import TwoWay.Proofs.Reading.Turns
import TwoWay.Proofs.Reading.Position
import TwoWay.Proofs.RoundTrip.FixedLayout
import TwoWay.Proofs.RoundTrip.Form
import TwoWay.Proofs.Cluster.Restart
import TwoWay.Proofs.Cluster.Reading
import TwoWay.Proofs.Cluster.Scalars
import TwoWay.Proofs.RoundTrip.Table
import TwoWay.Proofs.RoundTrip.Request
import TwoWay.Proofs.RoundTrip.Number
import TwoWay.Proofs.RoundTrip.Slice
import TwoWay.Proofs.Bridge.Leftover
import TwoWay.Proofs.Cluster.Literal
import TwoWay.Proofs.Reading.Separated
import TwoWay.Proofs.Folding
import TwoWay.Proofs.Factoring
import TwoWay.Proofs.RoundTrip.RunLengths
import TwoWay.Proofs.RoundTrip.IntegerSet
import TwoWay.Proofs.History
