import Http2.Bytes
import Http2.Client.Basic
import Http2.CommandLine
import Http2.Connection.Basic
import Http2.Connection.Endpoint
import Http2.Error
import Http2.ErrorCode
import Http2.Field.Basic
import Http2.FileTree
import Http2.Frame.Basic
import Http2.Frame.Kind
import Http2.Frame.Payload
import Http2.Frame.Transfer
import Http2.Frame.Wire
import Http2.Hpack.Codec
import Http2.Hpack.Primitive
import Http2.Hpack.Table
import Http2.Main
import Http2.Proofs.Client.Building
import Http2.Proofs.Connection.Agreement
import Http2.Proofs.Connection.Assembly
import Http2.Proofs.Connection.Evaluation
import Http2.Proofs.Connection.Exchange
import Http2.Proofs.Connection.FieldFaults
import Http2.Proofs.Connection.Framing
import Http2.Proofs.Connection.History
import Http2.Proofs.Connection.Ignored
import Http2.Proofs.Connection.Insertion
import Http2.Proofs.Connection.LifeCycle
import Http2.Proofs.Connection.Misplaced
import Http2.Proofs.Connection.Opening
import Http2.Proofs.Connection.Phase
import Http2.Proofs.Connection.Reachable
import Http2.Proofs.Connection.Reaction
import Http2.Proofs.Connection.ReadFailures
import Http2.Proofs.Connection.RemoteSettings
import Http2.Proofs.Connection.Replies
import Http2.Proofs.Connection.RequestBlocks
import Http2.Proofs.Connection.ResponseBlocks
import Http2.Proofs.Connection.Run
import Http2.Proofs.Connection.Segmentation
import Http2.Proofs.Connection.Shutdown
import Http2.Proofs.Connection.StreamIds
import Http2.Proofs.Connection.TableLimit
import Http2.Proofs.Connection.Termination
import Http2.Proofs.Connection.Verdict
import Http2.Proofs.Field.Compression
import Http2.Proofs.Field.RoundTrip
import Http2.Proofs.Field.Validity
import Http2.Proofs.Frame.Codec
import Http2.Proofs.Frame.Content
import Http2.Proofs.Frame.Padding
import Http2.Proofs.Frame.Reading
import Http2.Proofs.Frame.RoundTrip
import Http2.Proofs.Frame.Transfer
import Http2.Proofs.Hpack.Known
import Http2.Proofs.Hpack.RoundTrip
import Http2.Proofs.Settings.Entries
import Http2.Proofs.Settings.Validity
import Http2.Proofs.Stream.Accumulation
import Http2.Proofs.Stream.Arrival
import Http2.Proofs.Stream.Registry
import Http2.Proofs.Text.Basic
import Http2.Proofs.Tls.Alpn
import Http2.Proofs.Transport.Agreement
import Http2.Proofs.Transport.Arrivals
import Http2.Proofs.Transport.Calls
import Http2.Proofs.Transport.Closing
import Http2.Proofs.Transport.Filling
import Http2.Proofs.Transport.Flow
import Http2.Proofs.Transport.Segmentation
import Http2.Proofs.Transport.Stops
import Http2.Proofs.Transport.Traffic
import Http2.Proofs.Url.Grammar
import Http2.Proofs.Url.RoundTrip
import Http2.Session
import Http2.Settings.Basic
import Http2.Settings.Parameter
import Http2.Stream.Basic
import Http2.Stream.Registry
import Http2.Stream.State
import Http2.Text.Basic
import Http2.Text.Characters
import Http2.Text.Utf8
import Http2.Tls.Basic
import Http2.Tls.Cipher.Choice
import Http2.Tls.Cipher.Pattern
import Http2.Tls.Cipher.Registry
import Http2.Tls.Config
import Http2.Tls.Variables
import Http2.Transport.Basic
import Http2.Transport.Fault
import Http2.Url.Basic
