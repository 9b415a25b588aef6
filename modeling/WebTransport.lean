import WebTransport.Quic.Redelivery
import WebTransport.Quic.StreamReclaim
import WebTransport.Quic.Grants
import WebTransport.Quic.Timer
import WebTransport.Quic.KeyUpdate
import WebTransport.Quic.PeerParameters
import WebTransport.Quic.PeerIds
import WebTransport.Quic.ConnectionIdStore
import WebTransport.Quic.AckFlow
import WebTransport.Quic.LossEvents
import WebTransport.Quic.PacketRoundTrip
import WebTransport.Quic.PacketNumbersOnce
import WebTransport.Http3.FinishedStreams
import WebTransport.Http3.BlockedSections
import WebTransport.Session.EntryPoints
import WebTransport.Http3.EncoderBookkeeping
import WebTransport.Http3.EncoderReplay
import WebTransport.Http3.QpackFifo
import WebTransport.Http3.QpackStreams
import WebTransport.Http3.RefusedStreams
import WebTransport.Http3.RequestFrames
import WebTransport.Http3.RequestResend
import WebTransport.Runtime.RetryRoundTrip
import WebTransport.Session.Buffered
import WebTransport.Session.CapsuleRoundTrip
import WebTransport.Session.FlowControl
import WebTransport.Session.Request
import WebTransport.Quic.Confirmation
import WebTransport.Swift.ConnectionIDStore
import WebTransport.Swift.CreditLedger
import WebTransport.Swift.GoawayPromise
import WebTransport.Quic.PacketNumber
import WebTransport.Quic.LossThresholds
import WebTransport.Quic.DatagramPayload
import WebTransport.Quic.DatagramQueue
import WebTransport.Quic.StreamCompletion
import WebTransport.Quic.CryptoBuffer
import WebTransport.Quic.ParameterList
import WebTransport.Http3.RequestGrammar
import WebTransport.Swift.SessionOrder
import WebTransport.Swift.OwnedHalves
import WebTransport.Http3.HuffmanBijection
import WebTransport.Http3.PrefixedInteger
import WebTransport.Http3.SettingsCodec
import WebTransport.Quic.RttEstimate
import WebTransport.Runtime.SpareConnectionId
import WebTransport.Session.CloseReason
import WebTransport.Session.ErrorCodes
import WebTransport.Swift.LossRecovery
import WebTransport.Tls.HelloReadBack
import WebTransport.Tls.ServerRun
