import Mediasoup.Channel.Framing
import Mediasoup.Codecs.H264
import Mediasoup.Rtp.ProducerStreams
import Mediasoup.Rtp.RetransmissionOrder
import Mediasoup.Rtp.NackGenerator
import Mediasoup.Consumer.OutputNumbers
import Mediasoup.Consumer.TimestampOffsets
import Mediasoup.Router.PacketSharing
import Mediasoup.Transport.ValidTuples
import Mediasoup.Channel.PayloadPairing
import Mediasoup.Rtcp.CompoundPacket
import Mediasoup.Rtcp.RoundTrip
import Mediasoup.Transport.StunSerialize
import Mediasoup.Rtcp.FeedbackRoundTrip
import Mediasoup.Transport.CongestionControlServer
import Mediasoup.Transport.BitrateDistribution
import Mediasoup.Transport.SctpAssociation
import Mediasoup.Transport.TcpConnection
import Mediasoup.Signaling.AudioObserver
import Mediasoup.Signaling.LeaveRace
import Mediasoup.Signaling.UpOffer
import Mediasoup.Signaling.SharedProducers
import Mediasoup.Channel.DataConsumerSend
import Mediasoup.Transport.ConnectionState
import Mediasoup.Rtp.KeyFrameRequestManager
import Mediasoup.Rtp.LossReports
import Mediasoup.Rtp.NackItems
import Mediasoup.Rtp.PacketStructure
import Mediasoup.Rtp.PacketRewrites
import Mediasoup.Transport.RtpListener
