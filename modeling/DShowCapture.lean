import DShowCapture.AACEncoder
import DShowCapture.AccessUnit
import DShowCapture.Assembly
import DShowCapture.Capacity
import DShowCapture.Capture
import DShowCapture.Capture.Deadlock
import DShowCapture.Capture.Pictures
import DShowCapture.Carriage
import DShowCapture.Datagram
import DShowCapture.DecoderBounds
import DShowCapture.Decoding
import DShowCapture.Delivery
import DShowCapture.DirectDraw
import DShowCapture.DirectDraw.PackedPicture
import DShowCapture.Encoding
import DShowCapture.FrameQueue
import DShowCapture.FrameQueue.Abort
import DShowCapture.FrameQueue.Correctness
import DShowCapture.FrameQueue.Monitor
import DShowCapture.FrameQueue.Wakeup
import DShowCapture.H264Decoder
import DShowCapture.H264Frame.Aggregate
import DShowCapture.H264Frame.Bounds
import DShowCapture.H264Frame.Deencapsulate
import DShowCapture.H264Frame.Encapsulate
import DShowCapture.H264Frame.EncapsulateSTAP
import DShowCapture.H264Frame.FragmentRun
import DShowCapture.H264Frame.Independence
import DShowCapture.H264Frame.Packetizer
import DShowCapture.H264Frame.Reassembly
import DShowCapture.H264Frame.Reception
import DShowCapture.H264Frame.Staging
import DShowCapture.H264Frame.State
import DShowCapture.H264Frame.Tiling
import DShowCapture.H264Frame.Transmission
import DShowCapture.H264Rtp
import DShowCapture.Jrtplib.BuildPacket
import DShowCapture.Jrtplib.CompoundPacketBuilder
import DShowCapture.Jrtplib.CompoundRoundTrip
import DShowCapture.Jrtplib.PacketBuilder
import DShowCapture.Jrtplib.RTCPPacket
import DShowCapture.Jrtplib.Reordering
import DShowCapture.Jrtplib.SourceChanges
import DShowCapture.Jrtplib.SourceCounts
import DShowCapture.Jrtplib.SourceData
import DShowCapture.Jrtplib.SourceOrigins
import DShowCapture.Jrtplib.SourceStats
import DShowCapture.Jrtplib.SourceSteps
import DShowCapture.Jrtplib.Sources
import DShowCapture.KeyFrame.BitReader
import DShowCapture.KeyFrame.BitRoundTrip
import DShowCapture.KeyFrame.BitStream
import DShowCapture.KeyFrame.CodedSize
import DShowCapture.KeyFrame.CycleBounds
import DShowCapture.KeyFrame.Detect
import DShowCapture.KeyFrame.IntRange
import DShowCapture.KeyFrame.Locality
import DShowCapture.KeyFrame.NalScanner
import DShowCapture.KeyFrame.NalTable
import DShowCapture.KeyFrame.NalUnits
import DShowCapture.KeyFrame.PictureSize
import DShowCapture.KeyFrame.RealSize
import DShowCapture.KeyFrame.RefFrameLoop
import DShowCapture.KeyFrame.ScanBounds
import DShowCapture.KeyFrame.Search
import DShowCapture.KeyFrame.SpsFields
import DShowCapture.KeyGate
import DShowCapture.Leftovers
import DShowCapture.Library.AnnexB
import DShowCapture.Library.Averages
import DShowCapture.Library.BitString
import DShowCapture.Library.ByteMemory
import DShowCapture.Library.CString
import DShowCapture.Library.Chunks
import DShowCapture.Library.ConditionVariable
import DShowCapture.Library.ExpGolomb
import DShowCapture.Library.FixedWidth
import DShowCapture.Library.KeyedTable
import DShowCapture.Library.LinkedList
import DShowCapture.Library.Logged
import DShowCapture.Library.OrderedQueue
import DShowCapture.Library.Painting
import DShowCapture.Library.RFC3550
import DShowCapture.Library.RFC6184
import DShowCapture.Library.Runs
import DShowCapture.Library.SeqParameterSet
import DShowCapture.Library.SequenceNumbers
import DShowCapture.Library.Written
import DShowCapture.Loss
import DShowCapture.LossyReceiver
import DShowCapture.OffsetArray
import DShowCapture.RTPFrame
import DShowCapture.RTPPacket
import DShowCapture.RTPSender
import DShowCapture.Receiver
import DShowCapture.Resolution
import DShowCapture.RoundTrip
import DShowCapture.SendBounds
import DShowCapture.SendLoop
import DShowCapture.Sending
import DShowCapture.Timestamps
import DShowCapture.YUVConversion
