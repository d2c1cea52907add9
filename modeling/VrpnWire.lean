import VrpnWire.Basic
import VrpnWire.ByteOrder
import VrpnWire.Buffers
import VrpnWire.Types
import VrpnWire.Padding
import VrpnWire.Frame
import VrpnWire.FrameDecoder
import VrpnWire.FrameEncoder
import VrpnWire.FrameStream
import VrpnWire.Deserializer
import VrpnWire.SerdeRoundTrip
import VrpnWire.TypedMessage
import VrpnWire.PartialStreams
import VrpnWire.AsyncStd
import VrpnWire.Receiver
