import MstpLink.Crc
import MstpLink.Framer
import MstpLink.FramerChunking
import MstpLink.FramerDecode
import MstpLink.Sniffer
import MstpLink.Station
import MstpLink.Bus
import MstpLink.Capture
import MstpLink.CrcRegister
import MstpLink.Crc16Verify
import MstpLink.FramerBuffer
import MstpLink.Reply
import MstpLink.RunLoop
import MstpLink.CaptureScript
import MstpLink.SnifferSession
import MstpLink.Npdu
import MstpLink.SerialBus
import MstpLink.GatewayFull
import MstpLink.GatewayStress
import MstpLink.Unheard
import MstpLink.BusSniffer
import MstpLink.BusRefinement
