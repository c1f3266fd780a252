import LoRaSerial.Lib.Runs
import LoRaSerial.Lib.StopAndWait
import LoRaSerial.Lib.Overlay
import LoRaSerial.P2P.Delivery
import LoRaSerial.P2P.Progress
import LoRaSerial.Codec.SpreadFactor6
import LoRaSerial.Codec.CrcAcceptance
import LoRaSerial.VC.Access
import LoRaSerial.VC.Delivery
import LoRaSerial.Lib.Retransmission
import LoRaSerial.Outgoing.Pointer
import LoRaSerial.ChannelSync
import LoRaSerial.Config.Channel
import LoRaSerial.Config.Layout
import LoRaSerial.Config.Remote
import LoRaSerial.Config.Training
import LoRaSerial.P2P.ClockSource
import LoRaSerial.UniqueIds.Addresses
import LoRaSerial.UniqueIds.Injective
import LoRaSerial.Serial.Forwarding
import LoRaSerial.Serial.Accepted
import LoRaSerial.Serial.CommandBuffer
import LoRaSerial.Serial.Reassembly
import LoRaSerial.VcSerial.Messages
import LoRaSerial.VcSerial.Termination
import LoRaSerial.VcSerial.Filter
import LoRaSerial.VcSerial.HostMessage
import LoRaSerial.VC.Isolation
import LoRaSerial.VC.ServerLink
import LoRaSerial.VC.Resends
import LoRaSerial.VC.Noise
import LoRaSerial.Receive.Payload
import LoRaSerial.Receive.Rejection
import LoRaSerial.Receive.Timestamps
import LoRaSerial.Hopping.Table
import LoRaSerial.Hopping.ChannelZero
import LoRaSerial.Heartbeat.Server
import LoRaSerial.VC.Connecting
import LoRaSerial.Codec.CrcPolynomial
import LoRaSerial.Config.Trim
import LoRaSerial.Config.Listing
import LoRaSerial.Config.FrequencyLimits
import LoRaSerial.Config.Button
import LoRaSerial.Lib.Broadcast
import LoRaSerial.Training.Agreement
import LoRaSerial.Multipoint.Delivery
import LoRaSerial.Multipoint.Discovery
import LoRaSerial.Nvm.Store
import LoRaSerial.Bridge.Wire
import LoRaSerial.Bridge.Delivery
