import LorawanGateway.Datagram.ServerDatagram
import LorawanGateway.Datagram.PushData
import LorawanGateway.Datagram.Txpk
import LorawanGateway.Gateway.Backoff
import LorawanGateway.Gateway.ConfigJson
import LorawanGateway.Gateway.Downlink
import LorawanGateway.Gateway.Inspection
import LorawanGateway.Gateway.TrafficReportJson
import LorawanGateway.Gateway.Service
import LorawanGateway.Proofs.Transmit.Separation
import LorawanGateway.Proofs.Transmit.Retention
import LorawanGateway.Proofs.Transmit.Delivery
import LorawanGateway.Proofs.Transmit.Places
import LorawanGateway.Proofs.Transmit.QueueShift
import LorawanGateway.Proofs.Transmit.PopOrder
import LorawanGateway.Proofs.Transmit.SchedulerShift
import LorawanGateway.Proofs.Transmit.FreeSlot
import LorawanGateway.Proofs.Transmit.Accounting
import LorawanGateway.Proofs.Transmit.Envelope
import LorawanGateway.Proofs.Transmit.Waiting
import LorawanGateway.Proofs.Transmit.ChainIndependence
import LorawanGateway.Proofs.Gateway.FskWindow
import LorawanGateway.Proofs.Gateway.Acknowledgement
import LorawanGateway.Proofs.Mac.FrameForm
import LorawanGateway.Proofs.Mac.Sealing
import LorawanGateway.Proofs.Datagram.PushData
import LorawanGateway.Proofs.Gateway.CaptureRoom
import LorawanGateway.Proofs.Transmit.BeaconTimes
import LorawanGateway.Proofs.Gateway.PollRounds
import LorawanGateway.Proofs.Gateway.UninterruptedTasks
import LorawanGateway.Proofs.Gateway.SocketPool
import LorawanGateway.Proofs.Json.PrintedToken
import LorawanGateway.Proofs.Datagram.TxpkFields
import LorawanGateway.Proofs.Datagram.TxpkForm
import LorawanGateway.Proofs.Gateway.ConfigText
import LorawanGateway.Proofs.Gateway.TxPower
import LorawanGateway.Proofs.Gateway.TxValidity
import LorawanGateway.Proofs.Transmit.ArrivalOrder
import LorawanGateway.Proofs.Transmit.TimingVerdict
import LorawanGateway.Proofs.Datagram.ServerDatagram
import LorawanGateway.Proofs.Mac.PayloadCipher
import LorawanGateway.Proofs.Mac.FilterVerdict
import LorawanGateway.Proofs.Gateway.StoredRules
import LorawanGateway.Proofs.Transmit.BeaconPayload
import LorawanGateway.Proofs.Transmit.BeaconFilling
import LorawanGateway.Proofs.Gateway.StoreScan
import LorawanGateway.Proofs.Text.Base64Form
import LorawanGateway.Proofs.Mac.AesInverse
import LorawanGateway.Proofs.Mac.JoinCipher
import LorawanGateway.Proofs.Transmit.LoraAirTime
import LorawanGateway.Proofs.Gateway.RelayFraming
import LorawanGateway.Proofs.Radio.ConcentratorRun
import LorawanGateway.Proofs.Mac.CipherBlocks
