import ChannelGateway.Bench.Hub
import ChannelGateway.Bench.Run
import ChannelGateway.Client.Basic
import ChannelGateway.Config.Start
import ChannelGateway.Gateway.Assembly
import ChannelGateway.Http.Server
import ChannelGateway.Main
import ChannelGateway.Proofs.Traffic
import ChannelGateway.Proofs.Hub
import ChannelGateway.Proofs.Piece
import ChannelGateway.Proofs.Orderly
import ChannelGateway.Proofs.Indexes
import ChannelGateway.Proofs.Sought
import ChannelGateway.Proofs.SingleFlight
import ChannelGateway.Proofs.Sound
import ChannelGateway.Proofs.Usable
import ChannelGateway.Proofs.Dispatch
import ChannelGateway.Proofs.FanOut
import ChannelGateway.Proofs.Deliveries
import ChannelGateway.Proofs.Writes
import ChannelGateway.Proofs.Intact
import ChannelGateway.Proofs.Backing
import ChannelGateway.Proofs.Live
import ChannelGateway.Proofs.Apart
import ChannelGateway.Proofs.Spared
import ChannelGateway.Proofs.Persistence
import ChannelGateway.Proofs.Silent
import ChannelGateway.Proofs.Renumber
import ChannelGateway.Proofs.Mirror
import ChannelGateway.Proofs.Share
import ChannelGateway.Proofs.InStep
import ChannelGateway.Proofs.BenchRuns
import ChannelGateway.Proofs.Restriction
import ChannelGateway.Proofs.Numerals
import ChannelGateway.Proofs.JsonText
import ChannelGateway.Proofs.Rounding
import ChannelGateway.Proofs.Shortest
import ChannelGateway.Proofs.FloatText
import ChannelGateway.Proofs.InPlace
import ChannelGateway.Proofs.Agreement
import ChannelGateway.Proofs.GateTurns
import ChannelGateway.Proofs.Served
import ChannelGateway.Proofs.Subscribed
import ChannelGateway.Proofs.StatePage
import ChannelGateway.Proofs.Volts
import ChannelGateway.Proofs.InRange
import ChannelGateway.Proofs.VoltageRange
import ChannelGateway.Proofs.Faults
import ChannelGateway.Proofs.Allowance
import ChannelGateway.Proofs.Outage
import ChannelGateway.Proofs.Lasting
import ChannelGateway.Proofs.Attachment
import ChannelGateway.Proofs.Contents
import ChannelGateway.Proofs.Edges
import ChannelGateway.Proofs.Opening
import ChannelGateway.Proofs.Shutdown
import ChannelGateway.Proofs.Bodies
import ChannelGateway.Proofs.Asked
import ChannelGateway.Proofs.Snapshot
import ChannelGateway.Proofs.Series
import ChannelGateway.Proofs.Startup
import ChannelGateway.Proofs.InputPaths
import ChannelGateway.Proofs.Custody
import ChannelGateway.Proofs.Decoding
import ChannelGateway.Proofs.Settings
import ChannelGateway.Proofs.Reread
import ChannelGateway.Proofs.Tidy
import ChannelGateway.Proofs.Sources
import ChannelGateway.Proofs.Layers
import ChannelGateway.Proofs.Variables
import ChannelGateway.Proofs.Precedence
