import XdpExperiment.Interaction.Trace
import XdpExperiment.XdpMonitor
import XdpExperiment.MonitorCalls
import XdpExperiment.PublicCalls
import XdpExperiment.ForeignPrograms
import XdpExperiment.ResourceBalance
import XdpExperiment.ExitCode
import XdpExperiment.StopRequest
import XdpExperiment.SuccessiveMonitors
import XdpExperiment.Bytes
import XdpExperiment.Packet
import XdpExperiment.Capture
import XdpExperiment.EndToEnd
import XdpExperiment.EthernetTrailer
import XdpExperiment.Delivery
import XdpExperiment.CommandLine
import XdpExperiment.EventLoop
import XdpExperiment.FrameAccesses
import XdpExperiment.TransportHeader
import XdpExperiment.Decoder
import XdpExperiment.HexDump
import XdpExperiment.Application
import XdpExperiment.Interaction.Refinement
import XdpExperiment.Interaction.Discipline
import XdpExperiment.WholeSystem
import XdpExperiment.CallOrder
import XdpExperiment.Provenance
import XdpExperiment.Interaction.Erasure
import XdpExperiment.Executables
import XdpExperiment.Process
import XdpExperiment.Output
import XdpExperiment.Report
import XdpExperiment.FieldFormats
import XdpExperiment.Demo
import XdpExperiment.Exit
import XdpExperiment.Interaction.Shutdown
import XdpExperiment.Shutdown
import XdpExperiment.Diagnostics
import XdpExperiment.Interaction.SideBySide
import XdpExperiment.Instances
import XdpExperiment.Platform
import XdpExperiment.OneObject
import XdpExperiment.ExecutablesOnPlatform
