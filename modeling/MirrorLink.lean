import MirrorLink.Library.Bytes
import MirrorLink.Library.Loops
import MirrorLink.Library.Effectful
import MirrorLink.Library.Rounds
import MirrorLink.Program.Session
import MirrorLink.Program.VncSession
import MirrorLink.Program.Buffer
import MirrorLink.Program.VncHandshake
import MirrorLink.Interface.Reading
import MirrorLink.Interface.ServerMessages
import MirrorLink.Interface.Protocol
import MirrorLink.Analysis.Doworks
import MirrorLink.Analysis.ConfigurationProtocol
import MirrorLink.Analysis.UpdateFraming
import MirrorLink.Analysis.MessageFraming
import MirrorLink.Analysis.Bounds
import MirrorLink.Analysis.FlowControl
import MirrorLink.Analysis.Cut
import MirrorLink.Analysis.Handshake
import MirrorLink.Analysis.Termination
import MirrorLink.Library.Scanf
import MirrorLink.Library.Text
import MirrorLink.Program.Ssdp
import MirrorLink.Program.Upnp
import MirrorLink.Analysis.DiscoveryGating
import MirrorLink.Program.Conn
import MirrorLink.Program.HttpClient
import MirrorLink.Interface.HttpResponse
import MirrorLink.Analysis.HttpReassembly
import MirrorLink.Analysis.Locations
import MirrorLink.Analysis.Residue
import MirrorLink.Library.Heap
import MirrorLink.Library.LastWrite
import MirrorLink.Analysis.PollPass
import MirrorLink.Analysis.Hotplug
import MirrorLink.Program.RemoteServer
import MirrorLink.Analysis.Description
import MirrorLink.Program.Actions
import MirrorLink.Program.MirrorLinkClient
import MirrorLink.Program.MainWindow
import MirrorLink.Analysis.AppList
import MirrorLink.Analysis.Actions
import MirrorLink.Analysis.Launch
import MirrorLink.Analysis.Formatting
import MirrorLink.Library.Ledger
import MirrorLink.Library.Dialogue
import MirrorLink.Program.SystemCalls
import MirrorLink.Program.Transfer
import MirrorLink.Analysis.TransferRule
import MirrorLink.Analysis.ExactTransfer
import MirrorLink.Analysis.Accumulation
import MirrorLink.Analysis.HardErrors
import MirrorLink.Program.ConnOpen
import MirrorLink.Analysis.Uninitialised
import MirrorLink.Program.RemoteClients
import MirrorLink.Analysis.ClientOperations
import MirrorLink.Library.Records
import MirrorLink.Library.Utf8
import MirrorLink.Library.Xml
import MirrorLink.Library.XmlReading
import MirrorLink.Interface.SoapBody
import MirrorLink.Interface.ApplicationIds
import MirrorLink.Analysis.ApplicationIds
import MirrorLink.Analysis.SoapBody
import MirrorLink.Analysis.SoapArguments
import MirrorLink.Interface.NetlinkMessages
import MirrorLink.Program.NetlinkEvent
import MirrorLink.Analysis.NetlinkWalk
import MirrorLink.Program.Descriptors
import MirrorLink.Analysis.Sockets
import MirrorLink.Interface.HttpAnnouncement
import MirrorLink.Analysis.HttpResult
import MirrorLink.Interface.UpdateRequest
import MirrorLink.Analysis.UpdateReply
import MirrorLink.Interface.ServerRefusal
import MirrorLink.Analysis.Refusal
import MirrorLink.Library.CInt
import MirrorLink.Program.Lengths
import MirrorLink.Analysis.Lengths
import MirrorLink.Interface.DeviceDescription
import MirrorLink.Analysis.Stores
import MirrorLink.Analysis.DescriptionTexts
import MirrorLink.Analysis.SiblingOrder
import MirrorLink.Analysis.ActionSafety
import MirrorLink.Analysis.LaunchReply
import MirrorLink.Interface.AppListing
import MirrorLink.Analysis.Listing
import MirrorLink.Interface.SearchResponse
import MirrorLink.Analysis.SearchResponses
import MirrorLink.Interface.HeaderNames
import MirrorLink.Analysis.HttpArrival
import MirrorLink.Analysis.HeaderNames
import MirrorLink.Analysis.SearchCase
import MirrorLink.Analysis.HeaderScan
import MirrorLink.Analysis.HeaderCase
import MirrorLink.Program.RequestText
import MirrorLink.Interface.HttpRequest
import MirrorLink.Analysis.RequestText
import MirrorLink.Analysis.RequestReading
import MirrorLink.Analysis.RequestRoundTrip
import MirrorLink.Library.Interaction
import MirrorLink.Library.Blocks
import MirrorLink.Program.VncCalls
import MirrorLink.Program.VncTask
import MirrorLink.Analysis.TaskRules
import MirrorLink.Analysis.TaskRuns
import MirrorLink.Analysis.TaskRefinement
import MirrorLink.Analysis.TransferCodes
import MirrorLink.Interface.ClientMessages
import MirrorLink.Analysis.ClientStream
import MirrorLink.Library.Ownership
import MirrorLink.Program.HttpCalls
import MirrorLink.Program.HttpTask
import MirrorLink.Analysis.HttpRules
import MirrorLink.Analysis.HttpMemory
import MirrorLink.Analysis.HttpRuns
import MirrorLink.Analysis.HttpExchange
import MirrorLink.Analysis.Schedules
import MirrorLink.Library.Queue
import MirrorLink.Library.Table
import MirrorLink.Program.QtThreads
import MirrorLink.Interface.GuiHistory
import MirrorLink.Analysis.GuiRuns
import MirrorLink.Analysis.QtRefinement
import MirrorLink.Program.UpnpThread
import MirrorLink.Analysis.UpnpThread
import MirrorLink.Analysis.PhoneRuns
import MirrorLink.Program.SsdpTool
import MirrorLink.Analysis.SsdpTool
import MirrorLink.Library.Typestate
import MirrorLink.Analysis.SocketUse
