import Roost.Cell.CheckedSums
import Roost.Cell.DeltaBatch
import Roost.Client.DeltaLog
import Roost.Client.HistoryRanges
import Roost.Client.Layout.Degrade
import Roost.Client.RouteAuthority
import Roost.Client.StagedViews
import Roost.Client.Watchdog
import Roost.Coord.Events.OncePublished
import Roost.Coord.Events.Ownership
import Roost.Coord.RateLimit
import Roost.Coord.Screen.ClientAccepts
import Roost.Coord.Screen.Silence
import Roost.Coord.Search.CursorRuns
import Roost.Coord.Search.PageAcceptance
import Roost.Coord.Search.PageDelivery
import Roost.Coord.Sync.ExactlyOnce
import Roost.Coord.Sync.Socket.Accounting
import Roost.Coord.Sync.Socket.SeedCutover
import Roost.Keeper.Answers
import Roost.Keeper.Connection
import Roost.Keeper.HistoryService
import Roost.Protocol.AgentStatus.NeverRewinds
import Roost.Protocol.Peer.PacketFraming
import Roost.Protocol.TerminalView.Accepted
import Roost.Protocol.TerminalView.Refused
import Roost.Worker.AdmissionTurns
import Roost.Worker.JournalTokens
import Roost.Worker.LaneOrder
import Roost.Worker.LinkOrder
import Roost.Worker.PacketConservation
import Roost.Worker.ReservationStore
import Roost.Worker.RouteStanding
import Roost.Worker.SyncOutputScan
