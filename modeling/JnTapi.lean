import JnTapi.Library.Runs
import JnTapi.Library.LifeCycle
import JnTapi.Library.Decimal
import JnTapi.Library.Mailbox
import JnTapi.Text
import JnTapi.Clock
import JnTapi.Events
import JnTapi.Stanzas
import JnTapi.StateMachine
import JnTapi.StateMachineBase
import JnTapi.Call.Branches
import JnTapi.Xmpp
import JnTapi.Call.Handler
import JnTapi.Call.MakeCall
import JnTapi.Call.Facts
import JnTapi.Call.System
import JnTapi.Call.Ledger
import JnTapi.Call.Coherent
import JnTapi.Call.Notifications
import JnTapi.Call.History
import JnTapi.Call.Rank
import JnTapi.Call.Retract
import JnTapi.Call.HangUp
import JnTapi.Call.MakeDrop
import JnTapi.Init.Handler
import JnTapi.Frames
import JnTapi.Init.Facts
import JnTapi.Drivers
import JnTapi.Orphans
import JnTapi.Init.Session
import JnTapi.OnSipTapi
import JnTapi.ConnectionThread
import JnTapi.OwnSession
import JnTapi.Call.Legs
import JnTapi.Call.SipCalls
import JnTapi.Call.SetupIds
import JnTapi.Queues
import JnTapi.NullReads
import JnTapi.Init.Subscribed
import JnTapi.EventDelivery
import JnTapi.Dialling
import JnTapi.Tapi.CallState
import JnTapi.Tapi.MakeCall
import JnTapi.Init.Callbacks
import JnTapi.Library.Issued
import JnTapi.Replies
import JnTapi.Call.BranchIds
import JnTapi.Call.Generated
import JnTapi.Call.TimeLimits
import JnTapi.Items
import JnTapi.Init.Progress
import JnTapi.InitReturns
import JnTapi.Library.First
import JnTapi.Tapi.Line
import JnTapi.Tapi.DropCall
import JnTapi.Tapi.FirstEvents
import JnTapi.Init.Turns
import JnTapi.FatalLogin
import JnTapi.SipAddress
import JnTapi.Tapi.Numbers
import JnTapi.Tapi.TimeOuts
import JnTapi.AsyncPolling
import JnTapi.OnSipThread
import JnTapi.ConnectEvents
import JnTapi.CreateErrors
import JnTapi.Init.Renewal
import JnTapi.Ownership
import JnTapi.HeldEvents
import JnTapi.Library.Balance
import JnTapi.EventLedger
import JnTapi.PasswordCodec
import JnTapi.Library.Parties
import JnTapi.Tsp.PoolMgr
import JnTapi.Tsp.PoolOrder
import JnTapi.Tsp.PoolProgress
import JnTapi.Tsp.PoolOwnership
import JnTapi.Tsp.CritSec
import JnTapi.Tsp.CritSecSafety
import JnTapi.Library.Scanning
import JnTapi.Gloox.Tag
import JnTapi.Gloox.Parser
import JnTapi.Gloox.Pieces
import JnTapi.Gloox.Exact
import JnTapi.Gloox.RoundTrip
import JnTapi.Tapi.Device
import JnTapi.Gloox.XPath
import JnTapi.Gloox.Paths
import JnTapi.Gloox.Stanza
import JnTapi.Gloox.Filters
import JnTapi.Gloox.Notices
