import WebDispatch.Channel.Link
import WebDispatch.Dispatcher
import WebDispatch.Injection.RowTable
import WebDispatch.Registration
import WebDispatch.Report
import WebDispatch.RequestTest
import WebDispatch.Template.Tera.Engine
import WebDispatch.Proofs.FirstMatch
import WebDispatch.Proofs.Effects
import WebDispatch.Proofs.Layers
import WebDispatch.Proofs.Interpreter
import WebDispatch.Proofs.ChainLogs
import WebDispatch.Proofs.ChainRefinement
import WebDispatch.Proofs.Authorization
import WebDispatch.Proofs.Requests
import WebDispatch.Proofs.Transactions
import WebDispatch.Proofs.Gate
import WebDispatch.Proofs.UnitOfWork
import WebDispatch.Proofs.TransactionLog
import WebDispatch.Proofs.Failures
import WebDispatch.Proofs.SessionCode
import WebDispatch.Proofs.ConfinedChains
import WebDispatch.Proofs.SessionBinding
import WebDispatch.Proofs.SessionLifetime
import WebDispatch.Proofs.SessionOrigin
import WebDispatch.Proofs.SessionIsolation
import WebDispatch.Proofs.SessionAnnouncement
import WebDispatch.Proofs.SessionHistory
import WebDispatch.Proofs.SessionExpiry
import WebDispatch.Proofs.FailedRegistrations
import WebDispatch.Proofs.RegistrationOrder
import WebDispatch.Proofs.SoundRoutes
import WebDispatch.Proofs.UnservedRequests
import WebDispatch.Proofs.ConnectionEvents
import WebDispatch.Proofs.ChannelTraffic
import WebDispatch.Proofs.WriterRuns
import WebDispatch.Proofs.ChannelCode
import WebDispatch.Proofs.Conversations
import WebDispatch.Proofs.ClosingEvents
import WebDispatch.Proofs.ClosingFrames
import WebDispatch.Proofs.SessionTimeouts
import WebDispatch.Proofs.HeaderOptions
import WebDispatch.Proofs.ContentTypes
import WebDispatch.Proofs.Courses
import WebDispatch.Proofs.AnsweredTypes
import WebDispatch.Proofs.PathRoundTrip
import WebDispatch.Proofs.OptionOverlay
import WebDispatch.Proofs.EndedExchanges
import WebDispatch.Proofs.CatchAllCaptures
import WebDispatch.Proofs.InjectedValues
import WebDispatch.Proofs.Base64Coding
import WebDispatch.Proofs.BasicCredentials
import WebDispatch.Proofs.InjectionPaths
import WebDispatch.Proofs.EventDelivery
import WebDispatch.Proofs.StructuredReplies
import WebDispatch.Proofs.SessionSweeps
import WebDispatch.Proofs.BodyBuffering
import WebDispatch.Proofs.CookieRoundTrip
import WebDispatch.Proofs.WrittenOptions
import WebDispatch.Proofs.OrderedObjects
import WebDispatch.Proofs.TemplateTrees
import WebDispatch.Proofs.SettingsVariables
