import UrlRouter.Config.Source
import UrlRouter.Dispatch.Dispatcher
import UrlRouter.Proofs.Dispatch.CacheKey
import UrlRouter.Proofs.Router.LocalWords
import UrlRouter.Proofs.Registration.Atomic
import UrlRouter.Proofs.Registration.Grouping
import UrlRouter.Proofs.Registration.Guarded
import UrlRouter.Proofs.Registration.Reachable
import UrlRouter.Proofs.Route.Inheritance
import UrlRouter.Proofs.Dispatch.Replay
import UrlRouter.Proofs.Dispatch.Runs
import UrlRouter.Proofs.Dispatch.Descriptors
import UrlRouter.Proofs.Dispatch.Statuses
import UrlRouter.Proofs.Route.Nesting
import UrlRouter.Proofs.Router.Resolution
import UrlRouter.Proofs.Router.Query
import UrlRouter.Proofs.Router.Mandatory
import UrlRouter.Proofs.Router.Verbatim
import UrlRouter.Proofs.Dispatch.Failures
import UrlRouter.Proofs.Dispatch.Accesses
import UrlRouter.Proofs.Regex.Parts
import UrlRouter.Proofs.Regex.Tail
import UrlRouter.Proofs.Regex.Whole
import UrlRouter.Proofs.Registration.Anchored
import UrlRouter.Proofs.Registration.Growth
import UrlRouter.Proofs.Router.Outcome
import UrlRouter.Proofs.Registration.Derived
import UrlRouter.Proofs.Dispatch.Calls
import UrlRouter.Proofs.Registration.Options
import UrlRouter.Proofs.Config.Leaves
import UrlRouter.Proofs.Route.Words
import UrlRouter.Proofs.Handler.Binding
import UrlRouter.Proofs.Route.Absent
import UrlRouter.Proofs.Router.Regenerated
import UrlRouter.Proofs.Router.Revalidation
import UrlRouter.Proofs.Calendar.Formats
import UrlRouter.Proofs.Route.Line
import UrlRouter.Proofs.Router.Undeclared
import UrlRouter.Proofs.Dispatch.Expiry
import UrlRouter.Proofs.Handler.Legible
import UrlRouter.Proofs.Router.Targets
import UrlRouter.Proofs.Pattern.Bytes
