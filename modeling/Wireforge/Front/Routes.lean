import Wireforge.Api.Handlers
import Wireforge.Site.Moments
import Wireforge.Web.Interfaces
import Wireforge.Web.Peers
import Wireforge.Web.Profile
import Wireforge.Web.Settings
import Wireforge.Web.Views

/-!
# The routes

All requests that the web pages and the REST API answer, with the caller each of them asks for. A
run is a sequence of requests, one after the other.
-/

namespace Wireforge

open Effect

/-- The routes of the web pages that need no login. -/
inductive PublicRoute where
  | healthz
  | readyz
  | metrics
  | loginPage
  | login (form : LoginForm)
  | totp (form : TotpForm)
  | logout
  | setupPage
  | setup (form : SetupForm)

/-- The routes of the web pages for logged-in users. Event streams end after a number of ticks. -/
inductive WebRoute where
  | dashboard
  | trafficStream (ticks : Nat)
  | interfaces
  | newInterface
  | createInterface (form : InterfaceForm)
  | interfacePage (path : String)
  | editInterface (path : String) (form : InterfaceForm)
  | startInterface (path : String)
  | stopInterface (path : String)
  | deleteInterface (path : String)
  | system
  | systemStream (ticks : Nat)
  | peers
  | newPeer
  | createPeer (form : PeerForm)
  | peerPage (path : String)
  | editPeer (path : String) (form : PeerEditForm)
  | togglePeer (path : String)
  | deletePeer (path : String)
  | downloadPeer (path : String)
  | peerQr (path : String)
  | profile
  | totpSetup
  | totpConfirm (form : TotpForm)
  | totpDisable
  | audit
  | settings
  | saveSettings (form : SettingsForm)
  | events (ticks : Nat)

/-- The routes of the REST API that need a caller. -/
inductive ApiRoute where
  | interfaces
  | interface (path : String)
  | createInterface (req : CreateInterfaceRequest)
  | updateInterface (path : String) (req : UpdateInterfaceRequest)
  | deleteInterface (path : String)
  | startInterface (path : String)
  | stopInterface (path : String)
  | peers
  | peer (path : String)
  | createPeer (req : CreatePeerRequest)
  | updatePeer (path : String) (req : UpdatePeerRequest)
  | setPeerEnabled (path : String) (enabled : Bool)
  | deletePeer (path : String)
  | peerConfig (path : String)
  | peerQr (path : String)
  | tokens
  | createToken (req : CreateTokenRequest)
  | revokeToken (path : String)

/-- A request: the route, and the session or the credentials of the caller. -/
inductive Request where
  | visit (session : SessionId) (clientIp : String) (route : PublicRoute)
  | web (session : SessionId) (route : WebRoute)
  | health
  | api (credentials : Credentials) (route : ApiRoute)

/-- The answer to a request. -/
inductive Answer where
  | web (result : Except (Stop WebError) Response)
  | api (result : Except (Stop ApiError) ApiResponse)

section Handlers

variable (crates : WebCrates) (config : WebConfig)

/-- The handler of a route that needs no login. -/
def PublicRoute.handler (session : SessionId) (clientIp : String) : PublicRoute → Web Response
  | healthz => Routes.Health.healthz
  | readyz => Routes.Health.readyz
  | metrics => Routes.Metrics.handler
  | loginPage => Routes.Auth.loginPage
  | login form => Routes.Auth.loginSubmit crates session clientIp form
  | totp form => Routes.Auth.totpSubmit crates session clientIp form
  | logout => Routes.Auth.logout session
  | setupPage => Routes.Auth.setupPage
  | setup form => Routes.Auth.setupSubmit crates session clientIp form

/-- The handler of a route for a logged-in user. -/
def WebRoute.handler (session : SessionId) (user : AuthUser) : WebRoute → Web Response
  | dashboard => Routes.Dashboard.index crates session user
  | trafficStream ticks => Routes.Dashboard.trafficStream crates ticks
  | interfaces => Routes.Interfaces.list session user
  | newInterface => Routes.Interfaces.newPage crates session user
  | createInterface form => Routes.Interfaces.create crates session user form
  | interfacePage path => Routes.Interfaces.editPage crates session user path
  | editInterface path form => Routes.Interfaces.edit crates session user path form
  | startInterface path => Routes.Interfaces.start crates session user path
  | stopInterface path => Routes.Interfaces.stop crates session user path
  | deleteInterface path => Routes.Interfaces.delete crates session user path
  | system => Routes.System.index session user
  | systemStream ticks => Routes.System.stream ticks
  | peers => Routes.Peers.list session user
  | newPeer => Routes.Peers.newPage session user
  | createPeer form => Routes.Peers.create crates user form
  | peerPage path => Routes.Peers.editPage crates session user path
  | editPeer path form => Routes.Peers.edit crates session user path form
  | togglePeer path => Routes.Peers.toggle crates user path
  | deletePeer path => Routes.Peers.delete crates session user path
  | downloadPeer path => Routes.Peers.download crates path
  | peerQr path => Routes.Peers.qr crates path
  | profile => Routes.Profile.index session user
  | totpSetup => Routes.Profile.totpSetupPage crates session user
  | totpConfirm form => Routes.Profile.totpConfirm crates session user form
  | totpDisable => Routes.Profile.totpDisable session user
  | audit => Routes.Audit.list crates session user
  | settings => Routes.Settings.index config session user
  | saveSettings form => Routes.Settings.save config session user form
  | events ticks => Routes.Ws.events crates ticks

/-- The handler of a route of the REST API. -/
def ApiRoute.handler (user : AuthUser) : ApiRoute → Api ApiResponse
  | interfaces => Api.Interfaces.list crates
  | interface path => Api.Interfaces.getOne crates path
  | createInterface req => Api.Interfaces.create crates user req
  | updateInterface path req => Api.Interfaces.update crates user path req
  | deleteInterface path => Api.Interfaces.delete crates user path
  | startInterface path => Api.Interfaces.start crates user path
  | stopInterface path => Api.Interfaces.stop crates user path
  | peers => Api.Peers.list crates
  | peer path => Api.Peers.getOne crates path
  | createPeer req => Api.Peers.create crates user req
  | updatePeer path req => Api.Peers.update crates user path req
  | setPeerEnabled path enabled => Api.Peers.setEnabled crates user path enabled
  | deletePeer path => Api.Peers.delete crates user path
  | peerConfig path => Api.Peers.config crates path
  | peerQr path => Api.Peers.qr crates path
  | tokens => Api.Tokens.list crates user
  | createToken req => Api.Tokens.create crates user req
  | revokeToken path => Api.Tokens.revoke crates user path

/-- A web request: the caller is found first. -/
def webProgram (session : SessionId) (route : WebRoute) : Web Response := do
  let user ← AuthUser.fromRequestParts session
  route.handler crates config session user

/-- A REST request: the caller is found first. -/
def apiProgram (credentials : Credentials) (route : ApiRoute) : Api ApiResponse := do
  let user ← ApiAuthUser.fromRequestParts crates credentials
  route.handler crates user

/-- The calls of a request. -/
def Request.program : Request → Program SiteCall SiteCall.Reply Answer
  | visit session clientIp route => .web <$> (route.handler crates session clientIp).run
  | web session route => .web <$> (webProgram crates config session route).run
  | health => .api <$> Api.healthz.run
  | api credentials route => .api <$> (apiProgram crates credentials route).run

end Handlers

/-! ## Runs -/

/-- The server, its libraries and its configuration. -/
structure Server where
  crates : WebCrates
  config : WebConfig

/-- The server with libraries whose hashes are the texts themselves. -/
def Server.transparent : Server :=
  ⟨.transparent, ⟨"wireforge.db", "127.0.0.1:8080", true⟩⟩

/-- The server whose library reads every text as the same network. -/
def Server.reading (net : IpNet) : Server :=
  { Server.transparent with crates := { WebCrates.transparent with parseIpNet := fun _ => net } }

/-- A request, the calls that fail while it is served, and what the host shows and the sources of
randomness yield. -/
structure Served where
  request : Request
  moment : Moment

/-- The answer to a request and the site it leaves. -/
def Served.outcome (server : Server) (a : Served) (s : Site) : Answer × Site :=
  (a.request.program server.crates server.config).exec (serve a.moment.outage) (s.seen a.moment)

/-- One request. -/
def serveStep (server : Server) (s : Site) (a : Served) : Site :=
  (a.outcome server s).2

end Wireforge
