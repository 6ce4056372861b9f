import Wireforge.Site.State

/-!
# Pages

The data of every page, as the templates receive it, and the responses of the web handlers. An
error becomes an error page, apart from a missing login, which leads to the login page.
-/

namespace Wireforge

/-- The text of an error. -/
def CoreError.display : CoreError → String
  | notFound text => s!"not found: {text}"
  | conflict text => s!"already exists: {text}"
  | validation text => s!"invalid input: {text}"
  | forbidden text => s!"permission denied: {text}"
  | unauthorized => "unauthorized"
  | invalidCredentials => "invalid credentials"
  | twoFactorRequired => "two-factor required"
  | twoFactorInvalid => "two-factor invalid"
  | crypto text => s!"crypto error: {text}"
  | ipPoolExhausted text => s!"ip pool exhausted for {text}"
  | wireGuard text => s!"wireguard error: {text}"
  | persistence text => s!"persistence error: {text}"
  | internal text => s!"internal: {text}"

/-- The failures of a web handler. -/
inductive WebError where
  | validation (text : String)
  | notFound
  | forbidden
  | unauthorized
  | internal (text : String)
  | core (e : CoreError)
  deriving DecidableEq

namespace WebError

/-- The text of an error. -/
def display : WebError → String
  | validation text => s!"validation: {text}"
  | notFound => "not found"
  | forbidden => "forbidden"
  | unauthorized => "unauthorized"
  | internal text => s!"internal: {text}"
  | core e => e.display

/-- The status of an error. -/
def status : WebError → Nat
  | validation _ => 400
  | notFound => 404
  | forbidden => 403
  | unauthorized => 401
  | internal _ => 500
  | core e =>
      match e with
      | .notFound _ => 404
      | .conflict _ | .validation _ => 400
      | .forbidden _ => 403
      | .unauthorized | .invalidCredentials | .twoFactorRequired | .twoFactorInvalid => 401
      | _ => 500

end WebError

/-! ## Forms -/

/-- The fields of the settings page as it shows them. -/
structure SettingsFormState where
  localeDefault : String
  totpIssuer : String
  loginMaxAttempts : String
  loginLockoutSecs : String
  sessionTimeoutHours : String
  endpoint : String
  trafficPollerIntervalSecs : String
  trafficEnabled : Bool
  backupRetentionDays : String
  logLevel : String

/-- The settings that only a restart can change. -/
structure SettingsReadonly where
  databasePath : String
  serverBind : String
  sessionSecure : Bool
  masterKeyMasked : String

/-- The fields of the interface pages as they show them. -/
structure InterfaceFormState where
  name : String
  listenPort : String
  ipv4Cidr : String
  ipv6Cidr : String
  mtu : String
  dns : String
  gateway : String
  onUp : String
  onDown : String
  publicKey : String
  privateKey : String

/-- The fields of the page for new peers as it shows them. -/
structure PeerFormState where
  name : String
  interfaceId : String
  allowedIps : String
  primaryDns : String
  secondaryDns : String
  nat : Bool
  persistentKeepalive : String
  publicKey : String
  privateKey : String

/-- The fields of the page of a peer as it shows them. -/
structure PeerEditFormState extends PeerFormState where
  enabled : Bool

/-- A host interface that can be chosen as gateway. -/
structure GatewayOption where
  name : String
  up : Bool

/-- An interface that can be chosen for a peer. -/
structure InterfaceOption where
  id : String
  name : String

/-! ## Rows -/

structure AuditRow where
  createdAt : String
  actor : String
  actorIp : String
  action : String
  resource : String
  metadata : String

structure InterfaceRow where
  id : String
  name : String
  publicKeyShort : String
  listenPort : UInt16
  status : String
  peerCount : Nat

structure PeerRow where
  id : String
  name : String
  interfaceName : String
  publicKeyShort : String
  allowedIps : String
  enabled : Bool
  hasPrivateKey : Bool

structure IfaceTraffic where
  name : String
  status : String
  tx : String
  rx : String

structure PeerTraffic where
  name : String
  iface : String
  tx : String
  rx : String

/-- What the dashboard shows of the traffic. -/
structure TrafficView where
  interfaces : List IfaceTraffic
  peers : List PeerTraffic
  totalTx : String
  totalRx : String
  hasData : Bool
  labels : List String
  tx : List UInt64
  rx : List UInt64
  peerLabels : List String
  peerTotals : List UInt64

/-! ## Pages -/

/-- The pages, each with what its template shows. Pages for logged-in users show the user and the
flash message. -/
inductive Page where
  | login (error : Option String) (username : String)
  | setup (error : Option String)
  | totpChallenge (error : Option String)
  | profile (user : AuthUser) (flash : Option Flash) (totpEnabled : Bool)
  | totpSetup (user : AuthUser) (flash : Option Flash) (error : Option String)
      (secretBase32 qrSvg : String)
  | audit (user : AuthUser) (flash : Option Flash) (events : List AuditRow)
  | settings (user : AuthUser) (flash : Option Flash) (error : Option String)
      (form : SettingsFormState) (readonly : SettingsReadonly)
  | dashboard (user : AuthUser) (flash : Option Flash)
      (interfaceCount peerCount upInterfaceCount hostIfaceCount hostIfaceUp : Nat)
      (traffic : TrafficView)
  | system (user : AuthUser) (flash : Option Flash) (interfaces : List SysInterface)
  | interfaces (user : AuthUser) (flash : Option Flash) (rows : List InterfaceRow)
  | newInterface (user : AuthUser) (flash : Option Flash) (error : Option String)
      (form : InterfaceFormState) (gateways : List GatewayOption)
  | editInterface (user : AuthUser) (flash : Option Flash) (error : Option String)
      (ifaceId ifaceName ifaceStatus : String) (form : InterfaceFormState)
      (gateways : List GatewayOption) (generatedRules : String)
  | peers (user : AuthUser) (flash : Option Flash) (rows : List PeerRow) (hasInterfaces : Bool)
  | newPeer (user : AuthUser) (flash : Option Flash) (error : Option String)
      (form : PeerFormState) (interfaces : List InterfaceOption)
  | editPeer (user : AuthUser) (flash : Option Flash) (error : Option String) (peerId : String)
      (form : PeerEditFormState) (interfaces : List InterfaceOption)
  | peerCreated (user : AuthUser) (flash : Option Flash) (peerId peerName config : String)
  | peerEnabled (peerId : String) (enabled : Bool)
  | error (status : Nat) (message : String)

/-- The responses of the web handlers. -/
inductive Response where
  | html (status : Nat) (page : Page)
  | redirect (path : String)
  | text (contentType : String) (disposition : Option String) (body : String)
  | svg (body : String)
  | health (status : Nat) (fields : Json.Object)
  | trafficEvents (events : List (Option TrafficView))
  | systemEvents (events : List (List SysInterface))
  | heartbeats (times : List String)
  | unreadable

/-- The response to an error. -/
def WebError.intoResponse (e : WebError) : Response :=
  if e = .unauthorized ∨ e = .core .unauthorized then .redirect "/login"
  else .html e.status (.error e.status e.display)

end Wireforge
