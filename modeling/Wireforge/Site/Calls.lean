import Wireforge.Access.Totp
import Wireforge.Domain.Accounts
import Wireforge.Domain.Parse
import Wireforge.Domain.Settings
import Wireforge.Host.Calls
import Wireforge.Infra.Bans
import Wireforge.Lib.Issues

/-!
# Calls of the web server

`SiteCall` lists everything the handlers of the web pages and of the REST API ask of the outside
world. Next to the calls of the services these are the statements on the tables of accounts,
settings, bans and audit events, the session store, the lock around the live settings, and sources
of randomness. Handlers are programs over these calls; the services' programs are embedded.
-/

namespace Wireforge

open Effect

/-- The logged-in user of a session. -/
structure AuthUser where
  id : Id UserMarker
  username : String
  role : Role
  deriving DecidableEq

/-- The user of a session whose password has been checked and whose code has not. -/
structure PendingUser where
  userId : String
  username : String
  deriving DecidableEq

/-- The kinds of flash messages. -/
inductive FlashKind where
  | success
  | error
  | info
  deriving DecidableEq, Repr

/-- A message for the next page. -/
structure Flash where
  kind : FlashKind
  message : String
  deriving DecidableEq

/-- The keys of a session. -/
inductive SessionKey where
  | authUser
  | pendingUser
  | totpSetup
  | flash
  deriving DecidableEq

/-- What a session holds under a key. -/
@[reducible] def SessionKey.Value : SessionKey → Type
  | authUser => AuthUser
  | pendingUser => PendingUser
  | totpSetup => String
  | flash => Flash

/-- The cookie of a session. -/
structure SessionId where
  value : Nat
  deriving DecidableEq

/-- One point of the traffic chart: the minute and the two sums. -/
structure SeriesPoint where
  bucket : DateTime
  tx : UInt64
  rx : UInt64

/-- The last counters of a peer. -/
structure PeerTrafficRow where
  peerId : Id PeerMarker
  tx : UInt64
  rx : UInt64
  lastHandshake : Option DateTime

/-- The 32 bytes that are drawn for a token. -/
abbrev TokenSeed := { bytes : List UInt8 // bytes.length = 32 }

/-- The calls. A statement carries the values bound to it. `rereadInterface` is the lookup of an
interface that a request has read before, and may end otherwise than that one. -/
inductive SiteCall where
  | host (call : Sys)
  | rereadInterface (id : Id InterfaceMarker)
  | countUsers
  | findUser (id : Id UserMarker)
  | findUserByName (username : String)
  | insertUser (row : User)
  | updateTotp (id : Id UserMarker) (enabled : Bool) (secret : Option ByteArray) (now : DateTime)
  | touchLastLogin (id : Id UserMarker) (now : DateTime)
  | insertToken (row : ApiToken)
  | findActiveToken (hash : String)
  | listTokens (user : Id UserMarker)
  | revokeToken (id : Id ApiTokenMarker) (owner : Id UserMarker) (now : DateTime)
  | findBan (ip : String)
  | recordFailure (ip : String) (maxAttempts : UInt32) (lockout : Duration)
  | clearBan (ip : String)
  | upsertSetting (key value : String) (actor : Option (Id UserMarker)) (now : DateTime)
  | allSettings
  | readSettings
  | applyOverrides (overrides : List (String × String))
  | reloadLog (level : String)
  | insertAudit (event : AuditEvent)
  | listAudit (limit : Nat)
  | latestPerPeer
  | seriesTotals (since : DateTime)
  | getSession (id : SessionId) (key : SessionKey)
  | insertSession (id : SessionId) (key : SessionKey) (value : key.Value)
  | removeSession (id : SessionId) (key : SessionKey)
  | drawToken
  | drawTotpSecret
  | drawSalt

/-- What a call returns. A call whose reply is an `Except` can fail with the text of the error;
recording a failed login may also end the process. -/
@[reducible] def SiteCall.Reply : SiteCall → Type
  | .host call => call.Reply
  | .rereadInterface _ => Except String (Option Interface)
  | .countUsers => Except String Nat
  | .findUser _ | .findUserByName _ => Except String (Option User)
  | .insertUser _ | .updateTotp _ _ _ _ | .touchLastLogin _ _ => Except String Unit
  | .insertToken _ => Except String Unit
  | .findActiveToken _ => Except String (Option ApiToken)
  | .listTokens _ => Except String (List ApiToken)
  | .revokeToken _ _ _ => Except String Nat
  | .findBan _ => Except String (Option IpBan)
  | .recordFailure _ _ _ => Except Panic (Except String IpBan)
  | .clearBan _ => Except String Unit
  | .upsertSetting _ _ _ _ => Except String Unit
  | .allSettings => Except String (List (String × String))
  | .readSettings => RuntimeSettings
  | .applyOverrides _ => Unit
  | .reloadLog _ => Except String Unit
  | .insertAudit _ => Except String Unit
  | .listAudit _ => Except String (List AuditEvent)
  | .latestPerPeer => Except String (List PeerTrafficRow)
  | .seriesTotals _ => Except String (List SeriesPoint)
  | .getSession _ key => Except String (Option key.Value)
  | .insertSession _ _ _ | .removeSession _ _ => Except String Unit
  | .drawToken => TokenSeed
  | .drawTotpSecret => Seed
  | .drawSalt => String

/-- The program that issues one call. -/
abbrev SiteCall.request (call : SiteCall) : Program SiteCall SiteCall.Reply call.Reply :=
  Program.request call

/-- The libraries of the web server: one-time passwords, password and token hashes, parsers of
identifiers and networks, and the texts of times, provisioning URIs, QR codes and failed checks of a
request. -/
structure WebCrates extends Crates where
  totp : TotpRs
  totpUrl : ProvisioningUri → String
  hashPassword : (salt password : String) → Except String String
  verifyPassword : (password stored : String) → Except String Bool
  sha256 : String → String
  parseUuid : String → Option Uuid
  parseIpNet : String → Option IpNet
  rfc3339 : DateTime → String
  minuteLabel : DateTime → String
  qrSvg : Nat → String → Except String String
  validationText : List String → String

/-- Libraries whose hashes are the texts themselves and that read a single identifier. -/
def WebCrates.transparent : WebCrates where
  toCrates := .transparent
  totp := .zeros
  totpUrl uri := uri.secret
  hashPassword _ password := .ok password
  verifyPassword password stored := .ok (password = stored)
  sha256 text := text
  parseUuid text := if text = (Id.mk 0 : Id UserMarker).display then some 0 else none
  parseIpNet _ := none
  rfc3339 _ := ""
  minuteLabel _ := ""
  qrSvg _ text := .ok text
  validationText _ := ""

/-- A text that is read as an identifier is the text of no other. -/
theorem WebCrates.parse_uuid_transparent (id : Id UserMarker) (value : Uuid)
    (h : transparent.parseUuid id.display = some value) : value = id.value := by
  simp only [transparent] at h
  split at h
  next htext =>
    obtain rfl := Id.display_injective htext
    exact (Option.some.inj h).symm
  next => cases h

/-- Why a handler does not return: an error that becomes a response, or the end of the process. -/
inductive Stop (ε : Type) where
  | error (e : ε)
  | panic (panic : Panic)
  deriving DecidableEq

/-- The calls of the services among those of the web server. -/
def siteEmbedding : Embedding Sys Sys.Reply SiteCall SiteCall.Reply where
  call := .host
  reply _ reply := reply

/-- A repository method of the web server, which may fail with a `CoreError`. -/
abbrev Repo : Type → Type := Fallible SiteCall SiteCall.Reply CoreError

end Wireforge
