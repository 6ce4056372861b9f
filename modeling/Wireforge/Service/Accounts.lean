import Wireforge.Infra.Accounts

/-!
# The authentication and settings services

Passwords are checked against the stored hash; the second factor is left to the caller. Settings
are written one by one and then taken over into the live settings in one go.
-/

namespace Wireforge

open Effect

namespace AuthService

variable (crates : WebCrates)

/-- Hash a password under a fresh salt. -/
def hashPassword (password : String) : Repo String := do
  let salt ← always SiteCall.drawSalt.request
  match crates.hashPassword salt password with
  | .ok hash => pure hash
  | .error text => throw (.crypto s!"argon2 hash: {text}")

/-- Compare a password with a stored hash. -/
def verifyPassword (password stored : String) : Except CoreError Bool :=
  (crates.verifyPassword password stored).mapError fun text => .crypto s!"argon2 parse: {text}"

/-- Create the first user, unless there is one. -/
def registerInitialAdmin (username password : String) (email : Option String) : Repo User := do
  let users ← SqliteUserRepository.count
  if 0 < users then throw (.conflict "initial admin already exists")
  else do
    let hash ← hashPassword crates password
    SqliteUserRepository.create ⟨username, email, hash, .admin⟩

/-- The user with a name and a password. -/
def authenticatePassword (username password : String) : Repo User := do
  match ← SqliteUserRepository.findByUsername username with
  | none => throw .invalidCredentials
  | some user =>
      match verifyPassword crates password user.passwordHash with
      | .error e => throw e
      | .ok false => throw .invalidCredentials
      | .ok true => pure user

end AuthService

namespace SettingsService

/-- The settings of a server that starts with a baseline. -/
def load (baseline : RuntimeSettings) : Repo RuntimeSettings := do
  let overrides ← SqliteSettingsRepository.all
  return baseline.applyOverrides overrides

/-- Write a value and take it over into the live settings. -/
def set (key : String) (value : Json.Value) (actor : Option (Id UserMarker)) : Repo Unit := do
  SqliteSettingsRepository.upsert key value.display actor
  always (SiteCall.applyOverrides [(key, value.display)]).request

/-- Set the value of a key in a map. -/
def insertEntry (entries : List (String × String)) (entry : String × String) :
    List (String × String) :=
  entries.filter (·.1 ≠ entry.1) ++ [entry]

/-- Write every value, and take them over into the live settings once all of them are written. -/
def setMany (values : List (String × Json.Value)) (actor : Option (Id UserMarker)) :
    Repo Unit := do
  forEach (fun entry : String × Json.Value =>
    SqliteSettingsRepository.upsert entry.1 entry.2.display actor) values
  let overrides := (values.map fun entry => (entry.1, entry.2.display)).foldl insertEntry []
  always (SiteCall.applyOverrides overrides).request

end SettingsService

end Wireforge
