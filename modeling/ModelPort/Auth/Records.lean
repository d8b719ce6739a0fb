import ModelPort.Core.Error
import ModelPort.Lib.Except
import ModelPort.Lib.Table

/-!
# Users, sessions and login attempts

The records of the user store and the checks on their fields. Users are kept by id, sessions by
the hash of their token, and failed logins by the name that was given. Only users are persisted.

* `recordFailedLogin`, `pruneLoginAttempts`: the bounded table of failed logins.
-/

namespace ModelPort.Auth

open Relational Except

/-! ### Records -/

/-- An account of an identity provider. -/
structure FederatedIdentity where
  issuer : String
  subject : String
  deriving DecidableEq

/-- A user of the console. -/
structure AdminUserRecord where
  id : String
  username : String
  email : String
  role : String
  status : String
  passwordHash : String
  createdAtMs : ℕ
  updatedAtMs : ℕ
  lastLoginAtMs : Option ℕ
  federatedIdentities : List FederatedIdentity
  deriving DecidableEq

/-- A session, by the hash of its token. -/
structure AdminSession where
  tokenHash : String
  userId : String
  expiresAtMs : ℕ
  deriving DecidableEq

/-- The failed logins under a name. -/
structure LoginAttempt where
  username : String
  failedCount : ℕ
  lockedUntilMs : ℕ
  lastAttemptMs : ℕ
  deriving DecidableEq

/-- An administrator who may sign in. -/
def AdminUserRecord.isActiveAdmin (u : AdminUserRecord) : Bool :=
  u.role = "admin" && u.status = "active"

/-- `str::eq_ignore_ascii_case`. -/
def eqIgnoreAsciiCase (a b : String) : Bool := asciiLower a = asciiLower b

abbrev Users := Table fun u : AdminUserRecord => [u.id]

abbrev Sessions := Table fun s : AdminSession => [s.tokenHash]

abbrev Attempts := Table fun a : LoginAttempt => [a.username]

/-- The state in memory. -/
structure AuthInner where
  users : Users
  sessions : Sessions
  attempts : Attempts

/-- The persisted document. -/
structure AuthFile where
  users : List AdminUserRecord
  deriving DecidableEq

/-- The document of a state. -/
def AuthInner.toFile (inner : AuthInner) : AuthFile := ⟨inner.users.rows⟩

/-! ### Checks of fields -/

def normalizeUsername (value : String) : Except AppError String := do
  let username := trim value
  ensure (3 ≤ byteLen username && byteLen username ≤ 64)
    (.invalidRequest "username must be 3-64 characters")
  ensure
    (username.toList.all fun c => c.isAlphanum || c = '_' || c = '-' || c = '.')
    (.invalidRequest
      "username may only contain letters, numbers, dots, underscores, and hyphens")
  return username

def validateEmail (value : String) : Except AppError String := do
  let email := trim value
  ensure (byteLen email ≤ 254 && contains email "@") (.invalidRequest "invalid email address")
  return email

def validateFederatedIdentifier (field value : String) (maxBytes : ℕ) : Except AppError String := do
  let value := trim value
  ensure (!value.isEmpty && byteLen value ≤ maxBytes && !hasControl value)
    (.invalidRequest ("invalid federated " ++ field))
  return value

def validateRole (value : String) : Except AppError String := do
  ensure (value = "admin" || value = "user" || value = "viewer")
    (.invalidRequest "invalid user role")
  return value

def validateStatus (value : String) : Except AppError String := do
  ensure (value = "active" || value = "disabled" || value = "suspended")
    (.invalidRequest "invalid user status")
  return value

def maxPasswordBytes : ℕ := 1024

/-- The first words of passwords that are too common. -/
def commonPasswordStarts : List String :=
  ["admin", "password", "modelport", "letmein", "qwerty", "example-password"]

/-- A password that stands in documentation or examples, in lower case. -/
def isPlaceholderPassword (normalized : String) : Bool :=
  ["administrator", "password123", "password1234", "modelport123", "modelport-admin",
      "letmein12345", "change-me-now"].contains normalized
    || startsWith normalized "replace-with-" || startsWith normalized "your-password"
    || contains normalized "placeholder" || contains normalized "change-me"
    || contains normalized "changeme"

def validatePasswordStrength (password : String) : Except AppError Unit := do
  ensure (byteLen password ≤ maxPasswordBytes)
    (.invalidRequest ("password must be at most " ++ toString maxPasswordBytes ++ " bytes"))
  ensure (12 ≤ password.length) (.invalidRequest "password must be at least 12 characters")
  let normalized := asciiLower (trim password)
  ensure
    (!normalized.isEmpty
      && !commonPasswordStarts.any (startsWith normalized)
      && !isPlaceholderPassword normalized
      && !normalized.toList.all Char.isDigit
      && 6 ≤ password.toList.dedup.length)
    (.invalidRequest "password is a common placeholder or is too weak")

/-! ### Login attempts -/

def maxFailedAttempts : ℕ := 5

/-- `LOCKOUT_SECONDS`, in milliseconds. -/
def lockoutMs : ℕ := 15 * 60 * 1000

def loginAttemptRetentionMs : ℕ := 24 * 60 * 60 * 1000

def maxLoginAttemptRecords : ℕ := 10000

def recordFailedAttempt (now : ℕ) (attempt : LoginAttempt) : LoginAttempt :=
  let failedCount := attempt.failedCount + 1
  if maxFailedAttempts ≤ failedCount then
    { attempt with
      lastAttemptMs := now
      failedCount := 0
      lockedUntilMs := saturatingAdd now lockoutMs }
  else { attempt with lastAttemptMs := now, failedCount := failedCount }

lemma username_recordFailedAttempt (now : ℕ) (attempt : LoginAttempt) :
    (recordFailedAttempt now attempt).username = attempt.username := by
  unfold recordFailedAttempt
  dsimp only
  split <;> rfl

/-- A name that has not failed yet. -/
def LoginAttempt.none (username : String) : LoginAttempt := ⟨username, 0, 0, 0⟩

/-- The record whose last attempt is the longest ago. -/
def oldestAttempt : List LoginAttempt → Option LoginAttempt
  | [] => Option.none
  | a :: l =>
    match oldestAttempt l with
    | Option.none => some a
    | some b => if a.lastAttemptMs ≤ b.lastAttemptMs then some a else some b

variable (attempts : Attempts)

/-- The table with room for a name: the oldest record goes when the table is full. -/
def makeRoom (username : String) : Attempts :=
  if (attempts.find username).isNone && maxLoginAttemptRecords ≤ attempts.rows.length then
    match oldestAttempt attempts.rows with
    | some oldest => attempts.retain fun a => a.username ≠ oldest.username
    | Option.none => attempts
  else attempts

def recordFailedLogin (username : String) (now : ℕ) : Attempts :=
  let attempts := makeRoom attempts username
  attempts.put (recordFailedAttempt now ((attempts.find username).getD (.none username)))

def pruneLoginAttempts (now : ℕ) : Attempts :=
  attempts.retain fun a =>
    now < a.lockedUntilMs || now < saturatingAdd a.lastAttemptMs loginAttemptRetentionMs

/-- The name is locked. -/
def isLocked (username : String) (now : ℕ) : Bool :=
  (attempts.find username).any fun a => now < a.lockedUntilMs

/-! ### Sessions -/

/-- `prune_expired_sessions_locked`. -/
def pruneExpiredSessions (inner : AuthInner) (now : ℕ) : AuthInner :=
  { inner with sessions := inner.sessions.retain fun s => now < s.expiresAtMs }

/-! ### Users -/

/-- The users with one record rewritten. -/
def modifyUser (users : Users) (id : String) (f : AdminUserRecord → AdminUserRecord)
    (hf : ∀ u, (f u).id = u.id) : Users :=
  users.update (fun u => u.id = id) f fun u => by simp [hf]

/-- What other components see of a user. -/
structure PublicUser where
  id : String
  username : String
  email : String
  role : String
  status : String
  deriving DecidableEq

def publicUser (u : AdminUserRecord) : PublicUser where
  id := u.id
  username := u.username
  email := u.email
  role := u.role
  status := u.status

end ModelPort.Auth
