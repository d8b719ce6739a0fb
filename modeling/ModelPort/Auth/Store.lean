import ModelPort.Auth.Records

/-!
# Operations of the user store

Every operation holds the store's lock for one or two critical sections. A password is verified,
and the password of a provisioned user hashed, between two of them, without the lock: what the
first section found out is carried over in `PendingLogin` and `PendingProvision`. A section
answers, or it saves a changed state (`Outcome`); a save that fails leaves the state in memory that
the section had made before its change.

Times, random ids and tokens, hashes and the end of a write come from outside.
-/

namespace ModelPort.Auth

open Relational Except WriteThrough

/-! ### The store -/

/-- The store: its state, its document and their revisions. -/
abbrev AuthStore := Cell AuthInner AuthFile

/-- How a critical section ends: with an answer and the state it leaves, or by saving `next` over
`base`. -/
inductive Outcome (α : Type) where
  | answer (inner : AuthInner) (result : Except AppError α)
  | save (base next : AuthInner) (result : α)

def saveError := documentError "auth"

/-- Carry out a critical section: `save_or_restore_locked`. -/
def commit {α : Type} (write : Write) (store : AuthStore) :
    Outcome α → AuthStore × Except AppError α
  | .answer inner result => ({ store with memory := inner }, result)
  | .save base next result =>
    match ({ store with memory := base } : AuthStore).save AuthInner.toFile write next with
    | (store', none) => (store', .ok result)
    | (store', some e) => (store', .error (saveError store.revision e))

/-! ### Parameters -/

/-- Functions of libraries, and the lifetime of a session. -/
structure AuthEnv where
  /-- the SHA-256 digest of a text, in hexadecimal -/
  sha256Hex : String → String
  /-- `Argon2::verify_password`: a password against a hash -/
  verifyPassword : String → String → Bool
  sessionTtlSeconds : ℕ

section

variable (env : AuthEnv)

def hashSessionToken (token : String) : String := env.sha256Hex token

/-- The end of a session that begins now. -/
def sessionExpiry (now : ℕ) : ℕ :=
  saturatingAdd now (min (env.sessionTtlSeconds * 1000) u64Max)

/-- What a login answers. -/
structure LoginResult where
  sessionToken : String
  expiresAtMs : ℕ
  user : PublicUser
  deriving DecidableEq

/-- The user as of a login. -/
def AdminUserRecord.touchLogin (now : ℕ) (u : AdminUserRecord) : AdminUserRecord :=
  { u with lastLoginAtMs := some now, updatedAtMs := now }

variable (inner : AuthInner)

/-- The state in which a user has just signed in. -/
def openSession (user : AdminUserRecord) (token : String) (now : ℕ) : AuthInner :=
  { inner with
    users := modifyUser inner.users user.id (AdminUserRecord.touchLogin now) fun _ => rfl
    sessions := inner.sessions.put ⟨hashSessionToken env token, user.id, sessionExpiry env now⟩ }

/-- What the caller of a login gets. -/
def loginResult (user : AdminUserRecord) (token : String) (now : ℕ) : LoginResult where
  sessionToken := token
  expiresAtMs := sessionExpiry env now
  user := publicUser (user.touchLogin now)

/-! ### Logins with a password -/

/-- A login between its two critical sections. -/
structure PendingLogin where
  username : String
  password : String
  now : ℕ
  candidate : Option AdminUserRecord

/-- The user that a name resolves to. -/
def userByName (users : Users) (username : String) : Option AdminUserRecord :=
  users.rows.find? fun u => eqIgnoreAsciiCase u.username username

variable (username password : String)

/-- The checks of a login on its input. -/
def loginInput : Except AppError String := do
  let username ← normalizeUsername username
  ensure (!password.isEmpty && byteLen password ≤ maxPasswordBytes) .auth
  return username

/-- The first section of `login`, for a name that passed the checks: the state with expired
sessions and attempts removed, and the login that goes on unless the name is locked. -/
def loginBegin (now : ℕ) : AuthInner × Except AppError PendingLogin :=
  let inner := pruneExpiredSessions inner now
  let inner := { inner with attempts := pruneLoginAttempts inner.attempts now }
  if isLocked inner.attempts username now then (inner, .error .auth)
  else (inner, .ok ⟨username, password, now, userByName inner.users username⟩)

/-- The password is the candidate's, and the candidate may sign in. -/
def PendingLogin.verified (login : PendingLogin) (user : AdminUserRecord) : Bool :=
  env.verifyPassword login.password user.passwordHash && user.status = "active"

/-- The candidate is still the user it was, and may still sign in. -/
def PendingLogin.isCurrent (login : PendingLogin) (candidate : AdminUserRecord)
    (users : Users) : Bool :=
  (users.find candidate.id).any fun u =>
    u.status = "active" && eqIgnoreAsciiCase u.username login.username
      && u.passwordHash = candidate.passwordHash

/-- The state after a login that failed. -/
def failLogin (login : PendingLogin) : AuthInner :=
  { inner with attempts := recordFailedLogin inner.attempts login.username login.now }

/-- The second section of `login`. -/
def loginFinish (login : PendingLogin) (token : String) : Outcome LoginResult :=
  let inner := pruneExpiredSessions inner login.now
  match login.candidate with
  | none => .answer (failLogin inner login) (.error .auth)
  | some candidate =>
    if !login.verified env candidate || !login.isCurrent candidate inner.users then
      .answer (failLogin inner login) (.error .auth)
    else if isLocked inner.attempts login.username login.now then .answer inner (.error .auth)
    else
      let base := { inner with
        attempts := inner.attempts.retain fun a => a.username ≠ login.username }
      match base.users.find candidate.id with
      | none =>
        .answer base (.error (.config "admin user disappeared during login"))
      | some user =>
        .save base (openSession env base user token login.now)
          (loginResult env user token login.now)

/-- `login` without another operation between its sections. -/
def login (now : ℕ) (token : String) (write : Write)
    (store : AuthStore) : AuthStore × Except AppError LoginResult :=
  match loginInput username password with
  | .error e => (store, .error e)
  | .ok username =>
    match loginBegin store.memory username password now with
    | (inner, .error e) => ({ store with memory := inner }, .error e)
    | (inner, .ok pending) =>
      commit write { store with memory := inner } (loginFinish env inner pending token)

/-! ### Logins with an identity of a provider -/

/-- What the identity provider vouches for. -/
structure FederatedLoginInput where
  issuer : String
  subject : String
  username : Option String
  email : Option String
  emailVerified : Bool
  autoProvision : Bool
  deriving DecidableEq

/-- A login between its two critical sections: a user is to be provisioned. -/
structure PendingProvision where
  identity : FederatedIdentity
  username : String
  email : String
  now : ℕ

/-- The user has this identity. -/
def AdminUserRecord.isBound (identity : FederatedIdentity) (u : AdminUserRecord) : Bool :=
  u.federatedIdentities.contains identity

/-- `bound_user_id`. -/
def boundUser (users : Users) (identity : FederatedIdentity) :
    Except AppError (Option AdminUserRecord) :=
  match users.rows.filter (AdminUserRecord.isBound identity) with
  | [] => .ok none
  | [u] => .ok (some u)
  | _ => .error (.config "duplicate federated identity binding in auth store")

/-- `finish_federated_login_locked`: `user` is what the state `inner` has of the user, and
`previous` the state before. -/
def finishFederatedLogin (previous inner : AuthInner) (user : AdminUserRecord) (token : String)
    (now : ℕ) : Outcome LoginResult :=
  if user.status ≠ "active" then .answer inner (.error .auth)
  else .save previous (openSession env inner user token now) (loginResult env user token now)

/-- Any failure is an authentication failure. -/
def orAuth {α : Type} (x : Except AppError α) : Except AppError α := x.mapError fun _ => .auth

/-- Someone has the name or the address. -/
def nameOrEmailTaken (users : Users) (username email : String) : Bool :=
  users.rows.any fun u => eqIgnoreAsciiCase u.username username || eqIgnoreAsciiCase u.email email

variable (input : FederatedLoginInput)

/-- The verified address of a login. -/
def verifiedEmail : Except AppError String := do
  ensure input.emailVerified .auth
  let email ← (input.email.elim (.error .auth) .ok : Except AppError String)
  orAuth (validateEmail email)

/-- A user may be bound to an identity at a first login. -/
def mayBind (u : AdminUserRecord) : Bool :=
  u.role ≠ "admin" && u.status = "active" && u.federatedIdentities.isEmpty

/-- The user with one more identity. -/
def AdminUserRecord.bind (identity : FederatedIdentity) (u : AdminUserRecord) : AdminUserRecord :=
  { u with federatedIdentities := u.federatedIdentities ++ [identity] }

/-- The state with one more identity for a user. -/
def bindIdentity (user : AdminUserRecord) (identity : FederatedIdentity) : AuthInner :=
  { inner with
    users := modifyUser inner.users user.id (AdminUserRecord.bind identity) fun _ => rfl }

/-- The name of a user to be provisioned. -/
def provisionName (users : Users) (input : FederatedLoginInput) (email : String) :
    Except AppError String := do
  ensure input.autoProvision .auth
  let username ← (input.username.elim (.error .auth) .ok : Except AppError String)
  let username ← orAuth (normalizeUsername username)
  ensure (!nameOrEmailTaken users username email) .auth
  return username

/-- How the first section of `login_federated` ends. -/
inductive FederatedOutcome where
  | finished (outcome : Outcome LoginResult)
  | provision (inner : AuthInner) (pending : PendingProvision)

/-- What follows when nobody is bound to the identity: the user with the address is bound to it,
or a new user is provisioned. -/
def bindOrProvision (identity : FederatedIdentity) (now : ℕ) (token : String) : FederatedOutcome :=
  match verifiedEmail input with
  | .error e => .finished (.answer inner (.error e))
  | .ok email =>
    match inner.users.rows.filter fun u => eqIgnoreAsciiCase u.email email with
    | [] =>
      match provisionName inner.users input email with
      | .error e => .finished (.answer inner (.error e))
      | .ok username => .provision inner ⟨identity, username, email, now⟩
    | [user] =>
      if mayBind user then
        .finished (finishFederatedLogin env inner (bindIdentity inner user identity)
          (user.bind identity) token now)
      else .finished (.answer inner (.error .auth))
    | _ => .finished (.answer inner (.error .auth))

/-- The checks of a federated login on its identity. -/
def federatedIdentity : Except AppError FederatedIdentity := do
  let issuer ← validateFederatedIdentifier "issuer" input.issuer 2048
  let subject ← validateFederatedIdentifier "subject" input.subject 512
  return ⟨issuer, subject⟩

/-- The first section of `login_federated`, for an identity that passed the checks. -/
def federatedBegin (identity : FederatedIdentity) (now : ℕ) (token : String) : FederatedOutcome :=
  let inner := pruneExpiredSessions inner now
  match boundUser inner.users identity with
  | .error e => .finished (.answer inner (.error e))
  | .ok (some user) => .finished (finishFederatedLogin env inner inner user token now)
  | .ok none => bindOrProvision env inner input identity now token

/-- A user made for an identity. -/
def provisionedUser (pending : PendingProvision) (uuid passwordHash : String) :
    AdminUserRecord where
  id := "usr_" ++ uuid
  username := pending.username
  email := pending.email
  role := "user"
  status := "active"
  passwordHash := passwordHash
  createdAtMs := pending.now
  updatedAtMs := pending.now
  lastLoginAtMs := none
  federatedIdentities := [pending.identity]

/-- The second section of `login_federated`, with the hash of a random password. -/
def federatedFinish (pending : PendingProvision) (uuid passwordHash : String)
    (token : String) : Outcome LoginResult :=
  let inner := pruneExpiredSessions inner pending.now
  match boundUser inner.users pending.identity with
  | .error e => .answer inner (.error e)
  | .ok (some user) => finishFederatedLogin env inner inner user token pending.now
  | .ok none =>
    if nameOrEmailTaken inner.users pending.username pending.email then
      .answer inner (.error .auth)
    else
      let user := provisionedUser pending uuid passwordHash
      finishFederatedLogin env inner { inner with users := inner.users.put user } user token
        pending.now

/-! ### Sessions -/

/-- `require_session`, for the token of the request. -/
def requireSession (token : String) (now : ℕ) : AuthInner × Except AppError PublicUser :=
  let inner := pruneExpiredSessions inner now
  match inner.sessions.find (hashSessionToken env token) with
  | none => (inner, .error .auth)
  | some session =>
    if session.expiresAtMs ≤ now then
      ({ inner with
          sessions := inner.sessions.retain fun s => s.tokenHash ≠ session.tokenHash },
        .error .auth)
    else
      match inner.users.find session.userId with
      | none => (inner, .error .auth)
      | some user =>
        if user.status ≠ "active" then (inner, .error .auth) else (inner, .ok (publicUser user))

def logout (token : String) : AuthInner :=
  { inner with
    sessions := inner.sessions.retain fun s => s.tokenHash ≠ hashSessionToken env token }

end

/-! ### Administration -/

/-- A user to create. -/
structure CreateUserInput where
  username : String
  email : String
  password : String
  role : Option String
  status : Option String
  deriving DecidableEq

/-- The checked fields of a new user; `hash` is what hashing the password gives. -/
def newUser (input : CreateUserInput) (uuid : String) (hash : Except AppError String) (now : ℕ) :
    Except AppError AdminUserRecord := do
  let username ← normalizeUsername input.username
  let email ← validateEmail input.email
  let role ← validateRole (input.role.getD "user")
  let status ← validateStatus (input.status.getD "active")
  validatePasswordStrength input.password
  let passwordHash ← hash
  return {
    id := "usr_" ++ uuid
    username := username
    email := email
    role := role
    status := status
    passwordHash := passwordHash
    createdAtMs := now
    updatedAtMs := now
    lastLoginAtMs := none
    federatedIdentities := [] }

def createUser (inner : AuthInner) (input : CreateUserInput) (uuid : String)
    (hash : Except AppError String) (now : ℕ) : Outcome PublicUser :=
  match newUser input uuid hash now with
  | .error e => .answer inner (.error e)
  | .ok user =>
    if (userByName inner.users user.username).isSome then
      .answer inner (.error (.invalidRequest "username already exists"))
    else .save inner { inner with users := inner.users.put user } (publicUser user)

/-- The fields of a user to change. -/
structure UpdateUserInput where
  email : Option String
  password : Option String
  role : Option String
  status : Option String
  deriving DecidableEq

/-- The checked fields of an update. -/
structure UserUpdate where
  email : Option String
  passwordHash : Option String
  role : Option String
  status : Option String
  deriving DecidableEq

/-- An optional field, checked if it is given. -/
def checkedField (check : String → Except AppError String) :
    Option String → Except AppError (Option String)
  | none => .ok none
  | some value => (check value).map some

/-- The hash of the new password, unless none or an empty one is given. -/
def updatedPassword (hash : Except AppError String) :
    Option String → Except AppError (Option String)
  | none => .ok none
  | some password =>
    if password.isEmpty then .ok none
    else do
      validatePasswordStrength password
      let passwordHash ← hash
      return some passwordHash

/-- The checks of `update_user` before it takes the lock. -/
def checkUpdate (input : UpdateUserInput) (hash : Except AppError String) :
    Except AppError UserUpdate := do
  let email ← checkedField validateEmail input.email
  let role ← checkedField validateRole input.role
  let status ← checkedField validateStatus input.status
  let passwordHash ← updatedPassword hash input.password
  return ⟨email, passwordHash, role, status⟩

/-- The updated record. -/
def UserUpdate.apply (update : UserUpdate) (now : ℕ) (u : AdminUserRecord) : AdminUserRecord :=
  { u with
    email := update.email.getD u.email
    role := update.role.getD u.role
    status := update.status.getD u.status
    passwordHash := update.passwordHash.getD u.passwordHash
    updatedAtMs := now }

/-- Sessions end when the password or the role changes or the user may no longer sign in. -/
def UserUpdate.clearsSessions (update : UserUpdate) (u : AdminUserRecord) : Bool :=
  update.passwordHash.isSome || update.status.getD u.status ≠ "active"
    || update.role.getD u.role ≠ u.role

/-- The guards of `update_user`. -/
def updateAllowed (inner : AuthInner) (userId currentUserId : String) (update : UserUpdate)
    (now : ℕ) : Except AppError Unit := do
  ensure
    (!(userId = currentUserId
      && (update.role.any (· ≠ "admin") || update.status.any (· ≠ "active"))))
    (.forbidden "cannot remove admin access from the current signed-in user")
  ensure
    ((modifyUser inner.users userId (update.apply now) fun _ => rfl).rows.any
      AdminUserRecord.isActiveAdmin)
    (.forbidden "cannot remove the last active admin")

/-- The state after an update. -/
def updatedState (inner : AuthInner) (userId : String) (update : UserUpdate) (now : ℕ)
    (existing : AdminUserRecord) : AuthInner :=
  { inner with
    users := modifyUser inner.users userId (update.apply now) fun _ => rfl
    sessions :=
      if update.clearsSessions existing then inner.sessions.retain fun s => s.userId ≠ userId
      else inner.sessions }

def updateUser (inner : AuthInner) (userId currentUserId : String) (input : UpdateUserInput)
    (hash : Except AppError String) (now : ℕ) : Outcome PublicUser :=
  match checkUpdate input hash with
  | .error e => .answer inner (.error e)
  | .ok update =>
    match inner.users.find userId with
    | none => .answer inner (.error (.invalidRequest "user not found"))
    | some existing =>
      match updateAllowed inner userId currentUserId update now with
      | .error e => .answer inner (.error e)
      | .ok () =>
        .save inner (updatedState inner userId update now existing)
          (publicUser (update.apply now existing))

def deleteUser (inner : AuthInner) (userId currentUserId : String) : Outcome Unit :=
  if userId = currentUserId then
    .answer inner (.error (.forbidden "cannot delete the current signed-in user"))
  else
    match inner.users.find userId with
    | none => .answer inner (.ok ())
    | some user =>
      if user.role = "admin" ∧ inner.users.rows.countP AdminUserRecord.isActiveAdmin ≤ 1 then
        .answer inner (.error (.forbidden "cannot delete the last active admin"))
      else
        .save inner
          { inner with
            users := inner.users.retain fun u => u.id ≠ userId
            sessions := inner.sessions.retain fun s => s.userId ≠ userId }
          ()

end ModelPort.Auth
