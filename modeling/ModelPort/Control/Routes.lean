import ModelPort.Control.Subjects

/-!
# The console routes for API keys

A console user calls the store through routes. An administrator may do everything; another user may
create keys within limits, and otherwise works on keys of their own and never on their policy. A
route refuses a request, or it turns it into an operation of the store.

Session and CSRF checks come first and do not read the store: a request that fails them reaches
no route.

* `route_selfService`: what a request of a user who is no administrator can become.
-/

namespace ModelPort.Control

open Relational Except

/-! ### Users -/

inductive Role where
  | admin
  | user
  | viewer
  deriving DecidableEq

/-- A user of the console. Ids are made by the user store and have no blanks around them. -/
structure PublicUser where
  id : String
  username : String
  role : Role
  active : Bool
  trimmed : trim id = id

/-- The user with an id. -/
def userById (users : List PublicUser) (userId : String) : Option PublicUser :=
  users.find? fun user => user.id = trim userId

def requireApiKeyWriter (user : PublicUser) : Except AppError Unit :=
  ensure (user.role = .admin || user.role = .user) (.forbidden "API key write access required")

/-! ### Guards -/

/-- How many usable keys a user may have after a creation in self-service. -/
def maxSelfServiceActiveKeys : ℕ := 5

/-- The longest lifetime of a key created in self-service: 30 days. -/
def defaultSelfServiceKeyTtlMs : ℕ := 30 * 24 * 60 * 60 * 1000

/-- The input of a creation in self-service, with owner, kind and expiry set by the route. -/
def prepareSelfServiceApiKey (actor : PublicUser) (now : ℕ) (body : CreateApiKeyInput) :
    Except AppError CreateApiKeyInput := do
  ensure (!body.principalType.any fun value => asciiLower value ≠ "user")
    (.forbidden "self-service cannot create service accounts")
  ensure body.teamId.isNone (.forbidden "only an admin can assign an API key to a team")
  let maximumExpiry := saturatingAdd now defaultSelfServiceKeyTtlMs
  let given ← (body.expiresAt.elim (.ok none) parseExpiresAt : Except AppError (Option ℕ))
  let expiresAt := given.getD maximumExpiry
  ensure (expiresAt ≤ maximumExpiry)
    (.forbidden "self-service API key lifetime cannot exceed 30 days")
  return { body with
    userId := actor.id
    username := some actor.username
    principalType := some "user"
    teamId := none
    expiresAt := some (toString expiresAt) }

def populateApiKeyOwner (users : List PublicUser) (body : CreateApiKeyInput) :
    Except AppError CreateApiKeyInput :=
  match userById users body.userId with
  | none => .error (.invalidRequest "API key user not found")
  | some user => do
      ensure user.active (.invalidRequest "API keys can only be created for active users")
      return { body with userId := user.id, username := some user.username }

/-- A user who is no administrator works on own keys only. -/
def ensureApiKeyAccess (inner : ControlInner) (actor : PublicUser) (keyId : String) :
    Except AppError Unit :=
  if actor.role = .admin then .ok ()
  else do
    let record ← findKey inner keyId "API key not found"
    ensure (record.userId = actor.id) (.forbidden "API key belongs to another user")

def ensureRotatable (inner : ControlInner) (actor : PublicUser) (keyId : String) :
    Except AppError Unit :=
  if actor.role = .admin then .ok ()
  else do
    let record ← findKey inner keyId "API key not found"
    ensure (record.principalType = .user)
      (.forbidden "self-service cannot rotate service-account credentials")

/-- The update changes more than name and group. -/
def UpdateApiKeyInput.changesAdminPolicy (body : UpdateApiKeyInput) : Bool :=
  body.teamId.isSome || body.allowedModels.isSome || body.allowedProviders.isSome
    || body.expiresAt.isSome || body.status.isSome || body.ipRestricted.isSome
    || body.allowedIps.isSome || body.changesLimits

def validateSelfServiceApiKeyUpdate (body : UpdateApiKeyInput) : Except AppError Unit :=
  ensure (!body.changesAdminPolicy) (.forbidden
    "only an admin can change API key status, expiry, team, access policy, or spend limits")

def ensureUpdatable (actor : PublicUser) (body : UpdateApiKeyInput) : Except AppError Unit :=
  if actor.role = .admin then .ok () else validateSelfServiceApiKeyUpdate body

/-! ### Routes -/

/-- A request to a route that writes. Where route and store both read the clock, the route's time
comes first. -/
inductive KeyRequest where
  | create (body : CreateApiKeyInput) (routeNow now : ℕ) (hclock : routeNow ≤ now)
      (uuid key : String)
  | rotate (keyId : String) (now : ℕ) (uuid key : String)
  | confirm (keyId replacementId : String) (now : ℕ)
  | cancel (keyId replacementId : String)
  | update (keyId : String) (body : UpdateApiKeyInput) (now : ℕ)
  | bind (keyId : String) (body : BindApiKeyScopeInput)
  | revoke (keyId : String)
  | delete (keyId : String)

/-- The operation a route calls with the body of a creation. -/
def createRoute (users : List PublicUser) (actor : PublicUser) (body : CreateApiKeyInput)
    (routeNow now : ℕ) (uuid key : String) : Except AppError Operation :=
  if actor.role = .admin then do
    let body ← populateApiKeyOwner users body
    return .create body none now uuid key
  else do
    let body ← prepareSelfServiceApiKey actor routeNow body
    let body ← populateApiKeyOwner users body
    return .create body (some maxSelfServiceActiveKeys) now uuid key

/-- What a route makes of a request. -/
def route (users : List PublicUser) (actor : PublicUser) (inner : ControlInner) :
    KeyRequest → Except AppError Operation
  | .create body routeNow now _ uuid key => do
      requireApiKeyWriter actor
      createRoute users actor body routeNow now uuid key
  | .rotate keyId now uuid key => do
      requireApiKeyWriter actor
      ensureApiKeyAccess inner actor keyId
      ensureRotatable inner actor keyId
      return .rotate keyId now uuid key
  | .confirm keyId replacementId now => do
      requireApiKeyWriter actor
      ensureApiKeyAccess inner actor keyId
      return .confirm keyId replacementId now
  | .cancel keyId replacementId => do
      requireApiKeyWriter actor
      ensureApiKeyAccess inner actor keyId
      return .cancel keyId replacementId
  | .update keyId body now => do
      requireApiKeyWriter actor
      ensureApiKeyAccess inner actor keyId
      ensureUpdatable actor body
      return .update keyId body now
  | .bind keyId body => do
      ensure (actor.role = .admin) (.forbidden "admin role required")
      return .bind keyId body
  | .revoke keyId => do
      requireApiKeyWriter actor
      ensureApiKeyAccess inner actor keyId
      return .revoke keyId
  | .delete keyId => do
      requireApiKeyWriter actor
      ensureApiKeyAccess inner actor keyId
      return .delete keyId

/-! ### What becomes of a request -/

section

variable {users : List PublicUser} {actor : PublicUser} {inner : ControlInner} {req : KeyRequest}
  {op : Operation} {body body' : CreateApiKeyInput} {now : ℕ}

/-- What is known of a body prepared for self-service. -/
structure SelfServiceBody (actor : PublicUser) (now : ℕ) (body : CreateApiKeyInput) : Prop where
  userId : body.userId = actor.id
  principalType : body.principalType = some "user"
  expires : ∃ e, body.expiresAt = some (toString e) ∧ e ≤ u64Max ∧
    e ≤ now + defaultSelfServiceKeyTtlMs

lemma parseExpiresAt_toString {e : ℕ} (h : e ≤ u64Max) :
    parseExpiresAt (toString e) = .ok (some e) := by
  have hne : ¬ (toString e).isEmpty := by
    intro hempty
    have hlist := toList_toString e
    rw [String.isEmpty_iff.1 hempty] at hlist
    exact Nat.toDigits_ne_nil hlist.symm
  have hlt : e < 2 ^ 64 := by
    unfold u64Max at h
    omega
  simp only [parseExpiresAt, trim_toString, if_neg hne, parseUnsigned_toString hlt]

lemma prepareSelfServiceApiKey_ok (h : prepareSelfServiceApiKey actor now body = .ok body') :
    SelfServiceBody actor now body' := by
  obtain ⟨_, -, h⟩ := bind_eq_ok.1 h
  obtain ⟨_, -, h⟩ := bind_eq_ok.1 h
  obtain ⟨given, hgiven, h⟩ := bind_eq_ok.1 h
  obtain ⟨_, hbound, h⟩ := bind_eq_ok.1 h
  obtain rfl := Except.ok.inj h
  have hbound : given.getD (saturatingAdd now defaultSelfServiceKeyTtlMs)
      ≤ min (now + defaultSelfServiceKeyTtlMs) u64Max := by
    rw [ensure_eq_ok, decide_eq_true_eq] at hbound
    exact hbound
  exact ⟨rfl, rfl, _, rfl, hbound.trans (min_le_right _ _), hbound.trans (min_le_left _ _)⟩

lemma populateApiKeyOwner_ok (h : populateApiKeyOwner users body = .ok body') :
    body'.userId = trim body.userId ∧ body'.principalType = body.principalType ∧
      body'.expiresAt = body.expiresAt := by
  unfold populateApiKeyOwner at h
  split at h
  · cases h
  · rename_i user huser
    obtain ⟨_, -, h⟩ := bind_eq_ok.1 h
    obtain rfl := Except.ok.inj h
    have hfound := List.find?_some huser
    exact ⟨of_decide_eq_true hfound, rfl, rfl⟩

/-- The user has a key with this id. -/
def Owns (inner : ControlInner) (userId keyId : String) : Prop :=
  ∃ r ∈ inner.apiKeys.rows, r.id = keyId ∧ r.userId = userId

lemma ensureApiKeyAccess_ok {keyId : String} {u : Unit} (hrole : actor.role ≠ .admin)
    (h : ensureApiKeyAccess inner actor keyId = .ok u) : Owns inner actor.id keyId := by
  rw [ensureApiKeyAccess, if_neg hrole] at h
  obtain ⟨record, hfind, h⟩ := bind_eq_ok.1 h
  obtain ⟨hmem, hid⟩ := findKey_eq_ok.1 hfind
  exact ⟨record, hmem, hid, by simpa using h⟩

/-- **What a user who is no administrator can call.** -/
inductive OwnOperation (inner : ControlInner) (userId : String) : Operation → Prop
  | create {input : CreateApiKeyInput} {now e : ℕ} {uuid key : String}
      (hown : trim input.userId = userId) (hkind : input.principalType = some "user")
      (hexp : input.expiresAt.elim (.ok none) parseExpiresAt
        = (.ok (some e) : Except AppError (Option ℕ)))
      (hbound : e ≤ now + defaultSelfServiceKeyTtlMs) :
      OwnOperation inner userId (.create input (some maxSelfServiceActiveKeys) now uuid key)
  | rotate {keyId : String} {now : ℕ} {uuid key : String} (howns : Owns inner userId keyId) :
      OwnOperation inner userId (.rotate keyId now uuid key)
  | confirm {keyId replacementId : String} {now : ℕ} (howns : Owns inner userId keyId) :
      OwnOperation inner userId (.confirm keyId replacementId now)
  | cancel {keyId replacementId : String} (howns : Owns inner userId keyId) :
      OwnOperation inner userId (.cancel keyId replacementId)
  | update {keyId : String} {input : UpdateApiKeyInput} {now : ℕ}
      (howns : Owns inner userId keyId) (hpol : input.changesAdminPolicy = false) :
      OwnOperation inner userId (.update keyId input now)
  | revoke {keyId : String} (howns : Owns inner userId keyId) :
      OwnOperation inner userId (.revoke keyId)
  | delete {keyId : String} (howns : Owns inner userId keyId) :
      OwnOperation inner userId (.delete keyId)

lemma createRoute_selfService {routeNow : ℕ} {uuid key : String}
    (hrole : actor.role ≠ .admin) (hclock : routeNow ≤ now)
    (h : createRoute users actor body routeNow now uuid key = .ok op) :
    OwnOperation inner actor.id op := by
  rw [createRoute, if_neg hrole] at h
  obtain ⟨body1, hprepare, h⟩ := bind_eq_ok.1 h
  obtain ⟨body2, hpopulate, h⟩ := bind_eq_ok.1 h
  obtain rfl := Except.ok.inj h
  obtain ⟨hown, hkind, e, hexp, hmax, hbound⟩ := prepareSelfServiceApiKey_ok hprepare
  obtain ⟨hown', hkind', hexpires'⟩ := populateApiKeyOwner_ok hpopulate
  have htrim : trim body2.userId = actor.id := by
    rw [hown', hown, actor.trimmed, actor.trimmed]
  have hread : body2.expiresAt.elim (.ok none) parseExpiresAt
      = (.ok (some e) : Except AppError (Option ℕ)) := by
    rw [hexpires', hexp, Option.elim_some, parseExpiresAt_toString hmax]
  have hlife := hbound.trans (Nat.add_le_add_right hclock defaultSelfServiceKeyTtlMs)
  exact .create htrim (hkind'.trans hkind) hread hlife

lemma route_selfService (hrole : actor.role ≠ .admin)
    (h : route users actor inner req = .ok op) : OwnOperation inner actor.id op := by
  cases req with
  | create body routeNow now hclock uuid key =>
    obtain ⟨_, -, h⟩ := bind_eq_ok.1 h
    exact createRoute_selfService hrole hclock h
  | rotate keyId now uuid key =>
    obtain ⟨_, -, h⟩ := bind_eq_ok.1 h
    obtain ⟨_, hacc, h⟩ := bind_eq_ok.1 h
    obtain ⟨_, -, h⟩ := bind_eq_ok.1 h
    obtain rfl := Except.ok.inj h
    exact .rotate (ensureApiKeyAccess_ok hrole hacc)
  | confirm | cancel | revoke | delete =>
    obtain ⟨_, -, h⟩ := bind_eq_ok.1 h
    obtain ⟨_, hacc, h⟩ := bind_eq_ok.1 h
    obtain rfl := Except.ok.inj h
    constructor
    exact ensureApiKeyAccess_ok hrole hacc
  | update keyId body now =>
    obtain ⟨_, -, h⟩ := bind_eq_ok.1 h
    obtain ⟨_, hacc, h⟩ := bind_eq_ok.1 h
    obtain ⟨_, hpol, h⟩ := bind_eq_ok.1 h
    obtain rfl := Except.ok.inj h
    rw [ensureUpdatable, if_neg hrole] at hpol
    exact .update (ensureApiKeyAccess_ok hrole hacc)
      (by simpa [validateSelfServiceApiKeyUpdate] using hpol)
  | bind keyId body =>
    obtain ⟨_, hadmin, -⟩ := bind_eq_ok.1 h
    exact absurd (by simpa using hadmin) hrole

lemma OwnOperation.routed {userId : String} (h : OwnOperation inner userId op) :
    Routed inner op := by
  cases h with
  | create _ hkind =>
    show parsePrincipalType _ = _
    rw [hkind]
    decide
  | rotate | confirm | cancel | update | revoke | delete => trivial

/-- **The routes call the store as `Routed` says**, for administrators too. -/
lemma route_routed (h : route users actor inner req = .ok op) : Routed inner op := by
  by_cases hrole : actor.role = .admin
  · cases req with
    | create body routeNow now hclock uuid key =>
      obtain ⟨_, -, h⟩ := bind_eq_ok.1 h
      rw [createRoute, if_pos hrole] at h
      obtain ⟨_, -, h⟩ := bind_eq_ok.1 h
      obtain rfl := Except.ok.inj h
      trivial
    | rotate | update =>
      obtain ⟨_, -, h⟩ := bind_eq_ok.1 h
      obtain ⟨_, -, h⟩ := bind_eq_ok.1 h
      obtain ⟨_, -, h⟩ := bind_eq_ok.1 h
      obtain rfl := Except.ok.inj h
      trivial
    | confirm | cancel | revoke | delete =>
      obtain ⟨_, -, h⟩ := bind_eq_ok.1 h
      obtain ⟨_, -, h⟩ := bind_eq_ok.1 h
      obtain rfl := Except.ok.inj h
      trivial
    | bind =>
      obtain ⟨_, -, h⟩ := bind_eq_ok.1 h
      obtain rfl := Except.ok.inj h
      trivial
  · exact (route_selfService hrole h).routed

end

end ModelPort.Control
