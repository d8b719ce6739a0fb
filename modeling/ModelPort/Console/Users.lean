import ModelPort.Auth.Invariants
import ModelPort.Control.Authentication

/-!
# Requests on users and their keys

The routes for users work on two stores: the user store and the control store. Each call of a
store is atomic; a request makes several of them, and other requests may come between any two. A
request that has made some of its calls is `Pending`.

An update that is to make a user active first reads the user's status. If the user was not active
it revokes the user's keys before it updates the user; an update that leaves the user inactive
revokes them afterwards.

* `status_next`, `keys_next`, `pending_next`: what one call does to the users, the keys and the
  requests under way.
-/

namespace ModelPort.Console

open Relational Except WriteThrough Runs Control

/-! ### Users -/

variable (users : Auth.Users)

def userById (userId : String) : Option Auth.AdminUserRecord :=
  users.find (trim userId)

def isUserActive (userId : String) : Bool :=
  (users.find (trim userId)).any fun u => u.status = "active"

/-- `populate_api_key_owner`, from the user store. -/
def populateApiKeyOwner (body : Control.CreateApiKeyInput) :
    Except AppError Control.CreateApiKeyInput :=
  match userById users body.userId with
  | none => .error (.invalidRequest "API key user not found")
  | some user => do
      ensure (user.status = "active")
        (.invalidRequest "API keys can only be created for active users")
      return { body with userId := user.id, username := some user.username }

/-! ### Requests -/

/-- A request that has made some of its calls, by what comes next. -/
inductive Pending where
  /-- the user's keys are revoked, then the user is updated -/
  | reactivate (userId currentUserId : String) (input : Auth.UpdateUserInput)
  /-- the user is updated -/
  | update (userId currentUserId : String) (input : Auth.UpdateUserInput)
  /-- the user's keys are revoked -/
  | revokeKeys (userId : String)
  /-- the key is created -/
  | createKey (body : Control.CreateApiKeyInput) (maxActive : Option ℕ)

/-- What `admin_update_user` does after it has read the status of the user. -/
def beginUpdate (userId currentUserId : String) (input : Auth.UpdateUserInput) : Pending :=
  let wasInactive := (userById users userId).any fun u => u.status ≠ "active"
  if wasInactive && input.status = some "active" then .reactivate userId currentUserId input
  else .update userId currentUserId input

/-- The two stores and the requests under way. -/
structure System where
  auth : Auth.AuthStore
  control : Control.ControlStore
  pending : List Pending

/-- An atomic call of a request, with what it gets from outside: the first one, or the next one of
a request under way. -/
inductive Event where
  | updateUser (userId currentUserId : String) (input : Auth.UpdateUserInput)
  | deleteUser (userId currentUserId : String) (write : Write)
  | createUser (input : Auth.CreateUserInput) (uuid : String) (hash : Except AppError String)
      (now : ℕ) (write : Write)
  | createKey (body : Control.CreateApiKeyInput) (maxActive : Option ℕ)
  | updateKey (keyId : String) (input : Control.UpdateApiKeyInput) (now : ℕ) (write : Write)
  | authenticate (headers : Control.ClientHeaders) (now : ℕ) (write : Write)
  | resume (i : ℕ) (now : ℕ) (hash : Except AppError String) (uuid key : String) (write : Write)

namespace System

section

variable (sha256Hex : String → String)

/-- A call of the control store. -/
def operate (sys : System) (op : Control.Operation) (write : Write) : System :=
  { sys with control := (Control.perform sha256Hex op write sys.control).1 }

/-- What comes after a call: nothing, if it has failed. -/
def followUp {α : Type} (answer : Except AppError α) (rest : α → List Pending) : List Pending :=
  match answer with
  | .ok a => rest a
  | .error _ => []

/-- The next call of a request that was taken off the list. -/
def advance (sys : System) (now : ℕ) (hash : Except AppError String) (uuid key : String)
    (write : Write) : Pending → System
  | .reactivate userId currentUserId input =>
    let outcome := Control.perform sha256Hex (.deleteUser userId) write sys.control
    { sys with
      control := outcome.1
      pending := sys.pending
        ++ followUp outcome.2 fun _ => [.update userId currentUserId input] }
  | .update userId currentUserId input =>
    let outcome := Auth.commit write sys.auth
      (Auth.updateUser sys.auth.memory userId currentUserId input hash now)
    { sys with
      auth := outcome.1
      pending := sys.pending
        ++ followUp outcome.2 fun user =>
          if user.status = "active" then [] else [.revokeKeys user.id] }
  | .revokeKeys userId => sys.operate sha256Hex (.deleteUser userId) write
  | .createKey body maxActive => sys.operate sha256Hex (.create body maxActive now uuid key) write

/-- One call. -/
def next (sys : System) : Event → System
  | .updateUser userId currentUserId input =>
    { sys with pending :=
        sys.pending ++ [beginUpdate sys.auth.memory.users userId currentUserId input] }
  | .deleteUser userId currentUserId write =>
    let outcome := Auth.commit write sys.auth
      (Auth.deleteUser sys.auth.memory userId currentUserId)
    { sys with
      auth := outcome.1
      pending := sys.pending ++ followUp outcome.2 fun _ => [.revokeKeys userId] }
  | .createUser input uuid hash now write =>
    { sys with auth :=
        (Auth.commit write sys.auth (Auth.createUser sys.auth.memory input uuid hash now)).1 }
  | .createKey body maxActive =>
    { sys with pending := sys.pending
        ++ followUp (populateApiKeyOwner sys.auth.memory.users body) fun body =>
          [.createKey body maxActive] }
  | .updateKey keyId input now write => sys.operate sha256Hex (.update keyId input now) write
  | .authenticate headers now write => sys.operate sha256Hex (.authenticate headers now) write
  | .resume i now hash uuid key write =>
    match sys.pending[i]? with
    | none => sys
    | some request =>
      { sys with pending := sys.pending.eraseIdx i }.advance sha256Hex now hash uuid key write
        request

/-- The owner of an accepted key must be active. -/
def admitOwner (sys : System) : Option Control.ClientIdentity →
    Except AppError (Option Control.ClientIdentity)
  | none => .ok none
  | some identity =>
    if isUserActive sys.auth.memory.users identity.userId then .ok (some identity)
    else .error .auth

/-- `authenticate_client`; the answer is `none` when the secret is that of no key, and the request
is left to the legacy token. -/
def authenticateClient (sys : System) (headers : Control.ClientHeaders) (now : ℕ) :
    Except AppError (Option Control.ClientIdentity) :=
  match Control.authenticateHeaders sha256Hex headers now sys.control.memory with
  | .error e => .error e
  | .ok (.save _ (.error e)) => .error e
  | .ok (.save _ (.ok identity)) => sys.admitOwner identity
  | .ok (.answer identity) => sys.admitOwner identity

end

/-- The keys of the control store. -/
def keys (sys : System) : Control.Keys := sys.control.memory.apiKeys

end System

/-! ### The status of a user -/

/-- The status of the user with an id. -/
def status (users : Auth.Users) (userId : String) : Option String :=
  (users.find userId).map (·.status)

/-- The status of a user of the system. -/
def System.status (sys : System) (userId : String) : Option String :=
  Console.status sys.auth.memory.users userId

variable {input : Auth.UpdateUserInput}

section

variable (inner : Auth.AuthInner)

/-- A check that returns what it is given. -/
lemma checkedField_eq {check : String → Except AppError String}
    (hcheck : ∀ value result, check value = .ok result → result = value)
    {field field' : Option String}
    (h : Auth.checkedField check field = .ok field') : field' = field := by
  cases field with
  | none => exact (Except.ok.inj h).symm
  | some value =>
    cases hvalue : check value with
    | error e => simp [Auth.checkedField, hvalue, Except.map] at h
    | ok result =>
      simp only [Auth.checkedField, hvalue, Except.map, Except.ok.injEq] at h
      rw [← h, hcheck value result hvalue]

lemma checkUpdate_status {hash : Except AppError String}
    {update : Auth.UserUpdate} (h : Auth.checkUpdate input hash = .ok update) :
    update.status = input.status := by
  simp only [Auth.checkUpdate, bind_eq_ok, pure, Except.pure, Except.ok.injEq] at h
  obtain ⟨_, -, _, -, status, hstat, _, -, rfl⟩ := h
  refine checkedField_eq (fun value result hvalue => ?_) hstat
  simp only [Auth.validateStatus, bind_eq_ok, pure, Except.pure, Except.ok.injEq] at hvalue
  obtain ⟨_, -, rfl⟩ := hvalue
  rfl

lemma status_updateUser (userId currentUserId : String) (input : Auth.UpdateUserInput)
    (hash : Except AppError String) (now : ℕ) :
    (Auth.updateUser inner userId currentUserId input hash now).Post fun inner' _ =>
      ∀ u, status inner'.users u = status inner.users u ∨
        u = userId ∧ (status inner.users u).isSome ∧
          ∃ s, input.status = some s ∧ status inner'.users u = some s := by
  have hsame : ∀ u, status inner.users u = status inner.users u ∨
      u = userId ∧ (status inner.users u).isSome ∧
        ∃ s, input.status = some s ∧ status inner.users u = some s := fun _ => .inl rfl
  unfold Auth.updateUser
  split
  · exact hsame
  · rename_i update hupdate
    split
    · exact hsame
    · split
      · exact hsame
      · refine ⟨fun u => ?_, fun _ => hsame⟩
        have hstat := checkUpdate_status hupdate
        simp only [status, Auth.updatedState, Auth.modifyUser, Table.find_update]
        cases hu : inner.users.find u with
        | none => exact .inl rfl
        | some v =>
          have hid := (Auth.find_user_eq_some.1 hu).2
          by_cases huser : v.id = userId
          · cases hinput : input.status with
            | none => simp [Table.assign, huser, Auth.UserUpdate.apply, hstat, hinput]
            | some s =>
              refine .inr ⟨hid.symm.trans huser, rfl, s, rfl, ?_⟩
              simp [Table.assign, huser, Auth.UserUpdate.apply, hstat, hinput]
          · simp [Table.assign, huser]

lemma status_deleteUser (userId currentUserId : String) :
    (Auth.deleteUser inner userId currentUserId).Post fun inner' _ =>
      ∀ u, status inner'.users u = status inner.users u ∨ status inner'.users u = none := by
  unfold Auth.deleteUser
  repeat' split
  any_goals exact fun _ => .inl rfl
  refine ⟨fun u => ?_, fun _ _ => .inl rfl⟩
  simp only [status, Table.find_retain]
  cases inner.users.find u with
  | none => exact .inl rfl
  | some v => by_cases huser : v.id = userId <;> simp [huser]

lemma status_createUser (input : Auth.CreateUserInput) (uuid : String)
    (hash : Except AppError String) (now : ℕ) :
    (Auth.createUser inner input uuid hash now).Post fun inner' _ =>
      ∀ u, status inner'.users u = status inner.users u ∨ u = "usr_" ++ uuid := by
  unfold Auth.createUser
  split
  · exact fun _ => .inl rfl
  · rename_i user hnew
    have hid : user.id = "usr_" ++ uuid := by
      simp only [Auth.newUser, bind_eq_ok, pure, Except.pure, Except.ok.injEq] at hnew
      obtain ⟨_, _, _, _, _, _, _, _, _, _, _, _, rfl⟩ := hnew
      rfl
    split
    · exact fun _ => .inl rfl
    · refine ⟨fun u => ?_, fun _ _ => .inl rfl⟩
      by_cases hu : user.id = u
      · exact .inr (hu.symm.trans hid)
      · exact .inl (congrArg _ ((Table.find_put_single _ user u).trans (if_neg hu)))

end

/-! ### Where a key comes from -/

/-- The update sets the status of its key to active. -/
def setsActive (input : Control.UpdateApiKeyInput) : Bool :=
  input.status.any fun value => trim value = "active"

/-- Where a key comes from that the control store has after an operation: it was there, and active
if it is; or an update has made it active; or it is new. -/
inductive Origin (keys : Control.Keys) (op : Control.Operation) (s : Control.ApiKeyRecord) : Prop
  | kept (r : Control.ApiKeyRecord) (hr : r ∈ keys.rows) (hid : r.id = s.id)
      (hown : r.userId = s.userId) (hact : s.status = .active → r.status = .active)
  | activated (r : Control.ApiKeyRecord) (hr : r ∈ keys.rows) (hid : r.id = s.id)
      (hown : r.userId = s.userId) (input : Control.UpdateApiKeyInput) (now : ℕ)
      (hop : op = .update s.id input now) (hsets : setsActive input)
  | new (input : Control.CreateApiKeyInput) (maxActive : Option ℕ) (now : ℕ) (uuid key : String)
      (hop : op = .create input maxActive now uuid key) (hid : s.id = "key_" ++ uuid)
      (hown : s.userId = trim input.userId)

/-- The operations on keys that requests on users and keys make. -/
def Requested : Control.Operation → Prop
  | .create .. | .update .. | .deleteUser .. | .authenticate .. => True
  | _ => False

variable {s : Control.ApiKeyRecord} {now : ℕ}

section

variable {sha : String → String} {inner : Control.ControlInner} {op : Control.Operation}

lemma setsActive_of_updated {input : Control.UpdateApiKeyInput}
    {r : Control.ApiKeyRecord} (h : Control.Updated input now r s)
    (hact : s.status = .active) : r.status = .active ∨ setsActive input := by
  have hstat := h.status
  cases hinput : input.status with
  | none =>
    rw [hinput] at hstat
    exact .inl ((Except.ok.inj hstat).trans hact)
  | some value =>
    rw [hinput, hact, updatedField, parseKeyStatus] at hstat
    split at hstat
    · rename_i htrim
      exact .inr (by simp [setsActive, hinput, htrim])
    · cases hstat
    · cases hstat

lemma origin_of_change {keys' : Control.Keys} (h : Control.KeyChange sha inner op keys')
    (hop : Requested op) (hs : s ∈ keys'.rows) : Origin inner.apiKeys op s := by
  cases h with
  | @create input now uuid key record hnew =>
    rcases mem_put_iff.1 hs with rfl | ⟨hs, -⟩
    · exact .new _ _ _ _ _ rfl hnew.id hnew.userId
    · exact .kept s hs rfl rfl id
  | @enroll input maxActive now uuid key record hnew hlimit =>
    rcases mem_put_iff.1 hs with rfl | ⟨hs, -⟩
    · exact .new _ _ _ _ _ rfl hnew.id hnew.userId
    · obtain ⟨r, hr, hid, rfl⟩ := (edited_joinOwner sha record).back s hs
      split <;> exact .kept r hr rfl rfl id
  | @update input now record updated hmem hmut hupd =>
    obtain ⟨r, hr, hid, ⟨rfl, rfl⟩ | ⟨-, rfl⟩⟩ :=
      (edited_updateKeys hmem hmut hupd).back s hs
    · have hown : r.userId = s.userId := by rw [hupd.same]
      by_cases hact : s.status = .active
      · rcases setsActive_of_updated hupd hact with hold | hsets
        · exact .kept r hr hid.symm hown fun _ => hold
        · exact .activated r hr hid.symm hown input now (by rw [hid]) hsets
      · exact .kept r hr hid.symm hown fun h => absurd h hact
    · exact .kept r hr rfl rfl id
  | deleteUser userId =>
    obtain ⟨r, hr, hid, rfl | ⟨-, -, -, rfl⟩⟩ := (edited_dropUser userId).back s hs
    · exact .kept s hr rfl rfl id
    · exact .kept r hr rfl rfl nofun
  | expire htoken hrec hact hexp =>
    obtain ⟨r, hr, hid, rfl | ⟨-, rfl⟩⟩ :=
      (edited_revoke (mem_of_keyOfToken hrec)).back s hs
    · exact .kept s hr rfl rfl id
    · exact .kept r hr rfl rfl nofun
  | _ => cases hop

lemma keys_perform (op : Control.Operation) (write : Write) (store : Control.ControlStore) :
    (perform sha op write store).1.memory.apiKeys = store.memory.apiKeys ∨
      Control.KeyChange sha store.memory op
        (perform sha op write store).1.memory.apiKeys := by
  rcases memory_perform op write store with hsame | ⟨next, result, hrun, hsave⟩
  · exact .inl (by rw [hsame])
  · rw [hsave]
    rcases Cell.memory_save write _ with hmemory | hmemory
    · exact .inl (by rw [hmemory])
    · rw [hmemory]
      exact .inr (Control.Operation.run_save hrun).keys

lemma origin_perform (op : Control.Operation) (hop : Requested op) (write : Write)
    (store : Control.ControlStore)
    (hs : s ∈ (perform sha op write store).1.memory.apiKeys.rows) :
    Origin store.memory.apiKeys op s := by
  rcases keys_perform op write store with hsame | hchg
  · rw [hsame] at hs
    exact .kept s hs rfl rfl id
  · exact origin_of_change hchg hop hs

/-- No key of the user is active. -/
def NoActiveKey (keys : Control.Keys) (userId : String) : Prop :=
  ∀ r ∈ keys.rows, r.userId = userId → r.status ≠ .active

lemma noActiveKey_perform {userId : String} {write : Write} {store : Control.ControlStore}
    {u : Unit} (h : (perform sha (.deleteUser userId) write store).2 = .ok u) :
    NoActiveKey (perform sha (.deleteUser userId) write store).1.memory.apiKeys
      userId := by
  have hkeys : (perform sha (.deleteUser userId) write store).1.memory.apiKeys =
      dropUser store.memory.apiKeys userId := by
    simp only [perform, Control.Operation.run, deleteUserResources] at h ⊢
    unfold Cell.save at h ⊢
    by_cases hrev : store.documentRevision = store.revision
    · cases write with
      | acknowledged => simp [hrev, Control.ControlInner.rebuildApiKeyHashIndex]
      | refused | unacknowledged => simp [hrev] at h
    · simp [hrev] at h
  intro s hs hown hact
  rw [hkeys] at hs
  obtain ⟨r, hr, hkept⟩ := (Table.mem_update _).1 hs
  unfold Table.assign at hkept
  split at hkept
  · rw [← hkept] at hact
    cases hact
  · rename_i hnot
    subst hkept
    simp [hown, hact] at hnot

end

/-! ### What one call does -/

section

variable {sha : String → String} {sys : System} {e : Event}

/-- A call that sets the status of a user: that of a request which updates the user. -/
structure Sets (sys : System) (e : Event) (u s : String) : Prop where
  request : ∃ i now hash uuid key write currentUserId input,
    e = .resume i now hash uuid key write ∧
      sys.pending[i]? = some (.update u currentUserId input) ∧ input.status = some s
  known : (sys.status u).isSome

lemma next_resume (sha : String → String) {i : ℕ} {request : Pending}
    (hpend : sys.pending[i]? = some request) (now : ℕ) (hash : Except AppError String)
    (uuid key : String) (write : Write) : sys.next sha (.resume i now hash uuid key write) =
      { sys with pending := sys.pending.eraseIdx i }.advance sha now hash uuid key write
        request := by
  simp only [System.next, hpend]

/-- **What a call does to the status of a user**: nothing, or the user is gone, or an update sets
it, or the user is new. -/
lemma status_next (sha : String → String) (sys : System) (e : Event) (u : String) :
    (sys.next sha e).status u = sys.status u ∨ (sys.next sha e).status u = none ∨
      (∃ s, Sets sys e u s ∧ (sys.next sha e).status u = some s) ∨
      ∃ input uuid hash now write, e = .createUser input uuid hash now write ∧
        u = "usr_" ++ uuid := by
  -- only three calls reach the user store
  have hsame : (sys.next sha e).auth = sys.auth →
      (sys.next sha e).status u = sys.status u := fun h => by
    rw [System.status, h, System.status]
  cases e with
  | updateUser userId currentUserId input => exact .inl (hsame rfl)
  | deleteUser userId currentUserId write =>
    rcases Auth.commit_post (status_deleteUser sys.auth.memory userId currentUserId) write
      sys.auth u with hkept | hgone
    · exact .inl hkept
    · exact .inr (.inl hgone)
  | createUser input uuid hash now write =>
    rcases Auth.commit_post (status_createUser sys.auth.memory input uuid hash now) write
      sys.auth u with hkept | hnew
    · exact .inl hkept
    · exact .inr (.inr (.inr ⟨input, uuid, hash, now, write, rfl, hnew⟩))
  | createKey | updateKey | authenticate => exact .inl (hsame rfl)
  | resume i now hash uuid key write =>
    cases hpend : sys.pending[i]? with
    | none => exact .inl (hsame (by simp only [System.next, hpend]))
    | some request =>
      have hnext := next_resume sha hpend now hash uuid key write
      cases request with
      | reactivate userId currentUserId input =>
        exact .inl (hsame (by simp only [hnext, System.advance]))
      | revokeKeys | createKey =>
        exact .inl (hsame (by simp only [hnext, System.advance, System.operate]))
      | update userId currentUserId input =>
        simp only [hnext]
        rcases Auth.commit_post
          (status_updateUser sys.auth.memory userId currentUserId input hash now) write
          sys.auth u with hkept | ⟨rfl, hknown, s, hinput, hset⟩
        · exact .inl hkept
        · exact .inr (.inr (.inl ⟨s, ⟨⟨i, now, hash, uuid, key, write, currentUserId, input, rfl,
            hpend, hinput⟩, hknown⟩, hset⟩))

/-- Where a key of the system comes from, after a call. -/
inductive KeyOrigin (sys : System) (e : Event) (s : Control.ApiKeyRecord) : Prop
  | kept (r : Control.ApiKeyRecord) (hr : r ∈ sys.keys.rows) (hid : r.id = s.id)
      (hown : r.userId = s.userId) (hact : s.status = .active → r.status = .active)
  | activated (r : Control.ApiKeyRecord) (hr : r ∈ sys.keys.rows) (hid : r.id = s.id)
      (hown : r.userId = s.userId) (input : Control.UpdateApiKeyInput) (now : ℕ) (write : Write)
      (he : e = .updateKey s.id input now write) (hsets : setsActive input)
  | new (i now : ℕ) (hash : Except AppError String) (uuid key : String) (write : Write)
      (body : Control.CreateApiKeyInput) (maxActive : Option ℕ)
      (he : e = .resume i now hash uuid key write)
      (hpend : sys.pending[i]? = some (.createKey body maxActive))
      (hid : s.id = "key_" ++ uuid) (hown : s.userId = trim body.userId)

/-- The operation of the control store that a call makes. -/
def System.operation (sys : System) : Event → Option (Control.Operation × Write)
  | .updateKey keyId input now write => some (.update keyId input now, write)
  | .authenticate headers now write => some (.authenticate headers now, write)
  | .resume i now _ uuid key write =>
    match sys.pending[i]? with
    | some (.reactivate userId _ _) | some (.revokeKeys userId) =>
      some (.deleteUser userId, write)
    | some (.createKey body maxActive) => some (.create body maxActive now uuid key, write)
    | _ => none
  | _ => none

open Console.System

lemma control_next (sha : String → String) (sys : System) (e : Event) :
    (sys.next sha e).control = (sys.operation e).elim sys.control
      fun call => (perform sha call.1 call.2 sys.control).1 := by
  cases e with
  | resume i now hash uuid key write =>
    rcases hpend : sys.pending[i]? with _ | request
    · simp only [next, operation, hpend, Option.elim]
    · rw [next_resume sha hpend]
      cases request <;> simp only [operation, hpend] <;> rfl
  | _ => rfl

/-- **What a call does to the keys.** -/
lemma keyOrigin_next (hs : s ∈ (sys.next sha e).keys.rows) : KeyOrigin sys e s := by
  rw [keys, control_next] at hs
  rcases hcall : sys.operation e with _ | ⟨op, write⟩ <;> rw [hcall] at hs
  · exact .kept s hs rfl rfl id
  have hop : Requested op := by
    unfold operation at hcall
    repeat' split at hcall
    all_goals cases hcall
    all_goals trivial
  cases origin_perform op hop write sys.control hs with
  | kept r hr hid hown hact => exact .kept r hr hid hown hact
  | activated r hr hid hown input now hop hsets =>
    subst hop
    cases e with
    | updateKey keyId input now write =>
      cases hcall
      exact .activated r hr hid hown input now write rfl hsets
    | resume i now hash uuid key write =>
      simp only [operation] at hcall
      split at hcall <;> cases hcall
    | _ => cases hcall
  | new input maxActive now uuid key hop hid hown =>
    subst hop
    cases e with
    | resume i now hash uuid key write =>
      simp only [operation] at hcall
      split at hcall <;> cases hcall
      exact .new i now hash uuid key write input maxActive rfl ‹_› hid hown
    | _ => cases hcall

lemma mem_followUp {α : Type} {answer : Except AppError α} {rest : α → List Pending} {q : Pending} :
    q ∈ followUp answer rest ↔ ∃ a, answer = .ok a ∧ q ∈ rest a := by
  cases answer <;> simp [followUp]

/-- **Where an update under way comes from**, after a call: it was under way and the call is that
of another request; or its request has just read the status of a user who was not inactive, or does
not ask for an active user; or it has just revoked the user's keys. -/
lemma pending_next {w currentUserId : String}
    (h : .update w currentUserId input ∈ (sys.next sha e).pending) :
    (.update w currentUserId input ∈ sys.pending ∧
      ∀ i now hash uuid key write, e = .resume i now hash uuid key write →
        .update w currentUserId input ∈ sys.pending.eraseIdx i) ∨
      (e = .updateUser w currentUserId input ∧ (input.status = some "active" →
          (userById sys.auth.memory.users w).all fun u => u.status = "active")) ∨
      NoActiveKey (sys.next sha e).keys w := by
  cases e with
  | updateUser userId currentUserId' input' =>
    simp only [next, List.mem_append, List.mem_singleton] at h
    rcases h with hold | hnew
    · exact .inl ⟨hold, nofun⟩
    · simp only [beginUpdate] at hnew
      split at hnew
      · cases hnew
      · rename_i hact
        cases hnew
        refine .inr (.inl ⟨rfl, fun hstat => ?_⟩)
        cases huser : userById sys.auth.memory.users w with
        | none => rfl
        | some u => simpa [huser, hstat] using hact
  | deleteUser | createKey =>
    simp only [next, List.mem_append, mem_followUp, List.mem_singleton] at h
    rcases h with hold | ⟨_, -, hnew⟩
    · exact .inl ⟨hold, nofun⟩
    · cases hnew
  | createUser | updateKey | authenticate => exact .inl ⟨h, nofun⟩
  | resume i now hash uuid key write =>
    cases hpend : sys.pending[i]? with
    | none =>
      simp only [next, hpend] at h
      refine .inl ⟨h, fun j _ _ _ _ _ he => ?_⟩
      cases he
      rwa [List.eraseIdx_of_length_le (List.getElem?_eq_none_iff.1 hpend)]
    | some request =>
      have hnext := next_resume sha hpend now hash uuid key write
      have hold : .update w currentUserId input ∈ sys.pending.eraseIdx i →
          .update w currentUserId input ∈ sys.pending ∧
            ∀ j now' hash' uuid' key' write',
              Event.resume i now hash uuid key write = .resume j now' hash' uuid' key' write' →
                .update w currentUserId input ∈ sys.pending.eraseIdx j := by
        intro hmem
        refine ⟨List.mem_of_mem_eraseIdx hmem, fun j _ _ _ _ _ he => ?_⟩
        cases he
        exact hmem
      cases request with
      | reactivate userId currentUserId' input' =>
        simp only [hnext, advance, List.mem_append, mem_followUp, List.mem_singleton] at h
        rcases h with hmem | ⟨_, hok, hnew⟩
        · exact .inl (hold hmem)
        · cases hnew
          refine .inr (.inr ?_)
          simp only [hnext]
          exact noActiveKey_perform hok
      | update userId currentUserId' input' =>
        simp only [hnext, advance, List.mem_append, mem_followUp] at h
        rcases h with hmem | ⟨user, -, hnew⟩
        · exact .inl (hold hmem)
        · split at hnew
          · cases hnew
          · cases List.mem_singleton.1 hnew
      | revokeKeys | createKey =>
        simp only [hnext] at h
        exact .inl (hold h)

lemma authenticateClient_eq_ok {headers : Control.ClientHeaders} {identity : Control.ClientIdentity}
    (h : sys.authenticateClient sha headers now = .ok (some identity)) :
    ∃ r ∈ sys.keys.rows, r.status = .active ∧ identity.apiKeyId = some r.id ∧
      isUserActive sys.auth.memory.users r.userId := by
  unfold authenticateClient at h
  split at h
  · cases h
  · cases h
  · rename_i identity' hsave
    -- only the revocation of an expired key is saved
    rw [authenticateHeaders] at hsave
    split at hsave
    · cases hsave
    · rw [admitKey] at hsave
      split at hsave
      · cases hsave
      · split at hsave
        · cases hsave
        · split at hsave <;> cases hsave
  · rename_i identity' hanswer
    unfold admitOwner at h
    split at h
    · cases h
    · split at h
      · rename_i hown
        obtain rfl := Option.some.inj (Except.ok.inj h)
        obtain ⟨r, hr, hact, rfl⟩ := accepted_identity hanswer
        exact ⟨r, hr, hact, rfl, hown⟩
      · cases h

end

end ModelPort.Console
