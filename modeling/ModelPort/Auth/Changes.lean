import ModelPort.Auth.Run

/-!
# What an event does to the users and sessions

Whatever a critical section does first, removing expired sessions or recording a failed login,
leaves the users alone and adds no session (`Shrinks`). What it saves is one of six changes
(`Saves`), three of which sign a user in. A failed save leaves the first part in force.
-/

namespace ModelPort.Auth

open Relational Except WriteThrough Runs

variable {env : AuthEnv}

/-! ### What a critical section leaves and answers -/

/-- The section leaves a state and an answer with `P`, whether or not its save succeeds. -/
def Outcome.Post {α : Type} (P : AuthInner → Except AppError α → Prop) : Outcome α → Prop
  | .answer inner result => P inner result
  | .save base next result => P next (.ok result) ∧ ∀ e, P base (.error e)

variable {α : Type} {outcome : Outcome α}

lemma commit_post {P : AuthInner → Except AppError α → Prop}
    (h : outcome.Post P) (write : Write) (store : AuthStore) :
    P (commit write store outcome).1.memory (commit write store outcome).2 := by
  cases outcome with
  | answer inner result => exact h
  | save base next result =>
    obtain ⟨hok, herror⟩ := h
    unfold commit Cell.save
    by_cases hrev : store.documentRevision = store.revision
    · cases write with
      | acknowledged => simpa [hrev] using hok
      | refused | unacknowledged => simpa [hrev] using herror _
    · simpa [hrev] using herror _

/-! ### Changes -/

/-- The users are the same and no session is new. -/
structure Shrinks (a b : AuthInner) : Prop where
  users : b.users = a.users
  sessions : ∀ s ∈ b.sessions.rows, s ∈ a.sessions.rows

lemma Shrinks.refl (a : AuthInner) : Shrinks a a := ⟨rfl, fun _ h => h⟩

lemma Shrinks.trans {a b c : AuthInner} (h : Shrinks a b) (h' : Shrinks b c) : Shrinks a c :=
  ⟨h'.users.trans h.users, fun s hs => h.sessions s (h'.sessions s hs)⟩

/-- Nobody has the identity. -/
def Unbound (users : Users) (identity : FederatedIdentity) : Prop :=
  ∀ u ∈ users.rows, u.isBound identity = false

/-- Nobody has the id. -/
def FreshId (users : Users) (id : String) : Prop := ∀ u ∈ users.rows, u.id ≠ id

/-- What a user signs in with. -/
inductive Means where
  | password (password : String)
  | identity (identity : FederatedIdentity)

/-- The user may sign in with it. -/
def Means.Fits (env : AuthEnv) (user : AdminUserRecord) : Means → Prop
  | .password given => env.verifyPassword given user.passwordHash
  | .identity given => user.isBound given

/-- The sign-in that a reply tells of. -/
def Reply.signedIn : Reply → Option LoginResult
  | .login (.ok result) => some result
  | _ => .none

/-- The changes that are saved, and what the user who signs in gets. -/
inductive Saves (env : AuthEnv) (means : Option Means) (base : AuthInner) :
    AuthInner → Option LoginResult → Prop
  /-- a user signs in -/
  | signIn {user : AdminUserRecord} (token : String) (now : ℕ) (huser : user ∈ base.users.rows)
      (hact : user.status = "active") (hmeans : ∃ m, means = some m ∧ m.Fits env user) :
      Saves env means base (openSession env base user token now)
        (some (loginResult env user token now))
  /-- a user is bound to an identity and signs in -/
  | bind {user : AdminUserRecord} {identity : FederatedIdentity} (token : String) (now : ℕ)
      (huser : user ∈ base.users.rows) (hmay : mayBind user)
      (hunb : Unbound base.users identity) (hmeans : means = some (.identity identity)) :
      Saves env means base
        (openSession env (bindIdentity base user identity) (user.bind identity) token now)
        (some (loginResult env (user.bind identity) token now))
  /-- a user is made for an identity and signs in -/
  | provision (pending : PendingProvision) (uuid passwordHash token : String)
      (hfresh : FreshId base.users ("usr_" ++ uuid))
      (hunb : Unbound base.users pending.identity)
      (hfree : nameOrEmailTaken base.users pending.username pending.email = false)
      (hmeans : means = some (.identity pending.identity)) :
      Saves env means base
        (openSession env
          { base with users := base.users.put (provisionedUser pending uuid passwordHash) }
          (provisionedUser pending uuid passwordHash) token pending.now)
        (some (loginResult env (provisionedUser pending uuid passwordHash) token pending.now))
  /-- a user is created -/
  | create {user : AdminUserRecord} (hfresh : FreshId base.users user.id)
      (hname : userByName base.users user.username = none)
      (hidentities : user.federatedIdentities = []) (hmeans : means = none) :
      Saves env means base { base with users := base.users.put user } none
  /-- a user is updated -/
  | update {userId : String} {existing : AdminUserRecord} (update : UserUpdate) (now : ℕ)
      (hfind : base.users.find userId = some existing)
      (hadmin : (updatedState base userId update now existing).users.rows.any
        AdminUserRecord.isActiveAdmin) (hmeans : means = none) :
      Saves env means base (updatedState base userId update now existing) none
  /-- a user is deleted -/
  | delete {userId : String} {user : AdminUserRecord} (hfind : base.users.find userId = some user)
      (hadm : ¬ (user.role = "admin" ∧
        base.users.rows.countP AdminUserRecord.isActiveAdmin ≤ 1)) (hmeans : means = none) :
      Saves env means base
        { base with
          users := base.users.retain fun u => u.id ≠ userId
          sessions := base.sessions.retain fun s => s.userId ≠ userId } none

/-- The ways in which a critical section ends, if its answers are told by these replies. -/
def Outcome.Changes (env : AuthEnv) (means : Option Means) (inner : AuthInner) {α : Type}
    (reply : Except AppError α → Reply) : Outcome α → Prop
  | .answer inner' result => Shrinks inner inner' ∧ (reply result).signedIn = none
  | .save base next result => Shrinks inner base ∧
      Saves env means base next (reply (.ok result)).signedIn

/-- What an event does to the state in memory. -/
inductive Change (env : AuthEnv) (means : Option Means) (inner : AuthInner) :
    AuthInner → Option LoginResult → Prop
  | shrink {inner' : AuthInner} (h : Shrinks inner inner') : Change env means inner inner' none
  | save {base next : AuthInner} {result : Option LoginResult} (hbase : Shrinks inner base)
      (hnext : Saves env means base next result) : Change env means inner next result

/-! ### One lemma for each operation -/

section

variable {inner base : AuthInner} {identity : FederatedIdentity} {users : Users} {uuid : String}

lemma shrinks_retain (inner : AuthInner) (p : AdminSession → Bool) :
    Shrinks inner { inner with sessions := inner.sessions.retain p } :=
  ⟨rfl, fun _ hs => (List.mem_filter.1 hs).1⟩

lemma shrinks_prune (inner : AuthInner) (now : ℕ) :
    Shrinks inner (pruneExpiredSessions inner now) := shrinks_retain inner _

lemma shrinks_attempts (inner : AuthInner) (attempts : Attempts) :
    Shrinks inner { inner with attempts := attempts } := ⟨rfl, fun _ h => h⟩

lemma shrinks_loginBegin (inner : AuthInner) (username password : String) (now : ℕ) :
    Shrinks inner (loginBegin inner username password now).1 := by
  have hprun := (shrinks_prune inner now).trans
    (shrinks_attempts _ (pruneLoginAttempts inner.attempts now))
  unfold loginBegin
  dsimp only
  split <;> exact hprun

lemma changes_loginFinish (login : PendingLogin) (token : String) :
    (loginFinish env inner login token).Changes env (some (.password login.password)) inner
      .login := by
  have hprun := shrinks_prune inner login.now
  unfold loginFinish
  dsimp only
  split
  · exact ⟨hprun.trans (shrinks_attempts _ _), rfl⟩
  · split
    · exact ⟨hprun.trans (shrinks_attempts _ _), rfl⟩
    · rename_i hcurr
      split
      · exact ⟨hprun, rfl⟩
      · split
        · exact ⟨hprun.trans (shrinks_attempts _ _), rfl⟩
        · rename_i user hfind
          -- the second section looks at the user again
          simp only [Bool.or_eq_true, Bool.not_eq_eq_eq_not, Bool.not_true, not_or,
            Bool.not_eq_false, PendingLogin.verified, PendingLogin.isCurrent, hfind,
            Option.any_some, Bool.and_eq_true, decide_eq_true_eq] at hcurr
          obtain ⟨⟨hver, -⟩, ⟨hact, -⟩, hhash⟩ := hcurr
          rw [← hhash] at hver
          exact ⟨hprun.trans (shrinks_attempts _ _), Saves.signIn token login.now
            (Table.find_eq_some.1 hfind).1 hact ⟨_, rfl, hver⟩⟩

lemma boundUser_eq_none (h : boundUser users identity = .ok none) : Unbound users identity := by
  unfold boundUser at h
  split at h
  · rename_i hnil
    intro u hu
    simpa using List.filter_eq_nil_iff.1 hnil u hu
  · cases h
  · cases h

lemma boundUser_eq_some {u : AdminUserRecord}
    (h : boundUser users identity = .ok (some u)) : u ∈ users.rows ∧ u.isBound identity := by
  unfold boundUser at h
  split at h
  · cases h
  · rename_i v hv
    obtain rfl : v = u := by simpa using h
    exact List.mem_filter.1 (hv ▸ List.mem_singleton_self v)
  · cases h

lemma changes_finishBound {user : AdminUserRecord} (hbase : Shrinks inner base)
    (hbound : boundUser base.users identity = .ok (some user)) (token : String) (now : ℕ) :
    (finishFederatedLogin env base base user token now).Changes env (some (.identity identity))
      inner .login := by
  obtain ⟨huser, hident⟩ := boundUser_eq_some hbound
  unfold finishFederatedLogin
  split
  · exact ⟨hbase, rfl⟩
  · rename_i hact
    exact ⟨hbase, .signIn token now huser (by simpa using hact) ⟨_, rfl, hident⟩⟩

/-- The first section of a federated login either ends it or leaves the users alone. -/
def FederatedOutcome.Changes (env : AuthEnv) (identity : FederatedIdentity) (inner : AuthInner) :
    FederatedOutcome → Prop
  | .finished outcome => outcome.Changes env (some (.identity identity)) inner .login
  | .provision inner' _ => Shrinks inner inner'

lemma changes_bindOrProvision (hbase : Shrinks inner base) (hunb : Unbound base.users identity)
    (input : FederatedLoginInput) (now : ℕ) (token : String) :
    (bindOrProvision env base input identity now token).Changes env identity inner := by
  unfold bindOrProvision
  split
  · exact ⟨hbase, rfl⟩
  · split
    · split
      · exact ⟨hbase, rfl⟩
      · exact hbase
    · rename_i user huser
      split
      · rename_i hmay
        have hmem : user ∈ base.users.rows :=
          (List.mem_filter.1 (huser ▸ List.mem_singleton_self user)).1
        have hact : (user.bind identity).status = "active" := by
          simp only [mayBind, Bool.and_eq_true, decide_eq_true_eq] at hmay
          exact hmay.1.2
        unfold finishFederatedLogin
        rw [if_neg (by simp [hact])]
        exact ⟨hbase, .bind token now hmem hmay hunb rfl⟩
      · exact ⟨hbase, rfl⟩
    · exact ⟨hbase, rfl⟩

lemma changes_federatedBegin (input : FederatedLoginInput) (identity : FederatedIdentity)
    (now : ℕ) (token : String) :
    (federatedBegin env inner input identity now token).Changes env identity inner := by
  have hprun := shrinks_prune inner now
  unfold federatedBegin
  dsimp only
  split
  · exact ⟨hprun, rfl⟩
  · rename_i user hbound
    exact changes_finishBound hprun hbound token now
  · rename_i hbound
    exact changes_bindOrProvision hprun (boundUser_eq_none hbound) input now token

lemma changes_federatedFinish (hfresh : FreshId inner.users ("usr_" ++ uuid))
    (pending : PendingProvision) (passwordHash token : String) :
    (federatedFinish env inner pending uuid passwordHash token).Changes env
      (some (.identity pending.identity)) inner .login := by
  have hprun := shrinks_prune inner pending.now
  unfold federatedFinish
  dsimp only
  split
  · exact ⟨hprun, rfl⟩
  · rename_i user hbound
    exact changes_finishBound hprun hbound token pending.now
  · rename_i hbound
    split
    · exact ⟨hprun, rfl⟩
    · rename_i hfree
      exact ⟨hprun, .provision pending uuid passwordHash token hfresh
        (boundUser_eq_none hbound) (by simpa using hfree) rfl⟩

lemma shrinks_requireSession (inner : AuthInner) (token : String) (now : ℕ) :
    Shrinks inner (requireSession env inner token now).1 := by
  have hprun := shrinks_prune inner now
  unfold requireSession
  dsimp only
  split
  · exact hprun
  · split
    · exact hprun.trans (shrinks_retain _ _)
    · split
      · exact hprun
      · split <;> exact hprun

lemma changes_createUser (hfresh : FreshId inner.users ("usr_" ++ uuid))
    (input : CreateUserInput) (hash : Except AppError String) (now : ℕ) :
    (createUser inner input uuid hash now).Changes env none inner .user := by
  unfold createUser
  split
  · exact ⟨.refl inner, rfl⟩
  · rename_i user hnew
    simp only [newUser, bind_eq_ok, pure, Except.pure, Except.ok.injEq] at hnew
    obtain ⟨_, _, _, _, _, _, _, _, _, _, _, _, rfl⟩ := hnew
    split
    · exact ⟨.refl inner, rfl⟩
    · rename_i hname
      exact ⟨.refl inner, .create hfresh (by simpa using hname) rfl rfl⟩

lemma changes_updateUser (userId currentUserId : String) (input : UpdateUserInput)
    (hash : Except AppError String) (now : ℕ) :
    (updateUser inner userId currentUserId input hash now).Changes env none inner .user := by
  unfold updateUser
  split
  · exact ⟨.refl inner, rfl⟩
  · split
    · exact ⟨.refl inner, rfl⟩
    · rename_i existing hfind
      split
      · exact ⟨.refl inner, rfl⟩
      · rename_i hall
        simp only [updateAllowed, bind_eq_ok, ensure_eq_ok] at hall
        obtain ⟨-, -, hadmin⟩ := hall
        exact ⟨.refl inner, .update _ now hfind hadmin rfl⟩

lemma changes_deleteUser (userId currentUserId : String) :
    (deleteUser inner userId currentUserId).Changes env none inner .done := by
  unfold deleteUser
  split
  · exact ⟨.refl inner, rfl⟩
  · split
    · exact ⟨.refl inner, rfl⟩
    · rename_i user hfind
      split
      · exact ⟨.refl inner, rfl⟩
      · rename_i hadm
        exact ⟨.refl inner, .delete hfind hadm rfl⟩

end

/-! ### Events -/

/-- A new user gets an id that nobody has. -/
def Event.Fresh (users : Users) : Event → Prop
  | .createUser _ uuid _ _ _ | .federatedFinish _ uuid _ _ _ => FreshId users ("usr_" ++ uuid)
  | _ => True

/-- What an event signs in with. -/
def Event.means (sys : System) : Event → Option Means
  | .loginFinish i _ _ =>
    match sys.pending[i]? with
    | some (.password login) => some (.password login.password)
    | _ => none
  | .federatedBegin input _ _ _ => (federatedIdentity input).toOption.map .identity
  | .federatedFinish i _ _ _ _ =>
    match sys.pending[i]? with
    | some (.federated login) => some (.identity login.identity)
    | _ => none
  | _ => none

namespace System

variable {means : Option Means}

lemma change_finish {sys : System} {inner : AuthInner}
    {reply : Except AppError α → Reply} (h : outcome.Changes env means inner reply)
    (hreply : ∀ e, (reply (.error e)).signedIn = none) (write : Write) :
    Change env means inner (sys.finish write reply outcome).1.store.memory
      (sys.finish write reply outcome).2.signedIn := by
  have hshrink : ∀ {inner' answer}, Shrinks inner inner' → (reply answer).signedIn = none →
      Change env means inner inner' (reply answer).signedIn := fun hs hnone => hnone ▸ .shrink hs
  have hpost : outcome.Post fun inner' answer =>
      Change env means inner inner' (reply answer).signedIn := by
    cases outcome with
    | answer inner' result => exact hshrink h.1 h.2
    | save base next result => exact ⟨.save h.1 h.2, fun e => hshrink h.1 (hreply e)⟩
  exact commit_post hpost write sys.store

/-- **One event** removes sessions, or it makes one of the six changes. -/
lemma perform_change (sys : System) (e : Event) (hfresh : e.Fresh sys.store.memory.users) :
    Change env (e.means sys) sys.store.memory (sys.perform env e).1.store.memory
      (sys.perform env e).2.signedIn := by
  cases e with
  | loginBegin username password now =>
    simp only [perform, beginLogin]
    split
    · exact .shrink (.refl _)
    · rename_i name _
      have hbegin := shrinks_loginBegin sys.store.memory name password now
      split <;> rename_i heq <;> rw [heq] at hbegin <;> exact .shrink hbegin
  | loginFinish i token write =>
    rcases hpend : sys.pending[i]? with _ | login | login <;>
      simp only [perform, Event.means, hpend]
    case some.password => exact change_finish (changes_loginFinish login token) (fun _ => rfl) write
    all_goals exact .shrink (.refl _)
  | federatedBegin input now token write =>
    simp only [perform, beginFederated, Event.means]
    split <;> rename_i hident <;> rw [hident]
    · exact .shrink (.refl _)
    · rename_i identity
      have hbegin : (federatedBegin env sys.store.memory input identity now token).Changes env
          identity sys.store.memory := changes_federatedBegin input identity now token
      split <;> rename_i heq <;> rw [heq] at hbegin
      · exact change_finish hbegin (fun _ => rfl) write
      · exact .shrink hbegin
  | federatedFinish i uuid hash token write =>
    rcases hpend : sys.pending[i]? with _ | login | login <;>
      simp only [perform, Event.means, hpend]
    case some.federated =>
      cases hash with
      | error e => exact .shrink (.refl _)
      | ok passwordHash =>
        exact change_finish (changes_federatedFinish hfresh login passwordHash token)
          (fun _ => rfl) write
    all_goals exact .shrink (.refl _)
  | createUser input uuid hash now write =>
    exact change_finish (changes_createUser hfresh input hash now) (fun _ => rfl) write
  | updateUser userId currentUserId input hash now write =>
    exact change_finish (changes_updateUser userId currentUserId input hash now) (fun _ => rfl)
      write
  | deleteUser userId currentUserId write =>
    exact change_finish (changes_deleteUser userId currentUserId) (fun _ => rfl) write
  | requireSession token now => exact .shrink (shrinks_requireSession _ token now)
  | logout token => exact .shrink (shrinks_retain _ _)

end System

/-! ### Runs -/

section

variable {start : System}

/-- The ids of new users are drawn fresh, at every event of a run. -/
abbrev FreshRun (env : AuthEnv) (start : System) (events : List Event) : Prop :=
  Throughout (System.next env) (fun sys e => e.Fresh sys.store.memory.users) start events

end

end ModelPort.Auth
