import ModelPort.Auth.Invariants

/-!
# Sessions and the authority they rest on

A session is issued by a login that succeeds. It is accepted as long as its user exists, is active,
and has the password and the role that it had when the session was issued.

* `sessions_end_with_authority`: so it is since the session was issued, on every run; and a
  federated login neither signs in an administrator it is not bound to nor makes one.
-/

namespace ModelPort.Auth

open Relational Except WriteThrough Runs List

/-! ### The event that issues a session -/

variable {now : ℕ}

section

variable {env : AuthEnv} {means : Option Means} {inner next : AuthInner}
  {result : Option LoginResult} {s : AdminSession} {u : AdminUserRecord} {sys : System} {e : Event}

/-- The session is one that a successful login gave. -/
def Granted (env : AuthEnv) (result : LoginResult) (s : AdminSession) : Prop :=
  s.tokenHash = hashSessionToken env result.sessionToken ∧ s.userId = result.user.id

/-- The identity that an event signs in with. -/
def Event.identity (sys : System) : Event → Option FederatedIdentity
  | .federatedBegin input _ _ _ => (federatedIdentity input).toOption
  | .federatedFinish i _ _ _ _ =>
    match sys.pending[i]? with
    | some (.federated login) => some login.identity
    | _ => none
  | _ => none

/-- The password that an event signs in with. -/
def Event.password (sys : System) : Event → Option String
  | .loginFinish i _ _ =>
    match sys.pending[i]? with
    | some (.password login) => some login.password
    | _ => none
  | _ => none

lemma Event.means_of_password {password : String}
    (h : e.password sys = some password) : e.means sys = some (.password password) := by
  cases e <;> simp only [Event.password, Event.means] at h ⊢ <;> try cases h
  split at h <;> simp_all

lemma Event.means_of_identity {identity : FederatedIdentity}
    (h : e.identity sys = some identity) : e.means sys = some (.identity identity) := by
  cases e <;> simp only [Event.identity, Event.means] at h ⊢ <;> try cases h
  · rw [h]
    rfl
  · split at h <;> simp_all

lemma Reply.eq_of_signedIn {reply : Reply} {result : LoginResult}
    (h : reply.signedIn = some result) : reply = .login (.ok result) := by
  unfold Reply.signedIn at h
  split at h
  · rw [Option.some.inj h]
  · cases h

lemma sessions_updatedState {userId : String} {update : UserUpdate} {existing : AdminUserRecord} :
    s ∈ (updatedState inner userId update now existing).sessions.rows ↔
      s ∈ inner.sessions.rows ∧ (update.clearsSessions existing → s.userId ≠ userId) := by
  unfold updatedState
  split <;> rename_i hclears <;> simp [hclears]

/-- The session is given by a login, to a user who is active and has the password that was
given. -/
structure Opened (env : AuthEnv) (means : Option Means) (next : AuthInner)
    (result : Option LoginResult) (s : AdminSession) : Prop where
  granted : ∃ r, result = some r ∧ Granted env r s
  user : ∃ u ∈ next.users.rows, u.id = s.userId ∧ u.status = "active" ∧ ∀ password,
    means = some (.password password) → env.verifyPassword password u.passwordHash

lemma opened_openSession {user : AdminUserRecord} (huser : user ∈ inner.users.rows)
    (hact : user.status = "active") (hpass : ∀ password,
      means = some (.password password) → env.verifyPassword password user.passwordHash)
    (token : String) (now : ℕ) (hs : s ∈ (openSession env inner user token now).sessions.rows) :
    s ∈ inner.sessions.rows ∨ Opened env means (openSession env inner user token now)
      (some (loginResult env user token now)) s := by
  rcases Table.mem_put.1 hs with rfl | ⟨hs, -⟩
  · exact .inr ⟨⟨_, rfl, rfl, rfl⟩, user.touchLogin now,
      mem_openSession.2 (.inl ⟨user, huser, rfl, rfl⟩), rfl, hact, hpass⟩
  · exact .inl hs

lemma Saves.old_or_opened (h : Saves env means inner next result) (hs : s ∈ next.sessions.rows) :
    s ∈ inner.sessions.rows ∨ Opened env means next result s := by
  cases h with
  | signIn token now huser hact hmeans =>
    refine opened_openSession huser hact (fun password hpass => ?_) token now hs
    obtain ⟨m, hm, hfits⟩ := hmeans
    obtain rfl := Option.some.inj (hm.symm.trans hpass)
    exact hfits
  | @bind user identity token now huser hmay hunb hmeans =>
    simp only [mayBind, Bool.and_eq_true, decide_eq_true_eq] at hmay
    have huser' : user.bind identity ∈ (bindIdentity inner user identity).users.rows :=
      mem_bindIdentity.2 (.inl ⟨user, huser, rfl, rfl⟩)
    exact opened_openSession huser' hmay.1.2 (by simp [hmeans]) token now hs
  | provision pending uuid passwordHash token hfresh hunb hfree hmeans =>
    exact opened_openSession ((mem_putUser hfresh).2 (.inl rfl)) rfl (by simp [hmeans]) token
      pending.now hs
  | create => exact .inl hs
  | update => exact .inl (sessions_updatedState.1 hs).1
  | delete => exact .inl (mem_filter.1 hs).1

/-- **A session that is new after an event** was given by it. -/
lemma Change.old_or_opened (h : Change env means inner next result)
    (hs : s ∈ next.sessions.rows) : s ∈ inner.sessions.rows ∨ Opened env means next result s := by
  cases h with
  | shrink h => exact .inl (h.sessions s hs)
  | save hbase hnext => exact (hnext.old_or_opened hs).imp_left (hbase.sessions s)

variable {identity : FederatedIdentity}

lemma Change.admin_bound {r : LoginResult}
    (h : Change env (some (.identity identity)) inner next (some r))
    (hrole : r.user.role = "admin") :
    ∃ u ∈ inner.users.rows, u.id = r.user.id ∧ u.isBound identity := by
  cases h with
  | save hbase hnext =>
    cases hnext with
    | @signIn user token now huser hact hmeans =>
      obtain ⟨_, ⟨⟩, hfits⟩ := hmeans
      exact ⟨user, hbase.users ▸ huser, rfl, hfits⟩
    | bind token now huser hmay =>
      simp only [mayBind, Bool.and_eq_true, decide_eq_true_eq] at hmay
      exact absurd hrole hmay.1.1
    | provision => exact absurd (show "user" = "admin" from hrole) (by decide)

lemma Shrinks.not_fresh (h : Shrinks inner next) (hu : u ∈ next.users.rows) :
    ¬ FreshId inner.users u.id :=
  fun hfresh => hfresh u (h.users ▸ hu) rfl

lemma Change.created_user (h : Change env (some (.identity identity)) inner next result)
    (hu : u ∈ next.users.rows) (hfresh : FreshId inner.users u.id) : u.role = "user" := by
  cases h with
  | shrink h => exact (h.not_fresh hu hfresh).elim
  | save hbase hnext =>
    cases hnext with
    | signIn =>
      rcases mem_openSession.1 hu with ⟨v, hv, -, rfl⟩ | ⟨hv, -⟩ <;>
        exact (hbase.not_fresh hv hfresh).elim
    | bind =>
      rcases mem_openSession.1 hu with ⟨v, hv, -, rfl⟩ | ⟨hv, -⟩ <;>
        rcases mem_bindIdentity.1 hv with ⟨w, hw, -, rfl⟩ | ⟨hw, -⟩ <;>
          exact (hbase.not_fresh hw hfresh).elim
    | provision =>
      rcases mem_openSession.1 hu with ⟨v, hv, -, rfl⟩ | ⟨hv, -⟩ <;>
        rcases Table.mem_put.1 hv with rfl | ⟨hw, -⟩ <;>
          first | rfl | exact (hbase.not_fresh hw hfresh).elim
    | create _ _ _ hmeans | update _ _ _ _ hmeans | delete _ _ hmeans => cases hmeans

/-! ### A session keeps its user's authority -/

/-- What a session rests on. -/
def AdminUserRecord.authority (u : AdminUserRecord) : String × String × String :=
  (u.passwordHash, u.role, u.status)

/-- A user is still there and has the authority it had. -/
def Keeps (inner : AuthInner) (u : AdminUserRecord) : Prop :=
  ∃ v ∈ inner.users.rows, v.id = u.id ∧ v.authority = u.authority

lemma keeps_modifyUser (hu : u ∈ inner.users.rows) (id : String)
    (f : AdminUserRecord → AdminUserRecord) (hf : ∀ u, (f u).id = u.id)
    (hauth : u.id = id → (f u).authority = u.authority) (sessions : Sessions)
    (attempts : Attempts) : Keeps ⟨modifyUser inner.users id f hf, sessions, attempts⟩ u := by
  by_cases hid : u.id = id
  · exact ⟨f u, (mem_modifyUser hf).2 (.inl ⟨u, hu, hid, rfl⟩), hf u, hauth hid⟩
  · exact ⟨u, (mem_modifyUser hf).2 (.inr ⟨hu, hid⟩), rfl, rfl⟩

lemma Keeps.openSession (h : Keeps inner u) (user : AdminUserRecord) (token : String) (now : ℕ) :
    Keeps (Auth.openSession env inner user token now) u := by
  obtain ⟨v, hv, hid, hauth⟩ := h
  obtain ⟨w, hw, hid', hauthority'⟩ : Keeps (Auth.openSession env inner user token now) v :=
    keeps_modifyUser hv user.id (.touchLogin now) (fun _ => rfl) (fun _ => rfl) _ _
  exact ⟨w, hw, hid'.trans hid, hauthority'.trans hauth⟩

lemma Saves.authority_kept (h : Saves env means inner next result) (hs : s ∈ next.sessions.rows)
    (hu : u ∈ inner.users.rows) (hid : u.id = s.userId) (hact : u.status = "active") :
    Keeps next u := by
  cases h with
  | signIn token now huser hact => exact .openSession ⟨u, hu, rfl, rfl⟩ _ token now
  | @bind user identity token now huser hmay hunb =>
    refine .openSession ?_ _ token now
    exact keeps_modifyUser hu user.id (.bind identity) (fun _ => rfl) (fun _ => rfl)
      _ _
  | provision pending uuid passwordHash token hfresh hunb hfree =>
    refine Keeps.openSession ⟨u, ?_, rfl, rfl⟩ _ token pending.now
    exact (mem_putUser hfresh).2 (.inr hu)
  | create hfresh hname hidentities => exact ⟨u, (mem_putUser hfresh).2 (.inr hu), rfl, rfl⟩
  | @update userId existing update now hfind hadmin =>
    refine keeps_modifyUser hu userId (update.apply now) (fun _ => rfl) (fun huser => ?_) _ _
    obtain ⟨hmem, hexisting⟩ := find_user_eq_some.1 hfind
    obtain rfl := eq_of_userId hu hmem (huser.trans hexisting.symm)
    have hclears : update.clearsSessions u = false := by
      by_contra hclears
      exact (sessions_updatedState.1 hs).2 (by simpa using hclears) (hid.symm.trans huser)
    simp only [UserUpdate.clearsSessions, Bool.or_eq_false_iff, Option.isSome_eq_false_iff,
      Option.isNone_iff_eq_none, decide_eq_false_iff_not, Decidable.not_not] at hclears
    obtain ⟨⟨hpass, hstat⟩, hrole⟩ := hclears
    rw [hact] at hstat
    simp [AdminUserRecord.authority, UserUpdate.apply, hpass, hstat, hrole, hact]
  | delete hfind hadm =>
    refine ⟨u, mem_filter.2 ⟨hu, ?_⟩, rfl, rfl⟩
    rw [hid]
    exact (mem_filter.1 hs).2

/-- **A session that an event leaves** keeps its user's authority. -/
lemma Change.authority_kept (h : Change env means inner next result) (hs : s ∈ next.sessions.rows)
    (hu : u ∈ inner.users.rows) (hid : u.id = s.userId) (hact : u.status = "active") :
    Keeps next u := by
  cases h with
  | shrink hshr => exact ⟨u, hshr.users ▸ hu, rfl, rfl⟩
  | save hbase hnext => exact hnext.authority_kept hs (hbase.users ▸ hu) hid hact

end

/-! ### Runs -/

section

variable {env : AuthEnv} {start : System}

/-- The event issues the session, to a user with this password hash. -/
structure Issues (env : AuthEnv) (s : AdminSession) (hash : String) (sys : System) (e : Event) :
    Prop where
  granted : ∃ result, (sys.perform env e).2 = .login (.ok result) ∧ Granted env result s
  password : ∀ password, e.password sys = some password → env.verifyPassword password hash

/-- The user of the session is there, with this authority. -/
def Rests (s : AdminSession) (role hash : String) (sys : System) : Prop :=
  ∃ u ∈ sys.store.memory.users.rows, u.id = s.userId ∧ u.authority = (hash, role, "active")

/-- Every session of a run was issued in it, and has rested on the same authority since. -/
lemma since_issued {events : List Event} (hstart : start.store.memory.sessions.rows = [])
    (hfresh : FreshRun env start events) {s : AdminSession}
    (hs : s ∈ (start.after env events).store.memory.sessions.rows) :
    ∃ role hash, Since (System.next env) (Issues env s hash) (Rests s role hash) start events := by
  induction events using List.reverseRecOn with
  | nil =>
    rw [show (start.after env []).store.memory.sessions.rows = [] from hstart] at hs
    cases hs
  | append_singleton events e ih =>
    have hchg := @System.perform_change env (start.after env events) e hfresh.last
    rw [← System.after_append] at hchg
    rcases hchg.old_or_opened hs with hold | ⟨⟨result, hres, hgrant⟩, u, hu, hid, hact, hpass⟩
    · obtain ⟨role, hash, hsince⟩ := ih hfresh.init hold
      refine ⟨role, hash, hsince.carry ?_⟩
      obtain ⟨u, hu, hid, hauth⟩ := hsince.holds
      have hact : u.status = "active" := congrArg (fun a => a.2.2) hauth
      obtain ⟨v, hv, hid', hauthority'⟩ := hchg.authority_kept hs hu hid hact
      exact ⟨v, hv, hid'.trans hid, hauthority'.trans hauth⟩
    · exact ⟨u.role, u.passwordHash, .begin ⟨⟨result, Reply.eq_of_signedIn hres, hgrant⟩,
          fun password h => hpass password (Event.means_of_password h)⟩
        ⟨u, hu, hid, by simp [AdminUserRecord.authority, hact]⟩⟩

lemma requireSession_eq_ok {inner : AuthInner} {token : String} {user : PublicUser}
    (h : (requireSession env inner token now).2 = .ok user) :
    ∃ s ∈ inner.sessions.rows, s.tokenHash = hashSessionToken env token ∧
      ∃ u ∈ inner.users.rows, u.id = s.userId ∧ user = publicUser u := by
  unfold requireSession at h
  dsimp only at h
  split at h
  · cases h
  · rename_i s hfind
    obtain ⟨hs, htoken⟩ := Table.find_eq_some.1 hfind
    split at h
    · cases h
    · split at h
      · cases h
      · rename_i u huser
        split at h
        · cases h
        · obtain ⟨hu, hid⟩ := find_user_eq_some.1 huser
          refine ⟨s, (mem_filter.1 hs).1, ?_, u, hu, hid, (Except.ok.inj h).symm⟩
          exact (mem_singleton.1 htoken).symm

end

/-- **Sessions end with the authority they were issued under.** On every run, from a start without
sessions, an accepted session was given by a login that succeeded, and in every state since then
its user is there, active, and has the same role and password hash; a password login was made with
the password of that hash. A federated login signs in no administrator who is not bound to its
identity, and makes no administrator. Ids of new users are drawn fresh. -/
theorem sessions_end_with_authority (env : AuthEnv) (start : System) (events : List Event)
    (hstart : start.store.memory.sessions.rows = []) (hfresh : FreshRun env start events) :
    (∀ token now user,
      (requireSession env (start.after env events).store.memory token now).2 = .ok user →
      ∃ earlier e later result hash, events = earlier ++ e :: later ∧
        ((start.after env earlier).perform env e).2 = .login (.ok result) ∧
        hashSessionToken env result.sessionToken = hashSessionToken env token ∧
        result.user.id = user.id ∧
        (∀ password, e.password (start.after env earlier) = some password →
          env.verifyPassword password hash) ∧
        ∀ l1 l2, later = l1 ++ l2 →
          ∃ u ∈ (start.after env (earlier ++ e :: l1)).store.memory.users.rows,
            u.id = user.id ∧ u.status = "active" ∧ u.role = user.role ∧ u.passwordHash = hash) ∧
    ∀ earlier e later identity, events = earlier ++ e :: later →
      e.identity (start.after env earlier) = some identity →
      (∀ result, ((start.after env earlier).perform env e).2 = .login (.ok result) →
        result.user.role = "admin" →
        ∃ u ∈ (start.after env earlier).store.memory.users.rows,
          u.id = result.user.id ∧ u.isBound identity) ∧
      ∀ v ∈ (start.after env (earlier ++ [e])).store.memory.users.rows,
        FreshId (start.after env earlier).store.memory.users v.id → v.role = "user" := by
  constructor
  · intro token now user hacc
    obtain ⟨s, hs, htoken, u, hu, hid, rfl⟩ := requireSession_eq_ok hacc
    obtain ⟨role, hash, earlier, e, later, rfl, ⟨⟨result, hreply, hgrant⟩, hpass⟩, hheld⟩ :=
      since_issued hstart hfresh hs
    have hrole : u.role = role := by
      obtain ⟨v, hv, hid', hauth⟩ := hheld later [] (by simp)
      obtain rfl := eq_of_userId hu hv (hid.trans hid'.symm)
      exact congrArg (fun a => a.2.1) hauth
    refine ⟨earlier, e, later, result, hash, rfl, hreply, hgrant.1.symm.trans htoken,
      hgrant.2.symm.trans hid.symm, hpass, ?_⟩
    intro l1 l2 hsplit
    obtain ⟨v, hv, hid', hauth⟩ := hheld l1 l2 hsplit
    refine ⟨v, hv, hid'.trans hid.symm, congrArg (fun a => a.2.2) hauth, ?_,
      congrArg (fun a => a.1) hauth⟩
    exact (congrArg (fun a => a.2.1) hauth).trans hrole.symm
  · intro earlier e later identity hsplit hident
    have hchg : Change env _ _ _ _ :=
      System.perform_change _ e (hfresh earlier e later hsplit)
    rw [Event.means_of_identity hident] at hchg
    refine ⟨fun result hreply => ?_, fun v hv => ?_⟩
    · rw [hreply] at hchg
      exact hchg.admin_bound
    · rw [System.after_append] at hv
      exact hchg.created_user hv

/-- The administrator signs in, and the session is accepted. -/
theorem sessions_end_with_authority_first_login :
    let env : AuthEnv := ⟨id, fun password hash => password = hash, 60⟩
    let root : AdminUserRecord := ⟨"root", "root", "r@x", "admin", "active", "h", 0, 0, none, []⟩
    let events : List Event := [.loginBegin "Root" "h" 2, .loginFinish 0 "t" .acknowledged]
    let accepted := requireSession env ((System.installed root).after env events).store.memory "t" 3
    accepted.2 = .ok ⟨"root", "root", "r@x", "admin", "active"⟩ ∧
      ∃ earlier e later result, events = earlier ++ e :: later ∧
        (((System.installed root).after env earlier).perform env e).2 = .login (.ok result) ∧
        ∀ l1 l2, later = l1 ++ l2 →
          ∃ u ∈ ((System.installed root).after env (earlier ++ e :: l1)).store.memory.users.rows,
            u.id = "root" ∧ u.status = "active" ∧ u.role = "admin" := by
  intro env root events accepted
  have hacc : accepted.2 = .ok ⟨"root", "root", "r@x", "admin", "active"⟩ := by
    decide +kernel
  have hfresh : FreshRun env (.installed root) events := by
    intro earlier e later hsplit
    have hmem : e ∈ events := hsplit ▸ mem_append_right earlier mem_cons_self
    simp only [events, mem_cons, not_mem_nil, or_false] at hmem
    rcases hmem with rfl | rfl <;> trivial
  obtain ⟨earlier, e, later, result, hash, hsplit, hreply, -, -, -, hheld⟩ :=
    (sessions_end_with_authority env (.installed root) events rfl hfresh).1 "t" 3 _ hacc
  refine ⟨hacc, earlier, e, later, result, hsplit, hreply, fun l1 l2 hlater => ?_⟩
  obtain ⟨u, hu, hid, hact, hrole, -⟩ := hheld l1 l2 hlater
  exact ⟨u, hu, hid, hact, hrole⟩

end ModelPort.Auth
