import ModelPort.Auth.Invariants

/-!
# Lockout of an account

Failed logins are counted under the name as it was given, without its outer white space; the user
is looked up without regard to case. An account has therefore as many counters as its name has
spellings, and a counter can be lost: to an eviction from the full table, or to a login with the
right password that cannot be saved.

* `login_ends`: what a login does to the table of failed logins.
* `account_lockout`: five failed logins lock the account, on runs without the above.
* `spellings_share_no_lockout`: five of them in two spellings do not.
-/

namespace ModelPort.Auth

open Relational Except WriteThrough Runs List

variable {name spelling account : String} {a : LoginAttempt} {store : AuthStore} {c : LoginCall}
  {env : AuthEnv}

/-! ### The table of failed logins -/

section

variable {attempts : Attempts} {now : ℕ}

lemma find_attempt_eq_some :
    attempts.find name = some a ↔ a ∈ attempts.rows ∧ a.username = name := by
  rw [Table.find_eq_some, mem_singleton, eq_comm (a := name)]

/-- A record that is not the oldest one stays. -/
lemma find_makeRoom (h : attempts.find spelling = some a)
    (hkept : attempts.find name = none → maxLoginAttemptRecords ≤ attempts.rows.length →
      ∀ oldest, oldestAttempt attempts.rows = some oldest → oldest.username ≠ spelling) :
    (makeRoom attempts name).find spelling = some a := by
  unfold makeRoom
  split
  · rename_i hfull
    simp only [Bool.and_eq_true, Option.isNone_iff_eq_none, decide_eq_true_eq] at hfull
    split
    · rename_i oldest holdest
      refine Table.find_retain_of_some h ?_
      have hne := hkept hfull.1 hfull.2 oldest holdest
      rw [← (find_attempt_eq_some.1 h).2] at hne
      simpa using Ne.symm hne
    · exact h
  · exact h

/-- The name that gets room keeps its record, or stays without one. -/
lemma find_makeRoom_self : (makeRoom attempts name).find name = attempts.find name := by
  unfold makeRoom
  split
  · rename_i hfull
    simp only [Bool.and_eq_true, Option.isNone_iff_eq_none, decide_eq_true_eq] at hfull
    split
    · rw [Table.find_retain, hfull.1, Option.filter_none]
    · rfl
  · rfl

lemma find_recordFailedLogin_self : (recordFailedLogin attempts name now).find name =
      some (recordFailedAttempt now ((attempts.find name).getD (.none name))) := by
  unfold recordFailedLogin
  dsimp only
  rw [find_makeRoom_self]
  refine Table.find_put_self ?_
  rw [username_recordFailedAttempt, mem_singleton]
  cases h : attempts.find name with
  | none => rfl
  | some a => exact (find_attempt_eq_some.1 h).2.symm

lemma find_recordFailedLogin_of_ne (h : attempts.find spelling = some a) (hne : name ≠ spelling)
    (hkept : attempts.find name = none → maxLoginAttemptRecords ≤ attempts.rows.length →
      ∀ oldest, oldestAttempt attempts.rows = some oldest → oldest.username ≠ spelling) :
    (recordFailedLogin attempts name now).find spelling = some a := by
  unfold recordFailedLogin
  refine Table.find_put_of_apart (find_makeRoom h hkept) ?_
  -- the written record has the other name
  have hname : (((makeRoom attempts name).find name).getD (.none name)).username = name := by
    cases h' : (makeRoom attempts name).find name with
    | none => rfl
    | some b => exact (find_attempt_eq_some.1 h').2
  have ha := (find_attempt_eq_some.1 h).2
  simp [Apart, username_recordFailedAttempt, hname, ha, hne]

end

/-! ### One login -/

/-- A call of `login`, with what it gets from outside. -/
structure LoginCall where
  username : String
  password : String
  now : ℕ
  token : String
  write : Write

section

variable (env : AuthEnv)

def LoginCall.run (store : AuthStore) (c : LoginCall) : AuthStore × Except AppError LoginResult :=
  login env c.username c.password c.now c.token c.write store

/-- One login. -/
def loginStep (store : AuthStore) (c : LoginCall) : AuthStore := (c.run env store).1

/-- The login succeeds. -/
def LoginCall.Succeeds (store : AuthStore) (c : LoginCall) : Prop :=
  ∃ result, (c.run env store).2 = .ok result

/-- The login names the account: its name is the account's, up to ASCII case. -/
def LoginCall.Names (account : String) (c : LoginCall) : Prop :=
  ∃ name, normalizeUsername c.username = .ok name ∧ eqIgnoreAsciiCase account name

/-- The password is that of an active user whom the name resolves to. -/
def LoginCall.Knows (store : AuthStore) (c : LoginCall) : Prop :=
  ∃ name user, normalizeUsername c.username = .ok name ∧
    userByName store.memory.users name = some user ∧
    env.verifyPassword c.password user.passwordHash ∧ user.status = "active"

/-- The records that are still valid when the login is made. -/
def LoginCall.attempts (store : AuthStore) (c : LoginCall) : Attempts :=
  pruneLoginAttempts store.memory.attempts c.now

variable {env}

/-- How a login that passes the checks on its input ends. -/
inductive LoginEnds (env : AuthEnv) (store : AuthStore) (c : LoginCall) (name : String) : Prop
  /-- the name is locked -/
  | locked (hlocked : isLocked (c.attempts store) name c.now)
      (hatt : (loginStep env store c).memory.attempts = c.attempts store)
      (hfails : ¬ c.Succeeds env store)
  /-- the login fails and is counted -/
  | failed (hlocked : isLocked (c.attempts store) name c.now = false)
      (hatt : (loginStep env store c).memory.attempts =
        recordFailedLogin (c.attempts store) name c.now)
      (hfails : ¬ c.Succeeds env store)
  /-- the password is right -/
  | verified (hlocked : isLocked (c.attempts store) name c.now = false)
      (hatt : (loginStep env store c).memory.attempts =
        (c.attempts store).retain fun a => a.username ≠ name)
      (hknows : c.Knows env store)
      (hsucceeds : c.write = .acknowledged → store.documentRevision = store.revision →
        c.Succeeds env store)

lemma not_succeeds (h : (c.run env store).2 = .error .auth) : ¬ c.Succeeds env store := by
  rintro ⟨result, hres⟩
  rw [h] at hres
  cases hres

/-- The second section of a login that finds the name unlocked. -/
lemma loginFinish_cases (inner : AuthInner) (login : PendingLogin)
    (hcand : login.candidate = userByName inner.users login.username)
    (hlocked : isLocked inner.attempts login.username login.now = false) (token : String) :
    (∃ inner', loginFinish env inner login token = .answer inner' (.error .auth) ∧
      inner'.attempts = recordFailedLogin inner.attempts login.username login.now) ∨
    ∃ base next result user, loginFinish env inner login token = .save base next result ∧
      userByName inner.users login.username = some user ∧ login.verified env user ∧
      base.attempts = (inner.attempts.retain fun a => a.username ≠ login.username) ∧
      next.attempts = inner.attempts.retain fun a => a.username ≠ login.username := by
  cases huser : userByName inner.users login.username with
  | none =>
    rw [huser] at hcand
    refine .inl ⟨failLogin (pruneExpiredSessions inner login.now) login, ?_, rfl⟩
    simp [loginFinish, hcand]
  | some user =>
    rw [huser] at hcand
    by_cases hver : login.verified env user
    · -- nothing came between the two sections
      have hname := List.find?_some huser
      have hfind : (pruneExpiredSessions inner login.now).users.find user.id = some user :=
        find_user_eq_some.2 ⟨mem_of_find?_eq_some huser, rfl⟩
      have hact : user.status = "active" := by
        simp only [PendingLogin.verified, Bool.and_eq_true, decide_eq_true_eq] at hver
        exact hver.2
      have hcurr : login.isCurrent user (pruneExpiredSessions inner login.now).users := by
        simp [PendingLogin.isCurrent, hfind, hname, hact]
      have hlock' : isLocked (pruneExpiredSessions inner login.now).attempts login.username
          login.now = false := hlocked
      let base : AuthInner := { pruneExpiredSessions inner login.now with
        attempts := inner.attempts.retain fun a => a.username ≠ login.username }
      have hsave : loginFinish env inner login token =
          .save base (openSession env base user token login.now)
            (loginResult env user token login.now) := by
        simp only [loginFinish, hcand, hver, hcurr, hlock', hfind, Bool.not_true,
          Bool.or_self, Bool.false_eq_true, if_false]
        rfl
      exact .inr ⟨base, _, _, user, hsave, rfl, hver, rfl, rfl⟩
    · refine .inl ⟨failLogin (pruneExpiredSessions inner login.now) login, ?_, rfl⟩
      simp [loginFinish, hcand, hver]

lemma login_ends (env : AuthEnv) (store : AuthStore)
    (hname : normalizeUsername c.username = .ok name)
    (hpass : c.password.isEmpty = false ∧ byteLen c.password ≤ maxPasswordBytes) :
    LoginEnds env store c name := by
  have hinput : loginInput c.username c.password = .ok name := by
    simp [loginInput, hname, hpass, ensure, bind, Except.bind, pure, Except.pure]
  set inner : AuthInner :=
    { pruneExpiredSessions store.memory c.now with attempts := c.attempts store } with hinner
  cases hlocked : isLocked (c.attempts store) name c.now with
  | true =>
    have hbegin : loginBegin store.memory name c.password c.now = (inner, .error .auth) := by
      exact if_pos hlocked
    have hrun : c.run env store = ({ store with memory := inner }, .error .auth) := by
      simp only [LoginCall.run, login, hinput, hbegin]
    exact .locked hlocked (by rw [loginStep, hrun]) (not_succeeds (by rw [hrun]))
  | false =>
    set login : PendingLogin := ⟨name, c.password, c.now, userByName inner.users name⟩ with hlogin
    have hbegin : loginBegin store.memory name c.password c.now = (inner, .ok login) := by
      have hunl : ¬ isLocked (c.attempts store) name c.now = true := by simp [hlocked]
      exact if_neg hunl
    have hrun : c.run env store =
        commit c.write { store with memory := inner } (loginFinish env inner login c.token) := by
      simp only [LoginCall.run, Auth.login, hinput, hbegin]
    rcases loginFinish_cases inner login rfl hlocked c.token with
      ⟨inner', hfin, hatt⟩ |
      ⟨base, next, result, user, hfin, huser, hver, hbase, hnext⟩
    · rw [hfin] at hrun
      refine .failed hlocked (by rw [loginStep, hrun]; exact hatt) (not_succeeds ?_)
      rw [hrun, commit]
    · rw [hfin] at hrun
      simp only [PendingLogin.verified, Bool.and_eq_true, decide_eq_true_eq] at hver
      refine .verified hlocked ?_ ⟨name, user, hname, huser, hver.1, hver.2⟩ ?_
      · have hpost : (Outcome.save base next result).Post fun inner' _ =>
            inner'.attempts = (c.attempts store).retain fun a => a.username ≠ name :=
          ⟨hnext, fun _ => hbase⟩
        rw [loginStep, hrun]
        exact commit_post hpost c.write _
      · intro hwrite hrev
        exact ⟨result, by simp [hrun, commit, Cell.save, hwrite, hrev]⟩

end

/-! ### Runs of logins -/

/-- Failed logins of an account: `k` of them, the last at `t`, each made before the record of the
one before it expires, and no login of the account succeeds between them. -/
inductive Failures (env : AuthEnv) (account : String) (store : AuthStore) :
    List LoginCall → ℕ → ℕ → Prop
  | first {calls : List LoginCall} {c : LoginCall} (hnames : c.Names account)
      (hfails : ¬ c.Succeeds env (after (loginStep env) store calls)) :
      Failures env account store (calls ++ [c]) 1 c.now
  | next {calls : List LoginCall} {k t : ℕ} {c : LoginCall}
      (h : Failures env account store calls k t) (hnames : c.Names account)
      (hfails : ¬ c.Succeeds env (after (loginStep env) store calls))
      (hwithin : c.now < t + loginAttemptRetentionMs) :
      Failures env account store (calls ++ [c]) (k + 1) c.now
  | other {calls : List LoginCall} {k t : ℕ} {c : LoginCall}
      (h : Failures env account store calls k t)
      (hother : c.Names account → ¬ c.Succeeds env (after (loginStep env) store calls)) :
      Failures env account store (calls ++ [c]) k t

/-- The condition on a login: if it names the account it does so in one spelling, its password is
one that is counted, and, if it is right, the login is saved; and it does not push the account's
record out of a full table. -/
structure Regular (env : AuthEnv) (account spelling : String) (store : AuthStore)
    (c : LoginCall) : Prop where
  spelled : ∀ name, normalizeUsername c.username = .ok name →
    eqIgnoreAsciiCase account name → name = spelling
  counted : c.Names account → c.password.isEmpty = false ∧ byteLen c.password ≤ maxPasswordBytes
  saved : c.Names account → c.Knows env store →
    c.write = .acknowledged ∧ store.documentRevision = store.revision
  kept : ∀ name, normalizeUsername c.username = .ok name → (c.attempts store).find name = none →
    maxLoginAttemptRecords ≤ (c.attempts store).rows.length →
    ∀ oldest, oldestAttempt (c.attempts store).rows = some oldest → oldest.username ≠ spelling
  clock : c.now < u64Max

/-- The account is not locked when the login is made, and is not locked by it. -/
def Calm (spelling : String) (store : AuthStore) (c : LoginCall) : Prop :=
  ∀ a ∈ (c.attempts store).find spelling,
    a.lockedUntilMs ≤ c.now ∧ a.failedCount + 1 < maxFailedAttempts

section

/-- A record that has not expired is there when the login is made. -/
lemma find_attempts (h : store.memory.attempts.find spelling = some a)
    (hvalid : c.now < a.lockedUntilMs ∨ c.now < saturatingAdd a.lastAttemptMs
      loginAttemptRetentionMs) : (c.attempts store).find spelling = some a :=
  Table.find_retain_of_some h (by simpa using hvalid)

section

variable (hregular : Regular env account spelling store c)

include hregular

lemma find_run_of_other (hother : ¬ c.Names account) (hspell : eqIgnoreAsciiCase account spelling)
    (h : store.memory.attempts.find spelling = some a)
    (hvalid : (c.attempts store).find spelling = some a) :
    (loginStep env store c).memory.attempts.find spelling = some a := by
  cases hinput : loginInput c.username c.password with
  | error e =>
    simpa [loginStep, LoginCall.run, login, hinput] using h
  | ok name =>
    simp only [loginInput, bind_eq_ok, ensure_eq_ok, pure, Except.pure, Except.ok.injEq,
      Bool.and_eq_true, Bool.not_eq_eq_eq_not, Bool.not_true, decide_eq_true_eq] at hinput
    obtain ⟨_, hname, -, hpass, rfl⟩ := hinput
    rename_i name
    have hne : name ≠ spelling := by
      rintro rfl
      exact hother ⟨name, hname, hspell⟩
    have ha : a.username ≠ name := (find_attempt_eq_some.1 h).2.symm ▸ Ne.symm hne
    rcases login_ends env store hname hpass with ⟨-, hatt, -⟩ | ⟨-, hatt, -⟩ | ⟨-, hatt, -, -⟩
    · rw [hatt]
      exact hvalid
    · rw [hatt]
      exact find_recordFailedLogin_of_ne hvalid hne (hregular.kept name hname)
    · rw [hatt]
      exact Table.find_retain_of_some hvalid (by simpa using ha)

/-- A regular login of the account ends as one under its spelling. -/
lemma Regular.ends (hnames : c.Names account) : LoginEnds env store c spelling := by
  obtain ⟨name, hname, hacc⟩ := id hnames
  obtain rfl := hregular.spelled name hname hacc
  exact login_ends env store hname (hregular.counted hnames)

lemma find_run_of_failed (hnames : c.Names account) (hfails : ¬ c.Succeeds env store)
    (hunl : isLocked (c.attempts store) spelling c.now = false) :
    (loginStep env store c).memory.attempts.find spelling = some (recordFailedAttempt c.now
        (((c.attempts store).find spelling).getD (.none spelling))) := by
  rcases hregular.ends hnames with ⟨hlocked, -, -⟩ | ⟨-, hatt, -⟩ | ⟨-, -, hknows, hsucceeds⟩
  · rw [hunl] at hlocked
    cases hlocked
  · rw [hatt]
    exact find_recordFailedLogin_self
  · obtain ⟨hwrite, hrev⟩ := hregular.saved hnames hknows
    exact absurd (hsucceeds hwrite hrev) hfails

lemma run_of_locked (hnames : c.Names account) (hvalid : (c.attempts store).find spelling = some a)
    (hlocked : c.now < a.lockedUntilMs) :
    ¬ c.Succeeds env store ∧ (loginStep env store c).memory.attempts.find spelling = some a := by
  have hlock' : isLocked (c.attempts store) spelling c.now := by
    simp [isLocked, hvalid, hlocked]
  rcases hregular.ends hnames with ⟨-, hatt, hfails⟩ | ⟨hunl, -, -⟩ | ⟨hunl, -, -, -⟩
  · rw [hatt]
    exact ⟨hfails, hvalid⟩
  · rw [hlock'] at hunl
    cases hunl
  · rw [hlock'] at hunl
    cases hunl

end

end

section

variable {t k limit : ℕ}

/-- The record of the account counts `k` failures, the last not before `t`, and it is not locked
from `limit` on. -/
def Counted (spelling : String) (store : AuthStore) (k t limit : ℕ) : Prop :=
  ∃ a, store.memory.attempts.find spelling = some a ∧ k ≤ a.failedCount ∧ t ≤ a.lastAttemptMs ∧
    a.lockedUntilMs ≤ limit

lemma isLocked_eq_false {attempts : Attempts} {now : ℕ}
    (h : ∀ a, attempts.find spelling = some a → a.lockedUntilMs ≤ now) :
    isLocked attempts spelling now = false := by
  unfold isLocked
  cases hfind : attempts.find spelling with
  | none => rfl
  | some a => simpa using h a hfind

lemma counted_run (hregular : Regular env account spelling store c)
    (hnames : c.Names account) (hfails : ¬ c.Succeeds env store) (hcalm : Calm spelling store c) :
    Counted spelling (loginStep env store c)
      ((((c.attempts store).find spelling).getD (.none spelling)).failedCount + 1) c.now c.now := by
  have hunl := isLocked_eq_false fun a ha => (hcalm a ha).1
  have hfind := find_run_of_failed hregular hnames hfails hunl
  have hcalm' : (((c.attempts store).find spelling).getD (.none spelling)).lockedUntilMs ≤ c.now ∧
      (((c.attempts store).find spelling).getD (.none spelling)).failedCount + 1
        < maxFailedAttempts := by
    cases h : (c.attempts store).find spelling with
    | none => simp [LoginAttempt.none, maxFailedAttempts]
    | some a => exact hcalm a h
  rw [recordFailedAttempt, if_neg (Nat.not_le.2 hcalm'.2)] at hfind
  exact ⟨_, hfind, Nat.le_refl _, Nat.le_refl _, hcalm'.1⟩

lemma Counted.find_attempts (h : Counted spelling store k t limit)
    (hwithin : c.now < t + loginAttemptRetentionMs) (hclock : c.now < u64Max) :
    ∃ a, store.memory.attempts.find spelling = some a ∧ (c.attempts store).find spelling = some a ∧
      k ≤ a.failedCount ∧ t ≤ a.lastAttemptMs ∧ a.lockedUntilMs ≤ limit := by
  obtain ⟨a, hfind, hk, ht, hlocked⟩ := h
  refine ⟨a, hfind, Auth.find_attempts hfind (.inr ?_), hk, ht, hlocked⟩
  unfold saturatingAdd
  omega

variable {calls : List LoginCall}

lemma Failures.exists_mem (h : Failures env account store calls k t) : ∃ c ∈ calls, c.now = t := by
  induction h with
  | first | next => exact ⟨_, by simp, rfl⟩
  | other h hother ih =>
    obtain ⟨c, hc, ht⟩ := ih
    exact ⟨c, mem_append_left _ hc, ht⟩

/-- Failures that do not lock the account are all counted. -/
lemma counted_of_failures (h : Failures env account store calls k t)
    (hspell : eqIgnoreAsciiCase account spelling)
    (hregular : Throughout (loginStep env) (Regular env account spelling) store calls)
    (hcalm : Throughout (loginStep env) (fun s c => c.Names account → Calm spelling s c)
      store calls)
    (htimes : calls.Pairwise fun c d => c.now ≤ d.now)
    (hlimit : ∀ c ∈ calls, c.now ≤ limit) (hwithin : limit < t + loginAttemptRetentionMs) :
    Counted spelling (after (loginStep env) store calls) k t limit := by
  induction h generalizing limit with
  | @first calls c hnames hfails =>
    rw [after_concat]
    obtain ⟨a, hfind, hk, ht, hlocked⟩ :=
      counted_run hregular.last hnames hfails (hcalm.last hnames)
    exact ⟨a, hfind, by omega, ht, Nat.le_trans hlocked (hlimit c (by simp))⟩
  | @next calls k t c h hnames hfails hsoon ih =>
    obtain ⟨htimes', -, hbef⟩ := pairwise_append.1 htimes
    -- the earlier failures are still counted at this one
    have hcount :=
      ih hregular.init hcalm.init htimes' (fun d hd => hbef d hd c (by simp)) hsoon
    obtain ⟨a, -, hvalid, hk, -, -⟩ := hcount.find_attempts hsoon hregular.last.clock
    rw [after_concat]
    obtain ⟨b, hfind, hk', ht, hlocked⟩ :=
      counted_run hregular.last hnames hfails (hcalm.last hnames)
    rw [hvalid] at hk'
    exact ⟨b, hfind, Nat.le_trans (Nat.succ_le_succ hk) hk', ht,
      Nat.le_trans hlocked (hlimit c (by simp))⟩
  | @other calls k t c h hother ih =>
    obtain ⟨htimes', -, hbef⟩ := pairwise_append.1 htimes
    have hcount := ih hregular.init hcalm.init htimes'
      (fun d hd => hlimit d (mem_append_left _ hd)) hwithin
    have hsoon := Nat.lt_of_le_of_lt (hlimit c (by simp)) hwithin
    obtain ⟨a, hold, hvalid, hk, ht, hlocked⟩ :=
      hcount.find_attempts hsoon hregular.last.clock
    rw [after_concat]
    by_cases hnames : c.Names account
    · obtain ⟨b, hfind, hk', ht', hlock'⟩ :=
        counted_run hregular.last hnames (hother hnames) (hcalm.last hnames)
      rw [hvalid] at hk'
      obtain ⟨d, hd, rfl⟩ := h.exists_mem
      exact ⟨b, hfind, Nat.le_trans (Nat.le_succ_of_le hk) hk',
        Nat.le_trans (hbef d hd c (by simp)) ht', Nat.le_trans hlock' (hlimit c (by simp))⟩
    · exact ⟨a, find_run_of_other hregular.last hnames hspell hold hvalid, hk, ht, hlocked⟩

lemma find_run_of_fifth (hregular : Regular env account spelling store c)
    (hnames : c.Names account) (hfails : ¬ c.Succeeds env store)
    (hcount : Counted spelling store (maxFailedAttempts - 1) t c.now)
    (hwithin : c.now < t + loginAttemptRetentionMs) :
    ∃ a, (loginStep env store c).memory.attempts.find spelling = some a ∧
      a.lockedUntilMs = saturatingAdd c.now lockoutMs := by
  obtain ⟨a, -, hvalid, hk, -, hlocked⟩ := hcount.find_attempts hwithin hregular.clock
  have hunl : isLocked (c.attempts store) spelling c.now = false := by
    refine isLocked_eq_false fun b hb => ?_
    obtain rfl := Option.some.inj (hvalid.symm.trans hb)
    exact hlocked
  have hfind := find_run_of_failed hregular hnames hfails hunl
  rw [hvalid] at hfind
  refine ⟨_, hfind, ?_⟩
  unfold recordFailedAttempt
  dsimp only [Option.getD_some]
  rw [if_pos (by omega)]

lemma find_after_of_locked {a : LoginAttempt}
    (hspell : eqIgnoreAsciiCase account spelling)
    (hregular : Throughout (loginStep env) (Regular env account spelling) store calls)
    (h : store.memory.attempts.find spelling = some a)
    (hlocked : ∀ c ∈ calls, c.now < a.lockedUntilMs) :
    (after (loginStep env) store calls).memory.attempts.find spelling = some a := by
  induction calls using List.reverseRecOn with
  | nil => exact h
  | append_singleton calls c ih =>
    have hold := ih hregular.init fun d hd => hlocked d (mem_append_left _ hd)
    have hc : c.now < a.lockedUntilMs := hlocked c (by simp)
    have hvalid := find_attempts (c := c) hold (.inl hc)
    rw [after_concat]
    by_cases hnames : c.Names account
    · exact (run_of_locked hregular.last hnames hvalid hc).2
    · exact find_run_of_other hregular.last hnames hspell hold hvalid

end

/-- **Lockout of an account.** Five failed logins of an account, with no success between them and
each made before the record of the one before it expires, lock the account for the lockout time
after the last of them, on every run of logins in order of time which meets `Regular` throughout
and in which no lockout begins or lasts at the first four failures. -/
theorem account_lockout (env : AuthEnv) (account spelling : String) (start : AuthStore)
    (window more : List LoginCall) (fifth c : LoginCall) (t : ℕ)
    (hregular : Throughout (loginStep env) (Regular env account spelling) start
      (window ++ fifth :: (more ++ [c])))
    (htimes : (window ++ fifth :: (more ++ [c])).Pairwise fun c d => c.now ≤ d.now)
    (hcalm : Throughout (loginStep env) (fun s c => c.Names account → Calm spelling s c)
      start window)
    (hfailures : Failures env account start window (maxFailedAttempts - 1) t)
    (hfifth : fifth.Names account)
    (hfails : ¬ fifth.Succeeds env (after (loginStep env) start window))
    (hwithin : fifth.now < t + loginAttemptRetentionMs)
    (hnames : c.Names account) (hlocked : c.now < fifth.now + lockoutMs) :
    ¬ c.Succeeds env (after (loginStep env) start (window ++ fifth :: more)) := by
  have hspell : eqIgnoreAsciiCase account spelling := by
    obtain ⟨name, hname, hacc⟩ := hfifth
    exact hregular.last.spelled name hname hacc ▸ hacc
  obtain ⟨htimes1, htimes2, hbef⟩ := pairwise_append.1 htimes
  obtain ⟨-, htimes3⟩ := pairwise_cons.1 htimes2
  obtain ⟨-, -, hlast⟩ := pairwise_append.1 htimes3
  have hcount := counted_of_failures hfailures hspell hregular.init hcalm htimes1
    (fun d hd => hbef d hd fifth (by simp)) hwithin
  obtain ⟨a, hfind, huntil⟩ := find_run_of_fifth hregular.last hfifth hfails hcount hwithin
  -- the rest of the run, from the state in which the account is locked
  have hrest : Throughout (loginStep env) (Regular env account spelling)
      (after (loginStep env) start (window ++ [fifth])) (more ++ [c]) := by
    have hsplit : window ++ fifth :: (more ++ [c]) = (window ++ [fifth]) ++ (more ++ [c]) := by simp
    exact (hsplit ▸ hregular).shift
  have hclock : c.now < u64Max := hrest.last.clock
  have hc : c.now < a.lockedUntilMs := by
    rw [huntil, saturatingAdd]
    omega
  have hfind' : (after (loginStep env) (after (loginStep env) start (window ++ [fifth]))
      more).memory.attempts.find spelling = some a := by
    refine find_after_of_locked hspell hrest.init ?_ fun d hd => ?_
    · rw [after_concat]
      exact hfind
    · exact Nat.lt_of_le_of_lt (hlast d hd c (by simp)) hc
  have hruns : after (loginStep env) start (window ++ fifth :: more) =
      after (loginStep env) (after (loginStep env) start (window ++ [fifth])) more := by
    rw [append_cons, after_append]
  rw [hruns]
  exact (run_of_locked hrest.last hnames (find_attempts hfind' (.inl hc)) hc).1

/-! ### Five failures -/

/-- Passwords that are stored as they are. -/
def plainEnv : AuthEnv := ⟨id, fun password hash => password = hash, 60⟩

def rootStore : AuthStore :=
  (System.installed ⟨"root", "root", "r@x", "admin", "active", "h", 0, 0, none, []⟩).store

/-- A login of the user of `rootStore`; the right password is `h`. -/
def rootLogin (name password : String) (now : ℕ) : LoginCall :=
  ⟨name, password, now, "t", .acknowledged⟩

lemma names_rootLogin (password : String) (now : ℕ) :
    (rootLogin "root" password now).Names "root" :=
  ⟨"root", show normalizeUsername "root" = .ok "root" by decide +kernel, by decide +kernel⟩

lemma four_failures : Failures plainEnv "root" rootStore
    [rootLogin "root" "x" 1, rootLogin "root" "x" 2, rootLogin "root" "x" 3,
      rootLogin "root" "x" 4] 4 4 := by
  have h1 : Failures plainEnv "root" rootStore ([] ++ [rootLogin "root" "x" 1]) 1 1 :=
    .first (names_rootLogin "x" 1) (not_succeeds (by decide +kernel))
  have h2 := h1.next (names_rootLogin "x" 2) (not_succeeds (by decide +kernel)) (by decide)
  have h3 := h2.next (names_rootLogin "x" 3) (not_succeeds (by decide +kernel)) (by decide)
  exact h3.next (names_rootLogin "x" 4) (not_succeeds (by decide +kernel)) (by decide)

/-- Five failures as `root` lock out `root`, with the right password too. -/
theorem account_lockout_five_failures :
    ¬ (rootLogin "root" "h" 6).Succeeds plainEnv (after (loginStep plainEnv) rootStore
      [rootLogin "root" "x" 1, rootLogin "root" "x" 2, rootLogin "root" "x" 3,
        rootLogin "root" "x" 4, rootLogin "root" "x" 5]) := by
  have hroot : normalizeUsername "root" = .ok "root" := by decide +kernel
  refine account_lockout plainEnv "root" "root" rootStore
    [rootLogin "root" "x" 1, rootLogin "root" "x" 2, rootLogin "root" "x" 3, rootLogin "root" "x" 4]
    [] (rootLogin "root" "x" 5) (rootLogin "root" "h" 6) 4 ?_ ?_ ?_ four_failures
    (names_rootLogin "x" 5) (not_succeeds (by decide +kernel)) (by decide)
    (names_rootLogin "h" 6) (by decide)
  · refine throughout_cons ?_ (throughout_cons ?_ (throughout_cons ?_ (throughout_cons ?_
      (throughout_cons ?_ (throughout_cons ?_ throughout_nil)))))
    all_goals
      refine ⟨fun name hname _ => ?_, fun _ => ?_, fun _ _ => ⟨rfl, ?_⟩,
        fun _ _ _ hfull => absurd hfull (Nat.not_le.2 ?_), ?_⟩
      · exact (Except.ok.inj (hroot.symm.trans hname)).symm
      all_goals decide +kernel
  · decide +kernel
  · refine throughout_cons ?_ (throughout_cons ?_ (throughout_cons ?_ (throughout_cons ?_
      throughout_nil)))
    all_goals
      intro _
      unfold Calm
      decide +kernel

/-- **Two spellings of one name**: after four failures as `root` and one as `Root`, the right
password is accepted. -/
theorem spellings_share_no_lockout :
    let calls := [rootLogin "root" "x" 1, rootLogin "root" "x" 2, rootLogin "root" "x" 3,
      rootLogin "root" "x" 4, rootLogin "Root" "x" 5]
    Failures plainEnv "root" rootStore calls maxFailedAttempts 5 ∧
      (rootLogin "root" "h" 6).Names "root" ∧ 6 < 5 + lockoutMs ∧
      (rootLogin "root" "h" 6).Succeeds plainEnv (after (loginStep plainEnv) rootStore calls) := by
  refine ⟨?_, names_rootLogin "h" 6, by decide, ?_⟩
  · have hnames : (rootLogin "Root" "x" 5).Names "root" :=
      ⟨"Root", by decide +kernel, by decide +kernel⟩
    exact four_failures.next hnames (not_succeeds (by decide +kernel)) (by decide)
  · refine ⟨⟨"t", 60006, "root", "root", "r@x", "admin", "active"⟩, ?_⟩
    decide +kernel

end ModelPort.Auth
