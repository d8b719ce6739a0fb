import ModelPort.Auth.Changes

/-!
# The invariants of the user store

At least one administrator can sign in; names are unique up to ASCII case; an identity of a
provider belongs to at most one user; and every session belongs to a user.

* `user_store_invariants`: so it is on every run, whatever fails in it.
-/

namespace ModelPort.Auth

open Relational Except WriteThrough Runs List

variable {u user v : AdminUserRecord} {users : Users} {identity : FederatedIdentity}
  {inner : AuthInner} {now : ℕ}

/-! ### The users after a change of one record -/

lemma mem_modifyUser {id : String} {f : AdminUserRecord → AdminUserRecord}
    (hf : ∀ u, (f u).id = u.id) : v ∈ (modifyUser users id f hf).rows ↔
      (∃ u ∈ users.rows, u.id = id ∧ v = f u) ∨ v ∈ users.rows ∧ v.id ≠ id := by
  simp only [modifyUser, Table.mem_update_cases, decide_eq_true_eq]

lemma mem_openSession {env : AuthEnv} {token : String} :
    v ∈ (openSession env inner user token now).users.rows ↔
      (∃ u ∈ inner.users.rows, u.id = user.id ∧ v = u.touchLogin now) ∨
        v ∈ inner.users.rows ∧ v.id ≠ user.id :=
  mem_modifyUser (f := .touchLogin now) fun _ => rfl

lemma mem_bindIdentity :
    v ∈ (bindIdentity inner user identity).users.rows ↔
      (∃ u ∈ inner.users.rows, u.id = user.id ∧ v = u.bind identity) ∨
        v ∈ inner.users.rows ∧ v.id ≠ user.id :=
  mem_modifyUser (f := .bind identity) fun _ => rfl

lemma eq_of_userId (hu : u ∈ users.rows) (hv : v ∈ users.rows) (h : u.id = v.id) : u = v :=
  users.eq_of_key hu hv (k := u.id) (by simp) (by simp [h])

lemma find_user_eq_some {id : String} : users.find id = some u ↔ u ∈ users.rows ∧ u.id = id := by
  rw [Table.find_eq_some, mem_singleton, eq_comm (a := id)]

lemma mem_putUser (hfresh : FreshId users u.id) :
    v ∈ (users.put u).rows ↔ v = u ∨ v ∈ users.rows := by
  rw [Table.mem_put]
  constructor
  · rintro (h | ⟨h, -⟩)
    · exact .inl h
    · exact .inr h
  · rintro (h | h)
    · exact .inl h
    · exact .inr ⟨h, by simpa [Apart] using (hfresh v h).symm⟩

/-- Every user of the second table is one of the first with the same name and the same
identities, and every user of the first is still there. -/
structure Carries (users users' : Users) : Prop where
  back : ∀ u' ∈ users'.rows, ∃ u ∈ users.rows,
    u.id = u'.id ∧ u.username = u'.username ∧ u.federatedIdentities = u'.federatedIdentities
  forth : ∀ u ∈ users.rows, ∃ u' ∈ users'.rows, u'.id = u.id

lemma carries_modifyUser (users : Users) (id : String) (f : AdminUserRecord → AdminUserRecord)
    (hf : ∀ u, (f u).id = u.id) (hname : ∀ u, (f u).username = u.username)
    (hident : ∀ u, (f u).federatedIdentities = u.federatedIdentities) :
    Carries users (modifyUser users id f hf) where
  back u' hu' := by
    rcases (mem_modifyUser hf).1 hu' with ⟨u, hu, -, rfl⟩ | ⟨hu, -⟩
    · exact ⟨u, hu, (hf u).symm, (hname u).symm, (hident u).symm⟩
    · exact ⟨u', hu, rfl, rfl, rfl⟩
  forth u hu := by
    by_cases h : u.id = id
    · exact ⟨f u, (mem_modifyUser hf).2 (.inl ⟨u, hu, h, rfl⟩), hf u⟩
    · exact ⟨u, (mem_modifyUser hf).2 (.inr ⟨hu, h⟩), rfl⟩

/-! ### The invariants -/

/-- The invariants of a state of the user store. -/
structure Invariants (inner : AuthInner) : Prop where
  activeAdmin : ∃ u ∈ inner.users.rows, u.isActiveAdmin
  usernames : ∀ u ∈ inner.users.rows, ∀ v ∈ inner.users.rows,
    eqIgnoreAsciiCase u.username v.username → u = v
  identities : ∀ u ∈ inner.users.rows, ∀ v ∈ inner.users.rows, ∀ identity,
    u.isBound identity → v.isBound identity → u = v
  sessions : ∀ s ∈ inner.sessions.rows, ∃ u ∈ inner.users.rows, u.id = s.userId

namespace Invariants

variable {env : AuthEnv} {inner : AuthInner}

variable (h : Invariants inner) {result : Option LoginResult} {means : Option Means}
  {inner' next : AuthInner} {userId : String}

include h

lemma shrinks (hs : Shrinks inner inner') : Invariants inner' where
  activeAdmin := hs.users ▸ h.activeAdmin
  usernames := hs.users ▸ h.usernames
  identities := hs.users ▸ h.identities
  sessions s hmem := hs.users ▸ h.sessions s (hs.sessions s hmem)

/-- The users are carried over, someone is still an active administrator, and no session loses
its user. -/
lemma carried (hc : Carries inner.users inner'.users)
    (hadmin : ∃ u ∈ inner'.users.rows, u.isActiveAdmin)
    (hsessions : ∀ s ∈ inner'.sessions.rows, ∃ u ∈ inner'.users.rows, u.id = s.userId) :
    Invariants inner' where
  activeAdmin := hadmin
  usernames u' hu' v' hv' heq := by
    obtain ⟨u, hu, hid, hname, -⟩ := hc.back u' hu'
    obtain ⟨v, hv, hid', hname', -⟩ := hc.back v' hv'
    have huv : u = v := h.usernames u hu v hv (by rw [hname, hname']; exact heq)
    exact eq_of_userId hu' hv' (by rw [← hid, ← hid', huv])
  identities u' hu' v' hv' identity hbound hbound' := by
    obtain ⟨u, hu, hid, -, hids⟩ := hc.back u' hu'
    obtain ⟨v, hv, hid', -, hids'⟩ := hc.back v' hv'
    have huv : u = v := by
      refine h.identities u hu v hv identity ?_ ?_
      · rw [AdminUserRecord.isBound, hids]
        exact hbound
      · rw [AdminUserRecord.isBound, hids']
        exact hbound'
    exact eq_of_userId hu' hv' (by rw [← hid, ← hid', huv])
  sessions := hsessions

lemma openSession (huser : user ∈ inner.users.rows)
    (token : String) (now : ℕ) : Invariants (Auth.openSession env inner user token now) := by
  have hcarr :=
    carries_modifyUser inner.users user.id (.touchLogin now) (fun _ => rfl)
      (fun _ => rfl) fun _ => rfl
  refine h.carried hcarr ?_ ?_
  · obtain ⟨u, hu, hadmin⟩ := h.activeAdmin
    by_cases hid : u.id = user.id
    · exact ⟨u.touchLogin now, mem_openSession.2 (.inl ⟨u, hu, hid, rfl⟩), hadmin⟩
    · exact ⟨u, mem_openSession.2 (.inr ⟨hu, hid⟩), hadmin⟩
  · intro s hs
    have hown : ∃ u ∈ inner.users.rows, u.id = s.userId := by
      rcases Table.mem_put.1 hs with rfl | ⟨hs, -⟩
      · exact ⟨user, huser, rfl⟩
      · exact h.sessions s hs
    obtain ⟨u, hu, hid⟩ := hown
    obtain ⟨u', hu', hid'⟩ := hcarr.forth u hu
    exact ⟨u', hu', hid'.trans hid⟩

lemma bindIdentity (hunb : Unbound inner.users identity) :
    Invariants (Auth.bindIdentity inner user identity) where
  activeAdmin := by
    obtain ⟨u, hu, hadmin⟩ := h.activeAdmin
    by_cases hid : u.id = user.id
    · exact ⟨u.bind identity, mem_bindIdentity.2 (.inl ⟨u, hu, hid, rfl⟩), hadmin⟩
    · exact ⟨u, mem_bindIdentity.2 (.inr ⟨hu, hid⟩), hadmin⟩
  usernames u' hu' v' hv' heq := by
    rcases mem_bindIdentity.1 hu' with ⟨u, hu, hid, rfl⟩ | ⟨hu, hid⟩ <;>
      rcases mem_bindIdentity.1 hv' with ⟨v, hv, hid', rfl⟩ | ⟨hv, hid'⟩
    · rw [eq_of_userId hu hv (hid.trans hid'.symm)]
    · exact absurd (h.usernames u hu v' hv heq ▸ hid) hid'
    · exact absurd (h.usernames u' hu v hv heq ▸ hid') hid
    · exact h.usernames u' hu v' hv heq
  identities u' hu' v' hv' other hbound hbound' := by
    -- only the user that is bound has the identity, and it had no other
    have hold : ∀ u ∈ inner.users.rows, ∀ v ∈ inner.users.rows, v.isBound other →
        (u.bind identity).isBound other → u = v := by
      intro u hu v hv hother hbind
      simp only [AdminUserRecord.isBound, AdminUserRecord.bind, contains_eq_mem,
        mem_append, mem_singleton, decide_eq_true_eq] at hbind
      rcases hbind with hbind | hsame
      · exact h.identities u hu v hv other (by simpa [AdminUserRecord.isBound] using hbind) hother
      · rw [hsame, hunb v hv] at hother
        cases hother
    rcases mem_bindIdentity.1 hu' with ⟨u, hu, hid, rfl⟩ | ⟨hu, hid⟩ <;>
      rcases mem_bindIdentity.1 hv' with ⟨v, hv, hid', rfl⟩ | ⟨hv, hid'⟩
    · rw [eq_of_userId hu hv (hid.trans hid'.symm)]
    · exact absurd (hold u hu v' hv hbound' hbound ▸ hid) hid'
    · exact absurd (hold v hv u' hu hbound hbound' ▸ hid') hid
    · exact h.identities u' hu v' hv other hbound hbound'
  sessions s hs := by
    obtain ⟨u, hu, hid⟩ := h.sessions s hs
    by_cases hu' : u.id = user.id
    · exact ⟨u.bind identity, mem_bindIdentity.2 (.inl ⟨u, hu, hu', rfl⟩), hid⟩
    · exact ⟨u, mem_bindIdentity.2 (.inr ⟨hu, hu'⟩), hid⟩

lemma putUser (hfresh : FreshId inner.users user.id)
    (hname : ∀ u ∈ inner.users.rows, eqIgnoreAsciiCase u.username user.username = false)
    (hident : ∀ identity, user.isBound identity → Unbound inner.users identity) :
    Invariants { inner with users := inner.users.put user } where
  activeAdmin := by
    obtain ⟨u, hu, hadmin⟩ := h.activeAdmin
    exact ⟨u, (mem_putUser hfresh).2 (.inr hu), hadmin⟩
  usernames u hu v hv heq := by
    rcases (mem_putUser hfresh).1 hu with hnew | hold <;>
      rcases (mem_putUser hfresh).1 hv with hnew' | hold'
    · rw [hnew, hnew']
    · have hsymm : eqIgnoreAsciiCase v.username user.username := by
        rw [hnew] at heq
        simpa [eqIgnoreAsciiCase, eq_comm] using heq
      rw [hname v hold'] at hsymm
      cases hsymm
    · rw [hnew', hname u hold] at heq
      cases heq
    · exact h.usernames u hold v hold' heq
  identities u hu v hv identity hbound hbound' := by
    rcases (mem_putUser hfresh).1 hu with hnew | hold <;>
      rcases (mem_putUser hfresh).1 hv with hnew' | hold'
    · rw [hnew, hnew']
    · rw [hident identity (hnew ▸ hbound) v hold'] at hbound'
      cases hbound'
    · rw [hident identity (hnew' ▸ hbound') u hold] at hbound
      cases hbound
    · exact h.identities u hold v hold' identity hbound hbound'
  sessions s hs := by
    obtain ⟨u, hu, hid⟩ := h.sessions s hs
    exact ⟨u, (mem_putUser hfresh).2 (.inr hu), hid⟩

lemma updatedState {existing : AdminUserRecord} {update : UserUpdate}
    (hadmin : (Auth.updatedState inner userId update now existing).users.rows.any
      AdminUserRecord.isActiveAdmin) :
    Invariants (Auth.updatedState inner userId update now existing) := by
  have hcarr :=
    carries_modifyUser inner.users userId (update.apply now) (fun _ => rfl) (fun _ => rfl)
      fun _ => rfl
  refine h.carried hcarr (by simpa using hadmin) fun s hs => ?_
  have hs' : s ∈ inner.sessions.rows := by
    simp only [Auth.updatedState] at hs
    split at hs
    · exact (mem_filter.1 hs).1
    · exact hs
  obtain ⟨u, hu, hid⟩ := h.sessions s hs'
  obtain ⟨u', hu', hid'⟩ := hcarr.forth u hu
  exact ⟨u', hu', hid'.trans hid⟩

lemma deleteUser (hfind : inner.users.find userId = some user) (hadm : ¬ (user.role = "admin" ∧
      inner.users.rows.countP AdminUserRecord.isActiveAdmin ≤ 1)) :
    Invariants
      { inner with
        users := inner.users.retain fun u => u.id ≠ userId
        sessions := inner.sessions.retain fun s => s.userId ≠ userId } where
  activeAdmin := by
    obtain ⟨hmem, hid⟩ := find_user_eq_some.1 hfind
    by_contra hnone
    push Not at hnone
    -- the only active administrator would be the deleted user
    have honly : ∀ u ∈ inner.users.rows, u.isActiveAdmin → u = user := by
      intro u hu hadmin
      by_contra hne
      refine hnone u (mem_filter.2 ⟨hu, ?_⟩) hadmin
      simpa using fun huser => hne (eq_of_userId hu hmem (huser.trans hid.symm))
    obtain ⟨u, hu, hadmin⟩ := h.activeAdmin
    obtain rfl := honly u hu hadmin
    refine hadm ⟨by
      simp only [AdminUserRecord.isActiveAdmin, Bool.and_eq_true, decide_eq_true_eq] at hadmin
      exact hadmin.1, ?_⟩
    have hcongr : inner.users.rows.filter AdminUserRecord.isActiveAdmin =
        inner.users.rows.filter fun v => v.id = u.id := by
      refine filter_congr fun v hv => ?_
      by_cases hv' : v.id = u.id
      · simp [eq_of_userId hv hu hv', hadmin]
      · have hnot : v.isActiveAdmin ≠ true := fun hadmin' => hv' (by rw [honly v hv hadmin'])
        simp [hv', hnot]
    have hfilt : inner.users.rows.filter (fun v => v.id = u.id) = [u] :=
      Table.filter_eq_singleton hu (by simp) fun v hv =>
        ⟨u.id, by simpa [eq_comm] using hv, by simp⟩
    rw [countP_eq_length_filter, hcongr, hfilt]
    rfl
  usernames u hu v hv :=
    h.usernames u (mem_filter.1 hu).1 v (mem_filter.1 hv).1
  identities u hu v hv :=
    h.identities u (mem_filter.1 hu).1 v (mem_filter.1 hv).1
  sessions s hs := by
    obtain ⟨hs, hne⟩ := mem_filter.1 hs
    obtain ⟨u, hu, hid⟩ := h.sessions s hs
    refine ⟨u, mem_filter.2 ⟨hu, ?_⟩, hid⟩
    rw [hid]
    exact hne

/-- **Every saved change** keeps the invariants. -/
lemma saves (hs : Saves env means inner next result) : Invariants next := by
  cases hs with
  | signIn token now huser hact => exact h.openSession huser token now
  | bind token now huser hmay hunb =>
    refine (h.bindIdentity hunb).openSession ?_ token now
    exact mem_bindIdentity.2 (.inl ⟨_, huser, rfl, rfl⟩)
  | provision pending uuid passwordHash token hfresh hunb hfree =>
    refine (h.putUser hfresh ?_ ?_).openSession ((mem_putUser hfresh).2 (.inl rfl)) token
      pending.now
    · intro u hu
      have := any_eq_false.1 hfree u hu
      simp only [Bool.or_eq_true, not_or, Bool.not_eq_true] at this
      exact this.1
    · intro identity hbound
      obtain rfl : identity = pending.identity := by
        simpa [AdminUserRecord.isBound, provisionedUser] using hbound
      exact hunb
  | create hfresh hname hident =>
    refine h.putUser hfresh ?_ ?_
    · intro u hu
      simpa using List.find?_eq_none.1 hname u hu
    · intro identity hbound
      simp [AdminUserRecord.isBound, hident] at hbound
  | update update now hfind hadmin => exact h.updatedState hadmin
  | delete hfind hadm => exact h.deleteUser hfind hadm

lemma change (hc : Change env means inner next result) : Invariants next := by
  cases hc with
  | shrink hs => exact h.shrinks hs
  | save hbase hnext => exact (h.shrinks hbase).saves hnext

end Invariants

/-- **The invariants of the user store** hold after every run from a state that has them: any
interleaving of creations, updates, deletions, logins with a password and federated logins,
whether they succeed, are refused or cannot be saved. Ids of new users are drawn fresh. -/
theorem user_store_invariants (env : AuthEnv) (start : System) (events : List Event)
    (hstart : Invariants start.store.memory) (hfresh : FreshRun env start events) :
    Invariants (start.after env events).store.memory := by
  refine hfresh.invariant (I := fun sys => Invariants sys.store.memory) hstart ?_
  exact fun sys e h hfresh => h.change (System.perform_change sys e hfresh)

lemma Invariants.installed (hadmin : user.isActiveAdmin) :
    Invariants (System.installed user).store.memory := by
  have hrows : (System.installed user).store.memory.users.rows = [user] := rfl
  have honly : ∀ u ∈ (System.installed user).store.memory.users.rows, u = user := by
    rw [hrows]
    simp
  exact
    { activeAdmin := ⟨user, hrows ▸ mem_singleton_self user, hadmin⟩
      usernames := fun u hu v hv _ => (honly u hu).trans (honly v hv).symm
      identities := fun u hu v hv _ _ _ => (honly u hu).trans (honly v hv).symm
      sessions := nofun }

/-- The administrator creates a user, who signs in and is deleted. -/
theorem user_store_invariants_four_events :
    let env : AuthEnv := ⟨id, fun password hash => password = hash, 60⟩
    let root : AdminUserRecord := ⟨"root", "root", "r@x", "admin", "active", "h", 0, 0, none, []⟩
    Invariants ((System.installed root).after env
      [.createUser ⟨"alice", "a@x", "uncommon-9-word", none, none⟩ "1" (.ok "k") 1 .acknowledged,
        .loginBegin "Alice" "k" 2, .loginFinish 0 "t" .acknowledged,
        .deleteUser "usr_1" "root" .unacknowledged]).store.memory := by
  intro env root
  refine user_store_invariants env _ _ (.installed (by decide)) ?_
  intro earlier e later hsplit
  cases earlier with
  | nil =>
    obtain ⟨rfl, -⟩ := List.cons.inj hsplit
    intro u hu
    rw [mem_singleton.1 hu]
    decide
  | cons _ earlier =>
    -- only the first event makes a user
    have hmem : e ∈ earlier ++ e :: later := mem_append_right earlier mem_cons_self
    rw [cons_append, List.cons.injEq] at hsplit
    rw [← hsplit.2] at hmem
    simp only [mem_cons, not_mem_nil, or_false] at hmem
    rcases hmem with rfl | rfl | rfl <;> trivial

end ModelPort.Auth
