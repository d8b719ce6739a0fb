import ModelPort.Console.Users

/-!
# Keys of a user who is active again

An update that makes a user active revokes the user's keys first, if it has found the user inactive.
The status is read in one call, the keys are revoked in another and the user is updated in a third.
If no other request disables the user between the first and the last, and none gives an inactive
user a usable key, then every update that makes an inactive user active finds no active key of the
user (`Inv`), and a key that was there while its owner was inactive stays out of use.

* `reactivation_resurrects_no_key`: so it is on every such run.
* `stale_read_resurrects_key`: a disabling update after the status was read does.
-/

namespace ModelPort.Console

open Relational Except WriteThrough Runs Control.Sample List

variable {u : String} {sys : System} {sha : String → String}

/-! ### Conditions on a run -/

/-- No request is under way; ids of users have no blanks around them, nor has the owner of a
key. -/
structure Idle (sys : System) : Prop where
  pending : sys.pending = []
  users : ∀ u, (sys.status u).isSome → trim u = u
  owners : ∀ r ∈ sys.keys.rows, trim r.userId = r.userId

/-- The id that a call draws does not occur in a state. -/
def Event.Fresh (sys : System) : Event → Prop
  | .createUser _ uuid _ _ _ =>
    trim ("usr_" ++ uuid) = "usr_" ++ uuid ∧ sys.status ("usr_" ++ uuid) = none ∧
      ∀ currentUserId input, .update ("usr_" ++ uuid) currentUserId input ∉ sys.pending
  | .resume _ _ _ uuid _ _ => ∀ r ∈ sys.keys.rows, r.id ≠ "key_" ++ uuid
  | _ => True

/-- The ids that are drawn in a run have not occurred before. -/
def FreshRun (sha256Hex : String → String) (start : System) (events : List Event) : Prop :=
  ∀ l1 l2 e later, events = l1 ++ l2 ++ e :: later →
    e.Fresh (after (System.next sha256Hex) start l1)

/-- A request that is to make the user active has come to its update. -/
def Pending.awaits (u : String) : Pending → Bool
  | .update userId _ input => userId = u && input.status = some "active"
  | _ => false

/-- Such a request is among these. -/
def awaits (pending : List Pending) (u : String) : Bool := pending.any (·.awaits u)

/-- **The condition on a call**: while such a request waits, no other request makes the user
inactive, and none creates or activates a key of a user who is not active. -/
def quiet (sys : System) : Event → Bool
  | .resume i _ _ _ _ _ =>
    match sys.pending[i]? with
    | some (.update u _ input) =>
      !(input.status.any (· ≠ "active") && awaits (sys.pending.eraseIdx i) u)
    | some (.createKey body _) =>
      !awaits (sys.pending.eraseIdx i) (trim body.userId)
        || sys.status (trim body.userId) = some "active"
    | _ => true
  | .updateKey keyId input _ _ =>
    !setsActive input || sys.keys.rows.all fun r =>
      r.id ≠ keyId || !awaits sys.pending r.userId || sys.status r.userId = some "active"
  | _ => true

lemma awaits_iff {pending : List Pending} :
    awaits pending u ↔
      ∃ currentUserId input, .update u currentUserId input ∈ pending ∧
        input.status = some "active" := by
  simp only [awaits, any_eq_true]
  constructor
  · rintro ⟨q, hq, hawaits⟩
    cases q with
    | update userId currentUserId input =>
      simp only [Pending.awaits, Bool.and_eq_true, decide_eq_true_eq] at hawaits
      exact ⟨currentUserId, input, hawaits.1 ▸ hq, hawaits.2⟩
    | _ => cases hawaits
  · rintro ⟨currentUserId, input, hq, hact⟩
    exact ⟨_, hq, by simp [Pending.awaits, hact]⟩

/-! ### The invariant -/

/-- Making the user active is safe: the user is active or gone, or has no active key. -/
def Covered (sys : System) (u : String) : Prop :=
  sys.status u = none ∨ sys.status u = some "active" ∨ NoActiveKey sys.keys u

/-- The invariant of a run for one key. -/
structure Inv (sys : System) : Prop where
  users : ∀ u, (sys.status u).isSome → trim u = u
  owners : ∀ r ∈ sys.keys.rows, trim r.userId = r.userId
  covered : ∀ u, awaits sys.pending u → Covered sys u

lemma Idle.inv (h : Idle sys) : Inv sys where
  users := h.users
  owners := h.owners
  covered u hawaits := by
    rw [h.pending] at hawaits
    cases hawaits

section

variable {e : Event}

/-- A user without an active key gets none, as long as a request waits and the user is inactive. -/
lemma covered_of_noActiveKey (hu : NoActiveKey sys.keys u)
    (hinact : sys.status u ≠ some "active") (hquiet : quiet sys e)
    {currentUserId : String} {input : Auth.UpdateUserInput}
    (hmem : .update u currentUserId input ∈ sys.pending) (hact : input.status = some "active")
    (hother : ∀ i now hash uuid key write, e = .resume i now hash uuid key write →
      .update u currentUserId input ∈ sys.pending.eraseIdx i) :
    Covered (sys.next sha e) u := by
  refine .inr (.inr fun s hs howner hs' => ?_)
  cases keyOrigin_next hs with
  | kept r hr hid hown' hkept => exact hu r hr (hown'.trans howner) (hkept hs')
  | activated r hr hid hown' input' now write he hsets =>
    subst he
    have hawaits : awaits sys.pending u := awaits_iff.2 ⟨_, _, hmem, hact⟩
    simp only [quiet, hsets, Bool.not_true, Bool.false_or, all_eq_true] at hquiet
    have hkey := hquiet r hr
    simp [hid, hown'.trans howner, hawaits, hinact] at hkey
  | new i now hash uuid key write body maxActive he hpend hid hown' =>
    subst he
    have hu' : trim body.userId = u := hown'.symm.trans howner
    have hawaits := awaits_iff.2 ⟨_, _, hother i now hash uuid key write rfl, hact⟩
    simp [quiet, hpend, hu', hawaits, hinact] at hquiet

/-- **One call keeps the invariant.** -/
lemma Inv.next (h : Inv sys) (hfresh : e.Fresh sys) (hquiet : quiet sys e) :
    Inv (sys.next sha e) where
  users u hu := by
    rcases status_next sha sys e u with hsame | hgone | ⟨_, hsets, -⟩ | ⟨_, uuid, _, _, _, rfl, rfl⟩
    · exact h.users u (hsame ▸ hu)
    · rw [hgone] at hu
      cases hu
    · exact h.users u hsets.known
    · exact hfresh.1
  owners s hs := by
    cases keyOrigin_next hs with
    | kept r hr hid howner => exact howner ▸ h.owners r hr
    | activated r hr hid howner => exact howner ▸ h.owners r hr
    | new i now hash uuid key write body maxActive he hpend hid howner =>
      rw [howner, trim_trim]
  covered u := by
    rw [awaits_iff]
    rintro ⟨currentUserId, input, hmem, hact⟩
    rcases pending_next hmem with ⟨hold, hother⟩ | ⟨rfl, hread⟩ | hrev
    · by_cases hu : sys.status u = none ∨ sys.status u = some "active"
      · -- a user who is active or gone stays so, as long as a request waits
        rcases status_next sha sys e u with hsame | hgone | ⟨s, ⟨⟨i, now, hash, uuid, key,
          write, current, input', rfl, hpend, hinput⟩, hknown⟩, hset⟩ | ⟨_, uuid, _, _, _, rfl, rfl⟩
        · rw [← hsame] at hu
          exact hu.imp_right .inl
        · exact .inl hgone
        · by_cases hs : s = "active"
          · exact .inr (.inl (hs ▸ hset))
          · have hawaits := awaits_iff.2 ⟨_, _, hother i now hash uuid key write rfl, hact⟩
            simp [quiet, hpend, hinput, hs, hawaits] at hquiet
        · exact absurd hold (hfresh.2.2 _ _)
      · have hcovered := h.covered u (awaits_iff.2 ⟨_, _, hold, hact⟩)
        rcases hcovered with hnone | hsome | hkeys
        · exact absurd (.inl hnone) hu
        · exact absurd (.inr hsome) hu
        · exact covered_of_noActiveKey hkeys (fun hs => hu (.inr hs)) hquiet hold hact hother
    · -- the request has just read the status
      have hstat : (sys.next sha (.updateUser u currentUserId input)).status u
          = sys.status u := rfl
      cases hu : sys.status u with
      | none => exact .inl (hstat.trans hu)
      | some s =>
        have htrim := h.users u (by rw [hu]; rfl)
        refine .inr (.inl (hstat.trans ?_))
        have hall := hread hact
        rw [userById, htrim] at hall
        simp only [System.status, status, Option.map_eq_some_iff] at hu ⊢
        obtain ⟨v, hv, -⟩ := hu
        exact ⟨v, hv, by simpa [hv] using hall⟩
    · exact .inr (.inr hrev)

/-! ### A key whose owner was inactive -/

/-- Whoever has the key's id is owned by the user. -/
def Owned (k u : String) (sys : System) : Prop := ∀ s ∈ sys.keys.rows, s.id = k → s.userId = u

/-- The key is out of use: its owner is not active, or it is not. -/
def Dormant (k u : String) (sys : System) : Prop :=
  sys.status u ≠ some "active" ∨ ∀ s ∈ sys.keys.rows, s.id = k → s.status ≠ .active

/-- The call sets the key active, while its owner is active. -/
structure Activates (sha256Hex : String → String) (k u : String) (sys : System) (e : Event) :
    Prop where
  update : ∃ input now write, e = .updateKey k input now write ∧ setsActive input
  owner : sys.status u = some "active"
  done : ∃ s ∈ (sys.next sha256Hex e).keys.rows, s.id = k ∧ s.status = .active

variable {k : String}

/-- The call makes no key with this id. -/
def Event.Spares (k u : String) : Event → Prop
  | .createUser _ uuid _ _ _ => u ≠ "usr_" ++ uuid
  | .resume _ _ _ uuid _ _ => k ≠ "key_" ++ uuid
  | _ => True

lemma Owned.next (h : Owned k u sys) (hspar : e.Spares k u) : Owned k u (sys.next sha e) := by
  intro s hs hk
  cases keyOrigin_next hs with
  | kept r hr hid howner => exact howner.symm.trans (h r hr (hid.trans hk))
  | activated r hr hid howner => exact howner.symm.trans (h r hr (hid.trans hk))
  | new i now hash uuid key write body maxActive he hpend hid =>
    subst he
    exact absurd (hk.symm.trans hid) hspar

/-- **One call wakes no key**, except an update of the key itself while its owner is active. -/
lemma dormant_next (hinv : Inv sys) (howned : Owned k u sys) (hdorm : Dormant k u sys)
    (hspar : e.Spares k u) :
    Dormant k u (sys.next sha e) ∨ Activates sha k u sys e := by
  by_cases hact : sys.status u = some "active"
  · -- the key is not active, and stays so unless it is updated
    have hkey := hdorm.resolve_left (not_not_intro hact)
    by_cases hwoken : ∃ s ∈ (sys.next sha e).keys.rows, s.id = k ∧ s.status = .active
    · obtain ⟨s, hs, hk, hs'⟩ := hwoken
      cases keyOrigin_next hs with
      | kept r hr hid howner hkept => exact absurd (hkept hs') (hkey r hr (hid.trans hk))
      | activated r hr hid howner input now write he hsets =>
        exact .inr ⟨⟨input, now, write, hk ▸ he, hsets⟩, hact, s, hs, hk, hs'⟩
      | new i now hash uuid key write body maxActive he hpend hid =>
        subst he
        exact absurd (hk.symm.trans hid) hspar
    · exact .inl (.inr fun s hs hk hs' => hwoken ⟨s, hs, hk, hs'⟩)
  · left
    rcases status_next sha sys e u with
      hsame | hgone | ⟨s, ⟨⟨i, now, hash, uuid, key, write, current, input, rfl, hpend, hinput⟩,
        hknown⟩, hset⟩ | ⟨_, uuid, _, _, _, rfl, hnew⟩
    · exact .inl (hsame ▸ hact)
    · exact .inl (by simp [hgone])
    · by_cases hs : s = "active"
      · -- the owner is made active: no key of the owner is
        subst hs
        have hmem := mem_of_getElem? hpend
        rcases hinv.covered u (awaits_iff.2 ⟨_, _, hmem, hinput⟩) with hnone | hsome | hkeys
        · rw [hnone] at hknown
          cases hknown
        · exact absurd hsome hact
        · refine .inr fun s hs hk hs' => ?_
          cases keyOrigin_next hs with
          | kept r hr hid howner hkept => exact hkeys r hr (howned r hr (hid.trans hk)) (hkept hs')
          | activated r hr hid howner input' now' write' he => cases he
          | new i' now' hash' uuid' key' write' body maxActive he hpend' hid =>
            cases he
            exact absurd (hk.symm.trans hid) hspar
      · exact .inl (by simpa [hset] using hs)
    · exact absurd hnew hspar

end

/-! ### Runs -/

section

variable {start : System} {r : Control.ApiKeyRecord}

lemma inv_after {events : List Event} (hidle : Idle start)
    (hfresh : FreshRun sha start events)
    (hquiet : Throughout (System.next sha) (fun sys e => quiet sys e) start events) :
    Inv (after (System.next sha) start events) := by
  have hboth : Throughout (.next sha) (fun sys e => e.Fresh sys ∧ quiet sys e)
      start events := fun earlier e later hsplit =>
    ⟨hfresh earlier [] e later (by simpa using hsplit), hquiet earlier e later hsplit⟩
  exact hboth.invariant hidle.inv fun sys e hinv h => hinv.next h.1 h.2

/-- A state that has the key and its owner is spared by every later call. -/
lemma FreshRun.spares {before later : List Event} (h : FreshRun sha start (before ++ later))
    (hr : r ∈ (after (System.next sha) start before).keys.rows)
    (hu : ((after (System.next sha) start before).status u).isSome) {e : Event}
    (he : e ∈ later) : e.Spares r.id u := by
  obtain ⟨l1, l2, rfl⟩ := append_of_mem he
  have hfresh := h before l1 e l2 (by simp)
  cases e with
  | createUser input uuid hash now write =>
    rintro rfl
    rw [hfresh.2.1] at hu
    cases hu
  | resume i now hash uuid key write => exact hfresh r hr
  | _ => trivial

/-- The key stays out of use, or it was set active and its owner has been active since. -/
lemma dormant_after {before later : List Event} (hidle : Idle start)
    (hfresh : FreshRun sha start (before ++ later))
    (hquiet : Throughout (System.next sha) (fun sys e => quiet sys e) start
      (before ++ later)) (hr : r ∈ (after (System.next sha) start before).keys.rows)
    {s : String} (hs : s ≠ "active")
    (howner : (after (System.next sha) start before).status r.userId = some s) :
    Owned r.id r.userId (after (System.next sha) start (before ++ later)) ∧
      (Dormant r.id r.userId (after (System.next sha) start (before ++ later)) ∨
        Since (System.next sha) (Activates sha r.id r.userId)
          (fun sys => sys.status r.userId = some "active")
          (after (System.next sha) start before) later) := by
  induction later using List.reverseRecOn with
  | nil =>
    rw [append_nil]
    refine ⟨fun t ht hid => ?_, .inl (.inl ?_)⟩
    · rw [Control.eq_of_id ht hr hid]
    · rw [howner]
      simpa using hs
  | append_singleton later e ih =>
    rw [← append_assoc] at hfresh hquiet ⊢
    have hfresh' : FreshRun sha start (before ++ later) := fun l1 l2 d rest hsplit =>
      hfresh l1 l2 d (rest ++ [e]) (by rw [hsplit]; simp)
    obtain ⟨howned, hstate⟩ := ih hfresh' hquiet.init
    have hspar : e.Spares r.id r.userId := by
      rw [append_assoc] at hfresh
      exact hfresh.spares hr (by rw [howner]; rfl) (by simp)
    have hinv := inv_after hidle hfresh' hquiet.init
    rw [after_concat]
    refine ⟨howned.next hspar, ?_⟩
    have hlater : after (.next sha) (after (.next sha) start before)
        (later ++ [e]) = System.next sha (after (System.next sha) start
          (before ++ later)) e := by
      rw [after_concat, ← after_append]
    by_cases hact : (System.next sha (after (System.next sha) start
        (before ++ later)) e).status r.userId = some "active"
    · rcases hstate with hdorm | hsince
      · rcases dormant_next hinv howned hdorm hspar with hnext | hactivates
        · exact .inl hnext
        · refine .inr (Since.begin ?_ ?_)
          · rwa [← after_append]
          · rwa [hlater]
      · exact .inr (hsince.carry (by rwa [hlater]))
    · exact .inl (.inl hact)

end

/-- **A user who is active again brings back no key.** A key that was there while its owner was
disabled or suspended is accepted later only if an administrator has set it active through an
update of the key, while the owner was active and has been since. This is for every run, from a
state without requests under way, that meets `quiet` throughout; ids are drawn fresh, and every save
may fail. -/
theorem reactivation_resurrects_no_key (sha256Hex : String → String) (start : System)
    (before later : List Event) (hidle : Idle start)
    (hfresh : FreshRun sha256Hex start (before ++ later))
    (hquiet : Throughout (System.next sha256Hex) (fun sys e => quiet sys e) start
      (before ++ later))
    (r : Control.ApiKeyRecord)
    (hr : r ∈ (after (System.next sha256Hex) start before).keys.rows)
    (howner : (userById (after (System.next sha256Hex) start before).auth.memory.users
      r.userId).any (fun u => u.status ≠ "active"))
    (headers : Control.ClientHeaders) (now : ℕ) (identity : Control.ClientIdentity)
    (haccept : (after (System.next sha256Hex) start (before ++ later)).authenticateClient sha256Hex
      headers now = .ok (some identity))
    (hkey : identity.apiKeyId = some r.id) :
    Since (System.next sha256Hex) (Activates sha256Hex r.id r.userId)
      (fun sys => sys.status r.userId = some "active")
      (after (System.next sha256Hex) start before) later := by
  have hinv := inv_after hidle
    (fun l1 l2 d rest hsplit => hfresh l1 l2 d (rest ++ later) (by rw [hsplit]; simp)) hquiet.init
  have htrim := hinv.owners r hr
  obtain ⟨s, hs, hstat⟩ : ∃ s, s ≠ "active" ∧
      (after (.next sha256Hex) start before).status r.userId = some s := by
    rw [userById, htrim] at howner
    cases hfind : (after (.next sha256Hex) start before).auth.memory.users.find r.userId with
    | none => simp [hfind] at howner
    | some v =>
      exact ⟨v.status, by simpa [hfind] using howner, by simp [System.status, status, hfind]⟩
  obtain ⟨howned, hstate⟩ := dormant_after hidle hfresh hquiet hr hs hstat
  refine hstate.resolve_left ?_
  obtain ⟨t, ht, hact, hid, huser⟩ := authenticateClient_eq_ok haccept
  have htk : t.id = r.id := Option.some.inj (hid.symm.trans hkey)
  rintro (hinact | hdorm)
  · refine hinact ?_
    rw [howned t ht htk, isUserActive, htrim, Option.any_eq_true] at huser
    obtain ⟨v, hv, hvs⟩ := huser
    simpa [System.status, status, hv] using hvs
  · exact hdorm t ht htk hact

/-! ### Two runs -/

namespace Sample

/-- An administrator, and a user `usr_1` of some status with an active key. -/
def startWith (status : String) : System where
  auth := ⟨⟨Table.ofRows [⟨"root", "root", "r@x", "admin", "active", "h", 0, 0, none, []⟩,
      ⟨"usr_1", "alice", "a@x", "user", status, "h", 0, 0, none, []⟩], Table.empty, Table.empty⟩,
    1, ⟨[]⟩, 1⟩
  control := Control.Sample.created.store
  pending := []

/-- An update of the status of `usr_1`. -/
def setStatus (status : String) : Event :=
  .updateUser "usr_1" "root" ⟨none, none, none, some status⟩

/-- The next call of a request. -/
def resume (i : ℕ) (write : Write) : Event := .resume i 5 (.ok "h") "9" "sk-mp-9" write

/-- The id of the key that is accepted with the secret of `key_1`. -/
def acceptedKey (sys : System) : Option String :=
  match sys.authenticateClient Control.Sample.mark { xApiKey := some (some "sk-mp-1") } 10 with
  | .ok (some identity) => identity.apiKeyId
  | _ => none

lemma acceptedKey_eq_some {k : String} (h : acceptedKey sys = some k) :
    ∃ identity, sys.authenticateClient mark { xApiKey := some (some "sk-mp-1") } 10
      = .ok (some identity) ∧ identity.apiKeyId = some k := by
  unfold acceptedKey at h
  split at h
  · exact ⟨_, by assumption, h⟩
  · cases h

lemma idle_startWith {status : String}
    (h : ∀ u ∈ (startWith status).auth.memory.users.rows, trim u.id = u.id) :
    Idle (startWith status) where
  pending := rfl
  users u hu := by
    obtain ⟨_, hu⟩ := Option.isSome_iff_exists.1 hu
    obtain ⟨v, hv, -⟩ := Option.map_eq_some_iff.1 hu
    obtain ⟨hmem, rfl⟩ := Auth.find_user_eq_some.1 hv
    exact h v hmem
  owners := by
    have howners : ∀ r ∈ (startWith "active").keys.rows, trim r.userId = r.userId := by
      decide +kernel
    exact howners

/-- The calls that make `usr_1` active, and one that activates the key. -/
def reactivation : List Event :=
  [setStatus "active", resume 0 .acknowledged, resume 0 .acknowledged,
    .updateKey "key_1" { status := some "active" } 6 .acknowledged]

lemma freshRun_reactivation : FreshRun mark (startWith "disabled") reactivation := by
  have hids : ∀ l ∈ reactivation.inits,
      ∀ r ∈ (after (.next mark) (startWith "disabled") l).keys.rows,
        r.id ≠ "key_9" := by decide +kernel
  intro l1 l2 e later hsplit
  have hl : l1 ∈ reactivation.inits :=
    (mem_inits _ _).2 ⟨l2 ++ e :: later, by rw [hsplit, append_assoc]⟩
  have he : e ∈ reactivation := hsplit ▸ (by simp)
  simp only [reactivation, mem_cons, not_mem_nil, or_false] at he
  rcases he with rfl | rfl | rfl | rfl
  · trivial
  · exact hids l1 hl
  · exact hids l1 hl
  · trivial

end Sample

open Sample

/-- The theorem for an owner who is made active and a key that is then set active. -/
theorem reactivation_resurrects_no_key_activated :
    Since (System.next Control.Sample.mark) (Activates Control.Sample.mark "key_1" "usr_1")
      (fun sys => sys.status "usr_1" = some "active") (startWith "disabled") reactivation := by
  obtain ⟨r, hr, hid, howner⟩ : ∃ r ∈ (startWith "disabled").keys.rows,
      r.id = "key_1" ∧ r.userId = "usr_1" := by decide +kernel
  have hkey : acceptedKey (after (.next mark) (startWith "disabled")
      reactivation) = some "key_1" := by decide +kernel
  have hquiet : Throughout (.next mark) (fun sys e => quiet sys e)
      (startWith "disabled") ([] ++ reactivation) := by
    refine throughout_cons ?_ (throughout_cons ?_ (throughout_cons ?_ (throughout_cons ?_
      throughout_nil)))
    all_goals decide +kernel
  obtain ⟨identity, haccept, hident⟩ := acceptedKey_eq_some hkey
  rw [← hid, ← howner]
  refine reactivation_resurrects_no_key mark (startWith "disabled") [] reactivation
    (idle_startWith (by decide +kernel)) freshRun_reactivation hquiet r hr ?_ _ _ identity haccept
    (hident.trans (congrArg some hid.symm))
  rw [howner]
  decide +kernel

/-- **A stale read.** One request reads that the user is active; another one disables the user, and
its revocation of the keys is not saved; then the first one makes the user active. -/
theorem stale_read_resurrects_key :
    let before := [setStatus "active", setStatus "disabled", resume 1 .acknowledged]
    let later := [resume 1 .refused, resume 0 .acknowledged]
    let moment := after (System.next Control.Sample.mark) (startWith "active") before
    Idle (startWith "active") ∧
      (∃ r ∈ moment.keys.rows, r.id = "key_1" ∧
        (userById moment.auth.memory.users r.userId).any (fun u => u.status ≠ "active")) ∧
      (∃ identity, (after (System.next Control.Sample.mark) (startWith "active")
          (before ++ later)).authenticateClient Control.Sample.mark
          { xApiKey := some (some "sk-mp-1") } 10 = .ok (some identity) ∧
        identity.apiKeyId = some "key_1") ∧
      ∀ e ∈ later, ∀ input now write, e ≠ .updateKey "key_1" input now write := by
  refine ⟨idle_startWith (by decide +kernel), ?_, acceptedKey_eq_some ?_, ?_⟩
  · decide +kernel
  · decide +kernel
  · intro e he input now write
    simp only [mem_cons, not_mem_nil, or_false] at he
    rcases he with rfl | rfl <;> exact nofun

end ModelPort.Console
