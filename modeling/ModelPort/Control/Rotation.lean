import ModelPort.Control.Authentication

/-!
# Prepared rotations and deleted keys

Two properties of single records along a run.

A prepared rotation waits for its source to be handed over, so the source should be active. Every
operation that ends the life of a key removes what was prepared for it, except one: an
authentication that finds the key expired revokes it and leaves the prepared rotation behind.

A deleted key should stay deleted. It does unless a confirmed rotation of it exists: then a repeated
confirmation, and the repair at the next restart, set its status to revoked. Its hash stays empty.

* `KeyChange.sourcesActive`, `Lineage.sourcesActive_restart`: what keeps sources active.
* `pending_rotations_have_active_sources`: for every run without such an authentication, and only
  without it.
* `deletion_final_iff`: which deleted keys stay deleted.
-/

namespace ModelPort.Control

open Relational Relation WriteThrough Sample

variable {sha : String → String} {issued : List (String × String)}

/-! ### Prepared rotations -/

/-- Every prepared rotation has an active source, which has no other one; a key that is not active
has none. -/
structure PendingLive (keys : Keys) : Prop where
  source : ∀ p ∈ keys.rows, p.status = .pendingRotation →
    ∃ s ∈ keys.rows, p.rotationFromKeyId = some s.id ∧ s.status = .active
  one : ∀ p ∈ keys.rows, ∀ q ∈ keys.rows, p.status = .pendingRotation →
    q.status = .pendingRotation → p.rotationFromKeyId = q.rotationFromKeyId → p = q
  left : ∀ s ∈ keys.rows, s.status ≠ .active → ∀ p ∈ keys.rows, p.isPendingOf s.id = false

/-- The sources of prepared rotations are active. -/
def SourcesActive (keys : Keys) : Prop :=
  ∀ p ∈ keys.rows, p.status = .pendingRotation →
    ∃ s ∈ keys.rows, p.rotationFromKeyId = some s.id ∧ s.status = .active

/-- The call is no authentication with the secret of an expired key that has a prepared
rotation. -/
def SparesPending (sha256Hex : String → String) (inner : ControlInner) : Operation → Prop
  | .authenticate headers now =>
    ∀ record, (clientToken headers).bind (keyOfToken sha256Hex inner) = some record →
      record.status = .active → record.expired now →
        ∀ p ∈ inner.apiKeys.rows, p.isPendingOf record.id = false
  | _ => True

variable {r : ApiKeyRecord} {op : Operation}

section

variable {keys keys' : Keys} {record p : ApiKeyRecord} {keyId : String}

lemma isPendingOf_iff : p.isPendingOf keyId ↔
      p.status = .pendingRotation ∧ p.rotationFromKeyId = some keyId := by
  simp [ApiKeyRecord.isPendingOf]

section

variable (h : SourcesActive keys) {E : ApiKeyRecord → ApiKeyRecord → Prop}

include h

lemma SourcesActive.pendingLive (hlin : Lineage sha issued keys) : PendingLive keys where
  source := h
  one := hlin.onePending
  left s hs hstat p hp := by
    by_contra hpend
    obtain ⟨hp', hrot⟩ := isPendingOf_iff.1 (by simpa using hpend)
    obtain ⟨t, ht, hrot', hact⟩ := h p hp hp'
    obtain rfl := eq_of_id hs ht (Option.some.inj (hrot.symm.trans hrot'))
    exact hstat hact

/-- After an edit the sources are active if those of the prepared rotations that are left are. -/
lemma SourcesActive.edited
    (he : Edited keys keys' E) (hlink : ∀ r s, E r s → s.status = .pendingRotation →
      r.status = .pendingRotation ∧ s.rotationFromKeyId = r.rotationFromKeyId)
    (hact : ∀ s ∈ keys.rows, s.status = .active → ∀ s' ∈ keys'.rows, E s s' →
      ∀ p ∈ keys'.rows, p.status = .pendingRotation → p.rotationFromKeyId = some s.id →
        s'.status = .active) : SourcesActive keys' := by
  intro p hp hpend
  obtain ⟨r, hr, -, hE⟩ := he.back p hp
  obtain ⟨hrpending, hrot⟩ := hlink r p hE hpend
  obtain ⟨s, hs, hsrc, hsactive⟩ := h r hr hrpending
  obtain ⟨s', hs', hid, hE'⟩ := he.forth hs (by simp [hsactive])
  have hp' := hrot.trans hsrc
  exact ⟨s', hs', by rw [hp', hid], hact s hs hsactive s' hs' hE' p hp hpend hp'⟩

/-- An edit of one record, which has no prepared rotation afterwards. -/
lemma SourcesActive.edited_one {f : ApiKeyRecord → ApiKeyRecord}
    (he : Edited keys keys' fun r s => s = r ∨ r = record ∧ s = f r)
    (hf : (f record).status ≠ .pendingRotation)
    (hleft : ∀ p ∈ keys'.rows, p.status = .pendingRotation → p.rotationFromKeyId ≠ some record.id) :
    SourcesActive keys' := by
  refine h.edited he ?_ ?_
  · rintro r s (rfl | ⟨rfl, rfl⟩) hs
    · exact ⟨hs, rfl⟩
    · exact absurd hs hf
  · rintro s - hact s' - (rfl | ⟨rfl, -⟩) p hp hpend hrot
    · exact hact
    · exact absurd hrot (hleft p hp hpend)

lemma SourcesActive.edited_same (he : Edited keys keys' E)
    (hE : ∀ r s, E r s → s.status = r.status ∧ s.rotationFromKeyId = r.rotationFromKeyId) :
    SourcesActive keys' := by
  refine h.edited he (fun r s hrs hs => ?_) fun s _ hact s' _ hss' _ _ _ _ => ?_
  · exact ⟨(hE r s hrs).1 ▸ hs, (hE r s hrs).2⟩
  · exact (hE s s' hss').1.trans hact

lemma SourcesActive.put
    (hfresh : ∀ s ∈ keys.rows, s.id ≠ r.id) (hnew : r.status = .pendingRotation →
      ∃ s ∈ keys.rows, r.rotationFromKeyId = some s.id ∧ s.status = .active) :
    SourcesActive (keys.put r) := by
  have hold : ∀ s ∈ keys.rows, s ∈ (keys.put r).rows := fun s hs =>
    mem_put_iff.2 (.inr ⟨hs, hfresh s hs⟩)
  intro p hp hpend
  have hsrc : ∃ s ∈ keys.rows, p.rotationFromKeyId = some s.id ∧ s.status = .active := by
    rcases mem_put_iff.1 hp with rfl | ⟨hp, -⟩
    · exact hnew hpend
    · exact h p hp hpend
  obtain ⟨s, hs, hs'⟩ := hsrc
  exact ⟨s, hold s hs, hs'⟩

end

lemma rotationFrom_ne_of_mem_purge
    (hp : p ∈ (purge keys keyId).rows) (hpend : p.status = .pendingRotation) :
    p.rotationFromKeyId ≠ some keyId := by
  intro hrot
  have hkeep := (List.mem_filter.1 hp).2
  simp [ApiKeyRecord.isPendingOf, hpend, hrot] at hkeep

section

variable (h : SourcesActive keys)

include h

lemma SourcesActive.purge (keyId : String) : SourcesActive (purge keys keyId) := by
  refine h.edited_same (edited_purge keyId) ?_
  rintro r s rfl
  exact ⟨rfl, rfl⟩

lemma SourcesActive.confirm (hlin : Lineage sha issued keys)
    {current replacement : ApiKeyRecord} (hcurr : current ∈ keys.rows)
    (hrepl : replacement ∈ keys.rows) (hpend : replacement.status = .pendingRotation)
    (hrot : replacement.rotationFromKeyId = some current.id) :
    SourcesActive (handover keys current.id (takeOver sha current replacement)) := by
  have hmem {s} := hlin.mem_confirmed (s := s) hcurr hrepl hpend hrot
  intro p hp hp'
  rcases hmem.1 hp with rfl | rfl | ⟨hp, -, hpne⟩
  · cases hp'
  · cases hp'
  · obtain ⟨s, hs, hsource', hact⟩ := h p hp hp'
    refine ⟨s, hmem.2 (.inr (.inr ⟨hs, ?_, ?_⟩)), hsource', hact⟩
    · -- the confirmed rotation was the only one of its source
      intro hid
      have hsame : p.rotationFromKeyId = replacement.rotationFromKeyId := by
        rw [hsource', hid, hrot]
      obtain rfl := hlin.onePending p hp replacement hrepl hp' hpend hsame
      exact hpne rfl
    · intro hid
      rw [eq_of_id hs hrepl hid, hpend] at hact
      cases hact

lemma SourcesActive.updateKeys {input : UpdateApiKeyInput} {now : ℕ}
    {updated : ApiKeyRecord} (hmem : record ∈ keys.rows) (hmut : record.Mutable)
    (hupd : Updated input now record updated) :
    SourcesActive (updateKeys input keys updated) := by
  have hedit := hupd.lineageEdit hmut
  refine h.edited (edited_updateKeys hmem hmut hupd) ?_ ?_
  · rintro r s (⟨rfl, rfl⟩ | ⟨-, rfl⟩) hs
    · exact ⟨hedit.pending.1 hs, hedit.rotated⟩
    · exact ⟨hs, rfl⟩
  · rintro s - hact s' - (⟨rfl, rfl⟩ | ⟨-, rfl⟩) p hp hpend hrot
    · rcases hupd.status_cases with hstat | hstat | hstat
      · exact hstat.trans hact
      · exact hstat
      · -- an update that revokes removes the prepared rotation
        rw [Control.updateKeys, if_pos hstat, hupd.id] at hp
        exact absurd hrot (rotationFrom_ne_of_mem_purge hp hpend)
    · exact hact

lemma SourcesActive.dropUser (hlin : Lineage sha issued keys)
    (userId : String) : SourcesActive (dropUser keys userId) := by
  refine h.edited (edited_dropUser userId) ?_ ?_
  · rintro r s (rfl | ⟨-, -, -, rfl⟩) hs
    · exact ⟨hs, rfl⟩
    · cases hs
  · rintro s hs hact s' - (rfl | ⟨hown, -⟩) p hp hpend hrot
    · exact hact
    · -- a prepared rotation belongs to the user of its source, and is gone with it
      obtain ⟨r, hr, rfl⟩ := (Table.mem_update _).1 hp
      obtain ⟨hr, hkeep⟩ := List.mem_filter.1 hr
      by_cases hrev : (r.userId = userId && r.status ≠ .deleted)
      · rw [Table.assign, if_pos hrev] at hpend
        cases hpend
      · rw [Table.assign, if_neg hrev] at hpend hrot
        have hother : r.userId ≠ userId := by simpa [hpend] using hkeep
        exact absurd ((hlin.source_of hr hs hrot).userId.symm.trans hown) hother

end

/-- **An operation that spares prepared rotations keeps their sources active.** -/
lemma KeyChange.sourcesActive {inner : ControlInner}
    (hchg : KeyChange sha inner op keys') (hspar : SparesPending sha inner op)
    (hdraw : ∀ d ∈ op.draw, ∀ r ∈ inner.apiKeys.rows, r.id ≠ d.1)
    (hlin : Lineage sha issued inner.apiKeys) (h : SourcesActive inner.apiKeys) :
    SourcesActive keys' := by
  cases hchg with
  | create hnew =>
    refine h.put (hnew.id ▸ hdraw _ rfl) fun hpend => ?_
    rw [hnew.status] at hpend
    cases hpend
  | @enroll input maxActive now uuid key record hnew hlimit =>
    have hjoin := @edited_joinOwner inner.apiKeys sha record
    refine .put (h.edited_same hjoin ?_) ?_ fun hpend => ?_
    · rintro r s rfl
      split <;> exact ⟨rfl, rfl⟩
    · intro s hs
      obtain ⟨r, hr, hid, -⟩ := hjoin.back s hs
      rw [hid, joinOwner, hnew.id]
      exact hdraw _ rfl r hr
    · rw [joinOwner, hnew.status] at hpend
      cases hpend
  | @rotate now uuid key current hmem hact hunexp =>
    refine (h.purge current.id).put (fun s hs => hdraw _ rfl s (List.mem_of_mem_filter hs))
      fun _ => ⟨current, ?_, rfl, hact⟩
    exact mem_purge_self hmem hact
  | repeatConfirm hcurr hrepl hact hrot =>
    refine h.edited (hlin.edited_repeatConfirm hcurr hrepl hact hrot) ?_ ?_
    · rintro r s (rfl | ⟨rfl, rfl⟩ | ⟨rfl, -, rfl⟩) hs
      · exact ⟨hs, rfl⟩
      · exact ⟨hs, rfl⟩
      · cases hs
    · rintro s hs hactive' s' - (rfl | ⟨rfl, rfl⟩ | ⟨rfl, hsuper, -⟩) p - - -
      · exact hactive'
      · exact hactive'
      · simp [hlin.superseded_none hs hactive'] at hsuper
  | confirm hcurr hrepl hact hunexp hpend hrot =>
    exact h.confirm hlin hcurr hrepl hpend hrot
  | @cancel keyId replacement hmem hpend =>
    refine h.edited_same (edited_cancel hmem hpend) ?_
    rintro r s rfl
    exact ⟨rfl, rfl⟩
  | update hmem hmut hupd => exact h.updateKeys hmem hmut hupd
  | bind tenant hmem hmut =>
    refine h.edited_same (edited_bind tenant hmem) ?_
    rintro r s (rfl | ⟨-, rfl⟩) <;> exact ⟨rfl, rfl⟩
  | revoke hmem hpend hdeleted =>
    exact h.edited_one (edited_revoked hmem) (by simp) fun p hp hp' =>
      rotationFrom_ne_of_mem_purge hp hp'
  | delete hmem hpend hdeleted =>
    exact h.edited_one (edited_deleted hmem) (by simp) fun p hp hp' =>
      rotationFrom_ne_of_mem_purge hp hp'
  | deleteUser userId => exact h.dropUser hlin userId
  | upsertTeam teamId name =>
    refine h.edited_same (edited_renameTeam teamId name) ?_
    rintro r s (rfl | rfl) <;> exact ⟨rfl, rfl⟩
  | deleteTeam => exact h
  | @expire headers now token record htoken hrec hact hexp =>
    have hfound : (clientToken headers).bind (keyOfToken sha inner) = some record := by
      rw [htoken]
      exact hrec
    have hnone := hspar record hfound hact hexp
    have he := edited_revoke (mem_of_keyOfToken hrec)
    refine h.edited_one he (by simp) fun p hp hp' hrot => ?_
    obtain ⟨r, hr, -, rfl | ⟨-, rfl⟩⟩ := he.back p hp
    · exact absurd (isPendingOf_iff.2 ⟨hp', hrot⟩) (by simp [hnone p hr])
    · cases hp'

lemma Lineage.sourcesActive_restart (hlin : Lineage sha issued keys)
    (h : SourcesActive keys) : SourcesActive (restartKeys sha keys) := by
  have hkeeps : KeepsLinks (repairSubject sha keys.rows) := keepsLinks_repairSubject
  refine h.edited (hlin.edited_restart.mono fun r hr s _ hs =>
    (⟨hr, hs⟩ : r ∈ keys.rows ∧ s = restartRecord sha keys r)) ?_ ?_
  · rintro r s ⟨hr, rfl⟩ hs
    rcases hlin.restartRecord_cases hr with ⟨-, heq⟩ | ⟨-, -, heq⟩ <;> rw [heq] at hs ⊢
    · exact ⟨hkeeps.status r ▸ hs, hkeeps.rotationFromKeyId r⟩
    · cases hs
  · rintro s - hact s' - ⟨hs, rfl⟩ p - - -
    rcases hlin.restartRecord_cases hs with ⟨-, heq⟩ | ⟨-, hsuper, -⟩
    · rw [heq, hkeeps.status, hact]
    · simp [hlin.superseded_none hs hact] at hsuper

end

section

variable {inner inner' : ControlInner} {h : History}

lemma Change.sourcesActive
    (hchg : Change sha (SparesPending sha) issued inner inner')
    (hlin : Lineage sha issued inner.apiKeys) (h : SourcesActive inner.apiKeys) :
    SourcesActive inner'.apiKeys := by
  cases hchg with
  | operate op hspar hrun hdraw =>
    exact (Operation.run_save hrun).keys.sourcesActive hspar (fun d hd => (hdraw d hd).2) hlin h
  | restart => exact hlin.sourcesActive_restart h

lemma Path.sourcesActive
    (hpath : Path sha (SparesPending sha) issued emptyInner inner) :
    SourcesActive inner.apiKeys := by
  induction hpath with
  | refl => exact fun p hp => by cases hp
  | tail hpath hchg ih => exact hchg.sourcesActive (Path.lineage hpath) ih

lemma Reachable.pendingLive (hreach : Reachable sha (SparesPending sha) h) :
    PendingLive h.store.memory.apiKeys :=
  (Path.sourcesActive hreach.sound.path).pendingLive hreach.lineage

lemma not_pendingLive_perform {store : ControlStore}
    (hspar : ¬ SparesPending sha store.memory op)
    (hsync : store.documentRevision = store.revision) :
    ¬ PendingLive (perform sha op .acknowledged store).1.memory.apiKeys := by
  cases op with
  | authenticate headers now =>
    simp only [SparesPending, not_forall, Bool.not_eq_false] at hspar
    obtain ⟨record, hfound, hact, hexp, p, hp, hpend⟩ := hspar
    obtain ⟨token, -, hrec⟩ := Option.bind_eq_some_iff.1 hfound
    obtain ⟨hpstatus, hprotated⟩ := isPendingOf_iff.1 hpend
    have hrun : (Operation.authenticate headers now).run sha store.memory = .ok (.save
        { store.memory with apiKeys := revoke store.memory.apiKeys record.id }
        (.error .auth)) := by
      rw [Operation.run, authenticateHeaders, hfound]
      simp [admitKey, hact, hexp, Except.map, Outcome.discard]
    have hmemory : (perform sha (.authenticate headers now) .acknowledged store).1.memory.apiKeys
        = revoke store.memory.apiKeys record.id := by
      rw [perform, hrun]
      simp [Cell.save, hsync, ControlInner.rebuildApiKeyHashIndex]
    have hne : p.id ≠ record.id := by
      intro hid
      rw [eq_of_id hp (mem_of_keyOfToken hrec) hid, hact] at hpstatus
      cases hpstatus
    intro hlive
    rw [hmemory] at hlive
    obtain ⟨s, hs, hrot, hs'⟩ :=
      hlive.source p (mem_modify.2 (.inr ⟨hp, hne⟩)) hpstatus
    have hid : s.id = record.id := Option.some.inj (hrot.symm.trans hprotated)
    rcases mem_modify.1 hs with ⟨r, -, -, rfl⟩ | ⟨-, hsne⟩
    · cases hs'
    · exact hsne hid
  | _ => exact absurd trivial hspar

end

/-- **Prepared rotations have active sources**, in every run whose operations are no authentication
with the secret of an expired key that has a prepared rotation. In a state of such a run, with
memory and document in step, any operation that is saved keeps it so if and only if it is none
either. -/
theorem pending_rotations_have_active_sources (sha256Hex : String → String) (h : History)
    (hreach : Reachable sha256Hex (SparesPending sha256Hex) h) :
    PendingLive h.store.memory.apiKeys ∧ (h.store.documentRevision = h.store.revision →
        ∀ op : Operation,
          (∀ d ∈ op.draw, d.1 ∉ h.issued.map Prod.fst ∧ d.2 ∉ h.issued.map Prod.snd) →
          (PendingLive (perform sha256Hex op .acknowledged h.store).1.memory.apiKeys ↔
            SparesPending sha256Hex h.store.memory op)) := by
  refine ⟨hreach.pendingLive, fun hsync op hfresh => ⟨fun hlive => ?_, fun hspar => ?_⟩⟩
  · by_contra hspar
    exact not_pendingLive_perform hspar hsync hlive
  · exact Reachable.pendingLive (hreach.tail (Step.operate op .acknowledged hspar hfresh))

namespace Sample

/-- The created key with a prepared rotation. -/
def rotated : History := initial.play mark [saved create, saved (.rotate "key_1" 2 "2" "sk-mp-2")]

/-- An authentication with the secret of the created key, at its expiry. -/
def authenticateExpired : Operation :=
  .authenticate { xApiKey := some (some "sk-mp-1") } 100

end Sample

/-- A prepared rotation has its active source. -/
theorem pending_rotations_have_active_sources_rotated :
    PendingLive Sample.rotated.store.memory.apiKeys := by
  have hreach : Reachable mark (SparesPending mark) rotated :=
    run_play ⟨fun _ => trivial, fun _ => trivial⟩ (by decide +kernel)
  exact (pending_rotations_have_active_sources mark rotated hreach).1

/-- A key is rotated, and its old secret is presented when it has expired: the key is revoked, and
the prepared rotation still names it. -/
theorem pending_rotation_of_expired_key : Reachable Sample.mark AnyOperation
        (Sample.rotated.next Sample.mark (Sample.saved Sample.authenticateExpired)) ∧
      ¬ PendingLive (Sample.rotated.next Sample.mark
        (Sample.saved Sample.authenticateExpired)).store.memory.apiKeys := by
  have hreach : Reachable mark AnyOperation (initial.play mark
      [saved create, saved (.rotate "key_1" 2 "2" "sk-mp-2"), saved authenticateExpired]) :=
    reachable_play (by decide +kernel)
  refine ⟨hreach, fun hlive => ?_⟩
  have hleft : ∃ s ∈ (rotated.next mark (saved authenticateExpired)).store.memory.apiKeys.rows,
      s.status ≠ .active ∧ ∃ p ∈ (rotated.next mark
        (saved authenticateExpired)).store.memory.apiKeys.rows,
        p.isPendingOf s.id := by
    decide +kernel
  obtain ⟨s, hs, hstat, p, hp, hpend⟩ := hleft
  rw [hlive.left s hs hstat p hp] at hpend
  cases hpend

/-! ### Deleted keys -/

section

/-- The record of a key is deleted and has no hash. -/
def StaysDeleted (keys : Keys) (keyId : String) : Prop :=
  ∃ s ∈ keys.rows, s.id = keyId ∧ s.status = .deleted ∧ s.keyHash = ""

lemma Lineage.revoked_restart {issued : List (String × String)} {keys : Keys}
    (hlin : Lineage sha issued keys) (hr : r ∈ keys.rows)
    (hsuper : r.supersededByKeyId.isSome) :
    ∃ s ∈ (restartKeys sha keys).rows, s.id = r.id ∧ s.status = .revoked := by
  have hpend := (hlin.spent r hr (.inl hsuper)).2.2
  obtain ⟨s, hs, hid, rfl⟩ := hlin.edited_restart.forth hr hpend
  refine ⟨_, hs, hid, ?_⟩
  rcases hlin.restartRecord_cases hr with ⟨hnone, -⟩ | ⟨-, -, heq⟩
  · exact absurd (hlin.successor r hr hsuper) hnone
  · rw [heq]

end

/-- **Which deleted keys stay deleted.** In a reachable state, a deleted key has status deleted and
an empty hash in every later state, whatever operations and restarts follow, if and only if no
confirmed rotation of it exists. -/
theorem deletion_final_iff (sha256Hex : String → String) (h : History)
    (hreach : Reachable sha256Hex AnyOperation h) (r : ApiKeyRecord)
    (hr : r ∈ h.store.memory.apiKeys.rows) (hdeleted : r.status = .deleted) :
    (∀ h', Run sha256Hex AnyOperation h h' → StaysDeleted h'.store.memory.apiKeys r.id) ↔
      ¬ HasRotation Confirmed h.store.memory.apiKeys.rows r.id := by
  have hsound := hreach.sound
  have hlin := hreach.lineage
  have hsuper : HasRotation Confirmed h.store.memory.apiKeys.rows r.id ↔
      r.supersededByKeyId.isSome := by
    refine ⟨?_, hlin.successor r hr⟩
    rintro ⟨c, hc, hconf, hrot⟩
    rw [(hlin.source_of hc hr hrot).superseded, if_neg (of_decide_eq_true hconf)]
    rfl
  rw [hsuper]
  constructor
  · -- the document has the record as superseded, and the repair revokes it
    intro hstays hsome
    obtain ⟨d, hd, hpath⟩ := hsound.follows.exists_path
    obtain ⟨s, hs, hid, -, hsame⟩ := Path.spent hpath hlin hr (Or.inr hdeleted)
    obtain ⟨t, ht, hid', hrev⟩ :=
      (Path.lineage_of hpath hlin).revoked_restart hs (hsame ▸ hsome)
    have hmemory : (load sha256Hex h.store).memory = restarted sha256Hex d := by
      simp [load, Cell.restart, hd, restarted]
    obtain ⟨u, hu, hid'', hdeleted', -⟩ := hstays _ (ReflTransGen.single Step.restart)
    have ht' : t ∈ (load sha256Hex h.store).memory.apiKeys.rows := by
      rw [hmemory]
      exact ht
    rw [eq_of_id hu ht' (hid''.trans (hid'.trans hid).symm), hrev] at hdeleted'
    cases hdeleted'
  · intro hnone h' hrun
    obtain ⟨hsound', hmore, hpath⟩ := hsound.run hrun
    obtain ⟨s, hs, hid, hspent, hsame⟩ :=
      hpath.spent (hlin.mono hmore) hr (Or.inr hdeleted)
    refine ⟨s, hs, hid, ?_, (hsound'.lineage.spent s hs hspent).1⟩
    exact hspent.resolve_left (by rwa [hsame])

/-- The created key is deleted. -/
def Sample.deleted : History := initial.play mark [saved create, saved (.delete "key_1")]

/-- The rotation of the created key is confirmed, and then the key is deleted. -/
def Sample.rotatedDeleted : History :=
  rotated.play mark [saved (.confirm "key_1" "key_2" 3), saved (.delete "key_1")]

/-- A key without rotations stays deleted over restarts. -/
theorem deletion_final_iff_deleted :
    StaysDeleted (Sample.deleted.next Sample.mark .restart).store.memory.apiKeys "key_1" := by
  have hreach : Reachable mark AnyOperation deleted :=
    reachable_play (by decide +kernel)
  have hrec : ∃ r ∈ deleted.store.memory.apiKeys.rows, r.id = "key_1" ∧
      r.status = .deleted ∧ ∀ c ∈ deleted.store.memory.apiKeys.rows,
        c.rotationFromKeyId ≠ some r.id := by
    decide +kernel
  obtain ⟨r, hr, hid, hdeleted, hnone⟩ := hrec
  rw [← hid]
  refine (deletion_final_iff mark deleted hreach r hr hdeleted).2 ?_ _ (.single Step.restart)
  rintro ⟨c, hc, -, hrot⟩
  exact hnone c hc hrot

/-- A key that was rotated and deleted is revoked again after a restart, and after a repeated
confirmation of the rotation. -/
theorem deleted_source_is_revoked_again :
    Reachable Sample.mark AnyOperation Sample.rotatedDeleted ∧
      StaysDeleted Sample.rotatedDeleted.store.memory.apiKeys "key_1" ∧
      (∃ s ∈ (Sample.rotatedDeleted.next Sample.mark .restart).store.memory.apiKeys.rows,
        s.id = "key_1" ∧ s.status = .revoked) ∧
      ∃ s ∈ (Sample.rotatedDeleted.next Sample.mark
          (Sample.saved (.confirm "key_1" "key_2" 4))).store.memory.apiKeys.rows,
        s.id = "key_1" ∧ s.status = .revoked := by
  have hreach : Reachable mark AnyOperation (initial.play mark
      [saved create, saved (.rotate "key_1" 2 "2" "sk-mp-2"),
        saved (.confirm "key_1" "key_2" 3), saved (.delete "key_1")]) :=
    reachable_play (by decide +kernel)
  refine ⟨hreach, ?_, ?_, ?_⟩
  · unfold StaysDeleted
    decide +kernel
  · decide +kernel
  · decide +kernel

end ModelPort.Control
