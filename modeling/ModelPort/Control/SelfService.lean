import ModelPort.Control.Metering
import ModelPort.Control.Routes

/-!
# Self-service does not escalate

A console user who is no administrator can call the store through the routes only. `OwnChange` says
what such a call does to the keys, and `Confined` what a whole sequence of calls leaves as it was.

* `self_service_confined`: what every sequence of requests keeps.
-/

namespace ModelPort.Control

open Relational Relation Sample List Bool

variable {now later : ℕ} {sha : String → String} {owner : String} {issued : List (String × String)}
  {inner : ControlInner}

variable {r record s : ApiKeyRecord} {keys keys' : Keys} {teams : Teams} {input : UpdateApiKeyInput}

/-! ### Access -/

/-- What a key gives access to, and until when. -/
structure AccessPolicy where
  teamId : Option String
  tenant : TenantKey
  allowedModels : List String
  allowedProviders : List String
  ipRestricted : Bool
  allowedIps : List String
  expiresAtMs : Option ℕ
  deriving DecidableEq

def ApiKeyRecord.access (r : ApiKeyRecord) : AccessPolicy where
  teamId := r.teamId
  tenant := r.tenant
  allowedModels := r.allowedModels
  allowedProviders := r.allowedProviders
  ipRestricted := r.ipRestricted
  allowedIps := r.allowedIps
  expiresAtMs := r.expiresAtMs

/-- How many usable keys a user has. -/
def usableKeys (userId : String) (teams : Teams) (now : ℕ) (keys : Keys) : ℕ :=
  keys.rows.countP fun r => r.userId = userId && r.usableForCatalog teams now

section

lemma usableForCatalog_of_access (hacc : s.access = r.access)
    (hact : s.status = .active → r.status = .active)
    (h : s.usableForCatalog teams now) : r.usableForCatalog teams now := by
  simp only [ApiKeyRecord.access, AccessPolicy.mk.injEq] at hacc
  obtain ⟨hteam, -, -, -, hrestr, hips, hexp⟩ := hacc
  simp only [ApiKeyRecord.usableForCatalog, ApiKeyRecord.expired, ApiKeyRecord.teamActive,
    and_eq_true, decide_eq_true_eq, hteam, hrestr, hips, hexp] at h ⊢
  exact ⟨⟨⟨hact h.1.1.1, h.1.1.2⟩, h.1.2⟩, h.2⟩

lemma active_of_usableForCatalog (h : r.usableForCatalog teams now) : r.status = .active := by
  simp only [ApiKeyRecord.usableForCatalog, and_eq_true, decide_eq_true_eq] at h
  exact h.1.1.1

/-- A key that is usable later was not expired before. -/
lemma usableForCatalog_earlier (hle : now ≤ later) (h : r.usableForCatalog teams later) :
    r.usableForCatalog teams now := by
  simp only [ApiKeyRecord.usableForCatalog, and_eq_true, not_eq_true', ApiKeyRecord.expired] at h ⊢
  refine ⟨⟨⟨h.1.1.1, ?_⟩, h.1.2⟩, h.2⟩
  have hunexp := h.1.1.2
  cases hexp : r.expiresAtMs with
  | none => rfl
  | some e =>
    simp only [hexp, Option.any_some, decide_eq_false_iff_not] at hunexp ⊢
    omega

lemma usableKeys_later (userId : String) (hle : now ≤ later) :
    usableKeys userId teams later keys ≤ usableKeys userId teams now keys := by
  refine countP_mono_left fun r _ h => ?_
  simp only [and_eq_true] at h ⊢
  exact ⟨h.1, usableForCatalog_earlier hle h.2⟩

/-- Records that can be mapped, by their ids and one by one, to records with a property are not more
than those. -/
lemma countP_le_of_ids {p : ApiKeyRecord → Bool} (f : String → String)
    (hmap : ∀ s ∈ keys'.rows, p s → ∃ r ∈ keys.rows, p r ∧ r.id = f s.id)
    (hinj : ∀ s ∈ keys'.rows, ∀ s' ∈ keys'.rows, p s → p s' = true →
      f s.id = f s'.id → s.id = s'.id) : keys'.rows.countP p ≤ keys.rows.countP p := by
  have himage : ((keys'.rows.filter p).map fun s => f s.id).Nodup := by
    refine pairwise_map.2 ((keys'.apart.filter p).imp_of_mem fun {s s'} hs hs' hapart hsame => ?_)
    obtain ⟨hs, hps⟩ := mem_filter.1 hs
    obtain ⟨hs', hps'⟩ := mem_filter.1 hs'
    simp [Apart, hinj s hs s' hs' hps hps' hsame] at hapart
  have hsubset : ((keys'.rows.filter p).map fun s => f s.id) ⊆
      (keys.rows.filter p).map ApiKeyRecord.id := by
    intro a ha
    obtain ⟨s, hs, rfl⟩ := mem_map.1 ha
    obtain ⟨hs, hps⟩ := mem_filter.1 hs
    obtain ⟨r, hr, hpr, hid⟩ := hmap s hs hps
    exact mem_map.2 ⟨r, mem_filter.2 ⟨hr, hpr⟩, hid⟩
  have hlength := (subperm_of_subset himage hsubset).length_le
  simpa [countP_eq_length_filter] using hlength

end

/-! ### Changes of own keys -/

/-- An edit of a user's own record that leaves its access alone. -/
structure OwnEdit (owner : String) (r s : ApiKeyRecord) : Prop where
  own : s = r ∨ r.userId = owner
  userId : s.userId = r.userId
  createdAtMs : s.createdAtMs = r.createdAtMs
  access : s.access = r.access
  rotated : s.rotationFromKeyId = r.rotationFromKeyId
  active : s.status = .active → r.status = .active
  pending : s.status = .pendingRotation → r.status = .pendingRotation

lemma OwnEdit.refl {owner : String} (r : ApiKeyRecord) : OwnEdit owner r r :=
  ⟨.inl rfl, rfl, rfl, rfl, rfl, id, id⟩

/-- Records are edited so, and nothing of others is lost. -/
structure OwnEdited (owner : String) (keys keys' : Keys) : Prop
    extends Edited keys keys' (OwnEdit owner) where
  others : ∀ r ∈ keys.rows, r.userId ≠ owner → r ∈ keys'.rows

/-- The record has a short life, or it was rotated from a key with the same expiry. -/
def BoundedLife (keys : Keys) (r : ApiKeyRecord) : Prop :=
  (∃ e, r.expiresAtMs = some e ∧ e ≤ r.createdAtMs + defaultSelfServiceKeyTtlMs) ∨
    ∃ o ∈ keys.rows, r.rotationFromKeyId = some o.id ∧ r.expiresAtMs = o.expiresAtMs

/-- What a user's own operation does to the keys. -/
inductive OwnChange (sha256Hex : String → String) (owner : String) (issued : List (String × String))
    (teams : Teams) (now : ℕ) (keys : Keys) : Keys → Prop
  | edit {keys' : Keys} (he : OwnEdited owner keys keys') :
      OwnChange sha256Hex owner issued teams now keys keys'
  | add {keys1 : Keys} {n : ApiKeyRecord} (he : OwnEdited owner keys keys1)
      (hfresh : n.id ∉ issued.map Prod.fst) (howner : n.userId = owner)
      (hlife : BoundedLife keys1 n)
      (hlimit : n.status = .active → usableKeys owner teams now keys < maxSelfServiceActiveKeys) :
      OwnChange sha256Hex owner issued teams now keys (keys1.put n)
  | confirm {current replacement : ApiKeyRecord} (hcurr : current ∈ keys.rows)
      (hrepl : replacement ∈ keys.rows) (hact : current.status = .active)
      (hpend : replacement.status = .pendingRotation)
      (hrot : replacement.rotationFromKeyId = some current.id)
      (howner : current.userId = owner) (hown' : replacement.userId = owner) :
      OwnChange sha256Hex owner issued teams now keys
        (handover keys current.id (takeOver sha256Hex current replacement))

section

lemma Edited.own {E : ApiKeyRecord → ApiKeyRecord → Prop} (he : Edited keys keys' E)
    (hE : ∀ r ∈ keys.rows, ∀ s ∈ keys'.rows, E r s → OwnEdit owner r s)
    (hkept : ∀ r ∈ keys.rows, r.userId ≠ owner → ∃ s ∈ keys'.rows, s.id = r.id) :
    OwnEdited owner keys keys' where
  toEdited := he.mono hE
  others r hr howner := by
    obtain ⟨s, hs, hid⟩ := hkept r hr howner
    obtain ⟨r', hr', hid', hE'⟩ := he.back s hs
    obtain rfl := eq_of_id hr hr' (hid.symm.trans hid')
    rcases (hE r hr s hs hE').own with rfl | hown
    · exact hs
    · exact absurd hown howner

lemma Lineage.not_isPendingOf (h : Lineage sha issued keys)
    (hrec : record ∈ keys.rows) (hr : r ∈ keys.rows) (hother : r.userId ≠ record.userId) :
    r.isPendingOf record.id = false := by
  by_contra hpend
  simp only [ApiKeyRecord.isPendingOf, not_eq_false, and_eq_true,
    decide_eq_true_eq] at hpend
  exact hother (h.source_of hr hrec hpend.2).userId.symm

lemma mem_purge {keyId : String} (hr : r ∈ keys.rows)
    (h : r.isPendingOf keyId = false) : r ∈ (purge keys keyId).rows :=
  mem_filter.2 ⟨hr, by simp [h]⟩

/-- A rewritten record of a user, after which its prepared rotations are removed. -/
lemma Lineage.kept_purge (h : Lineage sha issued keys)
    (hrec : record ∈ keys.rows) (hr : r ∈ keys.rows) (hother : r.userId ≠ record.userId)
    {f : ApiKeyRecord → ApiKeyRecord} {hf : ∀ r, (f r).id = r.id} :
    r ∈ (purge (modify keys record.id f hf) record.id).rows := by
  have hid : r.id ≠ record.id := fun hid => hother (eq_of_id hr hrec hid ▸ rfl)
  exact mem_purge (mem_modify.2 (.inr ⟨hr, hid⟩)) (h.not_isPendingOf hrec hr hother)

variable {op : Operation}

lemma Owns.eq_owner (h : Owns inner owner r.id)
    (hr : r ∈ inner.apiKeys.rows) : r.userId = owner := by
  obtain ⟨s, hs, hid, howner⟩ := h
  rwa [eq_of_id hr hs hid.symm]

lemma UpdateApiKeyInput.unchanged (h : input.changesAdminPolicy = false) :
    input.teamId = none ∧ input.allowedModels = none ∧ input.allowedProviders = none ∧
      input.expiresAt = none ∧ input.status = none ∧ input.ipRestricted = none ∧
      input.allowedIps = none ∧ ¬ input.changesLimits := by
  simp only [UpdateApiKeyInput.changesAdminPolicy, or_eq_false_iff, Option.isSome_eq_false_iff,
    Option.isNone_iff_eq_none] at h
  obtain ⟨⟨⟨⟨⟨⟨⟨h1, h2⟩, h3⟩, h4⟩, h5⟩, h6⟩, h7⟩, h8⟩ := h
  exact ⟨h1, h2, h3, h4, h5, h6, h7, by simp [h8]⟩

lemma Updated.ownEdit {now : ℕ} {updated : ApiKeyRecord}
    (h : Updated input now record updated) (hpol : input.changesAdminPolicy = false)
    (howner : record.userId = owner) : OwnEdit owner record updated := by
  obtain ⟨hteam, hmod, hprov, hexp, hstat, hrestr, hips, -⟩ :=
    UpdateApiKeyInput.unchanged hpol
  have hmod := Except.ok.inj (hmod ▸ h.models)
  have hprov := Except.ok.inj (hprov ▸ h.providers)
  have hexp := Except.ok.inj (hexp ▸ h.expires)
  have hact := Except.ok.inj (hstat ▸ h.status)
  have hips := Except.ok.inj (hips ▸ h.ips)
  have hrestr := hrestr ▸ h.restricted
  refine ⟨.inr howner, by rw [h.same], by rw [h.same], ?_, by rw [h.same], fun hs => hact ▸ hs,
    fun hs => hact ▸ hs⟩
  rw [ApiKeyRecord.access, h.team hteam, ← hmod, ← hprov, ← hexp, ← hips, hrestr, h.same]
  rfl

lemma withLimits_of_unchanged (h : ¬ input.changesLimits)
    (subject : String) (r : ApiKeyRecord) : withLimits input subject r = r := by
  rw [withLimits, applyLimits_of_unchanged h, ite_self]

lemma ownEdited_joinOwner (hrec : record.userId = owner) : OwnEdited owner keys
    (keys.update (isUserKeyOf record.userId) (joinOwner sha keys record) fun _ => rfl) := by
  refine (edited_joinOwner sha record).own ?_ fun r hr _ => ?_
  · rintro r - s - rfl
    split
    · rename_i hown
      simp only [isUserKeyOf, and_eq_true, decide_eq_true_eq] at hown
      exact ⟨.inr (hown.1.trans hrec), rfl, rfl, rfl, rfl, id, id⟩
    · exact .refl r
  · exact ⟨_, (Table.mem_update _).2 ⟨r, hr, rfl⟩,
      Table.apply_assign (f := joinOwner _ _ _) (fun _ => rfl) r⟩

section

variable (hlin : Lineage sha issued keys) (hmem : record ∈ keys.rows) (howner : record.userId = owner)
include hlin hmem howner

lemma ownEdited_repeatConfirm {replacement : ApiKeyRecord} (hrepl : replacement ∈ keys.rows)
    (hact : replacement.status = .active) (hrot : replacement.rotationFromKeyId = some record.id) :
    OwnEdited owner keys (handover keys record.id (refresh sha record replacement)) := by
  have hown' := (hlin.source_of hrepl hmem hrot).userId.symm.trans howner
  have hne : record.id ≠ replacement.id := hlin.source_ne hmem hrepl hrot (.inl hact)
  refine (hlin.edited_repeatConfirm hmem hrepl hact hrot).own ?_ fun r hr hother => ⟨r, ?_, rfl⟩
  · rintro r hr s - (rfl | ⟨rfl, rfl⟩ | ⟨rfl, -, rfl⟩)
    · exact .refl _
    · exact ⟨.inr hown', rfl, rfl, rfl, rfl, id, id⟩
    · exact ⟨.inr howner, rfl, rfl, rfl, rfl, by rintro ⟨⟩, by rintro ⟨⟩⟩
  · have hne' : record.id ≠ (refresh sha record replacement).id := hne
    refine (mem_handover hmem hne').2 (.inr (.inr ⟨hr, ?_, ?_⟩))
    · exact fun hid => hother (eq_of_id hr hmem hid ▸ howner)
    · exact fun hid => hother (eq_of_id hr hrepl hid ▸ hown')

lemma ownEdited_update {now : ℕ} {updated : ApiKeyRecord} (hmut : record.Mutable)
    (hupd : Updated input now record updated) (hpol : input.changesAdminPolicy = false) :
    OwnEdited owner keys (updateKeys input keys updated) := by
  obtain ⟨-, -, -, -, -, -, -, hlim⟩ := UpdateApiKeyInput.unchanged hpol
  refine (edited_updateKeys hmem hmut hupd).own ?_ fun r hr hother => ⟨r, ?_, rfl⟩
  · rintro r hr s - (⟨rfl, rfl⟩ | ⟨-, rfl⟩)
    · exact hupd.ownEdit hpol howner
    · rw [withLimits_of_unchanged hlim]
      exact .refl r
  · have hne : r.id ≠ updated.id := by
      rw [hupd.id]
      exact fun hid => hother (eq_of_id hr hmem hid ▸ howner)
    have hput := mem_put_iff.2 (.inr ⟨hr, hne⟩)
    rw [updateKeys, syncLimits]
    split
    · refine mem_purge hput ?_
      rw [hupd.id]
      exact hlin.not_isPendingOf hmem hr (howner ▸ hother)
    · exact hput

/-- A key is revoked or deleted, and its prepared rotations are removed. -/
lemma ownEdited_closed {f : ApiKeyRecord → ApiKeyRecord} {hf : ∀ r, (f r).id = r.id}
    (he : Edited keys (purge (modify keys record.id f hf) record.id) fun r s =>
      s = r ∨ r = record ∧ s = f r) (hclose : OwnEdit owner record (f record)) :
    OwnEdited owner keys (purge (modify keys record.id f hf) record.id) := by
  refine he.own ?_ fun r hr hother => ⟨r, hlin.kept_purge hmem hr (howner ▸ hother), rfl⟩
  rintro r hr s - (rfl | ⟨rfl, rfl⟩)
  · exact .refl _
  · exact hclose

end

/-- **What a user's operation does to the keys.** -/
lemma OwnOperation.ownChange (hop : OwnOperation inner owner op)
    (hchg : KeyChange sha inner op keys')
    (hlin : Lineage sha issued inner.apiKeys)
    (hfresh : ∀ d ∈ op.draw, d.1 ∉ issued.map Prod.fst) (htime : ∀ now ∈ op.time, now ≤ later) :
    OwnChange sha owner issued inner.teams later inner.apiKeys keys' := by
  cases hop with
  | create howner hkind hexp hbound =>
    cases hchg with
    | @enroll _ _ now uuid key record hnew hlimit =>
      have hrec : record.userId = owner := hnew.userId.trans howner
      refine .add (ownEdited_joinOwner hrec) ?_ hrec (.inl ?_) fun _ => ?_
      · show record.id ∉ _
        rw [hnew.id]
        exact hfresh _ rfl
      · refine ⟨_, Except.ok.inj (hnew.expires.symm.trans hexp), ?_⟩
        show _ ≤ record.createdAtMs + _
        rwa [hnew.createdAtMs]
      · rw [hrec] at hlimit
        exact (usableKeys_later owner (htime _ rfl)).trans_lt hlimit
  | rotate howns =>
    cases hchg with
    | @rotate now uuid key current hmem hact hunexp =>
      have howner := howns.eq_owner hmem
      refine .add ((edited_purge current.id).own (fun r _ s _ hs => hs ▸ .refl _) ?_)
        (hfresh _ rfl) howner (.inr ⟨current, mem_purge_self hmem hact, rfl, rfl⟩)
        fun h => absurd h (by simp [prepareReplacement])
      intro r hr hother
      refine ⟨r, mem_purge hr (hlin.not_isPendingOf hmem hr ?_), rfl⟩
      rwa [howner]
  | confirm howns =>
    cases hchg with
    | repeatConfirm hcurr hrepl hact hrot =>
      exact .edit (ownEdited_repeatConfirm hlin hcurr (howns.eq_owner hcurr) hrepl hact hrot)
    | confirm hcurr hrepl hact _ hpend hrot =>
      have howner := howns.eq_owner hcurr
      exact .confirm hcurr hrepl hact hpend hrot howner
        ((hlin.source_of hrepl hcurr hrot).userId.symm.trans howner)
  | cancel howns =>
    cases hchg with
    | @cancel keyId replacement hmem hpend hrot =>
      obtain ⟨source, hsrc, hid, howner⟩ := howns
      rw [← hid] at hrot
      have hown' := (hlin.source_of hmem hsrc hrot).userId.symm.trans howner
      refine .edit ((edited_cancel hmem hpend).own (fun r _ s _ hs => hs ▸ .refl _)
        fun r hr hother => ⟨r, mem_filter.2 ⟨hr, ?_⟩, rfl⟩)
      have hne : r.id ≠ replacement.id := fun hid => hother (eq_of_id hr hmem hid ▸ hown')
      simpa using hne
  | update howns hpol =>
    cases hchg with
    | update hmem hmut hupd =>
      exact .edit (ownEdited_update hlin hmem (howns.eq_owner hmem) hmut hupd hpol)
  | revoke howns =>
    cases hchg with
    | revoke hmem hpend hdel =>
      have howner := howns.eq_owner hmem
      refine .edit (ownEdited_closed hlin hmem howner (edited_revoked hmem) ?_)
      exact ⟨.inr howner, rfl, rfl, rfl, rfl, by rintro ⟨⟩, by rintro ⟨⟩⟩
  | delete howns =>
    cases hchg with
    | delete hmem hpend hdel =>
      have howner := howns.eq_owner hmem
      refine .edit (ownEdited_closed hlin hmem howner (edited_deleted hmem) ?_)
      exact ⟨.inr howner, rfl, rfl, rfl, rfl, by rintro ⟨⟩, by rintro ⟨⟩⟩

/-- A user's operation keeps subjects and limits, except that it may bring keys together. -/
lemma OwnOperation.subjectStep (hop : OwnOperation inner owner op)
    (hchg : KeyChange sha inner op keys')
    (hdraw : ∀ d ∈ op.draw, ∀ r ∈ inner.apiKeys.rows, r.id ≠ d.1)
    (hlin : Lineage sha issued inner.apiKeys) (h : Subjects sha inner.apiKeys) :
    SubjectStep sha inner.apiKeys keys' := by
  rcases hchg.subjectStep hop.routed hdraw hlin h with hstep | ⟨hupdate, -⟩
  · exact hstep
  · cases hop with
    | update howns hpol =>
      obtain ⟨-, -, -, -, -, -, -, hlim⟩ := UpdateApiKeyInput.unchanged hpol
      cases hchg with
      | @update input now record updated hmem hmut hupd =>
        refine .edit ((edited_updateKeys hmem hmut hupd).mono ?_)
        rintro r hr s - (⟨rfl, rfl⟩ | ⟨-, rfl⟩)
        · have hpend := hupd.pending hmut
          have hlimits' := hupd.limits
          rw [applyLimits_of_unchanged hlim] at hlimits'
          rw [hupd.same] at hpend hlimits' ⊢
          exact .of_same hr rfl ⟨rfl, rfl⟩ rfl rfl (fun hr hs => hr (hpend.1 hs)) hlimits'
            fun _ ha => ha
        · rw [withLimits_of_unchanged hlim]
          exact .refl hr
    | create | rotate | confirm | cancel | revoke | delete => cases hupdate

end

/-! ### What requests leave as it was -/

/-- What is left of a state after requests of a user. -/
structure Confined (sha256Hex : String → String) (owner : String) (now : ℕ)
    (start inner : ControlInner) : Prop where
  teams : inner.teams = start.teams
  others : ∀ r, r.userId ≠ owner → (r ∈ inner.apiKeys.rows ↔ r ∈ start.apiKeys.rows)
  usable : usableKeys owner start.teams now inner.apiKeys
    ≤ max maxSelfServiceActiveKeys (usableKeys owner start.teams now start.apiKeys)
  added : ∀ s ∈ inner.apiKeys.rows, (∀ r ∈ start.apiKeys.rows, r.id ≠ s.id) →
    BoundedLife inner.apiKeys s
  rotated : ∀ r ∈ start.apiKeys.rows, ∀ s ∈ inner.apiKeys.rows, s.id = r.id →
    s.rotationFromKeyId = r.rotationFromKeyId ∧
      (s.status = .pendingRotation → r.status = .pendingRotation)
  access : ∀ r ∈ start.apiKeys.rows, ∀ s ∈ inner.apiKeys.rows, s.id = r.id →
    s.access = r.access ∨ r.status = .pendingRotation ∧
      ∃ o ∈ start.apiKeys.rows, r.rotationFromKeyId = some o.id ∧ s.access = o.access
  subjects : Subjects sha256Hex inner.apiKeys
  subjectBound : ∀ r ∈ start.apiKeys.rows,
    SubjectBound sha256Hex r.quotaSubjectId r.limits inner.apiKeys
  keyBound : ∀ r ∈ start.apiKeys.rows, r.status ≠ .pendingRotation →
    KeyBound r.id r.limits inner.apiKeys

section

variable {start next : ControlInner}

lemma Confined.refl (hlin : Lineage sha issued start.apiKeys)
    (h : Subjects sha start.apiKeys) : Confined sha owner now start start where
  teams := rfl
  others _ _ := Iff.rfl
  usable := le_max_right _ _
  added s hs hnew := absurd rfl (hnew s hs)
  rotated r hr s hs hid := by
    obtain rfl := eq_of_id hr hs hid.symm
    exact ⟨rfl, id⟩
  access r hr s hs hid := by
    obtain rfl := eq_of_id hr hs hid.symm
    exact .inl rfl
  subjects := h
  subjectBound r hr := h.subjectBound hlin hr
  keyBound r hr hpend := ⟨r, hr, rfl, hpend, .refl _⟩

/-! #### Others -/

lemma OwnEdited.others_iff (he : OwnEdited owner keys keys')
    (hr : r.userId ≠ owner) : r ∈ keys'.rows ↔ r ∈ keys.rows := by
  refine ⟨fun hmem => ?_, fun hmem => he.others r hmem hr⟩
  obtain ⟨s, hs, -, hE⟩ := he.back r hmem
  rcases hE.own with rfl | hown
  · exact hs
  · exact absurd (hE.userId.trans hown) hr

lemma OwnChange.others_iff (hchg : OwnChange sha owner issued teams now keys keys')
    (hlin : Lineage sha issued keys) (hr : r.userId ≠ owner) :
    r ∈ keys'.rows ↔ r ∈ keys.rows := by
  cases hchg with
  | edit he => exact he.others_iff hr
  | @add keys1 n he hfresh howner =>
    rw [mem_put_iff, he.others_iff hr]
    constructor
    · rintro (rfl | ⟨hmem, -⟩)
      · exact absurd howner hr
      · exact hmem
    · intro hmem
      exact .inr ⟨hmem, fun hid => hfresh (hid ▸ hlin.issued_id hmem)⟩
  | @confirm current replacement hcurr hrepl hact hpend hrot howner hown' =>
    rw [hlin.mem_confirmed hcurr hrepl hpend hrot]
    constructor
    · rintro (rfl | rfl | ⟨hmem, -, -⟩)
      · exact absurd howner hr
      · exact absurd howner hr
      · exact hmem
    · intro hmem
      refine .inr (.inr ⟨hmem, fun hid => ?_, fun hid => ?_⟩)
      · exact hr (eq_of_id hmem hcurr hid ▸ howner)
      · exact hr (eq_of_id hmem hrepl hid ▸ hown')

/-! #### The number of usable keys -/

lemma OwnEdited.usableKeys_le (he : OwnEdited owner keys keys') :
    usableKeys owner teams now keys' ≤ usableKeys owner teams now keys := by
  refine countP_le_of_ids id (fun s hs hp => ?_) fun s _ s' _ _ _ hid => hid
  obtain ⟨r, hr, hid, hE⟩ := he.back s hs
  simp only [and_eq_true] at hp ⊢
  exact ⟨r, hr, ⟨hE.userId ▸ hp.1, usableForCatalog_of_access hE.access hE.active hp.2⟩, hid.symm⟩

/-- A new record adds one usable key at most, and a prepared one none. -/
lemma usableKeys_put_le {n : ApiKeyRecord} : usableKeys owner teams now (keys.put n)
      ≤ usableKeys owner teams now keys + if n.status = .active then 1 else 0 := by
  unfold usableKeys
  rw [Table.put, countP_cons]
  refine Nat.add_le_add ?_ ?_
  · exact filter_sublist.countP_le
  · split
    · rename_i husable
      simp only [and_eq_true] at husable
      rw [if_pos (active_of_usableForCatalog husable.2)]
    · exact Nat.zero_le _

lemma OwnChange.usableKeys_le (hchg : OwnChange sha owner issued teams now keys keys')
    (hlin : Lineage sha issued keys) : usableKeys owner teams now keys'
      ≤ max maxSelfServiceActiveKeys (usableKeys owner teams now keys) := by
  cases hchg with
  | edit he => exact he.usableKeys_le.trans (le_max_right _ _)
  | @add keys1 n he hfresh howner hlife hlimit =>
    have hput : usableKeys owner teams now (keys1.put n)
      ≤ usableKeys owner teams now keys1 + if n.status = .active then 1 else 0 := usableKeys_put_le
    have hedit : usableKeys owner teams now keys1 ≤ usableKeys owner teams now keys :=
      he.usableKeys_le
    split at hput
    · rename_i hact
      have := hlimit hact
      omega
    · omega
  | @confirm current replacement hcurr hrepl hact hpend hrot howner hown' =>
    have hmem {s} := hlin.mem_confirmed (s := s) hcurr hrepl hpend hrot
    have hne := hlin.source_ne hcurr hrepl hrot (.inr hpend)
    refine le_trans ?_ (le_max_right _ _)
    -- the replacement is as usable as its source was, and the source is not any more
    have hretired : ∀ s ∈ (handover keys current.id (takeOver sha current replacement)).rows,
        s.usableForCatalog teams now → s.id ≠ current.id := by
      intro s hs husable hid
      rcases hmem.1 hs with rfl | rfl | ⟨-, hid', -⟩
      · exact hne hid.symm
      · exact absurd (active_of_usableForCatalog husable) (by simp [ApiKeyRecord.retire])
      · exact hid' hid
    refine countP_le_of_ids (fun id => if id = replacement.id then current.id else id) ?_ ?_
    · intro s hs hp
      simp only [and_eq_true] at hp
      rcases hmem.1 hs with rfl | rfl | ⟨hs', -, hid⟩
      · have hacc : (takeOver sha current replacement).access = current.access := rfl
        refine ⟨current, hcurr, ?_, (if_pos rfl).symm⟩
        simp only [and_eq_true, decide_eq_true_eq]
        exact ⟨howner, usableForCatalog_of_access hacc (fun _ => hact) hp.2⟩
      · exact absurd (ApiKeyRecord.retire_id current _) (hretired _ hs hp.2)
      · exact ⟨s, hs', by simpa using hp, (if_neg hid).symm⟩
    · intro s hs s' hs' hp hp' heq
      simp only [and_eq_true] at hp hp'
      have hs1 := hretired s hs hp.2
      have hs2 := hretired s' hs' hp'.2
      split at heq <;> split at heq <;> simp_all

/-! #### Added keys -/

/-- A bounded life stays one as long as the source keeps its expiry. -/
lemma BoundedLife.transfer (h : BoundedLife keys r)
    (hexp : s.expiresAtMs = r.expiresAtMs) (hcreat : s.createdAtMs = r.createdAtMs)
    (hrot : s.rotationFromKeyId = r.rotationFromKeyId)
    (hkept : ∀ o ∈ keys.rows, r.rotationFromKeyId = some o.id →
      ∃ o' ∈ keys'.rows, o'.id = o.id ∧ o'.expiresAtMs = o.expiresAtMs) : BoundedLife keys' s := by
  rcases h with ⟨e, he, hbound⟩ | ⟨o, ho, hsrc, hsame⟩
  · exact .inl ⟨e, hexp.trans he, hcreat ▸ hbound⟩
  · obtain ⟨o', ho', hid, hexpires'⟩ := hkept o ho hsrc
    exact .inr ⟨o', ho', by rw [hrot, hsrc, hid], by rw [hexp, hsame, hexpires']⟩

lemma OwnEdit.expiresAtMs (h : OwnEdit owner r s) : s.expiresAtMs = r.expiresAtMs :=
  congrArg AccessPolicy.expiresAtMs h.access

section

variable (hchg : OwnChange sha owner issued teams now keys keys')

include hchg

lemma OwnChange.kept_source (hlin : Lineage sha issued keys) {o : ApiKeyRecord} (ho : o ∈ keys.rows)
    (hpend : o.status ≠ .pendingRotation) :
    ∃ o' ∈ keys'.rows, o'.id = o.id ∧ o'.expiresAtMs = o.expiresAtMs := by
  cases hchg with
  | edit he =>
    obtain ⟨o', ho', hid, hE⟩ := he.forth ho hpend
    exact ⟨o', ho', hid, hE.expiresAtMs⟩
  | @add keys1 n he hfresh =>
    obtain ⟨o', ho', hid, hE⟩ := he.forth ho hpend
    refine ⟨o', mem_put_iff.2 (.inr ⟨ho', fun hid' => hfresh ?_⟩), hid, hE.expiresAtMs⟩
    exact hid' ▸ hid ▸ hlin.issued_id ho
  | @confirm current replacement hcurr hrepl hact hpend' hrot =>
    have hmem {s} := hlin.mem_confirmed (s := s) hcurr hrepl hpend' hrot
    by_cases hid : o.id = current.id
    · obtain rfl := eq_of_id ho hcurr hid
      exact ⟨_, hmem.2 (.inr (.inl rfl)), o.retire_id _, rfl⟩
    · refine ⟨o, hmem.2 (.inr (.inr ⟨ho, hid, fun hid' => ?_⟩)), rfl, rfl⟩
      exact hpend (eq_of_id ho hrepl hid' ▸ hpend')

/-- A record after a user's operation is new, or a confirmed rotation, or an edited one. -/
lemma OwnChange.back (hlin : Lineage sha issued keys) (hs : s ∈ keys'.rows) :
    s.id ∉ issued.map Prod.fst ∧ BoundedLife keys' s ∨
      (∃ current ∈ keys.rows, ∃ replacement ∈ keys.rows, current.status = .active ∧
        replacement.status = .pendingRotation ∧ replacement.rotationFromKeyId = some current.id ∧
        s = takeOver sha current replacement) ∨
      ∃ r ∈ keys.rows, s.id = r.id ∧ OwnEdit owner r s := by
  cases hchg with
  | edit he => exact .inr (.inr (he.back s hs))
  | @add keys1 n he hfresh howner hlife =>
    rcases mem_put_iff.1 hs with rfl | ⟨hs, -⟩
    · refine .inl ⟨hfresh, hlife.transfer rfl rfl rfl fun o ho _ => ⟨o, ?_, rfl, rfl⟩⟩
      refine mem_put_iff.2 (.inr ⟨ho, fun hid => hfresh ?_⟩)
      obtain ⟨r, hr, hid', -⟩ := he.back o ho
      exact hid ▸ hid' ▸ hlin.issued_id hr
    · exact .inr (.inr (he.back s hs))
  | @confirm current replacement hcurr hrepl hact hpend hrot howner hown' =>
    rcases (hlin.mem_confirmed hcurr hrepl hpend hrot).1 hs with
      rfl | rfl | ⟨hs, -, -⟩
    · exact .inr (.inl ⟨current, hcurr, replacement, hrepl, hact, hpend,
        hrot, rfl⟩)
    · refine .inr (.inr ⟨current, hcurr, current.retire_id _, .inr howner, rfl, rfl, rfl,
        rfl, ?_, ?_⟩) <;> simp [ApiKeyRecord.retire]
    · exact .inr (.inr ⟨s, hs, rfl, .refl s⟩)

end

/-! #### Steps -/

/-- **What one more operation of the user keeps.** -/
lemma Confined.step (hinj : Function.Injective sha)
    (h : Confined sha owner now start inner) (hstart : Lineage sha issued start.apiKeys)
    (hlin : Lineage sha issued inner.apiKeys) {op : Operation}
    (hop : OwnOperation inner owner op) {result : Except AppError Unit}
    (hrun : op.run sha inner = .ok (.save next result))
    (hfresh : ∀ d ∈ op.draw, d.1 ∉ issued.map Prod.fst) (htime : ∀ t ∈ op.time, t ≤ now) :
    Confined sha owner now start next := by
  obtain ⟨hkey, hteams⟩ := Operation.run_save hrun
  have hteams := hteams (by cases hop <;> rfl)
  have hchg := hop.ownChange hkey hlin hfresh htime
  have hsubj := hop.subjectStep hkey (fun d hd r hr hid => hfresh d hd
    (hid ▸ hlin.issued_id hr)) hlin h.subjects
  refine ⟨hteams.trans h.teams, ?_, ?_, ?_, ?_, ?_, ?_, ?_, ?_⟩
  · exact fun r hr => (hchg.others_iff hlin hr).trans (h.others r hr)
  · have hle := hchg.usableKeys_le hlin
    rw [h.teams] at hle
    have := h.usable
    omega
  · intro s hs hnew
    rcases hchg.back hlin hs with ⟨-, hlife⟩ |
      ⟨current, hcurr, replacement, hrepl, hact, hpend, hrot, rfl⟩ |
      ⟨r, hr, hid, hE⟩
    · exact hlife
    · obtain ⟨o, ho, hid, hexp⟩ := hchg.kept_source hlin hcurr (by simp [hact])
      exact .inr ⟨o, ho, by rw [hid]; rfl, hexp.symm⟩
    · have hlife := h.added r hr fun r' hr' => hid ▸ hnew r' hr'
      refine hlife.transfer hE.expiresAtMs hE.createdAtMs hE.rotated fun o ho hsrc => ?_
      exact hchg.kept_source hlin ho (hlin.source_of hr ho hsrc).notPending
  · intro r hr s hs hid
    rcases hchg.back hlin hs with ⟨hnew, -⟩ |
      ⟨current, hcurr, replacement, hrepl, hact, hpend, hrot, rfl⟩ |
      ⟨r', hr', hid', hE⟩
    · exact absurd (hid ▸ hstart.issued_id hr) hnew
    · obtain ⟨hrot', -⟩ := h.rotated r hr replacement hrepl hid
      exact ⟨hrot.symm.trans hrot', nofun⟩
    · obtain ⟨hrot, hpend⟩ := h.rotated r hr r' hr' (hid'.symm.trans hid)
      exact ⟨hE.rotated.trans hrot, fun hs => hpend (hE.pending hs)⟩
  · intro r hr s hs hid
    rcases hchg.back hlin hs with ⟨hnew, -⟩ |
      ⟨current, hcurr, replacement, hrepl, hact, hpend, hrot, rfl⟩ |
      ⟨r', hr', hid', hE⟩
    · exact absurd (hid ▸ hstart.issued_id hr) hnew
    · -- a prepared rotation of the start takes the policy of its source, which is that of the start
      obtain ⟨hrot', hpend'⟩ := h.rotated r hr replacement hrepl hid
      have hsrc := hrot'.symm.trans hrot
      obtain ⟨o, ho, hoid, hIs⟩ := hstart.rotated r hr current.id hsrc
      rcases h.access o ho current hcurr hoid.symm with hacc | ⟨hopending, -⟩
      · exact .inr ⟨hpend' hpend, o, ho, by rw [hsrc, hoid], hacc⟩
      · exact absurd hopending hIs.notPending
    · rw [hE.access]
      exact h.access r hr r' hr' (hid'.symm.trans hid)
  · exact hsubj.subjects hlin hinj h.subjects
  · exact fun r hr => hsubj.subjectBound h.subjects.toSeeded hinj (h.subjectBound r hr)
  · exact fun r hr hpend => hsubj.keyBound (h.keyBound r hr hpend)

end

/-! ### Sequences of requests -/

/-- A request of the user that the routes let through, at a time not after `now`. -/
inductive SelfServiceStep (sha256Hex : String → String) (actor : PublicUser) (now : ℕ) :
    History → History → Prop
  | request {h : History} {users : List PublicUser} {req : KeyRequest} {op : Operation}
      (write : WriteThrough.Write) (hroute : route users actor h.store.memory req = .ok op)
      (htime : ∀ t ∈ op.time, t ≤ now)
      (hfresh : ∀ d ∈ op.draw, d.1 ∉ h.issued.map Prod.fst ∧ d.2 ∉ h.issued.map Prod.snd) :
      SelfServiceStep sha256Hex actor now h
        ⟨(perform sha256Hex op write h.store).1, op.draw.toList ++ h.issued⟩

section

variable {actor : PublicUser} {h h' : History}

lemma SelfServiceStep.toStep (hstep : SelfServiceStep sha actor now h h') :
    Step sha Routed h h' := by
  cases hstep with
  | request write hroute htime hfresh => exact .operate _ write (route_routed hroute) hfresh

lemma confined_of_run (hinj : Function.Injective sha) (hrole : actor.role ≠ .admin)
    (hreach : Reachable sha Routed h)
    (hrun : ReflTransGen (SelfServiceStep sha actor now) h h') :
    Sound sha Routed emptyInner h' ∧ (∀ d ∈ h.issued, d ∈ h'.issued) ∧
      Confined sha actor.id now h.store.memory h'.store.memory := by
  induction hrun with
  | refl =>
    exact ⟨hreach.sound, fun d hd => hd, .refl hreach.lineage (hreach.subjects hinj)⟩
  | @tail h1 h2 _ hstep ih =>
    obtain ⟨hsound, hiss, hconf⟩ := ih
    obtain ⟨hsound', -⟩ := hsound.step hstep.toStep
    refine ⟨hsound', fun d hd => issued_step hstep.toStep d (hiss d hd), ?_⟩
    cases hstep with
    | @request users req op write hroute htime hfresh =>
      rcases memory_perform op write h1.store with heq | ⟨next, result, hrun, heq⟩
      · rw [heq]
        exact hconf
      rw [heq]
      rcases WriteThrough.Cell.memory_save write _ with hsame | hnext
      · rw [hsame]
        exact hconf
      · have hstep := hconf.step hinj (hreach.lineage.mono hiss) hsound.lineage
          (route_selfService hrole hroute) hrun (fun d hd => (hfresh d hd).1) htime
        rw [hnext]
        exact { hstep with }

end

/-- **Self-service does not escalate.** After any requests of a user who is no administrator, at
times not after `now`: the records of others are what they were; the user has at most five usable
keys, or no more than at an earlier time at the start; a key that was added lives at most 30 days or
exactly as long as its source; the access of the keys there were is what it was, except that a
rotation that had been prepared has the access of its source once it is confirmed; and limits are
not looser, neither for a subject nor for a key. -/
theorem self_service_confined {sha256Hex : String → String}
    (hinj : Function.Injective sha256Hex) {actor : PublicUser} (hrole : actor.role ≠ .admin)
    {now : ℕ} {h h' : History} (hreach : Reachable sha256Hex Routed h)
    (hrun : ReflTransGen (SelfServiceStep sha256Hex actor now) h h') : (∀ r, r.userId ≠ actor.id →
      (r ∈ h'.store.memory.apiKeys.rows ↔ r ∈ h.store.memory.apiKeys.rows)) ∧
    (∀ before ≤ now, usableKeys actor.id h'.store.memory.teams now h'.store.memory.apiKeys
      ≤ max 5 (usableKeys actor.id h.store.memory.teams before h.store.memory.apiKeys)) ∧
    (∀ s ∈ h'.store.memory.apiKeys.rows, (∀ r ∈ h.store.memory.apiKeys.rows, r.id ≠ s.id) →
      (∃ e, s.expiresAtMs = some e ∧ e ≤ s.createdAtMs + 30 * 24 * 60 * 60 * 1000) ∨
        ∃ o ∈ h'.store.memory.apiKeys.rows, s.rotationFromKeyId = some o.id ∧
          s.expiresAtMs = o.expiresAtMs) ∧
    (∀ r ∈ h.store.memory.apiKeys.rows, ∀ s ∈ h'.store.memory.apiKeys.rows, s.id = r.id →
      s.access = r.access ∨ r.status = .pendingRotation ∧
        ∃ o ∈ h.store.memory.apiKeys.rows, r.rotationFromKeyId = some o.id ∧ s.access = o.access) ∧
    ∀ r ∈ h.store.memory.apiKeys.rows, ∀ s ∈ h'.store.memory.apiKeys.rows,
      (s.effectiveQuotaSubjectId = r.effectiveQuotaSubjectId ∨
        s.id = r.id ∧ r.status ≠ .pendingRotation) →
      (effectiveLimits h'.store.memory.apiKeys s).Stricter
        (effectiveLimits h.store.memory.apiKeys r) := by
  obtain ⟨-, -, hconf⟩ := confined_of_run hinj hrole hreach hrun
  have hsubjects := hreach.subjects hinj
  refine ⟨hconf.others, ?_, hconf.added, hconf.access, ?_⟩
  · intro before hbef
    have husable := hconf.usable
    have hlater : usableKeys actor.id h.store.memory.teams now h.store.memory.apiKeys
        ≤ usableKeys actor.id h.store.memory.teams before h.store.memory.apiKeys :=
      usableKeys_later actor.id hbef
    rw [hconf.teams]
    exact husable.trans (max_le_max_left _ hlater)
  · intro r hr s hs hsame
    rw [hsubjects.effectiveLimits hr, hconf.subjects.effectiveLimits hs]
    rcases hsame with hsame | ⟨hid, hpend⟩
    · rw [hsubjects.effective hr, hconf.subjects.effective hs] at hsame
      exact (hconf.subjectBound r hr).tight s hs hsame
    · obtain ⟨s', hs', hid', -, hstr⟩ := hconf.keyBound r hr hpend
      rwa [eq_of_id hs hs' (hid.trans hid'.symm)]

namespace Sample

/-- The owner of the created key. -/
def person : PublicUser := ⟨"usr_1", "usr_1", .user, true, by decide +kernel⟩

/-- A creation in self-service, and what the route makes of it. -/
def selfCreate : KeyRequest :=
  .create { userId := "usr_2", name := "mine" } 5 6 (by decide) "2" "sk-mp-2"

def selfCreated : Operation :=
  .create
    { userId := "usr_1"
      username := some "usr_1"
      name := "mine"
      principalType := some "user"
      expiresAt := some (toString (saturatingAdd 5 defaultSelfServiceKeyTtlMs)) }
    (some maxSelfServiceActiveKeys) 6 "2" "sk-mp-2"

/-- A key for one model is rotated, and before the rotation is confirmed an administrator allows the
key all models. -/
def widened : History := initial.play mark
  [saved (.create { userId := "usr_1", name := "key", allowedModels := some ["a"] } none 1 "1"
      "sk-mp-1"),
    saved (.rotate "key_1" 2 "2" "sk-mp-2"),
    saved (.update "key_1" { allowedModels := some [] } 3)]

end Sample

/-- The owner of a key creates another one. -/
theorem self_service_confined_created :
    ∃ s ∈ (Sample.created.next Sample.mark
      (Sample.saved Sample.selfCreated)).store.memory.apiKeys.rows,
      s.id = "key_2" ∧ s.userId = "usr_1" ∧
        ((∃ e, s.expiresAtMs = some e ∧ e ≤ s.createdAtMs + 30 * 24 * 60 * 60 * 1000) ∨
          ∃ o ∈ (Sample.created.next Sample.mark
              (Sample.saved Sample.selfCreated)).store.memory.apiKeys.rows,
            s.rotationFromKeyId = some o.id ∧ s.expiresAtMs = o.expiresAtMs) := by
  have hreach : Reachable mark Routed created :=
    run_play (fun _ => trivial) (by decide +kernel)
  have hroute : route [person] person created.store.memory selfCreate
      = .ok selfCreated := by
    rfl
  have hstep : SelfServiceStep mark person 6 created
      (created.next mark (saved selfCreated)) :=
    .request .acknowledged hroute (by decide) (by decide +kernel)
  obtain ⟨-, -, hadded, -⟩ := self_service_confined mark_injective (by decide) hreach
    (.single hstep)
  have hnew : ∃ s ∈ (created.next mark (saved selfCreated)).store.memory.apiKeys.rows,
      s.id = "key_2" ∧ s.userId = "usr_1" ∧
        ∀ r ∈ created.store.memory.apiKeys.rows, r.id ≠ s.id := by
    decide +kernel
  obtain ⟨s, hs, hid, howner, hfresh⟩ := hnew
  exact ⟨s, hs, hid, howner, hadded s hs hfresh⟩

/-- The owner confirms the rotation: the prepared key, for one model so far, is now for all. -/
theorem confirmed_rotation_is_widened :
    Reachable Sample.mark Routed Sample.widened ∧
      SelfServiceStep Sample.mark Sample.person 4 Sample.widened
        (Sample.widened.next Sample.mark (Sample.saved (.confirm "key_1" "key_2" 4))) ∧
      ∃ r ∈ Sample.widened.store.memory.apiKeys.rows,
        ∃ s ∈ (Sample.widened.next Sample.mark
          (Sample.saved (.confirm "key_1" "key_2" 4))).store.memory.apiKeys.rows,
          s.id = r.id ∧ r.allowedModels = ["a"] ∧ s.allowedModels = [] := by
  have hroute : route [] person widened.store.memory (.confirm "key_1" "key_2" 4)
      = .ok (.confirm "key_1" "key_2" 4) := by
    rfl
  have hreach : Reachable mark Routed widened :=
    run_play ⟨fun _ => trivial, fun _ => trivial, fun _ => trivial⟩ (by decide +kernel)
  exact ⟨hreach, .request .acknowledged hroute (by decide) (by decide +kernel), by decide +kernel⟩

end ModelPort.Control
