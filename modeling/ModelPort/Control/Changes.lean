import ModelPort.Control.Store

/-!
# What an operation saves

`Operation` is one call of the store with its arguments, and `KeyChange` says what the keys are
after a save, with what the operation has checked before it: one constructor for each way in which
an operation can save. Everything that is proved about the store goes through
`Operation.run_save`, which says that there are no others.

Most changes rewrite records one by one and remove prepared rotations at most (`Edited`).

* `Edited.trans`, `edited_update`, `edited_put`, `edited_retain`: edits are built from single steps.
-/

namespace ModelPort.Control

open Relational Except

variable {keys keys' : Keys}

/-! ### Operations -/

/-- A call of the store. Random ids and secrets are given as `uuid` and `key`. -/
inductive Operation where
  | create (input : CreateApiKeyInput) (maxActive : Option ℕ) (now : ℕ) (uuid key : String)
  | rotate (keyId : String) (now : ℕ) (uuid key : String)
  | confirm (keyId replacementId : String) (now : ℕ)
  | cancel (keyId replacementId : String)
  | update (keyId : String) (input : UpdateApiKeyInput) (now : ℕ)
  | bind (keyId : String) (input : BindApiKeyScopeInput)
  | revoke (keyId : String)
  | delete (keyId : String)
  | deleteUser (userId : String)
  | upsertTeam (input : UpsertTeamInput) (slugUuid uuid : String)
  | deleteTeam (teamId : String)
  | authenticate (headers : ClientHeaders) (now : ℕ)

namespace Operation

/-- The effect of a call on the state. -/
def run (sha256Hex : String → String) (inner : ControlInner) :
    Operation → Except AppError (Outcome Unit)
  | .create input maxActive now uuid key =>
    (createApiKeyInner sha256Hex input maxActive now uuid key inner).map Outcome.discard
  | .rotate keyId now uuid key =>
    (rotateApiKey sha256Hex keyId now uuid key inner).map Outcome.discard
  | .confirm keyId replacementId now =>
    (confirmApiKeyRotation sha256Hex keyId replacementId now inner).map Outcome.discard
  | .cancel keyId replacementId => cancelApiKeyRotation keyId replacementId inner
  | .update keyId input now => (updateApiKey keyId input now inner).map Outcome.discard
  | .bind keyId input => (bindApiKeyScope keyId input inner).map Outcome.discard
  | .revoke keyId => revokeApiKey keyId inner
  | .delete keyId => deleteApiKey keyId inner
  | .deleteUser userId => deleteUserResources userId inner
  | .upsertTeam input slugUuid uuid =>
    (Control.upsertTeam input slugUuid uuid inner).map Outcome.discard
  | .deleteTeam teamId => Control.deleteTeam teamId inner
  | .authenticate headers now =>
    (authenticateHeaders sha256Hex headers now inner).map Outcome.discard

/-- The id and the secret that a call draws for a new key. -/
def draw : Operation → Option (String × String)
  | .create _ _ _ uuid key | .rotate _ _ uuid key => some ("key_" ++ uuid, key)
  | _ => none

/-- The time a call reads from the clock. -/
def time : Operation → Option ℕ
  | .create _ _ now _ _ | .rotate _ now _ _ | .confirm _ _ now | .update _ _ now
  | .authenticate _ now => some now
  | _ => none

end Operation

/-! ### Records that are saved -/

section

variable (sha256Hex : String → String)

/-- What is known of the record of a new key. -/
structure NewKey (input : CreateApiKeyInput) (now : ℕ) (uuid key : String) (r : ApiKeyRecord) :
    Prop where
  id : r.id = "key_" ++ uuid
  userId : r.userId = trim input.userId
  keyHash : r.keyHash = hashSecret sha256Hex key
  status : r.status = .active
  rotationFromKeyId : r.rotationFromKeyId = none
  supersededByKeyId : r.supersededByKeyId = none
  createdAtMs : r.createdAtMs = now
  subject : r.quotaSubjectId = quotaSubjectForSeed sha256Hex r.id
  aliases : r.quotaSubjectAliases = [r.id]
  limits : r.limits = {}
  expires : input.expiresAt.elim (.ok none) parseExpiresAt = .ok r.expiresAtMs
  principal : parsePrincipalType input.principalType = .ok r.principalType
  bounds : checkPrincipal r.principalType now r.expiresAtMs r.allowedModels r.allowedProviders
    r.purpose = .ok ()

end

/-- What is known of an updated record. -/
structure Updated (input : UpdateApiKeyInput) (now : ℕ) (r s : ApiKeyRecord) : Prop where
  limitsOk : input.checkLimits = .ok ()
  models : updatedField r.allowedModels normalizePolicyList input.allowedModels
    = .ok s.allowedModels
  providers : updatedField r.allowedProviders normalizePolicyList input.allowedProviders
    = .ok s.allowedProviders
  expires : updatedField r.expiresAtMs parseExpiresAt input.expiresAt = .ok s.expiresAtMs
  status : updatedField r.status parseKeyStatus input.status = .ok s.status
  ips : updatedField r.allowedIps normalizeIpRules input.allowedIps = .ok s.allowedIps
  restricted : s.ipRestricted = input.ipRestricted.getD r.ipRestricted
  team : input.teamId = none → s.teamId = r.teamId
  limits : s.limits = input.applyLimits r.limits
  unexpired : s.status = .active → s.expired now = false
  same : s = { r with
    name := s.name, group := s.group, teamId := s.teamId, teamName := s.teamName,
    allowedModels := s.allowedModels, allowedProviders := s.allowedProviders,
    expiresAtMs := s.expiresAtMs, status := s.status, ipRestricted := s.ipRestricted,
    allowedIps := s.allowedIps, limits := s.limits }

/-- A record that may be modified. -/
structure ApiKeyRecord.Mutable (r : ApiKeyRecord) : Prop where
  notPending : r.status ≠ .pendingRotation
  notDeleted : r.status ≠ .deleted
  notSuperseded : r.supersededByKeyId = none

/-- The keys after an update. -/
def updateKeys (input : UpdateApiKeyInput) (keys : Keys) (updated : ApiKeyRecord) : Keys :=
  let keys := syncLimits input updated.effectiveQuotaSubjectId (keys.put updated)
  if updated.status = .revoked then purge keys updated.id else keys

/-- **What the keys are after an operation has saved**, and what it has checked. -/
inductive KeyChange (sha256Hex : String → String) (inner : ControlInner) : Operation → Keys → Prop
  | create {input now uuid key record} (h : NewKey sha256Hex input now uuid key record) :
      KeyChange sha256Hex inner (.create input none now uuid key) (inner.apiKeys.put record)
  | enroll {input maxActive now uuid key record}
      (h : NewKey sha256Hex input now uuid key record)
      (hlimit : (inner.apiKeys.rows.countP fun r =>
        r.userId = record.userId && r.usableForCatalog inner.teams now) < maxActive) :
      KeyChange sha256Hex inner (.create input (some maxActive) now uuid key)
        (enroll sha256Hex inner.apiKeys record)
  | rotate {now uuid key current} (hmem : current ∈ inner.apiKeys.rows)
      (hact : current.status = .active) (hunexp : current.expired now = false) :
      KeyChange sha256Hex inner (.rotate current.id now uuid key)
        ((purge inner.apiKeys current.id).put
          (prepareReplacement sha256Hex current ("key_" ++ uuid) key now))
  | repeatConfirm {now current replacement} (hcurr : current ∈ inner.apiKeys.rows)
      (hrepl : replacement ∈ inner.apiKeys.rows) (hact : replacement.status = .active)
      (hrot : replacement.rotationFromKeyId = some current.id) :
      KeyChange sha256Hex inner (.confirm current.id replacement.id now)
        (handover inner.apiKeys current.id (refresh sha256Hex current replacement))
  | confirm {now current replacement} (hcurr : current ∈ inner.apiKeys.rows)
      (hrepl : replacement ∈ inner.apiKeys.rows) (hact : current.status = .active)
      (hunexp : current.expired now = false)
      (hpend : replacement.status = .pendingRotation)
      (hrot : replacement.rotationFromKeyId = some current.id) :
      KeyChange sha256Hex inner (.confirm current.id replacement.id now)
        (handover inner.apiKeys current.id (takeOver sha256Hex current replacement))
  | cancel {keyId replacement} (hmem : replacement ∈ inner.apiKeys.rows)
      (hpend : replacement.status = .pendingRotation)
      (hrot : replacement.rotationFromKeyId = some keyId) :
      KeyChange sha256Hex inner (.cancel keyId replacement.id)
        (inner.apiKeys.retain fun r => r.id ≠ replacement.id)
  | update {input now record updated} (hmem : record ∈ inner.apiKeys.rows)
      (hmut : record.Mutable) (hupd : Updated input now record updated) :
      KeyChange sha256Hex inner (.update record.id input now)
        (updateKeys input inner.apiKeys updated)
  | bind {input record} (tenant : TenantKey) (hmem : record ∈ inner.apiKeys.rows)
      (hmut : record.Mutable) :
      KeyChange sha256Hex inner (.bind record.id input)
        (inner.apiKeys.put { record with tenant := tenant })
  | revoke {record} (hmem : record ∈ inner.apiKeys.rows)
      (hpend : record.status ≠ .pendingRotation) (hdel : record.status ≠ .deleted) :
      KeyChange sha256Hex inner (.revoke record.id)
        (purge (revoke inner.apiKeys record.id) record.id)
  | delete {record} (hmem : record ∈ inner.apiKeys.rows)
      (hpend : record.status ≠ .pendingRotation) (hdel : record.status ≠ .deleted) :
      KeyChange sha256Hex inner (.delete record.id)
        (purge (tombstone inner.apiKeys record.id) record.id)
  | deleteUser (userId : String) :
      KeyChange sha256Hex inner (.deleteUser userId) (dropUser inner.apiKeys userId)
  | upsertTeam {input slugUuid uuid} (teamId name : String) :
      KeyChange sha256Hex inner (.upsertTeam input slugUuid uuid)
        (renameTeam inner.apiKeys teamId name)
  | deleteTeam (teamId : String) :
      KeyChange sha256Hex inner (.deleteTeam teamId) inner.apiKeys
  | expire {headers now token record} (htoken : clientToken headers = some token)
      (hrec : keyOfToken sha256Hex inner token = some record)
      (hact : record.status = .active) (hexpired : record.expired now) :
      KeyChange sha256Hex inner (.authenticate headers now)
        (Control.revoke inner.apiKeys record.id)

/-! ### Inversion of the operations -/

variable {key keyId uuid : String} {now : ℕ} {r record s : ApiKeyRecord}
  {result : Except AppError Unit} {input : UpdateApiKeyInput} {f : ApiKeyRecord → ApiKeyRecord}
  {op : Operation}

/-- The calls that edit teams. -/
def Operation.editsTeams : Operation → Bool
  | .upsertTeam .. | .deleteTeam .. => true
  | _ => false

/-- What an operation that saves `next` has done. -/
structure Operation.Saved (sha256Hex : String → String) (inner : ControlInner) (op : Operation)
    (next : ControlInner) : Prop where
  keys : KeyChange sha256Hex inner op next.apiKeys
  teams : op.editsTeams = false → next.teams = inner.teams

section

variable {sha : String → String} {inner next : ControlInner} {replacementId : String}

lemma findKey_eq_ok {message : String} :
    findKey inner keyId message = .ok r ↔ r ∈ inner.apiKeys.rows ∧ r.id = keyId := by
  rw [← find_id_eq_some, findKey]
  cases inner.apiKeys.find keyId with
  | none => simp
  | some s => simp

lemma ensureMutable_eq_ok {deletedMessage supersededMessage : String}
    {u : Unit} (h : ensureMutable r deletedMessage supersededMessage = .ok u) : r.Mutable := by
  obtain ⟨_, hpend, h⟩ := bind_eq_ok.1 h
  obtain ⟨_, hdel, h⟩ := bind_eq_ok.1 h
  exact ⟨by simpa using hpend, by simpa using hdel, by simpa using h⟩

lemma updatedRecord_ok (h : updatedRecord input now inner r = .ok s) : Updated input now r s := by
  simp only [updatedRecord, bind_eq_ok] at h
  obtain ⟨_, hlim, _, -, team, hteam, models, hmod, providers, hprov, expires, hexp,
    status, hstat, ips, hips, _, hlive, h⟩ := h
  obtain rfl := Except.ok.inj h
  refine ⟨hlim, hmod, hprov, hexp, hstat, hips, rfl, ?_, rfl, ?_, rfl⟩
  · intro hnone
    rw [hnone] at hteam
    exact congrArg Prod.fst (Except.ok.inj hteam).symm
  · intro hact
    have hact : status = .active := hact
    simpa [hact, ApiKeyRecord.expired] using hlive

lemma newApiKeyRecord_ok {input : CreateApiKeyInput}
    (h : newApiKeyRecord sha input now uuid key inner = .ok r) :
    NewKey sha input now uuid key r := by
  simp only [newApiKeyRecord, bind_eq_ok] at h
  obtain ⟨_, -, _, -, _, -, _, -, principal, hprinc, _, -, expires, hexp, _, -, _, hbounds,
    _, -, h⟩ := h
  obtain rfl := Except.ok.inj h
  exact ⟨rfl, rfl, rfl, rfl, rfl, rfl, rfl, rfl, rfl, rfl, hexp, hprinc, hbounds⟩

lemma confirm_save {result : Except AppError ApiKeyRecord}
    (h : confirmApiKeyRotation sha keyId replacementId now inner = .ok (.save next result)) :
    Operation.Saved sha inner (.confirm keyId replacementId now) next := by
  obtain ⟨current, hfind, h⟩ := bind_eq_ok.1 h
  obtain ⟨replacement, hfind', h⟩ := bind_eq_ok.1 h
  split at h
  · rename_i hrepeat
    cases h
    obtain ⟨hcurr, rfl⟩ := findKey_eq_ok.1 hfind
    obtain ⟨hrepl, rfl⟩ := findKey_eq_ok.1 hfind'
    exact ⟨.repeatConfirm hcurr hrepl hrepeat.1 hrepeat.2, fun _ => rfl⟩
  · obtain ⟨_, hact, h⟩ := bind_eq_ok.1 h
    obtain ⟨_, hpend, h⟩ := bind_eq_ok.1 h
    cases h
    obtain ⟨hcurr, rfl⟩ := findKey_eq_ok.1 hfind
    obtain ⟨hrepl, rfl⟩ := findKey_eq_ok.1 hfind'
    simp only [ensure_eq_ok, ApiKeyRecord.isPendingOf, Bool.and_eq_true, decide_eq_true_eq,
      Bool.not_eq_true'] at hact hpend
    exact ⟨.confirm hcurr hrepl hact.1 hact.2 hpend.1 hpend.2, fun _ => rfl⟩

lemma cancel_save (h : cancelApiKeyRotation keyId replacementId inner = .ok (.save next result)) :
    Operation.Saved sha inner (.cancel keyId replacementId) next := by
  simp only [cancelApiKeyRotation] at h
  split at h
  · cases h
  · obtain ⟨_, hpend, h⟩ := bind_eq_ok.1 h
    cases h
    simp only [ensure_eq_ok, Option.any_eq_true] at hpend
    obtain ⟨replacement, hfind, hpend⟩ := hpend
    obtain ⟨hmem, rfl⟩ := find_id_eq_some.1 hfind
    simp only [ApiKeyRecord.isPendingOf, Bool.and_eq_true, decide_eq_true_eq] at hpend
    exact ⟨.cancel hmem hpend.1 hpend.2, fun _ => rfl⟩

lemma update_save {result : Except AppError ApiKeyRecord}
    (h : updateApiKey keyId input now inner = .ok (.save next result)) :
    Operation.Saved sha inner (.update keyId input now) next := by
  obtain ⟨record, hfind, h⟩ := bind_eq_ok.1 h
  obtain ⟨_, hmut, h⟩ := bind_eq_ok.1 h
  obtain ⟨updated, hupd, h⟩ := bind_eq_ok.1 h
  cases h
  obtain ⟨hmem, rfl⟩ := findKey_eq_ok.1 hfind
  have hupd := updatedRecord_ok hupd
  have hid : updated.id = record.id := by
    rw [hupd.same]
  have hchg : KeyChange sha inner (.update record.id input now)
      (updateKeys input inner.apiKeys updated) :=
    .update hmem (ensureMutable_eq_ok hmut) hupd
  rw [updateKeys, hid] at hchg
  exact ⟨hchg, fun _ => rfl⟩

lemma mem_of_keyOfToken {token : String}
    (h : keyOfToken sha inner token = some record) : record ∈ inner.apiKeys.rows := by
  obtain ⟨_, -, hfind⟩ := Option.bind_eq_some_iff.1 h
  exact (find_id_eq_some.1 hfind).1

lemma authenticate_save {headers : ClientHeaders} {result : Except AppError (Option ClientIdentity)}
    (h : authenticateHeaders sha headers now inner = .ok (.save next result)) :
    Operation.Saved sha inner (.authenticate headers now) next := by
  rw [authenticateHeaders] at h
  split at h
  · cases h
  · rename_i record hrec
    obtain ⟨token, htoken, hrec⟩ := Option.bind_eq_some_iff.1 hrec
    rw [admitKey] at h
    split at h
    · cases h
    · rename_i hact
      split at h
      · rename_i hexpired
        cases h
        exact ⟨.expire htoken hrec (not_not.1 hact) hexpired, fun _ => rfl⟩
      · split at h <;> cases h

lemma map_discard_eq_save {α : Type} {x : Except AppError (Outcome α)}
    (h : x.map Outcome.discard = .ok (.save next result)) :
    ∃ result, x = .ok (.save next result) := by
  match x, h with
  | .ok (.save _ result), h =>
    cases h
    exact ⟨result, rfl⟩

/-- **What an operation that saves has done.** -/
theorem Operation.run_save (h : op.run sha inner = .ok (.save next result)) :
    op.Saved sha inner next := by
  cases op with
  | create input maxActive now uuid key =>
    obtain ⟨_, h⟩ := map_discard_eq_save h
    obtain ⟨record, hrec, h⟩ := bind_eq_ok.1 h
    obtain ⟨_, hlimit, h⟩ := bind_eq_ok.1 h
    cases maxActive with
    | none =>
      cases h
      exact ⟨.create (newApiKeyRecord_ok hrec), fun _ => rfl⟩
    | some maxActive =>
      cases h
      exact ⟨.enroll (newApiKeyRecord_ok hrec) (by simpa [checkActiveLimit] using hlimit),
        fun _ => rfl⟩
  | rotate keyId now uuid key =>
    obtain ⟨_, h⟩ := map_discard_eq_save h
    obtain ⟨current, hfind, h⟩ := bind_eq_ok.1 h
    obtain ⟨_, hact, h⟩ := bind_eq_ok.1 h
    obtain ⟨_, hunexp, h⟩ := bind_eq_ok.1 h
    cases h
    obtain ⟨hmem, rfl⟩ := findKey_eq_ok.1 hfind
    exact ⟨.rotate hmem (by simpa using hact) (by simpa using hunexp), fun _ => rfl⟩
  | confirm keyId replacementId now =>
    obtain ⟨_, h⟩ := map_discard_eq_save h
    exact confirm_save h
  | cancel keyId replacementId => exact cancel_save h
  | update keyId input now =>
    obtain ⟨_, h⟩ := map_discard_eq_save h
    exact update_save h
  | bind keyId input =>
    obtain ⟨_, h⟩ := map_discard_eq_save h
    obtain ⟨tenant, -, h⟩ := bind_eq_ok.1 h
    obtain ⟨record, hfind, h⟩ := bind_eq_ok.1 h
    obtain ⟨_, hmut, h⟩ := bind_eq_ok.1 h
    cases h
    obtain ⟨hmem, rfl⟩ := findKey_eq_ok.1 hfind
    exact ⟨.bind tenant hmem (ensureMutable_eq_ok hmut), fun _ => rfl⟩
  | revoke keyId | delete keyId =>
    obtain ⟨record, hfind, h⟩ := bind_eq_ok.1 h
    obtain ⟨_, hpend, h⟩ := bind_eq_ok.1 h
    split at h
    · cases h
    · cases h
      obtain ⟨hmem, rfl⟩ := findKey_eq_ok.1 hfind
      have hpend : record.status ≠ .pendingRotation := by simpa using hpend
      exact ⟨by constructor <;> assumption, fun _ => rfl⟩
  | deleteUser userId =>
    cases h
    exact ⟨.deleteUser userId, fun _ => rfl⟩
  | upsertTeam input slugUuid uuid =>
    obtain ⟨_, h⟩ := map_discard_eq_save h
    simp only [Control.upsertTeam, bind_eq_ok] at h
    obtain ⟨_, -, _, -, _, -, _, -, _, -, _, -, _, -, _, -, h⟩ := h
    cases h
    exact ⟨.upsertTeam _ _, by rintro ⟨⟩⟩
  | deleteTeam teamId =>
    obtain ⟨_, -, h⟩ := bind_eq_ok.1 h
    split at h
    · cases h
    · cases h
      exact ⟨.deleteTeam teamId, by rintro ⟨⟩⟩
  | authenticate headers now =>
    obtain ⟨_, h⟩ := map_discard_eq_save h
    exact authenticate_save h

end

/-! ### Edits -/

/-- The records after the change are those before it, each rewritten as `E` allows, except that
prepared rotations may be gone. -/
structure Edited (keys keys' : Keys) (E : ApiKeyRecord → ApiKeyRecord → Prop) : Prop where
  back : ∀ s ∈ keys'.rows, ∃ r ∈ keys.rows, s.id = r.id ∧ E r s
  kept : ∀ r ∈ keys.rows, r.status ≠ .pendingRotation → ∃ s ∈ keys'.rows, s.id = r.id

namespace Edited

variable {keys'' : Keys} {E F : ApiKeyRecord → ApiKeyRecord → Prop}

lemma refl (hE : ∀ r, E r r) : Edited keys keys E :=
  ⟨fun s hs => ⟨s, hs, rfl, hE s⟩, fun r hr _ => ⟨r, hr, rfl⟩⟩

section

variable (h : Edited keys keys' E)

include h

lemma forth (hr : r ∈ keys.rows)
    (hpend : r.status ≠ .pendingRotation) : ∃ s ∈ keys'.rows, s.id = r.id ∧ E r s := by
  obtain ⟨s, hs, hid⟩ := h.kept r hr hpend
  obtain ⟨r', hr', hid', hE⟩ := h.back s hs
  obtain rfl := eq_of_id hr hr' (hid.symm.trans hid')
  exact ⟨s, hs, hid, hE⟩

lemma mono (hEF : ∀ r ∈ keys.rows, ∀ s ∈ keys'.rows, E r s → F r s) : Edited keys keys' F where
  back s hs := by
    obtain ⟨r, hr, hid, hE⟩ := h.back s hs
    exact ⟨r, hr, hid, hEF r hr s hs hE⟩
  kept := h.kept

/-- One edit after another, the first of which makes no prepared rotations. -/
lemma trans (h' : Edited keys' keys'' F)
    (hpend : ∀ r s, E r s → s.status = .pendingRotation → r.status = .pendingRotation) :
    Edited keys keys'' fun r t => ∃ s ∈ keys'.rows, E r s ∧ F s t where
  back t ht := by
    obtain ⟨s, hs, hid', hF⟩ := h'.back t ht
    obtain ⟨r, hr, hid, hE⟩ := h.back s hs
    exact ⟨r, hr, hid'.trans hid, s, hs, hE, hF⟩
  kept r hr hr' := by
    obtain ⟨s, hs, hid, hE⟩ := h.forth hr hr'
    obtain ⟨t, ht, hid'⟩ := h'.kept s hs fun hs' => hr' (hpend r s hE hs')
    exact ⟨t, ht, hid'.trans hid⟩

end

end Edited

section

variable {hf : ∀ r, (f r).id = r.id} {p : ApiKeyRecord → Bool}

lemma edited_retain {keep : ApiKeyRecord → Bool}
    (h : ∀ r ∈ keys.rows, keep r = false → r.status = .pendingRotation) :
    Edited keys (keys.retain keep) fun r s => s = r where
  back s hs := ⟨s, List.mem_of_mem_filter hs, rfl, rfl⟩
  kept r hr hpend := by
    refine ⟨r, List.mem_filter.2 ⟨hr, ?_⟩, rfl⟩
    by_contra hkeep
    exact hpend (h r hr (by simpa using hkeep))

lemma edited_purge (keyId : String) : Edited keys (purge keys keyId) fun r s => s = r := by
  refine edited_retain fun r _ h => ?_
  simp only [Bool.not_eq_false', ApiKeyRecord.isPendingOf, Bool.and_eq_true, decide_eq_true_eq] at h
  exact h.1

lemma mem_purge_self (hr : r ∈ keys.rows) (hact : r.status = .active) :
    r ∈ (purge keys r.id).rows :=
  List.mem_filter.2 ⟨hr, by simp [ApiKeyRecord.isPendingOf, hact]⟩

lemma edited_cancel (hr : r ∈ keys.rows) (hpend : r.status = .pendingRotation) :
    Edited keys (keys.retain (·.id ≠ r.id)) fun r s => s = r := by
  refine edited_retain fun s hs hdrop => ?_
  have hid : s.id = r.id := by simpa using hdrop
  exact eq_of_id hs hr hid ▸ hpend

lemma id_assign
    (hf : ∀ r, [(f r).id] = [r.id]) (r : ApiKeyRecord) : (Table.assign p f r).id = r.id :=
  Table.apply_assign (fun r => by simpa using hf r) r

lemma edited_update {hf : ∀ r, [(f r).id] = [r.id]} :
    Edited keys (keys.update p f hf) fun r s => s = if p r then f r else r where
  back s hs := by
    obtain ⟨r, hr, rfl⟩ := (Table.mem_update _).1 hs
    exact ⟨r, hr, id_assign hf r, rfl⟩
  kept r hr _ := ⟨_, (Table.mem_update _).2 ⟨r, hr, rfl⟩, id_assign hf r⟩

lemma edited_modify :
    Edited keys (modify keys keyId f hf) fun r s => s = if r.id = keyId then f r else r :=
  edited_update.mono fun r _ s _ h => by simpa using h

lemma edited_put (hr : r ∈ keys.rows) (hid : s.id = r.id) :
    Edited keys (keys.put s) fun a b => a = r ∧ b = s ∨ a.id ≠ r.id ∧ b = a where
  back b hb := by
    rcases mem_put_iff.1 hb with rfl | ⟨hb, hne⟩
    · exact ⟨r, hr, hid, .inl ⟨rfl, rfl⟩⟩
    · exact ⟨b, hb, rfl, .inr ⟨hid ▸ hne, rfl⟩⟩
  kept a ha _ := by
    by_cases h : a.id = r.id
    · exact ⟨s, mem_put_iff.2 (.inl rfl), hid.trans h.symm⟩
    · exact ⟨a, mem_put_iff.2 (.inr ⟨ha, by rwa [hid]⟩), rfl⟩

lemma applyLimits_of_unchanged (h : ¬ input.changesLimits)
    (limits : SpendLimits) : input.applyLimits limits = limits := by
  simp only [UpdateApiKeyInput.changesLimits, Bool.or_eq_true, not_or, Bool.not_eq_true,
    Option.isSome_eq_false_iff, Option.isNone_iff_eq_none] at h
  obtain ⟨⟨⟨⟨⟨h1, h2⟩, h3⟩, h4⟩, h5⟩, h6⟩ := h
  simp [UpdateApiKeyInput.applyLimits, h1, h2, h3, h4, h5, h6]

/-- A record with the limits an update gives to its subject. -/
def withLimits (input : UpdateApiKeyInput) (subject : String) (r : ApiKeyRecord) : ApiKeyRecord :=
  { r with limits := if r.effectiveQuotaSubjectId = subject then input.applyLimits r.limits
      else r.limits }

lemma edited_syncLimits {subject : String} :
    Edited keys (syncLimits input subject keys) fun r s => s = withLimits input subject r := by
  unfold syncLimits
  split
  · refine edited_update.mono fun r _ s _ h => ?_
    rw [h, withLimits]
    by_cases hsubj : r.effectiveQuotaSubjectId = subject <;> simp [hsubj]
  · rename_i hunchanged
    refine .refl fun r => ?_
    rw [withLimits, applyLimits_of_unchanged hunchanged, ite_self]

lemma edited_modify_of_mem (hmem : record ∈ keys.rows) :
    Edited keys (modify keys record.id f hf) fun r s => s = r ∨ r = record ∧ s = f r := by
  refine edited_modify.mono fun r hr s _ h => ?_
  by_cases hid : r.id = record.id
  · exact .inr ⟨eq_of_id hr hmem hid, by simpa [hid] using h⟩
  · exact .inl (by simpa [hid] using h)

lemma edited_revoke (hmem : record ∈ keys.rows) : Edited keys (revoke keys record.id) fun r s =>
      s = r ∨ r = record ∧ s = { r with status := .revoked } :=
  edited_modify_of_mem hmem

lemma edited_purged {E : ApiKeyRecord → ApiKeyRecord → Prop} (h : Edited keys keys' E)
    (hpend : ∀ r s, E r s → s.status = .pendingRotation → r.status = .pendingRotation) :
    Edited keys (purge keys' keyId) E := by
  refine (h.trans (edited_purge keyId) hpend).mono ?_
  rintro r - t - ⟨s, -, hE, rfl⟩
  exact hE

lemma edited_revoked (hmem : record ∈ keys.rows) :
    Edited keys (purge (revoke keys record.id) record.id) fun r s =>
      s = r ∨ r = record ∧ s = { r with status := .revoked } := by
  refine edited_purged (edited_revoke hmem) ?_
  rintro r s (rfl | ⟨-, rfl⟩) hs
  · exact hs
  · cases hs

lemma edited_deleted (hmem : record ∈ keys.rows) :
    Edited keys (purge (tombstone keys record.id) record.id) fun r s =>
      s = r ∨ r = record ∧ s = { r with status := .deleted, keyHash := "" } := by
  refine edited_purged (edited_modify_of_mem hmem) ?_
  rintro r s (rfl | ⟨-, rfl⟩) hs
  · exact hs
  · cases hs

lemma edited_bind (tenant : TenantKey) (hmem : record ∈ keys.rows) :
    Edited keys (keys.put { record with tenant := tenant }) fun r s =>
      s = r ∨ r = record ∧ s = { r with tenant := tenant } := by
  refine (edited_put (s := { record with tenant := tenant }) hmem rfl).mono ?_
  rintro r - s - (⟨rfl, rfl⟩ | ⟨-, rfl⟩)
  exacts [Or.inr ⟨rfl, rfl⟩, .inl rfl]

lemma edited_dropUser (userId : String) : Edited keys (dropUser keys userId) fun r s =>
      s = r ∨ r.userId = userId ∧ r.status ≠ .deleted ∧ r.status ≠ .pendingRotation ∧
        s = { r with status := .revoked } := by
  have hretain : Edited keys
      (keys.retain fun r => !(r.userId = userId && r.status = .pendingRotation))
      fun r s => s = r := by
    refine edited_retain fun r _ h => ?_
    simp only [Bool.not_eq_false', Bool.and_eq_true, decide_eq_true_eq] at h
    exact h.2
  refine (hretain.trans edited_update fun r s h hs => h ▸ hs).mono ?_
  rintro r hr t ht ⟨s, hs, rfl, h⟩
  have hkeep := (List.mem_filter.1 hs).2
  by_cases hown : s.userId = userId
  · by_cases hdel : s.status = .deleted
    · exact .inl (by simpa [hdel] using h)
    · have hpend : s.status ≠ .pendingRotation := by simpa [hown] using hkeep
      exact .inr ⟨hown, hdel, hpend, by simpa [hown, hdel] using h⟩
  · exact .inl (by simpa [hown] using h)

lemma edited_renameTeam (teamId name : String) :
    Edited keys (renameTeam keys teamId name) fun r s =>
      s = r ∨ s = { r with teamName := some name } := by
  refine edited_update.mono fun r _ s _ h => ?_
  by_cases hteam : r.teamId = some teamId
  · exact .inr (by simpa [hteam] using h)
  · exact .inl (by simpa [hteam] using h)

lemma applyLimits_applyLimits (input : UpdateApiKeyInput) (limits : SpendLimits) :
    input.applyLimits (input.applyLimits limits) = input.applyLimits limits := by
  have hgetD : ∀ {α : Type} (o : Option α) (a : α), o.getD (o.getD a) = o.getD a := by
    intro α o a
    cases o <;> rfl
  simp only [UpdateApiKeyInput.applyLimits, hgetD]

namespace Updated

variable {updated : ApiKeyRecord}

variable (h : Updated input now record updated)

include h

lemma id : updated.id = record.id := by
  rw [h.same]

/-- An update sets no other status than active or revoked. -/
lemma status_cases :
    updated.status = record.status ∨ updated.status = .active ∨ updated.status = .revoked := by
  have hstat := h.status
  cases hinput : input.status with
  | none =>
    rw [hinput] at hstat
    exact .inl (Except.ok.inj hstat).symm
  | some value =>
    rw [hinput, updatedField, parseKeyStatus] at hstat
    split at hstat
    · exact .inr (.inl (Except.ok.inj hstat).symm)
    · exact .inr (.inr (Except.ok.inj hstat).symm)
    · cases hstat

lemma pending (hmut : record.Mutable) :
    updated.status = .pendingRotation ↔ record.status = .pendingRotation := by
  rcases h.status_cases with hs | hs | hs <;> simp [hs, hmut.notPending]

end Updated

/-- An update changes its record, and the limits of the records of the same subject. -/
lemma edited_updateKeys {updated : ApiKeyRecord}
    (hmem : record ∈ keys.rows) (hmut : record.Mutable)
    (hupd : Updated input now record updated) :
    Edited keys (updateKeys input keys updated) fun r s => r = record ∧ s = updated ∨
        r.id ≠ record.id ∧ s = withLimits input record.effectiveQuotaSubjectId r := by
  have hpend := hupd.pending hmut
  have hsync : Edited keys
      (syncLimits input updated.effectiveQuotaSubjectId (keys.put updated)) fun r s =>
      r = record ∧ s = updated ∨
        r.id ≠ record.id ∧ s = withLimits input record.effectiveQuotaSubjectId r := by
    refine ((edited_put hmem hupd.id).trans edited_syncLimits ?_).mono ?_
    · rintro r s (⟨rfl, rfl⟩ | ⟨-, rfl⟩) hs
      · exact hpend.1 hs
      · exact hs
    · rintro r - t - ⟨s, -, ⟨rfl, rfl⟩ | ⟨hid, rfl⟩, rfl⟩
      · refine .inl ⟨rfl, ?_⟩
        rw [withLimits, if_pos rfl, hupd.limits, applyLimits_applyLimits, ← hupd.limits]
      · exact .inr ⟨hid, by rw [hupd.same]; rfl⟩
  rw [updateKeys]
  split
  · refine edited_purged hsync ?_
    rintro r s (⟨rfl, rfl⟩ | ⟨-, rfl⟩) hs
    · exact hpend.1 hs
    · exact hs
  · exact hsync

lemma edited_joinOwner (sha : String → String) (record : ApiKeyRecord) :
    Edited keys (keys.update (isUserKeyOf record.userId) (joinOwner sha keys record)
      fun _ => rfl) fun r s =>
      s = if isUserKeyOf record.userId r then joinOwner sha keys record r else r :=
  edited_update

end

/-! ### Plain changes -/

/-- An edit of nothing but status, hash, tenant and the name of the team. -/
inductive PlainEdit (r : ApiKeyRecord) : ApiKeyRecord → Prop
  | refl : PlainEdit r r
  | revoke (hpend : r.status ≠ .pendingRotation) (hdel : r.status ≠ .deleted) :
      PlainEdit r { r with status := .revoked }
  | delete (hpend : r.status ≠ .pendingRotation) :
      PlainEdit r { r with status := .deleted, keyHash := "" }
  | bind (tenant : TenantKey) : PlainEdit r { r with tenant := tenant }
  | rename (name : String) : PlainEdit r { r with teamName := some name }

lemma PlainEdit.same (h : PlainEdit r s) : s = { r with
    status := s.status, keyHash := s.keyHash, tenant := s.tenant, teamName := s.teamName } := by
  cases h <;> rfl

lemma PlainEdit.pending (h : PlainEdit r s) :
    s.status = .pendingRotation ↔ r.status = .pendingRotation := by
  cases h <;> simp [*]

/-- The operations that edit records plainly. -/
def Operation.isPlain : Operation → Bool
  | .create .. | .rotate .. | .confirm .. | .update .. => false
  | _ => true

/-- **A plain change** edits records plainly. -/
lemma KeyChange.plain {sha : String → String} {inner : ControlInner}
    {keys' : Keys} (hchg : KeyChange sha inner op keys') (hplain : op.isPlain) :
    Edited inner.apiKeys keys' PlainEdit := by
  cases hchg with
  | create | enroll | rotate | repeatConfirm | confirm | update => cases hplain
  | @cancel keyId replacement hmem hpend =>
    exact (edited_cancel hmem hpend).mono fun r _ s _ hs => hs ▸ .refl
  | bind tenant hmem =>
    refine (edited_bind tenant hmem).mono ?_
    rintro r - s - (rfl | ⟨-, rfl⟩)
    exacts [.refl, .bind tenant]
  | revoke hmem hpend hdel =>
    refine (edited_revoked hmem).mono ?_
    rintro r - s - (rfl | ⟨rfl, rfl⟩)
    exacts [.refl, .revoke hpend hdel]
  | delete hmem hpend =>
    refine (edited_deleted hmem).mono ?_
    rintro r - s - (rfl | ⟨rfl, rfl⟩)
    exacts [.refl, .delete hpend]
  | deleteUser userId =>
    refine (edited_dropUser userId).mono ?_
    rintro r - s - (rfl | ⟨-, hdel, hpend, rfl⟩)
    exacts [.refl, .revoke hpend hdel]
  | upsertTeam teamId name =>
    refine (edited_renameTeam teamId name).mono ?_
    rintro r - s - (rfl | rfl)
    exacts [.refl, .rename name]
  | deleteTeam => exact .refl fun _ => .refl
  | expire htoken hrec hact =>
    refine (edited_revoke (mem_of_keyOfToken hrec)).mono ?_
    rintro r - s - (rfl | ⟨rfl, rfl⟩)
    exacts [.refl, .revoke (by simp [hact]) (by simp [hact])]

end ModelPort.Control
