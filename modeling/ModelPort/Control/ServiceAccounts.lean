import ModelPort.Control.Authentication

/-!
# Keys of service accounts

The key of a service account is created with an expiry at most 90 days ahead, with lists of models
and providers that are not empty, and with a purpose. Rotations copy all of it. An update does not
look at the kind of a key: it may clear or move the expiry and empty the lists.

* `service_accounts_bounded`: keys of service accounts are bounded in every run without such
  updates, and these are the only ones that break it.
-/

namespace ModelPort.Control

open Relational Relation Except Sample

/-! ### Bounds -/

/-- What a key of a service account must have at a time. -/
structure ServiceBounds (now : ℕ) (r : ApiKeyRecord) : Prop where
  expires : ∃ e, r.expiresAtMs = some e ∧ e ≤ now + maxServiceAccountTtlMs
  models : r.allowedModels ≠ []
  providers : r.allowedProviders ≠ []
  purpose : ∃ p, r.purpose = some p ∧ 8 ≤ byteLen p ∧ byteLen p ≤ 240

/-- All keys of service accounts have it. -/
def ServiceBounded (now : ℕ) (keys : Keys) : Prop :=
  ∀ r ∈ keys.rows, r.principalType = .serviceAccount → ServiceBounds now r

/-- What an update of a service account's key must give. -/
def UpdateApiKeyInput.Bounded (input : UpdateApiKeyInput) (now : ℕ) : Prop :=
  (∀ value ∈ input.expiresAt, ∃ e, parseExpiresAt value = .ok (some e) ∧
    e ≤ now + maxServiceAccountTtlMs) ∧
  (∀ values ∈ input.allowedModels, ∃ value ∈ values, trim value ≠ "") ∧
  ∀ values ∈ input.allowedProviders, ∃ value ∈ values, trim value ≠ ""

/-- The update of a service account's key, if it is one, gives no expiry but one at most 90 days
ahead, and no list but one with an entry. -/
def KeepsBounds (inner : ControlInner) : Operation → Prop
  | .update keyId input now => ∀ r ∈ inner.apiKeys.rows, r.id = keyId →
      r.principalType = .serviceAccount → input.Bounded now
  | _ => True

section

variable {sha : String → String} {now later : ℕ} {r s : ApiKeyRecord} {keys keys' : Keys}
  {inner : ControlInner} {op : Operation}

lemma ServiceBounds.mono (hle : now ≤ later) (h : ServiceBounds now r) : ServiceBounds later r := by
  obtain ⟨e, he, hbound⟩ := h.expires
  exact ⟨⟨e, he, hbound.trans (Nat.add_le_add_right hle _)⟩, h.models, h.providers, h.purpose⟩

/-- The bounds read no other fields. -/
lemma ServiceBounds.congr (h : ServiceBounds now r) (hexp : s.expiresAtMs = r.expiresAtMs)
    (hmod : s.allowedModels = r.allowedModels)
    (hprov : s.allowedProviders = r.allowedProviders) (hpurpose : s.purpose = r.purpose) :
    ServiceBounds now s :=
  ⟨hexp ▸ h.expires, hmod ▸ h.models, hprov ▸ h.providers, hpurpose ▸ h.purpose⟩

lemma NewKey.serviceBounds {input : CreateApiKeyInput} {uuid key : String}
    (h : NewKey sha input now uuid key r) (hkind : r.principalType = .serviceAccount) :
    ServiceBounds now r := by
  have hbounds := h.bounds
  rw [hkind] at hbounds
  obtain ⟨_, hsome, hbounds⟩ := bind_eq_ok.1 hbounds
  obtain ⟨_, hlife, hbounds⟩ := bind_eq_ok.1 hbounds
  obtain ⟨_, hlists, hbounds⟩ := bind_eq_ok.1 hbounds
  rw [ensure_eq_ok] at hsome hlife hlists hbounds
  obtain ⟨e, he⟩ := Option.isSome_iff_exists.1 hsome
  simp only [he, Option.any_some, Bool.not_eq_true', decide_eq_false_iff_not, not_lt] at hlife
  simp only [Bool.and_eq_true, Bool.not_eq_true', List.isEmpty_eq_false_iff] at hlists
  simp only [Option.any_eq_true, Bool.and_eq_true, decide_eq_true_eq] at hbounds
  exact ⟨⟨e, he, Nat.sub_le_iff_le_add'.1 hlife⟩, hlists.1, hlists.2, hbounds⟩

variable {input : UpdateApiKeyInput}

lemma Updated.purpose (h : Updated input now r s) :
    s.principalType = r.principalType ∧ s.purpose = r.purpose := by
  rw [h.same]
  exact ⟨rfl, rfl⟩

lemma updatedField_ne_nil {given : Option (List String)} {before after : List String}
    (h : updatedField before normalizePolicyList given = .ok after) (hbef : before ≠ []) :
    after ≠ [] ↔ ∀ values ∈ given, ∃ value ∈ values, trim value ≠ "" := by
  cases given with
  | none =>
    cases h
    simp [hbef]
  | some values =>
    have hvalues : normalizePolicyList values = .ok after := h
    have hspec entry := (normalizeEntries_spec hvalues entry).1
    simp [List.eq_nil_iff_forall_not_mem, hspec, and_comm]

/-- An update that gives what it must keeps the bounds. -/
lemma Updated.serviceBounds (h : Updated input now r s) (hle : now ≤ later)
    (hr : ServiceBounds later r) (hinput : input.Bounded now) : ServiceBounds later s := by
  obtain ⟨hexp, hmod, hprov⟩ := hinput
  refine ⟨?_, (updatedField_ne_nil h.models hr.models).2 hmod,
    (updatedField_ne_nil h.providers hr.providers).2 hprov, h.purpose.2 ▸ hr.purpose⟩
  have hfield := h.expires
  cases hgiven : input.expiresAt with
  | none =>
    rw [hgiven] at hfield
    rw [← Except.ok.inj hfield]
    exact hr.expires
  | some value =>
    rw [hgiven] at hfield hexp
    obtain ⟨e, he, hbound⟩ := hexp value rfl
    exact ⟨e, Except.ok.inj (hfield.symm.trans he), hbound.trans (Nat.add_le_add_right hle _)⟩

lemma Updated.bounded (h : Updated input now r s) (hr : ServiceBounds now r)
    (hs : ServiceBounds now s) : input.Bounded now := by
  refine ⟨fun value hvalue => ?_, (updatedField_ne_nil h.models hr.models).1 hs.models,
    (updatedField_ne_nil h.providers hr.providers).1 hs.providers⟩
  have hfield := h.expires
  obtain ⟨e, he, hbound⟩ := hs.expires
  rw [Option.mem_def.1 hvalue, he] at hfield
  exact ⟨e, hfield, hbound⟩

/-! ### Changes -/

section

variable (h : ServiceBounded now keys)

include h

lemma ServiceBounded.edited (he : Edited keys keys' fun r s => s.principalType = r.principalType ∧
      s.expiresAtMs = r.expiresAtMs ∧ s.allowedModels = r.allowedModels ∧
      s.allowedProviders = r.allowedProviders ∧ s.purpose = r.purpose) :
    ServiceBounded now keys' := by
  intro s hs hkind
  obtain ⟨r, hr, -, hkind', hexp, hmod, hprov, hpurpose⟩ := he.back s hs
  exact (h r hr (hkind'.symm.trans hkind)).congr hexp hmod hprov hpurpose

lemma ServiceBounded.put (hr : r.principalType = .serviceAccount → ServiceBounds now r) :
    ServiceBounded now (keys.put r) := by
  intro s hs hkind
  rcases mem_put_iff.1 hs with rfl | ⟨hs, -⟩
  · exact hr hkind
  · exact h s hs hkind

lemma ServiceBounded.handover {keyId : String}
    (hr : r.principalType = .serviceAccount → ServiceBounds now r) :
    ServiceBounded now (handover keys keyId r) := by
  refine .put (h.edited (edited_modify.mono ?_)) hr
  rintro a - b - rfl
  split
  · exact ⟨rfl, rfl, rfl, rfl, rfl⟩
  · exact ⟨rfl, rfl, rfl, rfl, rfl⟩

end

lemma ServiceBounded.updateKeys {record updated : ApiKeyRecord}
    (h : ServiceBounded later inner.apiKeys) (hle : now ≤ later)
    (hmem : record ∈ inner.apiKeys.rows) (hmut : record.Mutable)
    (hupd : Updated input now record updated)
    (hkeeps : KeepsBounds inner (.update record.id input now)) :
    ServiceBounded later (updateKeys input inner.apiKeys updated) := by
  intro s hs hkind
  obtain ⟨r, hr, -, ⟨rfl, rfl⟩ | ⟨-, rfl⟩⟩ := (edited_updateKeys hmem hmut hupd).back s hs
  · have hkind' := hupd.purpose.1.symm.trans hkind
    exact hupd.serviceBounds hle (h r hr hkind') (hkeeps r hr rfl hkind')
  · exact (h r hr hkind).congr rfl rfl rfl rfl

/-- The operation meets the condition, at a time not after `later`. -/
def BoundedUpdates (later : ℕ) (inner : ControlInner) (op : Operation) : Prop :=
  (∀ now ∈ op.time, now ≤ later) ∧ KeepsBounds inner op

/-- **Every change keeps keys of service accounts bounded**, if it meets the condition. -/
lemma KeyChange.serviceBounded (hchg : KeyChange sha inner op keys')
    (hall : BoundedUpdates later inner op) (h : ServiceBounded later inner.apiKeys) :
    ServiceBounded later keys' := by
  obtain ⟨htime, hkeeps⟩ := hall
  have hplain := hchg.plain
  cases hchg with
  | create hnew => exact h.put fun hkind => (hnew.serviceBounds hkind).mono (htime _ rfl)
  | enroll hnew =>
    refine .put (h.edited ((edited_joinOwner sha _).mono ?_)) fun hkind =>
      ((hnew.serviceBounds hkind).mono (htime _ rfl)).congr rfl rfl rfl rfl
    rintro r - s - rfl
    split <;> exact ⟨rfl, rfl, rfl, rfl, rfl⟩
  | @rotate now uuid key current hmem =>
    refine .put (h.edited ((edited_purge current.id).mono ?_)) fun hkind =>
      (h current hmem hkind).congr rfl rfl rfl rfl
    rintro r - s - rfl
    exact ⟨rfl, rfl, rfl, rfl, rfl⟩
  | @repeatConfirm now current replacement hcurr hrepl =>
    exact h.handover fun hkind => (h replacement hrepl hkind).congr rfl rfl rfl rfl
  | @confirm now current replacement hcurr =>
    exact h.handover fun hkind => (h current hcurr hkind).congr rfl rfl rfl rfl
  | update hmem hmut hupd => exact h.updateKeys (htime _ rfl) hmem hmut hupd hkeeps
  | _ =>
    refine h.edited ((hplain rfl).mono ?_)
    rintro r - s - hE
    rw [hE.same]
    exact ⟨rfl, rfl, rfl, rfl, rfl⟩

lemma Path.serviceBounded {issued : List (String × String)} {inner' : ControlInner}
    (hpath : Path sha (BoundedUpdates later) issued inner inner')
    (hlin : Lineage sha issued inner.apiKeys)
    (h : ServiceBounded later inner.apiKeys) : ServiceBounded later inner'.apiKeys := by
  induction hpath with
  | refl => exact h
  | tail hpath hchg ih =>
    cases hchg with
    | operate op hall hrun => exact (Operation.run_save hrun).keys.serviceBounded hall ih
    | restart =>
      have hlin' := Path.lineage_of hpath hlin
      refine ih.edited (hlin'.edited_restart.mono ?_)
      rintro r hr s - rfl
      rcases hlin'.restartRecord_cases hr with ⟨-, heq⟩ | ⟨-, -, heq⟩ <;> rw [heq] <;>
        unfold repairSubject reconstructSubject <;> split <;> exact ⟨rfl, rfl, rfl, rfl, rfl⟩

end

/-! ### Service accounts in a run -/

/-- **When keys of service accounts are bounded.** In every run whose updates meet the condition, a
key of a service account that is accepted at a time not before the operations has an expiry at most
90 days ahead, models, providers and a purpose. The condition is the right one: on keys that are
bounded, an update that saves leaves them so if and only if it meets it. -/
theorem service_accounts_bounded (sha256Hex : String → String) :
    (∀ now h, Reachable sha256Hex (BoundedUpdates now) h → ∀ headers identity,
      authenticateHeaders sha256Hex headers now h.store.memory = .ok (.answer (some identity)) →
      identity.principalType = .serviceAccount →
      ∃ r ∈ h.store.memory.apiKeys.rows, identity.apiKeyId = some r.id ∧ ServiceBounds now r) ∧
    ∀ inner keyId input now next result,
      (Operation.update keyId input now).run sha256Hex inner = .ok (.save next result) →
      ServiceBounded now inner.apiKeys →
      (ServiceBounded now next.apiKeys ↔ KeepsBounds inner (.update keyId input now)) := by
  constructor
  · intro now h hreach headers identity hacc hkind
    obtain ⟨r, hr, -, rfl⟩ := accepted_identity hacc
    have hbounded := Path.serviceBounded hreach.sound.path lineage_empty (fun r hr => by cases hr)
    exact ⟨r, hr, rfl, hbounded r hr hkind⟩
  · intro inner keyId input now next result hrun hbounded
    have hchg := (Operation.run_save hrun).keys
    generalize next.apiKeys = keys' at hchg
    cases hchg with
    | update hmem hmut hupd =>
      refine ⟨fun hnext r hr hid hkind => ?_, hbounded.updateKeys le_rfl hmem hmut hupd⟩
      obtain rfl := eq_of_id hr hmem hid
      obtain ⟨s, hs, -, ⟨-, rfl⟩ | ⟨hne, -⟩⟩ :=
        (edited_updateKeys hmem hmut hupd).forth hr hmut.notPending
      · exact hupd.bounded (hbounded r hr hkind) (hnext s hs (hupd.purpose.1.trans hkind))
      · exact absurd rfl hne

/-- The key of a service account, created at time 1 with expiry at time 100. -/
def Sample.createService : Operation :=
  .create
    { userId := "usr_1"
      name := "robot"
      principalType := some "service_account"
      purpose := some "nightly jobs"
      allowedModels := some ["a"]
      allowedProviders := some ["b"]
      expiresAt := some "100" } none 1 "1" "sk-mp-1"

/-- A service account's key whose expiry is cleared by an update. -/
def Sample.unbounded : History :=
  initial.play mark [saved createService, saved (.update "key_1" { expiresAt := some "" } 2)]

/-- A new key of a service account is accepted and bounded. -/
theorem service_accounts_bounded_created :
    ∃ identity, authenticateHeaders Sample.mark { xApiKey := some (some "sk-mp-1") } 2
        (initial.next Sample.mark (Sample.saved Sample.createService)).store.memory
          = .ok (.answer (some identity)) ∧
      ∃ r ∈ (initial.next Sample.mark
        (Sample.saved Sample.createService)).store.memory.apiKeys.rows,
        identity.apiKeyId = some r.id ∧ ServiceBounds 2 r := by
  have hreach : Reachable mark (BoundedUpdates 2)
      (initial.next mark (saved createService)) :=
    ReflTransGen.single (.operate createService .acknowledged
      ⟨by decide +kernel, trivial⟩ (by decide +kernel))
  have hlive : ∃ r ∈ (initial.next mark (saved createService)).store.memory.apiKeys.rows,
      (r.id, "sk-mp-1") ∈ (initial.next mark (saved createService)).issued ∧
      r.status = .active ∧ r.expired 2 = false ∧ r.teamActive (initial.next mark
        (saved createService)).store.memory.teams ∧
      r.principalType = .serviceAccount := by
    decide +kernel
  obtain ⟨r, hr, hiss, hact, hunexp, hteam, hkind⟩ := hlive
  have hacc := accepted hreach.sound hr hiss ⟨hact, hunexp, hteam⟩
  exact ⟨_, hacc, (service_accounts_bounded mark).1 2 _ hreach _ _ hacc hkind⟩

/-- An update clears the expiry of a service account's key, which is accepted ever after. -/
theorem update_clears_service_account_expiry :
    Reachable Sample.mark AnyOperation Sample.unbounded ∧
      ∃ r ∈ Sample.unbounded.store.memory.apiKeys.rows, r.principalType = .serviceAccount ∧
        r.expiresAtMs = none ∧ ∀ now,
          authenticateHeaders Sample.mark { xApiKey := some (some "sk-mp-1") } now
            Sample.unbounded.store.memory
              = .ok (.answer (some (identityOf Sample.mark r Sample.unbounded.store.memory))) := by
  have hreach : Reachable mark AnyOperation unbounded :=
    reachable_play (by decide +kernel)
  have hrec : ∃ r ∈ unbounded.store.memory.apiKeys.rows,
      (r.id, "sk-mp-1") ∈ unbounded.issued ∧ r.status = .active ∧
      r.expiresAtMs = none ∧ r.teamActive unbounded.store.memory.teams ∧
      r.principalType = .serviceAccount := by
    decide +kernel
  obtain ⟨r, hr, hiss, hact, hnone, hteam, hkind⟩ := hrec
  refine ⟨hreach, r, hr, hkind, hnone, fun now => ?_⟩
  refine accepted hreach.sound hr hiss ⟨hact, ?_, hteam⟩
  rw [ApiKeyRecord.expired, hnone]
  rfl

end ModelPort.Control
