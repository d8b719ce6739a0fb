import ModelPort.Control.Authentication

/-!
# Restarts

A restart reads the document back and repairs its rotation links. On a document that the store
wrote itself the repair changes no hash and takes no key out of use, so that the same secrets are
accepted before and after any number of restarts. On other documents a second repair may undo
what the first one decided; `Settled` says on which.

* `hashIndex_restart`, `live_restartRecord`: what acceptance depends on is kept.
* `accepts_load`: a restart accepts what the document accepts.
* `repair_stable_iff`: both facts together.
-/

namespace ModelPort.Control

open Relational Relation WriteThrough

/-- The headers carry a secret that is accepted. -/
def Accepts (sha256Hex : String → String) (inner : ControlInner) (headers : ClientHeaders)
    (now : ℕ) : Prop :=
  ∃ identity, authenticateHeaders sha256Hex headers now inner = .ok (.answer (some identity))

section

variable {sha : String → String} {issued : List (String × String)} {keys : Keys}
  {inner : ControlInner} {headers : ClientHeaders} {now : ℕ}

lemma accepts_iff : Accepts sha inner headers now ↔
      ∃ r, (clientToken headers).bind (keyOfToken sha inner) = some r ∧
        r.Live inner.teams now := by
  rw [Accepts, authenticateHeaders]
  cases (clientToken headers).bind (keyOfToken sha inner) with
  | none => simp
  | some r => simp [admitKey_eq_answer]

/-! ### The index -/

namespace Lineage

section

variable (h : Lineage sha issued keys) {r : ApiKeyRecord}

include h

lemma keyHash_restartRecord
    (hr : r ∈ keys.rows) : (restartRecord sha keys r).keyHash = r.keyHash := by
  rcases h.restartRecord_cases hr with ⟨-, heq⟩ | ⟨-, -, heq⟩
  · rw [heq, keepsLinks_repairSubject.keyHash]
  · rw [heq]
    exact keepsLinks_repairSubject.keyHash r

lemma hashIndex_restart : hashIndex (restartKeys sha keys) = hashIndex keys := by
  -- the index depends on the hashes and the ids only
  have hpairs : ∀ keys : Keys, hashIndex keys
      = ((keys.rows.map fun r => (r.keyHash, r.id)).filter fun p => !p.1.isEmpty).foldl
        (fun index p => index.insert p.1 p.2) ∅ := by
    intro keys
    rw [List.filter_map, List.foldl_map]
    rfl
  rw [hpairs, hpairs, h.rows_restart, List.map_map]
  congr 2
  refine List.map_congr_left fun r hr => ?_
  simp only [Function.comp_apply, h.keyHash_restartRecord hr, restartRecord_id]

lemma find_restart (id : String) :
    (restartKeys sha keys).find id = (keys.find id).map (restartRecord sha keys) := by
  refine Option.ext fun s => ?_
  rw [find_id_eq_some, Option.map_eq_some_iff, h.rows_restart, List.mem_map]
  constructor
  · rintro ⟨⟨r, hr, rfl⟩, hid⟩
    rw [restartRecord_id] at hid
    exact ⟨r, find_id_eq_some.2 ⟨hr, hid⟩, rfl⟩
  · rintro ⟨r, hr, rfl⟩
    obtain ⟨hr, hid⟩ := find_id_eq_some.1 hr
    exact ⟨⟨r, hr, rfl⟩, (restartRecord_id r).trans hid⟩

/-! ### Acceptance -/

lemma live_restartRecord (hr : r ∈ keys.rows) {teams : Teams} :
    (restartRecord sha keys r).Live teams now ↔ r.Live teams now := by
  have hsubj : (repairSubject sha keys.rows r).status = r.status ∧
      (repairSubject sha keys.rows r).expiresAtMs = r.expiresAtMs ∧
      (repairSubject sha keys.rows r).teamId = r.teamId := by
    simp only [repairSubject, reconstructSubject]
    split <;> exact ⟨rfl, rfl, rfl⟩
  obtain ⟨hstat, hexp, hteam⟩ := hsubj
  rcases h.restartRecord_cases hr with ⟨-, heq⟩ | ⟨-, hsuper, heq⟩
  · have hlive : ∀ s : ApiKeyRecord, s.Live teams now ↔
        s.status = .active ∧ s.expired now = false ∧ s.teamActive teams :=
      fun s => ⟨fun hs => ⟨hs.active, hs.unexpired, hs.team⟩, fun hs => ⟨hs.1, hs.2.1, hs.2.2⟩⟩
    simp only [hlive, heq, ApiKeyRecord.expired, ApiKeyRecord.teamActive, hstat, hexp, hteam]
  · refine ⟨fun hlive => ?_, fun hlive => ?_⟩
    · have hact := hlive.active
      rw [heq] at hact
      cases hact
    · exact absurd hlive.active (h.spent r hr (.inl hsuper)).2.1

end

lemma accepts_restarted (h : Lineage sha issued inner.apiKeys)
    (hindex : inner.apiKeyHashIndex = hashIndex inner.apiKeys) :
    Accepts sha (restarted sha inner) headers now ↔
      Accepts sha inner headers now := by
  have hteams : (restarted sha inner).teams = inner.teams := Table.ofRows_rows inner.teams
  have hkey : ∀ token, keyOfToken sha (restarted sha inner) token
      = (keyOfToken sha inner token).map (restartRecord sha inner.apiKeys) := by
    intro token
    have hindex' : (restarted sha inner).apiKeyHashIndex
        = hashIndex (restartKeys sha inner.apiKeys) := rfl
    rw [keyOfToken, hindex', h.hashIndex_restart, keyOfToken, hindex, Option.map_bind]
    exact congrArg _ (funext h.find_restart)
  rw [accepts_iff, accepts_iff, hteams]
  cases clientToken headers with
  | none => simp
  | some token =>
    simp only [Option.bind_some, hkey, Option.map_eq_some_iff]
    constructor
    · rintro ⟨_, ⟨r, hr, rfl⟩, hlive⟩
      exact ⟨r, hr, (h.live_restartRecord (mem_of_keyOfToken hr)).1 hlive⟩
    · rintro ⟨r, hr, hlive⟩
      exact ⟨_, ⟨r, hr, rfl⟩, (h.live_restartRecord (mem_of_keyOfToken hr)).2 hlive⟩

end Lineage

/-! ### Runs -/

variable {allowed : ControlInner → Operation → Prop} {h : History}

lemma toInner_toFile (hindex : inner.apiKeyHashIndex = hashIndex inner.apiKeys) :
    inner.toFile.toInner = inner := by
  have hkeys : Table.ofRows inner.toFile.apiKeys = inner.apiKeys := Table.ofRows_rows _
  have hteams : Table.ofRows inner.toFile.teams = inner.teams := Table.ofRows_rows _
  rw [ControlFile.toInner, hkeys, hteams, ← hindex]

/-- The document of a reachable store is that of a state with lineages in order. -/
lemma Sound.exists_document (hsound : Sound sha allowed emptyInner h) :
    ∃ d, h.store.document = d.toFile ∧ Path sha allowed h.issued emptyInner d ∧
      h.store.document.toInner = d := by
  obtain ⟨d, hd, hpath⟩ := hsound.follows.exists_path
  have hpath' := hsound.path.trans hpath
  exact ⟨d, hd, hpath', by rw [hd, toInner_toFile (Path.index hpath')]⟩

lemma accepts_load (hsound : Sound sha allowed emptyInner h) :
    Accepts sha (load sha h.store).memory headers now ↔
      Accepts sha h.store.document.toInner headers now := by
  obtain ⟨d, hd, hpath, hinner⟩ := hsound.exists_document
  have hmem : (load sha h.store).memory = restarted sha d := by
    simp [load, Cell.restart, hd, restarted]
  rw [hmem, hinner]
  exact (Path.lineage hpath).accepts_restarted (Path.index hpath)

lemma reachable_iterate_load (hreach : Reachable sha allowed h) (n : ℕ) :
    Reachable sha allowed ⟨(load sha)^[n] h.store, h.issued⟩ := by
  induction n with
  | zero => exact hreach
  | succ n ih =>
    rw [Function.iterate_succ_apply']
    exact ih.tail Step.restart

/-- Any number of restarts accepts what the document accepts. -/
lemma accepts_iterate_load (hreach : Reachable sha allowed h) (n : ℕ) :
    Accepts sha ((load sha)^[n + 1] h.store).memory headers now ↔
      Accepts sha h.store.document.toInner headers now := by
  induction n with
  | zero => exact accepts_load hreach.sound
  | succ n ih =>
    rw [Function.iterate_succ_apply', accepts_load (reachable_iterate_load hreach (n + 1)).sound,
      ← ih, Function.iterate_succ_apply']
    rfl

end

/-- **What is stable about the repair at load time.** A second repair changes nothing if and only if
the document is settled. Every document that the store has written is settled, the repair leaves
its active keys active with their hashes, and after any number of restarts the secrets are accepted
that the state of the document accepts, which is the state in memory if no write was lost. -/
theorem repair_stable_iff (sha256Hex : String → String) :
    (∀ records, repairApiKeyRotationInvariants sha256Hex
          (repairApiKeyRotationInvariants sha256Hex records)
        = repairApiKeyRotationInvariants sha256Hex records ↔ Settled records) ∧
      ∀ h, Reachable sha256Hex AnyOperation h → Settled h.store.document.apiKeys ∧
        (∀ r ∈ h.store.document.apiKeys, r.status = .active →
          ∃ s ∈ repairApiKeyRotationInvariants sha256Hex h.store.document.apiKeys,
            s.id = r.id ∧ s.status = .active ∧ s.keyHash = r.keyHash) ∧ (∀ n headers now,
          Accepts sha256Hex ((load sha256Hex)^[n + 1] h.store).memory headers now ↔
            Accepts sha256Hex h.store.document.toInner headers now) ∧
        (h.store.documentRevision = h.store.revision →
          h.store.document.toInner = h.store.memory) := by
  refine ⟨fun records => repair_repair_iff, fun h hreach => ?_⟩
  obtain ⟨d, hd, hpath, hinner⟩ := hreach.sound.exists_document
  have hlin := Path.lineage hpath
  refine ⟨?_, ?_, fun n headers now => accepts_iterate_load hreach n, ?_⟩
  · rw [hd]
    exact hlin.settled
  · intro r hr hact
    rw [hd] at hr ⊢
    obtain ⟨s, hs, hid, rfl⟩ := hlin.edited_restart.forth hr (by simp [hact])
    rw [rows_restartKeys] at hs
    refine ⟨_, hs, hid, ?_, hlin.keyHash_restartRecord hr⟩
    rcases hlin.restartRecord_cases hr with ⟨-, heq⟩ | ⟨-, hsuper, -⟩
    · rw [heq, keepsLinks_repairSubject.status, hact]
    · simp [hlin.superseded_none hr hact] at hsuper
  · intro hsync
    obtain ⟨e, he, ⟨-, rfl⟩ | ⟨hrev, -⟩⟩ := hreach.sound.follows
    · rw [he, toInner_toFile (Path.index hreach.sound.path)]
    · exact absurd hsync hrev

namespace Sample

/-- A record of a document. -/
def record (id : String) (createdAtMs : ℕ) (status : KeyStatus) (rotationFrom : Option String) :
    ApiKeyRecord where
  id := id
  userId := "usr_1"
  username := "usr_1"
  name := "key"
  principalType := .user
  purpose := none
  keyHash := "#" ++ id
  keyPrefix := "sk-mp-1"
  keyPreview := "sk-mp-1...mp-1"
  group := none
  teamId := none
  teamName := none
  allowedModels := []
  allowedProviders := []
  tenant := defaultTenant
  createdAtMs := createdAtMs
  expiresAtMs := none
  status := status
  rotationFromKeyId := rotationFrom
  supersededByKeyId := none
  quotaSubjectId := "qsub_1"
  quotaSubjectAliases := []
  ipRestricted := false
  allowedIps := []
  limits := {}

/-- A source with a confirmed rotation and a later prepared one. -/
def unsettled : List ApiKeyRecord :=
  [record "key_1" 1 .revoked none, record "key_2" 10 .active (some "key_1"),
    record "key_3" 20 .pendingRotation (some "key_1")]

/-- What a test looks at in a record. -/
def outline (r : ApiKeyRecord) : String × KeyStatus × String := (r.id, r.status, r.keyHash)

end Sample

/-- The first repair turns the prepared rotation into a revoked key. The second one takes that
for the latest confirmed rotation, and retires the active key for it. -/
theorem second_repair_retires_active_key :
    repairApiKeyRotationInvariants Sample.mark
          (repairApiKeyRotationInvariants Sample.mark Sample.unsettled)
        ≠ repairApiKeyRotationInvariants Sample.mark Sample.unsettled ∧
      (repairApiKeyRotationInvariants Sample.mark Sample.unsettled).map Sample.outline
        = [("key_1", .revoked, ""), ("key_2", .active, "#key_2"), ("key_3", .revoked, "")] ∧
      (repairApiKeyRotationInvariants Sample.mark
          (repairApiKeyRotationInvariants Sample.mark Sample.unsettled)).map Sample.outline
        = [("key_1", .revoked, ""), ("key_2", .revoked, ""), ("key_3", .revoked, "")] := by
  decide +kernel

end ModelPort.Control
