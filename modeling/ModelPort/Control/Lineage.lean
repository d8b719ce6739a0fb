import ModelPort.Control.Changes

/-!
# Rotation lineages

A confirmed rotation retires its source for good: the source names its replacement, its hash is
cleared, and no operation makes it active again. `Lineage` states this for all records at once,
together with the provenance of every hash.

* `Lineage.edited`: an edit that respects links, statuses and hashes keeps lineages.
-/

namespace ModelPort.Control

open Relational List

variable {replacement current : ApiKeyRecord} {keys keys' : Keys} {sha : String → String}
  {issued : List (String × String)}

variable {r s : ApiKeyRecord}

/-! ### The invariant -/

/-- `s` is the record that `r` was rotated from. It names `r` as its replacement once `r` is
confirmed. -/
structure IsSourceOf (s r : ApiKeyRecord) : Prop where
  userId : s.userId = r.userId
  principalType : s.principalType = r.principalType
  notPending : s.status ≠ .pendingRotation
  superseded : s.supersededByKeyId = if r.status = .pendingRotation then none else some r.id

/-- The record is deleted or superseded. -/
def ApiKeyRecord.Spent (r : ApiKeyRecord) : Prop :=
  r.supersededByKeyId.isSome ∨ r.status = .deleted

/-- **Lineages are in order**, for keys whose ids and secrets were issued in pairs. -/
structure Lineage (sha256Hex : String → String) (issued : List (String × String)) (keys : Keys) :
    Prop where
  /-- a record has the hash of its secret, or none once it is spent -/
  secret : ∀ r ∈ keys.rows, ∃ secret, (r.id, secret) ∈ issued ∧
    (r.keyHash = hashSecret sha256Hex secret ∨ r.keyHash = "" ∧ r.Spent)
  spent : ∀ r ∈ keys.rows, r.Spent →
    r.keyHash = "" ∧ r.status ≠ .active ∧ r.status ≠ .pendingRotation
  rotated : ∀ r ∈ keys.rows, ∀ source, r.rotationFromKeyId = some source →
    ∃ s ∈ keys.rows, s.id = source ∧ IsSourceOf s r
  successor : ∀ r ∈ keys.rows, r.supersededByKeyId.isSome → HasRotation Confirmed keys.rows r.id
  pending : ∀ r ∈ keys.rows, r.status = .pendingRotation → r.rotationFromKeyId.isSome
  onePending : ∀ r ∈ keys.rows, ∀ s ∈ keys.rows, r.status = .pendingRotation →
    s.status = .pendingRotation → r.rotationFromKeyId = s.rotationFromKeyId → r = s

/-- An edit of a record that respects its lineage. -/
structure LineageEdit (r s : ApiKeyRecord) : Prop where
  userId : s.userId = r.userId
  principalType : s.principalType = r.principalType
  rotated : s.rotationFromKeyId = r.rotationFromKeyId
  superseded : s.supersededByKeyId = r.supersededByKeyId
  pending : s.status = .pendingRotation ↔ r.status = .pendingRotation
  /-- a superseded record does not become active -/
  retired : r.supersededByKeyId.isSome → s.status = .active → r.status = .active
  /-- a deleted record stays spent -/
  undeleted : r.status = .deleted → s.Spent
  /-- a hash is kept, or cleared by a deletion -/
  hash : s.keyHash = r.keyHash ∧ (s.status = .deleted → r.status = .deleted) ∨
    s.keyHash = "" ∧ s.status = .deleted

/-- An edit that leaves status and hash alone. -/
lemma LineageEdit.of_same (huser : s.userId = r.userId)
    (hprinc : s.principalType = r.principalType)
    (hrotated : s.rotationFromKeyId = r.rotationFromKeyId)
    (hsuperseded : s.supersededByKeyId = r.supersededByKeyId) (hstat : s.status = r.status)
    (hhash : s.keyHash = r.keyHash) : LineageEdit r s where
  userId := huser
  principalType := hprinc
  rotated := hrotated
  superseded := hsuperseded
  pending := by rw [hstat]
  retired _ h := hstat ▸ h
  undeleted h := .inr (hstat.trans h)
  hash := .inl ⟨hhash, fun h => hstat ▸ h⟩

lemma LineageEdit.confirmed (h : LineageEdit r s) (hr : Confirmed r) : Confirmed s := by
  simp only [Confirmed, ApiKeyRecord.confirmed, decide_eq_true_eq] at hr ⊢
  exact fun hs => hr (h.pending.1 hs)

lemma LineageEdit.refl (r : ApiKeyRecord) : LineageEdit r r :=
  .of_same rfl rfl rfl rfl rfl rfl

/-- The revocation of a record that is not prepared, and deleted only if it is superseded. -/
lemma LineageEdit.revoke (hpend : r.status ≠ .pendingRotation)
    (hdel : r.status = .deleted → r.supersededByKeyId.isSome) :
    LineageEdit r { r with status := .revoked } where
  userId := rfl
  principalType := rfl
  rotated := rfl
  superseded := rfl
  pending := by simp [hpend]
  retired _ h := by cases h
  undeleted h := .inl (hdel h)
  hash := .inl ⟨rfl, nofun⟩

namespace Lineage

variable (h : Lineage sha issued keys)

include h

lemma mono {issued' : List (String × String)}
    (hiss : ∀ d ∈ issued, d ∈ issued') : Lineage sha issued' keys :=
  { h with
    secret := fun r hr => by
      obtain ⟨secret, hmem, hhash⟩ := h.secret r hr
      exact ⟨secret, hiss _ hmem, hhash⟩ }

section

variable (hr : r ∈ keys.rows)

include hr

lemma issued_id : r.id ∈ issued.map Prod.fst := by
  obtain ⟨secret, hiss, -⟩ := h.secret r hr
  exact mem_map.2 ⟨_, hiss, rfl⟩

lemma active_notSpent (hact : r.status = .active) : ¬ r.Spent :=
  fun hspent => (h.spent r hr hspent).2.1 hact

lemma superseded_none (hact : r.status = .active) : r.supersededByKeyId = none := by
  have hspent := h.active_notSpent hr hact
  rw [ApiKeyRecord.Spent, not_or, Option.not_isSome_iff_eq_none] at hspent
  exact hspent.1

lemma source_of (hs : s ∈ keys.rows) (hrotated : r.rotationFromKeyId = some s.id) :
    IsSourceOf s r := by
  obtain ⟨s', hs', hid, hsrc⟩ := h.rotated r hr s.id hrotated
  obtain rfl := eq_of_id hs' hs hid
  exact hsrc

end

lemma edited (he : Edited keys keys' LineageEdit) : Lineage sha issued keys' where
  secret s hs := by
    obtain ⟨r, hr, hid, hE⟩ := he.back s hs
    obtain ⟨secret, hiss, hhash⟩ := h.secret r hr
    refine ⟨secret, hid ▸ hiss, ?_⟩
    rcases hE.hash with ⟨hsame, -⟩ | ⟨hempty, hdel⟩
    · rw [hsame]
      refine hhash.imp id (.imp_right fun hspent => ?_)
      rcases hspent with hspent | hspent
      · exact .inl (hE.superseded ▸ hspent)
      · exact hE.undeleted hspent
    · exact .inr ⟨hempty, .inr hdel⟩
  spent s hs hspent := by
    obtain ⟨r, hr, -, hE⟩ := he.back s hs
    rcases hspent with hspent | hspent
    · have hr' : r.supersededByKeyId.isSome := hE.superseded ▸ hspent
      obtain ⟨hempty, hact, hpend⟩ := h.spent r hr (.inl hr')
      refine ⟨?_, fun hs' => hact (hE.retired hr' hs'), fun hs' => hpend (hE.pending.1 hs')⟩
      exact hE.hash.elim (fun hsame => hsame.1.trans hempty) And.left
    · refine ⟨?_, by simp [hspent], by simp [hspent]⟩
      rcases hE.hash with ⟨hsame, hdel⟩ | ⟨hempty, -⟩
      · exact hsame.trans (h.spent r hr (.inr (hdel hspent))).1
      · exact hempty
  rotated s hs source hsrc := by
    obtain ⟨r, hr, hid, hE⟩ := he.back s hs
    obtain ⟨a, ha, rfl, hIs⟩ := h.rotated r hr source (hE.rotated ▸ hsrc)
    obtain ⟨b, hb, hid', hE'⟩ := he.forth ha hIs.notPending
    refine ⟨b, hb, hid', ?_, ?_, fun hb' => hIs.notPending (hE'.pending.1 hb'), ?_⟩
    · rw [hE'.userId, hE.userId, hIs.userId]
    · rw [hE'.principalType, hE.principalType, hIs.principalType]
    · rw [hE'.superseded, hIs.superseded, hid]
      simp only [hE.pending]
  successor s hs hsuper := by
    obtain ⟨r, hr, hid, hE⟩ := he.back s hs
    obtain ⟨c, hc, hconf, hrotated⟩ := h.successor r hr (hE.superseded ▸ hsuper)
    obtain ⟨d, hd, -, hE'⟩ := he.forth hc (of_decide_eq_true hconf)
    exact ⟨d, hd, hE'.confirmed hconf, by rw [hE'.rotated, hrotated, hid]⟩
  pending s hs hpend := by
    obtain ⟨r, hr, -, hE⟩ := he.back s hs
    rw [hE.rotated]
    exact h.pending r hr (hE.pending.1 hpend)
  onePending s hs t ht hspend htpend hsame := by
    obtain ⟨r, hr, hid, hE⟩ := he.back s hs
    obtain ⟨r', hr', hid', hE'⟩ := he.back t ht
    have heq : r = r' := h.onePending r hr r' hr' (hE.pending.1 hspend)
      (hE'.pending.1 htpend) (by rw [← hE.rotated, ← hE'.rotated, hsame])
    exact eq_of_id hs ht (by rw [hid, hid', heq])

/-! ### New records -/

/-- A record with a fresh id: a key of its own, or the only prepared rotation of an active key. -/
lemma add {secret : String}
    (hiss : (r.id, secret) ∈ issued) (hhash : r.keyHash = hashSecret sha secret)
    (hfresh : ∀ s ∈ keys.rows, s.id ≠ r.id) (hspent : ¬ r.Spent)
    (hnew : r.rotationFromKeyId = none ∧ r.status ≠ .pendingRotation ∨ r.status = .pendingRotation ∧
        ∃ s ∈ keys.rows, r.rotationFromKeyId = some s.id ∧ IsSourceOf s r ∧
          ∀ t ∈ keys.rows, t.status = .pendingRotation → t.rotationFromKeyId ≠ some s.id) :
    Lineage sha issued (keys.put r) where
  secret s hs := by
    rcases mem_put_iff.1 hs with rfl | ⟨hs, -⟩
    · exact ⟨secret, hiss, .inl hhash⟩
    · exact h.secret s hs
  spent s hs hs' := by
    rcases mem_put_iff.1 hs with rfl | ⟨hs, -⟩
    · exact absurd hs' hspent
    · exact h.spent s hs hs'
  rotated s hs source hsrc := by
    have hold : ∀ a ∈ keys.rows, a ∈ (keys.put r).rows := fun a ha =>
      mem_put_iff.2 (.inr ⟨ha, hfresh a ha⟩)
    rcases mem_put_iff.1 hs with rfl | ⟨hs, -⟩
    · rcases hnew with ⟨hnone, -⟩ | ⟨-, a, ha, hrotated, hIs, -⟩
      · simp [hnone] at hsrc
      · exact ⟨a, hold a ha, Option.some.inj (hrotated.symm.trans hsrc), hIs⟩
    · obtain ⟨a, ha, hid, hIs⟩ := h.rotated s hs source hsrc
      exact ⟨a, hold a ha, hid, hIs⟩
  successor s hs hsuper := by
    rcases mem_put_iff.1 hs with rfl | ⟨hs, -⟩
    · exact absurd (.inl hsuper) hspent
    · obtain ⟨c, hc, hconf, hrotated⟩ := h.successor s hs hsuper
      exact ⟨c, mem_put_iff.2 (.inr ⟨hc, hfresh c hc⟩), hconf, hrotated⟩
  pending s hs hpend := by
    rcases mem_put_iff.1 hs with rfl | ⟨hs, -⟩
    · rcases hnew with ⟨-, hne⟩ | ⟨-, a, -, hrotated, -⟩
      · exact absurd hpend hne
      · simp [hrotated]
    · exact h.pending s hs hpend
  onePending s hs t ht hspend htpend hsame := by
    -- a new prepared rotation has no other beside it
    have hlone : ∀ a ∈ keys.rows, a.status = .pendingRotation → r.status = .pendingRotation →
        a.rotationFromKeyId ≠ r.rotationFromKeyId := by
      intro a ha hapending hrpending
      rcases hnew with ⟨-, hne⟩ | ⟨-, b, -, hrotated, -, hother⟩
      · exact absurd hrpending hne
      · rw [hrotated]
        exact hother a ha hapending
    rcases mem_put_iff.1 hs with hs' | ⟨hs', -⟩ <;> rcases mem_put_iff.1 ht with ht' | ⟨ht', -⟩
    · rw [hs', ht']
    · subst hs'
      exact absurd hsame.symm (hlone t ht' htpend hspend)
    · subst ht'
      exact absurd hsame (hlone s hs' hspend htpend)
    · exact h.onePending s hs' t ht' hspend htpend hsame

end Lineage

/-! ### Rotation -/

lemma mem_handover (hcurr : current ∈ keys.rows) (hne : current.id ≠ replacement.id) :
    s ∈ (handover keys current.id replacement).rows ↔
      s = replacement ∨ s = current.retire replacement.id ∨
        s ∈ keys.rows ∧ s.id ≠ current.id ∧ s.id ≠ replacement.id := by
  rw [handover, mem_put_iff, mem_modify]
  constructor
  · rintro (rfl | ⟨⟨r, hr, hid, rfl⟩ | ⟨hs, hid⟩, hid'⟩)
    · exact .inl rfl
    · obtain rfl := eq_of_id hr hcurr hid
      exact .inr (.inl rfl)
    · exact .inr (.inr ⟨hs, hid, hid'⟩)
  · rintro (rfl | rfl | ⟨hs, hid, hid'⟩)
    · exact .inl rfl
    · exact .inr ⟨.inl ⟨current, hcurr, rfl, rfl⟩, hne⟩
    · exact .inr ⟨.inr ⟨hs, hid⟩, hid'⟩

lemma edited_handover (new : ApiKeyRecord)
    (hcurr : current ∈ keys.rows) (hrepl : replacement ∈ keys.rows)
    (hid : new.id = replacement.id) (hne : current.id ≠ replacement.id) :
    Edited keys (handover keys current.id new) fun r s =>
      s = r ∨ r = replacement ∧ s = new ∨ r = current ∧ s = current.retire replacement.id := by
  have hne' : current.id ≠ new.id := hid ▸ hne
  constructor
  · intro s hs
    rcases (mem_handover hcurr hne').1 hs with rfl | rfl | ⟨hs, -, -⟩
    · exact ⟨replacement, hrepl, hid, .inr (.inl ⟨rfl, rfl⟩)⟩
    · exact ⟨current, hcurr, rfl, .inr (.inr ⟨rfl, by rw [hid]⟩)⟩
    · exact ⟨s, hs, rfl, .inl rfl⟩
  · intro s hs _
    by_cases h1 : s.id = current.id
    · exact ⟨_, (mem_handover hcurr hne').2 (.inr (.inl rfl)), h1.symm⟩
    · by_cases h2 : s.id = replacement.id
      · exact ⟨_, (mem_handover hcurr hne').2 (.inl rfl), hid.trans h2.symm⟩
      · exact ⟨s, (mem_handover hcurr hne').2 (.inr (.inr ⟨hs, h1, by rwa [hid]⟩)), rfl⟩

namespace Lineage

variable (h : Lineage sha issued keys) (hcurr : current ∈ keys.rows)
  (hrepl : replacement ∈ keys.rows)

include h hcurr hrepl

lemma source_ne (hrotated : replacement.rotationFromKeyId = some current.id)
    (hstat : replacement.status = .active ∨ replacement.status = .pendingRotation) :
    current.id ≠ replacement.id := by
  intro hid
  obtain rfl := eq_of_id hcurr hrepl hid
  have hIs := h.source_of hrepl hrepl hrotated
  rcases hstat with hact | hpend
  · have hnone := h.superseded_none hrepl hact
    simp [hIs.superseded, hact] at hnone
  · exact hIs.notPending hpend

lemma mem_confirmed (hpend : replacement.status = .pendingRotation)
    (hrotated : replacement.rotationFromKeyId = some current.id) {s : ApiKeyRecord} :
    s ∈ (handover keys current.id (takeOver sha current replacement)).rows ↔
      s = takeOver sha current replacement ∨ s = current.retire replacement.id ∨
        s ∈ keys.rows ∧ s.id ≠ current.id ∧ s.id ≠ replacement.id := by
  have hne := h.source_ne hcurr hrepl hrotated (.inr hpend)
  exact mem_handover hcurr hne

lemma confirm (hact : current.status = .active)
    (hpend : replacement.status = .pendingRotation)
    (hrotated : replacement.rotationFromKeyId = some current.id) : Lineage sha issued
      (handover keys current.id (takeOver sha current replacement)) := by
  have hmem {s} := h.mem_confirmed (s := s) hcurr hrepl hpend hrotated
  have hnone := h.superseded_none hcurr hact
  -- the only prepared rotation of the source is the one that is confirmed
  have hother : ∀ s ∈ keys.rows, s.rotationFromKeyId = some current.id → s = replacement := by
    intro s hs hs'
    have hIs := h.source_of hs hcurr hs'
    by_cases hp : s.status = .pendingRotation
    · exact h.onePending s hs replacement hrepl hp hpend (hs'.trans hrotated.symm)
    · simp [hIs.superseded, hp] at hnone
  have hold : ∀ s ∈ keys.rows, s.id ≠ current.id → s.id ≠ replacement.id →
      s ∈ (handover keys current.id (takeOver sha current replacement)).rows :=
    fun s hs h1 h2 => hmem.2 (.inr (.inr ⟨hs, h1, h2⟩))
  constructor
  · intro s hs
    rcases hmem.1 hs with rfl | rfl | ⟨hs, -, -⟩
    · obtain ⟨secret, hiss, hhash | ⟨-, hspent⟩⟩ := h.secret replacement hrepl
      · exact ⟨secret, hiss, .inl hhash⟩
      · exact absurd hpend (h.spent replacement hrepl hspent).2.2
    · obtain ⟨secret, hiss, -⟩ := h.secret current hcurr
      exact ⟨secret, hiss, .inr ⟨rfl, .inl rfl⟩⟩
    · exact h.secret s hs
  · intro s hs hspent
    rcases hmem.1 hs with rfl | rfl | ⟨hs, -, -⟩
    · simp [ApiKeyRecord.Spent, takeOver] at hspent
    · exact ⟨rfl, by simp [ApiKeyRecord.retire], by simp [ApiKeyRecord.retire]⟩
    · exact h.spent s hs hspent
  · intro s hs source hsrc
    rcases hmem.1 hs with rfl | rfl | ⟨hs, hne1, hne2⟩
    · refine ⟨current.retire replacement.id, hmem.2 (.inr (.inl rfl)),
        Option.some.inj hsrc, rfl, rfl, by simp [ApiKeyRecord.retire], rfl⟩
    · obtain ⟨a, ha, rfl, haIs⟩ := h.rotated current hcurr source hsrc
      have hsuper : a.supersededByKeyId = some current.id := by
        simpa [hact] using haIs.superseded
      refine ⟨a, hold a ha ?_ ?_, rfl, haIs.userId, haIs.principalType, haIs.notPending, hsuper⟩
      · intro hid
        rw [eq_of_id ha hcurr hid, hnone] at hsuper
        cases hsuper
      · intro hid
        exact haIs.notPending (eq_of_id ha hrepl hid ▸ hpend)
    · obtain ⟨a, ha, rfl, haIs⟩ := h.rotated s hs source hsrc
      refine ⟨a, hold a ha ?_ ?_, rfl, haIs⟩
      · intro hid
        rw [hother s hs (hid ▸ hsrc)] at hne2
        exact hne2 rfl
      · intro hid
        exact haIs.notPending (eq_of_id ha hrepl hid ▸ hpend)
  · intro s hs hsuper
    have hnew := hmem.2 (.inl rfl)
    rcases hmem.1 hs with rfl | rfl | ⟨hs, -, -⟩
    · cases hsuper
    · exact ⟨_, hnew, rfl, rfl⟩
    · obtain ⟨c, hc, hconf, hrot'⟩ := h.successor s hs hsuper
      by_cases hid : c.id = current.id
      · obtain rfl := eq_of_id hc hcurr hid
        exact ⟨_, hmem.2 (.inr (.inl rfl)), rfl, hrot'⟩
      · refine ⟨c, hold c hc hid fun hid' => ?_, hconf, hrot'⟩
        exact of_decide_eq_true hconf (eq_of_id hc hrepl hid' ▸ hpend)
  · intro s hs hs'
    rcases hmem.1 hs with rfl | rfl | ⟨hs, -, -⟩
    · rfl
    · cases hs'
    · exact h.pending s hs hs'
  · intro s hs t ht hs' ht' hsame
    rcases hmem.1 hs with rfl | rfl | ⟨hs, -, -⟩
    · cases hs'
    · cases hs'
    · rcases hmem.1 ht with rfl | rfl | ⟨ht, -, -⟩
      · cases ht'
      · cases ht'
      · exact h.onePending s hs t ht hs' ht' hsame

/-- A repeated confirmation changes the subject of the replacement, and the status of a source
that was deleted. -/
lemma edited_repeatConfirm (hact : replacement.status = .active)
    (hrotated : replacement.rotationFromKeyId = some current.id) :
    Edited keys (handover keys current.id (refresh sha current replacement)) fun r s =>
      s = r ∨ r = replacement ∧ s = refresh sha current replacement ∨
        r = current ∧ r.supersededByKeyId.isSome ∧ s = { r with status := .revoked } := by
  have hne := h.source_ne hcurr hrepl hrotated (.inl hact)
  have hsuper : current.supersededByKeyId = some replacement.id := by
    simpa [hact] using (h.source_of hrepl hcurr hrotated).superseded
  have hspent : current.Spent := .inl (by simp [hsuper])
  have hretire : current.retire replacement.id = { current with status := .revoked } := by
    rw [ApiKeyRecord.retire]
    congr 1
    · exact (h.spent current hcurr hspent).1.symm
    · exact hsuper.symm
  refine (edited_handover (refresh sha current replacement) hcurr hrepl rfl hne).mono ?_
  rintro r - s - (rfl | ⟨rfl, rfl⟩ | ⟨rfl, rfl⟩)
  · exact .inl rfl
  · exact .inr (.inl ⟨rfl, rfl⟩)
  · exact .inr (.inr ⟨rfl, by simp [hsuper], hretire⟩)

end Lineage

/-! ### Every operation -/

section

variable {inner : ControlInner}


lemma Updated.lineageEdit {input : UpdateApiKeyInput} {now : ℕ} {record updated : ApiKeyRecord}
    (h : Updated input now record updated) (hmut : record.Mutable) :
    LineageEdit record updated where
  userId := by rw [h.same]
  principalType := by rw [h.same]
  rotated := by rw [h.same]
  superseded := by rw [h.same]
  pending := h.pending hmut
  retired hsome := by simp [hmut.notSuperseded] at hsome
  undeleted hdel := absurd hdel hmut.notDeleted
  hash := by
    refine .inl ⟨by rw [h.same], fun hdel => ?_⟩
    rcases h.status_cases with hs | hs | hs
    · exact hs ▸ hdel
    · simp [hs] at hdel
    · simp [hs] at hdel

/-- What a change does to lineages: it edits records, adds one, or confirms a rotation. -/
inductive LineageStep (sha256Hex : String → String) (issued : List (String × String))
    (keys : Keys) : Keys → Prop
  | edit {keys' : Keys} (he : Edited keys keys' LineageEdit) :
      LineageStep sha256Hex issued keys keys'
  | add {keys' : Keys} {r : ApiKeyRecord} {secret : String}
      (he : Edited keys keys' LineageEdit) (hiss : (r.id, secret) ∈ issued)
      (hhash : r.keyHash = hashSecret sha256Hex secret)
      (hfresh : ∀ s ∈ keys'.rows, s.id ≠ r.id) (hspent : ¬ r.Spent)
      (hnew : r.rotationFromKeyId = none ∧ r.status ≠ .pendingRotation ∨
        r.status = .pendingRotation ∧
          ∃ s ∈ keys'.rows, r.rotationFromKeyId = some s.id ∧ IsSourceOf s r ∧
            ∀ t ∈ keys'.rows, t.status = .pendingRotation → t.rotationFromKeyId ≠ some s.id) :
      LineageStep sha256Hex issued keys (keys'.put r)
  | confirm {current replacement : ApiKeyRecord} (hcurr : current ∈ keys.rows)
      (hrepl : replacement ∈ keys.rows) (hact : current.status = .active)
      (hpend : replacement.status = .pendingRotation)
      (hrotated : replacement.rotationFromKeyId = some current.id) :
      LineageStep sha256Hex issued keys
        (handover keys current.id (takeOver sha256Hex current replacement))

namespace LineageStep

lemma lineage (hstep : LineageStep sha issued keys keys')
    (h : Lineage sha issued keys) : Lineage sha issued keys' := by
  cases hstep with
  | edit he => exact h.edited he
  | add he hiss hhash hfresh hspent hnew =>
    exact (h.edited he).add hiss hhash hfresh hspent hnew
  | confirm hcurr hrepl hact hpend hrotated =>
    exact h.confirm hcurr hrepl hact hpend hrotated

lemma spent (hstep : LineageStep sha issued keys keys')
    (h : Lineage sha issued keys) (hr : r ∈ keys.rows) (hspent : r.Spent) :
    ∃ s ∈ keys'.rows, s.id = r.id ∧ s.Spent ∧ s.supersededByKeyId = r.supersededByKeyId := by
  obtain ⟨-, hact, hpend⟩ := h.spent r hr hspent
  have hedit : ∀ {keys'' : Keys}, Edited keys keys'' LineageEdit →
      ∃ s ∈ keys''.rows, s.id = r.id ∧ s.Spent ∧ s.supersededByKeyId = r.supersededByKeyId := by
    intro keys'' he
    obtain ⟨s, hs, hid, hE⟩ := he.forth hr hpend
    refine ⟨s, hs, hid, ?_, hE.superseded⟩
    rcases hspent with hsuper | hdel
    · exact .inl (hE.superseded ▸ hsuper)
    · exact hE.undeleted hdel
  cases hstep with
  | edit he => exact hedit he
  | add he _ _ hfresh _ _ =>
    obtain ⟨s, hs, hid, hs'⟩ := hedit he
    exact ⟨s, mem_put_iff.2 (.inr ⟨hs, hfresh s hs⟩), hid, hs'⟩
  | @confirm current replacement hcurr hrepl hcurrentActive hreplacementPending hrotated =>
    refine ⟨r, (h.mem_confirmed hcurr hrepl hreplacementPending hrotated).2
      (.inr (.inr ⟨hr, fun hid => ?_, fun hid => ?_⟩)), rfl, hspent, rfl⟩
    · exact hact (eq_of_id hr hcurr hid ▸ hcurrentActive)
    · exact hpend (eq_of_id hr hrepl hid ▸ hreplacementPending)

end LineageStep

/-- **What every operation does to lineages.** -/
lemma KeyChange.lineageStep {op : Operation} (hchg : KeyChange sha inner op keys')
    (hdraw : ∀ d ∈ op.draw, d ∈ issued ∧ ∀ r ∈ inner.apiKeys.rows, r.id ≠ d.1)
    (h : Lineage sha issued inner.apiKeys) :
    LineageStep sha issued inner.apiKeys keys' := by
  have hplain := hchg.plain
  cases hchg with
  | create hnew =>
    obtain ⟨hiss, hfresh⟩ := hdraw _ rfl
    rw [← hnew.id] at hiss hfresh
    refine .add (.refl .refl) hiss hnew.keyHash hfresh ?_ (.inl ⟨hnew.rotationFromKeyId, ?_⟩)
    · simp [ApiKeyRecord.Spent, hnew.supersededByKeyId, hnew.status]
    · simp [hnew.status]
  | @enroll input maxActive now uuid key record hnew hlimit =>
    obtain ⟨hiss, hfresh⟩ := hdraw _ rfl
    rw [← hnew.id] at hiss hfresh
    have hjoin : Edited inner.apiKeys
        (inner.apiKeys.update (isUserKeyOf record.userId)
          (joinOwner sha inner.apiKeys record) fun _ => rfl) LineageEdit := by
      refine (edited_joinOwner sha record).mono ?_
      rintro r - s - rfl
      split
      · exact .of_same rfl rfl rfl rfl rfl rfl
      · exact .refl r
    refine .add (r := joinOwner sha inner.apiKeys record record) hjoin hiss hnew.keyHash
      ?_ ?_ (.inl ⟨hnew.rotationFromKeyId, ?_⟩)
    · intro s hs
      obtain ⟨r, hr, hid, -⟩ := (edited_joinOwner sha record).back s hs
      rw [hid]
      exact hfresh r hr
    · simp [ApiKeyRecord.Spent, joinOwner, hnew.supersededByKeyId, hnew.status]
    · simp [joinOwner, hnew.status]
  | @rotate now uuid key current hmem hact hunexp =>
    obtain ⟨hiss, hfresh⟩ := hdraw _ rfl
    have hpurged : Edited inner.apiKeys (purge inner.apiKeys current.id) LineageEdit :=
      (edited_purge current.id).mono fun r _ s _ hs => hs ▸ .refl r
    refine .add (r := prepareReplacement sha current ("key_" ++ uuid) key now)
      hpurged hiss rfl ?_ ?_ (.inr ⟨rfl, current, mem_purge_self hmem hact, rfl, ?_, ?_⟩)
    · intro s hs
      exact hfresh s (mem_of_mem_filter hs)
    · simp [ApiKeyRecord.Spent, prepareReplacement]
    · exact ⟨rfl, rfl, by simp [hact], h.superseded_none hmem hact⟩
    · intro t ht htpend htrotated
      have hkeep := (mem_filter.1 ht).2
      simp [ApiKeyRecord.isPendingOf, htpend, htrotated] at hkeep
  | repeatConfirm hcurr hrepl hact hrotated =>
    have hsrc := h.source_of hrepl hcurr hrotated
    refine .edit ((h.edited_repeatConfirm hcurr hrepl hact hrotated).mono ?_)
    rintro r - s - (rfl | ⟨rfl, rfl⟩ | ⟨rfl, hsuper, rfl⟩)
    · exact .refl _
    · exact .of_same rfl rfl rfl rfl rfl rfl
    · exact .revoke hsrc.notPending fun _ => hsuper
  | confirm hcurr hrepl hact hunexp hpend hrotated =>
    exact .confirm hcurr hrepl hact hpend hrotated
  | update hmem hmut hupd =>
    refine .edit ((edited_updateKeys hmem hmut hupd).mono ?_)
    rintro r - s - (⟨rfl, rfl⟩ | ⟨-, rfl⟩)
    · exact hupd.lineageEdit hmut
    · exact .of_same rfl rfl rfl rfl rfl rfl
  | _ =>
    refine .edit ((hplain rfl).mono ?_)
    rintro r - s - hE
    cases hE with
    | refl => exact .refl _
    | revoke hpend hdel => exact .revoke hpend fun h => absurd h hdel
    | delete hpend =>
      exact ⟨rfl, rfl, rfl, rfl, by simp [hpend], fun _ hs => (by cases hs),
        fun _ => .inr rfl, .inr ⟨rfl, rfl⟩⟩
    | bind | rename => exact .of_same rfl rfl rfl rfl rfl rfl

end

/-! ### Restart -/

/-- The keys a document is loaded as. -/
def restartKeys (sha256Hex : String → String) (keys : Keys) : Keys :=
  Table.ofRows (repairApiKeyRotationInvariants sha256Hex keys.rows)

section

lemma rows_restartKeys :
    (restartKeys sha keys).rows = repairApiKeyRotationInvariants sha keys.rows := by
  refine Table.rows_ofRows (List.Pairwise.filter _ ?_)
  refine Table.apart_map (fun r => ?_) (Table.apart_map (fun r => ?_) keys.apart)
  · rw [repairLink_id]
  · rw [keepsLinks_repairSubject.id]

/-- A record has a replacement only if it was rotated and is superseded by it. -/
lemma Lineage.superseded_of_replaces (h : Lineage sha issued keys) {w : String}
    (hr : r ∈ keys.rows) (hw : Replaces Confirmed keys.rows r w) :
    r.supersededByKeyId = some w ∧ HasRotation Confirmed keys.rows r.id := by
  have hchild : ∀ c ∈ keys.rows, Confirmed c → ∀ s ∈ keys.rows, c.rotationFromKeyId = some s.id →
      s.supersededByKeyId = some c.id := by
    intro c hc hconf s hs hrotated
    have hIs := h.source_of hc hs hrotated
    simp only [Confirmed, ApiKeyRecord.confirmed, decide_eq_true_eq] at hconf
    simpa [hconf] using hIs.superseded
  rcases hw with ⟨c, hc, rfl⟩ | ⟨-, hne, source, c, hsrc, hc, rfl⟩
  · exact ⟨hchild c hc.mem hc.counted r hr hc.rotated, c, hc.mem, hc.counted, hc.rotated⟩
  · -- a sibling of the winner would make its source name two replacements
    obtain ⟨s, hs, rfl, hIs⟩ := h.rotated r hr source hsrc
    have hsuper := hchild c hc.mem hc.counted s hs hc.rotated
    rw [hIs.superseded] at hsuper
    split at hsuper
    · cases hsuper
    · exact absurd (Option.some.inj hsuper).symm hne

lemma Lineage.not_hasRotation_of_pending (h : Lineage sha issued keys)
    {source : String} (hr : r ∈ keys.rows) (hpend : r.status = .pendingRotation)
    (hsrc : r.rotationFromKeyId = some source) : ¬ HasRotation Confirmed keys.rows source := by
  rintro ⟨c, hc, hconf, hrotated⟩
  obtain ⟨s, hs, rfl, hIs⟩ := h.rotated r hr source hsrc
  have hsuper := (h.source_of hc hs hrotated).superseded
  rw [hIs.superseded, if_pos hpend, if_neg (of_decide_eq_true hconf)] at hsuper
  cases hsuper

/-- What a restart makes of a record. -/
def restartRecord (sha256Hex : String → String) (keys : Keys) (r : ApiKeyRecord) : ApiKeyRecord :=
  repairLink (keys.rows.map (repairSubject sha256Hex keys.rows))
    (repairSubject sha256Hex keys.rows r)

@[simp] lemma restartRecord_id (r : ApiKeyRecord) : (restartRecord sha keys r).id = r.id := by
  rw [restartRecord, repairLink_id, keepsLinks_repairSubject.id]

lemma confirmed_repairSubject (r : ApiKeyRecord) :
    Confirmed (repairSubject sha keys.rows r) ↔ Confirmed r := by
  simp [ApiKeyRecord.confirmed, keepsLinks_repairSubject.status]

namespace Lineage

variable (h : Lineage sha issued keys)

include h

/-- A restart completes the subject of a record, and it marks a record that was rotated as
revoked, which it is already unless it was deleted. -/
lemma restartRecord_cases (hr : r ∈ keys.rows) : ¬ HasRotation Confirmed keys.rows r.id ∧
        restartRecord sha keys r = repairSubject sha keys.rows r ∨
      HasRotation Confirmed keys.rows r.id ∧ r.supersededByKeyId.isSome ∧
        restartRecord sha keys r
          = { repairSubject sha keys.rows r with status := .revoked } := by
  by_cases hret : Retires keys.rows r
  · obtain ⟨w, hw⟩ := hret
    obtain ⟨hsuper, hrotation⟩ := h.superseded_of_replaces hr hw
    have hspent : r.Spent := .inl (by simp [hsuper])
    have hw' : Replaces Confirmed (keys.rows.map (repairSubject sha keys.rows))
        (repairSubject sha keys.rows r) w :=
      (replaces_map keepsLinks_repairSubject confirmed_repairSubject).2 hw
    refine .inr ⟨hrotation, by simp [hsuper], ?_⟩
    rw [restartRecord, repairLink_of_replaces hw', ApiKeyRecord.retire]
    congr 1
    · rw [keepsLinks_repairSubject.keyHash, (h.spent r hr hspent).1]
    · rw [keepsLinks_repairSubject.supersededByKeyId, hsuper]
  · refine .inl ⟨fun hrotation => hret (retires_of_hasRotation hrotation), ?_⟩
    refine repairLink_of_not_retires fun hr => hret (Exists.imp (fun w hw => ?_) hr)
    exact (replaces_map keepsLinks_repairSubject confirmed_repairSubject).1 hw

lemma rows_restart : (restartKeys sha keys).rows = keys.rows.map (restartRecord sha keys) := by
  rw [rows_restartKeys, repairApiKeyRotationInvariants, repairLinks, map_map]
  refine filter_eq_self.2 fun s hs => ?_
  obtain ⟨r, hr, rfl⟩ := mem_map.1 hs
  rw [Bool.not_eq_true', ← Bool.not_eq_true, Function.comp_apply, isGhost_repairLink]
  rintro ⟨hpend, -, source, hsrc, hrotation⟩
  rw [keepsLinks_repairSubject.status] at hpend
  rw [keepsLinks_repairSubject.rotationFromKeyId] at hsrc
  exact h.not_hasRotation_of_pending hr hpend hsrc
    ((hasRotation_map keepsLinks_repairSubject confirmed_repairSubject).1 hrotation)

lemma edited_restart :
    Edited keys (restartKeys sha keys) fun r s => s = restartRecord sha keys r where
  back s hs := by
    rw [h.rows_restart] at hs
    obtain ⟨r, hr, rfl⟩ := mem_map.1 hs
    exact ⟨r, hr, restartRecord_id r, rfl⟩
  kept r hr _ := by
    refine ⟨restartRecord sha keys r, ?_, restartRecord_id r⟩
    rw [h.rows_restart]
    exact mem_map_of_mem hr

/-- **What a restart does to lineages.** -/
lemma restartStep : LineageStep sha issued keys (restartKeys sha keys) := by
  have hkeeps : KeepsLinks (repairSubject sha keys.rows) := keepsLinks_repairSubject
  have hown : ∀ r, (repairSubject sha keys.rows r).userId = r.userId ∧
      (repairSubject sha keys.rows r).principalType = r.principalType := by
    intro r
    simp only [repairSubject, reconstructSubject]
    split <;> exact ⟨rfl, rfl⟩
  refine .edit (h.edited_restart.mono ?_)
  rintro r hr s - rfl
  rcases h.restartRecord_cases hr with ⟨-, heq⟩ | ⟨-, hsuper, heq⟩
  · rw [heq]
    exact .of_same (hown r).1 (hown r).2 (hkeeps.rotationFromKeyId r)
      (hkeeps.supersededByKeyId r) (hkeeps.status r) (hkeeps.keyHash r)
  · obtain ⟨-, hact, hpend⟩ := h.spent r hr (.inl hsuper)
    rw [heq]
    exact ⟨(hown r).1, (hown r).2, hkeeps.rotationFromKeyId r, hkeeps.supersededByKeyId r,
      by simp [hpend], fun _ hs => (by cases hs),
      fun _ => .inl (by simpa [hkeeps.supersededByKeyId] using hsuper),
      Or.inl ⟨hkeeps.keyHash r, fun hs => (by cases hs)⟩⟩

/-- On keys with lineages in order a repair finds nothing that a second one would change. -/
lemma settled : Settled keys.rows := by
  have hafter : ∀ r ∈ keys.rows, CountsAfter keys.rows r → Confirmed r := by
    rintro r hr (hconf | ⟨w, hw⟩)
    · exact hconf
    · have hsuper := (h.superseded_of_replaces hr hw).1
      have hpend := (h.spent r hr (.inl (by simp [hsuper]))).2.2
      simpa [Confirmed, ApiKeyRecord.confirmed] using hpend
  have hrotation : ∀ source, HasRotation (CountsAfter keys.rows) keys.rows source →
      HasRotation Confirmed keys.rows source := by
    rintro source ⟨c, hc, hcnt, hrotated⟩
    exact ⟨c, hc, hafter c hc hcnt, hrotated⟩
  have hlat : ∀ source c, IsLatest (CountsAfter keys.rows) keys.rows source c →
      IsLatest Confirmed keys.rows source c := fun source c hc =>
    ⟨hc.mem, hafter c hc.mem hc.counted, hc.rotated,
      fun d hd hdc hds => hc.latest d hd (.inl hdc) hds⟩
  intro r hr _
  constructor
  · rintro w (⟨c, hc, rfl⟩ | ⟨hnone, hne, source, c, hsrc, hc, rfl⟩)
    · exact .inl (.inl ⟨c, hlat _ c hc, rfl⟩)
    · refine .inl (.inr ⟨fun hrot => hnone ?_, hne, source, c, hsrc, hlat _ c hc, rfl⟩)
      obtain ⟨d, hd, hdc, hds⟩ := hrot
      exact ⟨d, hd, .inl hdc, hds⟩
  · intro hpend _ source hsrc hrot
    exact h.not_hasRotation_of_pending hr hpend hsrc (hrotation source hrot)

end Lineage

end

end ModelPort.Control
