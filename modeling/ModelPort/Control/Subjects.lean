import ModelPort.Control.Run

/-!
# Quota subjects

Keys share a quota subject: the replacements of a key with the key, and all keys a person owns once
one of them was created in self-service. A subject comes from a seed, which is the id of a key of
the same owner or the owner's own id, so that for a digest without collisions no two owners share
one. Records of one subject carry the same limits.

* `Change.subjects`: subjects stay in order.
-/

namespace ModelPort.Control

open Relational Relation

variable {sha : String → String} {keys keys' : Keys} {issued : List (String × String)}

variable {a b r s : ApiKeyRecord} {uuid : String} {inner inner' : ControlInner}
  {allowed : ControlInner → Operation → Prop}

/-! ### Seeds -/

section

lemma quotaSubjectForSeed_injective (hinj : Function.Injective sha) :
    Function.Injective (quotaSubjectForSeed sha) := by
  intro a b h
  have hdigest : hashSecret sha ("modelport-quota-subject-v1:" ++ a)
      = hashSecret sha ("modelport-quota-subject-v1:" ++ b) := by
    simpa [quotaSubjectForSeed] using h
  simpa using hinj hdigest

lemma quotaSubjectForSeed_ne_empty (seed : String) : quotaSubjectForSeed sha seed ≠ "" := by
  simp [quotaSubjectForSeed]

lemma selfService_ne_key (owner uuid : String) :
    "self-service-user:" ++ owner ≠ "key_" ++ uuid := by
  intro h
  have hlist := congrArg (fun s => s.toList.head?) h
  simp at hlist

lemma mem_effectiveQuotaSubjectAliases {a : String} : a ∈ r.effectiveQuotaSubjectAliases sha ↔
      a ∈ r.quotaSubjectAliases ∨ a = r.id ∨ a = quotaSubjectForSeed sha r.id ∨
        a = r.effectiveQuotaSubjectId := by
  simp [ApiKeyRecord.effectiveQuotaSubjectAliases]

end

/-! ### Limits -/

/-- The first amount, as a limit, allows no more than the second. Zero is no limit. -/
def AmountStricter (a b : ℚ) : Prop := 0 < b → 0 < a ∧ a ≤ b

/-- Limits that allow no more than others. -/
structure SpendLimits.Stricter (a b : SpendLimits) : Prop where
  spend : AmountStricter a.spendLimitUsd b.spendLimitUsd
  rate : b.rateLimited → a.rateLimited
  fiveHour : AmountStricter a.fiveHourLimitUsd b.fiveHourLimitUsd
  daily : AmountStricter a.dailyLimitUsd b.dailyLimitUsd
  weekly : AmountStricter a.weeklyLimitUsd b.weeklyLimitUsd
  monthly : AmountStricter a.monthlyLimitUsd b.monthlyLimitUsd

lemma AmountStricter.refl (a : ℚ) : AmountStricter a a := fun h => ⟨h, le_rfl⟩

lemma AmountStricter.trans {a b c : ℚ} (hab : AmountStricter a b) (hbc : AmountStricter b c) :
    AmountStricter a c := fun hc =>
  ⟨(hab (hbc hc).1).1, (hab (hbc hc).1).2.trans (hbc hc).2⟩

lemma stricterPositiveLimit_left (a b : ℚ) : AmountStricter (stricterPositiveLimit a b) a := by
  intro ha
  unfold stricterPositiveLimit
  split
  · rename_i hb
    exact ⟨lt_min ha hb, min_le_left a b⟩
  · exact ⟨ha, le_rfl⟩

lemma stricterPositiveLimit_right (a b : ℚ) : AmountStricter (stricterPositiveLimit a b) b := by
  intro hb
  unfold stricterPositiveLimit
  rw [if_pos hb]
  split
  · rename_i ha
    exact ⟨lt_min ha hb, min_le_right a b⟩
  · exact ⟨hb, le_rfl⟩

namespace SpendLimits

lemma Stricter.refl (a : SpendLimits) : a.Stricter a :=
  ⟨.refl _, id, .refl _, .refl _, .refl _, .refl _⟩

lemma Stricter.trans {a b c : SpendLimits} (hab : a.Stricter b) (hbc : b.Stricter c) :
    a.Stricter c where
  spend := hab.spend.trans hbc.spend
  rate h := hab.rate (hbc.rate h)
  fiveHour := hab.fiveHour.trans hbc.fiveHour
  daily := hab.daily.trans hbc.daily
  weekly := hab.weekly.trans hbc.weekly
  monthly := hab.monthly.trans hbc.monthly

lemma inherit_stricter_left (a b : SpendLimits) : (a.inherit b).Stricter a where
  spend := stricterPositiveLimit_left _ _
  rate h := by simp [inherit, h]
  fiveHour := stricterPositiveLimit_left _ _
  daily := stricterPositiveLimit_left _ _
  weekly := stricterPositiveLimit_left _ _
  monthly := stricterPositiveLimit_left _ _

lemma inherit_stricter_right (a b : SpendLimits) : (a.inherit b).Stricter b where
  spend := stricterPositiveLimit_right _ _
  rate h := by simp [inherit, h]
  fiveHour := stricterPositiveLimit_right _ _
  daily := stricterPositiveLimit_right _ _
  weekly := stricterPositiveLimit_right _ _
  monthly := stricterPositiveLimit_right _ _

@[simp] lemma inherit_self (a : SpendLimits) : a.inherit a = a := by
  simp [inherit, stricterPositiveLimit]

/-- The limits collected over some records are stricter than the first and than each of them. -/
lemma foldl_inherit_stricter (start : SpendLimits) (records : List ApiKeyRecord) :
    (records.foldl (fun limits r => limits.inherit r.limits) start).Stricter start ∧ ∀ r ∈ records,
        (records.foldl (fun limits r => limits.inherit r.limits) start).Stricter r.limits := by
  induction records generalizing start with
  | nil => exact ⟨.refl _, fun r hr => by cases hr⟩
  | cons a records ih =>
    obtain ⟨hstart, hrest⟩ := ih (start.inherit a.limits)
    exact ⟨hstart.trans (inherit_stricter_left _ _),
      List.forall_mem_cons.2 ⟨hstart.trans (inherit_stricter_right _ _), hrest⟩⟩

end SpendLimits

lemma ownerLimits_stricter {keys : Keys} {record : ApiKeyRecord} (hr : r ∈ keys.rows)
    (hown : isUserKeyOf record.userId r) : (ownerLimits keys record).Stricter r.limits :=
  (SpendLimits.foldl_inherit_stricter _ _).2 r (List.mem_filter.2 ⟨hr, hown⟩)

/-- The limits a key is used under. -/
def effectiveLimits (keys : Keys) (r : ApiKeyRecord) : SpendLimits :=
  subjectLimits r.limits r.effectiveQuotaSubjectId keys.rows

/-! ### The invariant -/

/-- Two records have the same owner, as the same kind of principal. -/
def SameOwner (a b : ApiKeyRecord) : Prop :=
  a.userId = b.userId ∧ a.principalType = b.principalType

lemma SameOwner.symm (h : SameOwner a b) : SameOwner b a :=
  ⟨h.1.symm, h.2.symm⟩

lemma SameOwner.trans {c : ApiKeyRecord} (hab : SameOwner a b) (hbc : SameOwner b c) :
    SameOwner a c := ⟨hab.1.trans hbc.1, hab.2.trans hbc.2⟩

lemma SameOwner.isUserKeyOf (h : SameOwner a b) (owner : String) :
    isUserKeyOf owner a = isUserKeyOf owner b := by
  rw [Control.isUserKeyOf, Control.isUserKeyOf, h.1, h.2]

/-- A seed of a subject that the record may have: its owner, or a key of its owner. -/
def SeedOf (keys : Keys) (r : ApiKeyRecord) (seed : String) : Prop :=
  r.principalType = .user ∧ seed = "self-service-user:" ++ r.userId ∨
    ∃ o ∈ keys.rows, o.status ≠ .pendingRotation ∧ o.id = seed ∧ SameOwner o r

/-- Ids are drawn, and subjects come from seeds. -/
structure Seeded (sha256Hex : String → String) (keys : Keys) : Prop where
  drawn : ∀ r ∈ keys.rows, ∃ uuid, r.id = "key_" ++ uuid
  seed : ∀ r ∈ keys.rows, ∃ seed, r.quotaSubjectId = quotaSubjectForSeed sha256Hex seed ∧
    SeedOf keys r seed

/-- **Subjects are in order.** -/
structure Subjects (sha256Hex : String → String) (keys : Keys) : Prop
    extends Seeded sha256Hex keys where
  source : ∀ r ∈ keys.rows, ∀ s ∈ keys.rows, r.rotationFromKeyId = some s.id →
    s.quotaSubjectId = r.quotaSubjectId
  limits : ∀ r ∈ keys.rows, ∀ s ∈ keys.rows, r.quotaSubjectId = s.quotaSubjectId →
    r.limits = s.limits

section

section

variable (h : Seeded sha keys)

include h

lemma Seeded.effective (hr : r ∈ keys.rows) : r.effectiveQuotaSubjectId = r.quotaSubjectId := by
  obtain ⟨seed, hseed, -⟩ := h.seed r hr
  rw [ApiKeyRecord.effectiveQuotaSubjectId, if_neg]
  simpa [hseed] using quotaSubjectForSeed_ne_empty seed

lemma Seeded.sameOwner (hinj : Function.Injective sha) (hr : r ∈ keys.rows) (hs : s ∈ keys.rows)
    (hsame : r.quotaSubjectId = s.quotaSubjectId) : SameOwner r s := by
  obtain ⟨a, ha, hseed⟩ := h.seed r hr
  obtain ⟨b, hb, hseed'⟩ := h.seed s hs
  obtain rfl : a = b := quotaSubjectForSeed_injective hinj (ha.symm.trans (hsame.trans hb))
  rcases hseed with ⟨huser, hself⟩ | ⟨o, ho, -, hid, howner⟩ <;>
    rcases hseed' with ⟨huser', hself'⟩ | ⟨o', ho', -, hid', hown'⟩
  · exact ⟨by simpa using hself.symm.trans hself', huser.trans huser'.symm⟩
  · obtain ⟨uuid, huuid⟩ := h.drawn o' ho'
    exact absurd (hself.symm.trans (hid'.symm.trans huuid)) (selfService_ne_key _ _)
  · obtain ⟨uuid, huuid⟩ := h.drawn o ho
    exact absurd (hself'.symm.trans (hid.symm.trans huuid)) (selfService_ne_key _ _)
  · obtain rfl := eq_of_id ho ho' (hid.trans hid'.symm)
    exact howner.symm.trans hown'

lemma Seeded.fresh (hinj : Function.Injective sha) (hfresh : ∀ s ∈ keys.rows, s.id ≠ "key_" ++ uuid)
    (hs : s ∈ keys.rows) : s.quotaSubjectId ≠ quotaSubjectForSeed sha ("key_" ++ uuid) := by
  intro hsame
  obtain ⟨seed, hseed, hof⟩ := h.seed s hs
  obtain rfl := quotaSubjectForSeed_injective hinj (hseed.symm.trans hsame)
  rcases hof with ⟨-, hself⟩ | ⟨o, ho, -, hid, -⟩
  · exact selfService_ne_key _ _ hself.symm
  · exact hfresh o ho hid

end

lemma SeedOf.mono {seed : String} (h : SeedOf keys r seed) (howner : SameOwner r s)
    (hkept : ∀ o ∈ keys.rows, o.status ≠ .pendingRotation →
      ∃ o' ∈ keys'.rows, o'.id = o.id ∧ o'.status ≠ .pendingRotation ∧ SameOwner o' o) :
    SeedOf keys' s seed := by
  rcases h with ⟨huser, hself⟩ | ⟨o, ho, hpend, hid, ho'⟩
  · exact .inl ⟨howner.2 ▸ huser, howner.1 ▸ hself⟩
  · obtain ⟨p, hp, hid', hpend', hp'⟩ := hkept o ho hpend
    exact .inr ⟨p, hp, hpend', hid'.trans hid, hp'.trans (ho'.trans howner)⟩

end

/-! ### Steps -/

/-- An edit that keeps subject and limits. Aliases are kept too, or taken from another record of the
subject. -/
structure SubjectEdit (sha256Hex : String → String) (keys : Keys) (r s : ApiKeyRecord) : Prop where
  owner : SameOwner s r
  subject : s.quotaSubjectId = r.quotaSubjectId
  rotated : s.rotationFromKeyId = r.rotationFromKeyId
  notPending : r.status ≠ .pendingRotation → s.status ≠ .pendingRotation
  limits : s.limits = r.limits
  aliases : ∃ t ∈ keys.rows, t.quotaSubjectId = r.quotaSubjectId ∧
    ∀ a ∈ t.effectiveQuotaSubjectAliases sha256Hex, a ∈ s.effectiveQuotaSubjectAliases sha256Hex

/-- A new record: on a subject of its own, or as a prepared replacement on that of its source. -/
inductive NewSubject (sha256Hex : String → String) (keys : Keys) (n : ApiKeyRecord) : Prop
  | own (hsubj : n.quotaSubjectId = quotaSubjectForSeed sha256Hex n.id)
      (hstat : n.status ≠ .pendingRotation) (hrot : n.rotationFromKeyId = none)
  | copied {current : ApiKeyRecord} (hcurr : current ∈ keys.rows)
      (howner : SameOwner n current) (hsubj : n.quotaSubjectId = current.quotaSubjectId)
      (hrot : n.rotationFromKeyId = some current.id) (hlim : n.limits = current.limits)
      (halias : ∀ a ∈ current.effectiveQuotaSubjectAliases sha256Hex,
        a ∈ n.effectiveQuotaSubjectAliases sha256Hex)

/-- What a change other than an update does to subjects. -/
inductive SubjectStep (sha256Hex : String → String) (keys : Keys) : Keys → Prop
  | edit {keys' : Keys} (he : Edited keys keys' (SubjectEdit sha256Hex keys)) :
      SubjectStep sha256Hex keys keys'
  | add {keys1 : Keys} {n : ApiKeyRecord} {uuid : String}
      (he : Edited keys keys1 fun r s => s = r) (hid : n.id = "key_" ++ uuid)
      (hfresh : ∀ s ∈ keys.rows, s.id ≠ n.id) (hnew : NewSubject sha256Hex keys1 n) :
      SubjectStep sha256Hex keys (keys1.put n)
  | enroll {record : ApiKeyRecord} {uuid : String} (hid : record.id = "key_" ++ uuid)
      (hfresh : ∀ s ∈ keys.rows, s.id ≠ record.id) (huser : record.principalType = .user)
      (hstat : record.status ≠ .pendingRotation) (hrot : record.rotationFromKeyId = none) :
      SubjectStep sha256Hex keys (enroll sha256Hex keys record)

/-- An update sets the limits of a subject. -/
structure LimitsEdit (target : String) (f : SpendLimits → SpendLimits) (r s : ApiKeyRecord) :
    Prop where
  owner : SameOwner s r
  subject : s.quotaSubjectId = r.quotaSubjectId
  rotated : s.rotationFromKeyId = r.rotationFromKeyId
  notPending : r.status ≠ .pendingRotation → s.status ≠ .pendingRotation
  limits : s.limits = if r.effectiveQuotaSubjectId = target then f r.limits else r.limits
  aliases : s.quotaSubjectAliases = r.quotaSubjectAliases

/-- A creation in self-service is for a person. -/
def Routed (_ : ControlInner) : Operation → Prop
  | .create input (some _) _ _ _ => parsePrincipalType input.principalType = .ok .user
  | _ => True

/-- The call updates a key. -/
def Operation.IsUpdate : Operation → Prop
  | .update .. => True
  | _ => False

section

lemma SubjectEdit.of_same (hr : r ∈ keys.rows) (hid : s.id = r.id)
    (howner : SameOwner s r) (hsubj : s.quotaSubjectId = r.quotaSubjectId)
    (hrot : s.rotationFromKeyId = r.rotationFromKeyId)
    (hpend : r.status ≠ .pendingRotation → s.status ≠ .pendingRotation)
    (hlim : s.limits = r.limits)
    (halias : ∀ a ∈ r.quotaSubjectAliases, a ∈ s.quotaSubjectAliases) :
    SubjectEdit sha keys r s := by
  refine ⟨howner, hsubj, hrot, hpend, hlim, r, hr, rfl, fun a ha => ?_⟩
  have heffective : s.effectiveQuotaSubjectId = r.effectiveQuotaSubjectId := by
    rw [ApiKeyRecord.effectiveQuotaSubjectId, ApiKeyRecord.effectiveQuotaSubjectId, hsubj, hid]
  rw [mem_effectiveQuotaSubjectAliases] at ha ⊢
  rw [hid, heffective]
  exact ha.imp_left (halias a)

lemma SubjectEdit.refl (hr : r ∈ keys.rows) : SubjectEdit sha keys r r :=
  .of_same hr rfl ⟨rfl, rfl⟩ rfl rfl id rfl fun _ h => h

lemma mem_lineageAliases {current : ApiKeyRecord} {id a : String}
    (ha : a ∈ current.effectiveQuotaSubjectAliases sha) :
    a ∈ lineageAliases sha current id := by
  simp [lineageAliases, ha]

/-- **What an operation does to subjects.** -/
lemma KeyChange.subjectStep {op : Operation}
    (hchg : KeyChange sha inner op keys') (hrout : Routed inner op)
    (hdraw : ∀ d ∈ op.draw, ∀ r ∈ inner.apiKeys.rows, r.id ≠ d.1)
    (hlin : Lineage sha issued inner.apiKeys) (h : Subjects sha inner.apiKeys) :
    SubjectStep sha inner.apiKeys keys' ∨
      op.IsUpdate ∧ ∃ subject f, Edited inner.apiKeys keys' (LimitsEdit subject f) := by
  have hplain := hchg.plain
  cases hchg with
  | create hnew =>
    have hfresh := hdraw _ rfl
    rw [← hnew.id] at hfresh
    exact .inl (.add (.refl fun _ => rfl) hnew.id hfresh
      (.own hnew.subject (by simp [hnew.status]) hnew.rotationFromKeyId))
  | enroll hnew hlimit =>
    have hfresh := hdraw _ rfl
    rw [← hnew.id] at hfresh
    refine .inl (.enroll hnew.id hfresh ?_ (by simp [hnew.status]) hnew.rotationFromKeyId)
    exact Except.ok.inj (hnew.principal.symm.trans hrout)
  | @rotate now uuid key current hmem hact hunexp =>
    refine .inl (.add (edited_purge current.id) rfl (hdraw _ rfl)
      (.copied (mem_purge_self hmem hact) ⟨rfl, rfl⟩ (h.effective hmem) rfl rfl fun a ha => ?_))
    exact mem_effectiveQuotaSubjectAliases.2 (.inl (mem_lineageAliases ha))
  | @repeatConfirm now current replacement hcurr hrepl hact hrot =>
    have hsrc := h.source replacement hrepl current hcurr hrot
    refine .inl (.edit ((hlin.edited_repeatConfirm hcurr hrepl hact hrot).mono ?_))
    rintro r hr s - (rfl | ⟨rfl, rfl⟩ | ⟨rfl, -, rfl⟩)
    · exact .refl hr
    · refine ⟨⟨rfl, rfl⟩, (h.effective hcurr).trans hsrc, rfl, id, rfl, current, hcurr,
        hsrc, fun a ha => ?_⟩
      exact mem_effectiveQuotaSubjectAliases.2 (.inl (mem_lineageAliases ha))
    · exact .of_same hr rfl ⟨rfl, rfl⟩ rfl rfl (fun _ => by simp) rfl fun _ ha => ha
  | @confirm now current replacement hcurr hrepl hact hunexp hpend hrot =>
    have hsrc := h.source replacement hrepl current hcurr hrot
    have hIs := hlin.source_of hrepl hcurr hrot
    have hne := hlin.source_ne hcurr hrepl hrot (.inr hpend)
    refine .inl (.edit ((edited_handover (takeOver sha current replacement) hcurr
      hrepl rfl hne).mono ?_))
    rintro r hr s - (rfl | ⟨rfl, rfl⟩ | ⟨rfl, rfl⟩)
    · exact .refl hr
    · refine ⟨⟨hIs.userId, hIs.principalType⟩, hsrc, hrot.symm, fun _ => by simp [takeOver],
        h.limits current hcurr r hr hsrc, current, hcurr, hsrc, fun a ha => ?_⟩
      exact mem_effectiveQuotaSubjectAliases.2 (.inl (mem_lineageAliases ha))
    · exact .of_same hr rfl ⟨rfl, rfl⟩ rfl rfl (fun _ => by simp [ApiKeyRecord.retire]) rfl
        fun _ ha => ha
  | @update input now record updated hmem hmut hupd =>
    refine .inr ⟨trivial, record.effectiveQuotaSubjectId, input.applyLimits,
      (edited_updateKeys hmem hmut hupd).mono ?_⟩
    rintro r - s - (⟨rfl, rfl⟩ | ⟨-, rfl⟩)
    · have hpend := hupd.pending hmut
      have hlim := hupd.limits
      rw [hupd.same] at hlim hpend ⊢
      exact ⟨⟨rfl, rfl⟩, rfl, rfl, fun hr hs => hr (hpend.1 hs),
        by rw [if_pos rfl]; exact hlim, rfl⟩
    · exact ⟨⟨rfl, rfl⟩, rfl, rfl, id, rfl, rfl⟩
  | _ =>
    refine .inl (.edit ((hplain rfl).mono ?_))
    rintro r hr s - hE
    have hpend := hE.pending
    rw [hE.same] at hpend ⊢
    exact .of_same hr rfl ⟨rfl, rfl⟩ rfl rfl (fun hr hs => hr (hpend.1 hs)) rfl fun _ ha => ha

lemma Lineage.subjectStep_restart (hlin : Lineage sha issued keys)
    (h : Subjects sha keys) : SubjectStep sha keys (restartKeys sha keys) := by
  refine .edit (hlin.edited_restart.mono ?_)
  rintro r hr s - rfl
  obtain ⟨seed, hseed, -⟩ := h.seed r hr
  have hsubj : ¬ r.quotaSubjectId.isEmpty := by
    simpa [hseed] using quotaSubjectForSeed_ne_empty seed
  have hrep : repairSubject sha keys.rows r = { r with
      quotaSubjectAliases := sortDedup (r.quotaSubjectAliases
        ++ [r.id, quotaSubjectForSeed sha r.id, r.quotaSubjectId]) } := by
    rw [repairSubject, reconstructSubject, if_neg hsubj]
  rcases hlin.restartRecord_cases hr with ⟨-, heq⟩ | ⟨-, -, heq⟩ <;> rw [heq, hrep]
  · exact .of_same hr rfl ⟨rfl, rfl⟩ rfl rfl id rfl fun a ha => by simp [ha]
  · exact .of_same hr rfl ⟨rfl, rfl⟩ rfl rfl (fun _ => by simp) rfl fun a ha => by simp [ha]

end

/-! ### The invariant along changes -/

section

/-- Edits that keep subjects and treat the limits of a subject alike. -/
lemma Subjects.edited {E : ApiKeyRecord → ApiKeyRecord → Prop} (h : Subjects sha keys)
    (he : Edited keys keys' E) (howner : ∀ r ∈ keys.rows, ∀ s, E r s → SameOwner s r)
    (hsubj : ∀ r ∈ keys.rows, ∀ s, E r s → s.quotaSubjectId = r.quotaSubjectId)
    (hrot : ∀ r ∈ keys.rows, ∀ s, E r s → s.rotationFromKeyId = r.rotationFromKeyId)
    (hpend : ∀ r ∈ keys.rows, ∀ s, E r s → r.status ≠ .pendingRotation →
      s.status ≠ .pendingRotation)
    (hlim : ∀ a ∈ keys.rows, ∀ b ∈ keys.rows, a.quotaSubjectId = b.quotaSubjectId →
      ∀ a' b', E a a' → E b b' → a'.limits = b'.limits) : Subjects sha keys' where
  drawn s hs := by
    obtain ⟨r, hr, hid, -⟩ := he.back s hs
    obtain ⟨uuid, huuid⟩ := h.drawn r hr
    exact ⟨uuid, hid.trans huuid⟩
  seed s hs := by
    obtain ⟨r, hr, -, hE⟩ := he.back s hs
    obtain ⟨seed, hseed, hof⟩ := h.seed r hr
    refine ⟨seed, (hsubj r hr s hE).trans hseed, hof.mono (howner r hr s hE).symm ?_⟩
    intro o ho hstat
    obtain ⟨o', ho', hid, hE'⟩ := he.forth ho hstat
    exact ⟨o', ho', hid, hpend o ho o' hE' hstat, howner o ho o' hE'⟩
  source r' hr' s' hs' hsrc := by
    obtain ⟨r, hr, -, hE⟩ := he.back r' hr'
    obtain ⟨s, hs, hid, hE'⟩ := he.back s' hs'
    rw [hsubj r hr r' hE, hsubj s hs s' hE']
    exact h.source r hr s hs (by rw [← hrot r hr r' hE, hsrc, hid])
  limits a' ha' b' hb' hsame := by
    obtain ⟨a, ha, -, hE⟩ := he.back a' ha'
    obtain ⟨b, hb, -, hE'⟩ := he.back b' hb'
    refine hlim a ha b hb ?_ a' b' hE hE'
    rw [← hsubj a ha a' hE, ← hsubj b hb b' hE', hsame]

lemma Subjects.put (h : Subjects sha keys) (hlin : Lineage sha issued keys)
    (hinj : Function.Injective sha) {n : ApiKeyRecord}
    (hid : n.id = "key_" ++ uuid) (hfresh : ∀ s ∈ keys.rows, s.id ≠ n.id)
    (hnew : NewSubject sha keys n) : Subjects sha (keys.put n) := by
  have hold : ∀ s ∈ keys.rows, s ∈ (keys.put n).rows := fun s hs =>
    mem_put_iff.2 (.inr ⟨hs, hfresh s hs⟩)
  have hkept : ∀ o ∈ keys.rows, o.status ≠ .pendingRotation →
      ∃ o' ∈ (keys.put n).rows, o'.id = o.id ∧ o'.status ≠ .pendingRotation ∧ SameOwner o' o :=
    fun o ho hstat => ⟨o, hold o ho, rfl, hstat, rfl, rfl⟩
  -- the limits of the new record are those of its subject
  have hlim : ∀ s ∈ keys.rows, n.quotaSubjectId = s.quotaSubjectId → n.limits = s.limits := by
    intro s hs hsame
    cases hnew with
    | own hsubj =>
      rw [hsubj, hid] at hsame
      exact absurd hsame.symm (h.fresh hinj (hid ▸ hfresh) hs)
    | @copied current hcurr _ hsubj _ hlim =>
      rw [hlim]
      exact h.limits current hcurr s hs (hsubj.symm.trans hsame)
  constructor
  · constructor
    · intro s hs
      rcases mem_put_iff.1 hs with rfl | ⟨hs, -⟩
      · exact ⟨uuid, hid⟩
      · exact h.drawn s hs
    · intro s hs
      rcases mem_put_iff.1 hs with rfl | ⟨hs, -⟩
      · cases hnew with
        | own hsubj hstat =>
          exact ⟨_, hsubj, .inr ⟨s, mem_put_iff.2 (.inl rfl), hstat, rfl, rfl, rfl⟩⟩
        | @copied current hcurr howner hsubj =>
          obtain ⟨seed, hseed, hof⟩ := h.seed current hcurr
          exact ⟨seed, hsubj.trans hseed, hof.mono howner.symm hkept⟩
      · obtain ⟨seed, hseed, hof⟩ := h.seed s hs
        exact ⟨seed, hseed, hof.mono ⟨rfl, rfl⟩ hkept⟩
  · intro r hr s hs hsrc
    rcases mem_put_iff.1 hr with rfl | ⟨hr, -⟩
    · cases hnew with
      | own _ _ hrot => simp [hrot] at hsrc
      | @copied current hcurr _ hsubj hrot =>
        have hsid : s.id = current.id := Option.some.inj (hsrc.symm.trans hrot)
        rw [eq_of_id hs (hold current hcurr) hsid, hsubj]
    · obtain ⟨t, ht, hid', -⟩ := hlin.rotated r hr s.id hsrc
      obtain rfl := eq_of_id (hold t ht) hs hid'
      exact h.source r hr t ht hsrc
  · intro a ha b hb hsame
    rcases mem_put_iff.1 ha with ha' | ⟨ha', -⟩ <;> rcases mem_put_iff.1 hb with hb' | ⟨hb', -⟩
    · rw [ha', hb']
    · rw [ha'] at hsame ⊢
      exact hlim b hb' hsame
    · rw [hb'] at hsame ⊢
      exact (hlim a ha' hsame.symm).symm
    · exact h.limits a ha' b hb' hsame

/-! ### Enrolment -/

variable {record : ApiKeyRecord}

/-- What an enrolment makes of a record. -/
def enrolled (sha256Hex : String → String) (keys : Keys) (record r : ApiKeyRecord) : ApiKeyRecord :=
  if isUserKeyOf record.userId r then joinOwner sha256Hex keys record r else r

variable (r : ApiKeyRecord)

lemma enrolled_id : (enrolled sha keys record r).id = r.id := by
  unfold enrolled
  split <;> rfl

lemma enrolled_status : (enrolled sha keys record r).status = r.status := by
  unfold enrolled
  split <;> rfl

lemma enrolled_rotationFromKeyId :
    (enrolled sha keys record r).rotationFromKeyId = r.rotationFromKeyId := by
  unfold enrolled
  split <;> rfl

lemma enrolled_owner : SameOwner (enrolled sha keys record r) r := by
  unfold enrolled
  split <;> exact ⟨rfl, rfl⟩

/-- After an enrolment there are the records there were, and the new one, enrolled like them. -/
lemma mem_enroll (hfresh : ∀ s ∈ keys.rows, s.id ≠ record.id)
    (huser : record.principalType = .user) : s ∈ (enroll sha keys record).rows ↔
      ∃ r, (r = record ∨ r ∈ keys.rows) ∧ s = enrolled sha keys record r := by
  have hown : isUserKeyOf record.userId record = true := by simp [isUserKeyOf, huser]
  have hjoin : enrolled sha keys record record = joinOwner sha keys record record :=
    if_pos hown
  rw [enroll, mem_put_iff]
  constructor
  · rintro (rfl | ⟨hs, -⟩)
    · exact ⟨record, .inl rfl, hjoin.symm⟩
    · obtain ⟨r, hr, rfl⟩ := (Table.mem_update _).1 hs
      exact ⟨r, .inr hr, rfl⟩
  · rintro ⟨r, rfl | hr, rfl⟩
    · exact .inl hjoin
    · refine .inr ⟨(Table.mem_update _).2 ⟨r, hr, rfl⟩, ?_⟩
      rw [enrolled_id]
      exact hfresh r hr

lemma Seeded.ownerSubject (h : Seeded sha keys) (huser : record.principalType = .user) :
    ∃ seed, Control.ownerSubject sha keys record.userId
        = quotaSubjectForSeed sha seed ∧ SeedOf keys record seed := by
  unfold Control.ownerSubject
  cases hfirst : (keys.rows.filter (isUserKeyOf record.userId)).argmin
      fun r => toLex (r.createdAtMs, r.id) with
  | none => exact ⟨_, rfl, .inl ⟨huser, rfl⟩⟩
  | some m =>
    obtain ⟨hm, hown⟩ := List.mem_filter.1 (List.argmin_mem hfirst)
    obtain ⟨seed, hseed, hof⟩ := h.seed m hm
    refine ⟨seed, (h.effective hm).trans hseed, hof.mono ?_ fun o ho hstat => ?_⟩
    · simp only [isUserKeyOf, Bool.and_eq_true, decide_eq_true_eq] at hown
      exact ⟨hown.1, hown.2.trans huser.symm⟩
    · exact ⟨o, ho, rfl, hstat, rfl, rfl⟩

lemma Seeded.enroll (h : Seeded sha keys) (hid : record.id = "key_" ++ uuid)
    (hfresh : ∀ s ∈ keys.rows, s.id ≠ record.id) (huser : record.principalType = .user) :
    Seeded sha (enroll sha keys record) := by
  have hkept : ∀ o ∈ keys.rows, o.status ≠ .pendingRotation →
      ∃ o' ∈ (Control.enroll sha keys record).rows, o'.id = o.id ∧
        o'.status ≠ .pendingRotation ∧ SameOwner o' o := fun o ho hstat =>
    ⟨_, (mem_enroll hfresh huser).2 ⟨o, Or.inr ho, rfl⟩, enrolled_id o,
      by rwa [enrolled_status], enrolled_owner o⟩
  constructor
  · intro s hs
    obtain ⟨r, rfl | hr, rfl⟩ := (mem_enroll hfresh huser).1 hs
    · exact ⟨uuid, (enrolled_id _).trans hid⟩
    · obtain ⟨uuid', huuid⟩ := h.drawn r hr
      exact ⟨uuid', (enrolled_id r).trans huuid⟩
  · intro s hs
    obtain ⟨r, hr, rfl⟩ := (mem_enroll hfresh huser).1 hs
    cases hown : isUserKeyOf record.userId r with
    | true =>
      obtain ⟨seed, hseed, hof⟩ := h.ownerSubject huser
      have hjoin : enrolled sha keys record r = joinOwner sha keys record r :=
        if_pos hown
      refine ⟨seed, by rw [hjoin]; exact hseed, hof.mono ?_ hkept⟩
      simp only [isUserKeyOf, Bool.and_eq_true, decide_eq_true_eq] at hown
      rw [hjoin]
      exact ⟨hown.1.symm, huser.trans hown.2.symm⟩
    | false =>
      have hsame : enrolled sha keys record r = r := if_neg (by simp [hown])
      rcases hr with rfl | hr
      · simp [isUserKeyOf, huser] at hown
      · obtain ⟨seed, hseed, hof⟩ := h.seed r hr
        rw [hsame]
        exact ⟨seed, hseed, hof.mono ⟨rfl, rfl⟩ hkept⟩

lemma Subjects.enroll (h : Subjects sha keys) (hlin : Lineage sha issued keys)
    (hinj : Function.Injective sha) (hid : record.id = "key_" ++ uuid)
    (hfresh : ∀ s ∈ keys.rows, s.id ≠ record.id) (huser : record.principalType = .user)
    (hrot : record.rotationFromKeyId = none) :
    Subjects sha (enroll sha keys record) := by
  have hseeded := h.toSeeded.enroll hid hfresh huser
  refine ⟨hseeded, ?_, ?_⟩
  · intro r' hr' s' hs' hsrc
    obtain ⟨r, hr, rfl⟩ := (mem_enroll hfresh huser).1 hr'
    rw [enrolled_rotationFromKeyId] at hsrc
    rcases hr with rfl | hr
    · simp [hrot] at hsrc
    · obtain ⟨t, ht, hid', hIs⟩ := hlin.rotated r hr s'.id hsrc
      have ht' : enrolled sha keys record t ∈ (Control.enroll sha keys record).rows :=
        (mem_enroll hfresh huser).2 ⟨t, .inr ht, rfl⟩
      obtain rfl := eq_of_id ht' hs' ((enrolled_id t).trans hid')
      -- a record and its source have one owner, so that both are enrolled or none
      have howner : SameOwner t r := ⟨hIs.userId, hIs.principalType⟩
      unfold enrolled
      rw [howner.isUserKeyOf]
      split
      · rfl
      · exact h.source r hr t ht (by rw [hsrc, ← hid'])
  · intro a' ha' b' hb' hsame
    have howner := hseeded.sameOwner hinj ha' hb' hsame
    obtain ⟨a, ha, rfl⟩ := (mem_enroll hfresh huser).1 ha'
    obtain ⟨b, hb, rfl⟩ := (mem_enroll hfresh huser).1 hb'
    have hown := (((enrolled_owner a).symm.trans howner).trans (enrolled_owner b)).isUserKeyOf
      record.userId
    unfold enrolled at hsame ⊢
    rw [hown] at hsame ⊢
    split at hsame <;> rename_i hjoined
    · rw [if_pos hjoined, if_pos hjoined]
      rfl
    · rw [if_neg hjoined, if_neg hjoined]
      rw [← hown] at hjoined
      have hold : ∀ {c : ApiKeyRecord}, c = record ∨ c ∈ keys.rows →
          ¬ isUserKeyOf record.userId c → c ∈ keys.rows := by
        rintro c (rfl | hc) hc'
        · simp [isUserKeyOf, huser] at hc'
        · exact hc
      exact h.limits a (hold ha hjoined) b (hold hb (hown ▸ hjoined)) hsame

/-! ### Changes -/

lemma SubjectStep.subjects (hstep : SubjectStep sha keys keys')
    (hlin : Lineage sha issued keys) (hinj : Function.Injective sha)
    (h : Subjects sha keys) : Subjects sha keys' := by
  cases hstep with
  | edit he =>
    exact h.edited he (fun _ _ _ hE => hE.owner) (fun _ _ _ hE => hE.subject)
      (fun _ _ _ hE => hE.rotated) (fun _ _ _ hE => hE.notPending)
      fun a ha b hb hsame a' b' hE hE' => by rw [hE.limits, hE'.limits, h.limits a ha b hb hsame]
  | @add keys1 n uuid he hid hfresh hnew =>
    have h1 : Subjects sha keys1 := h.edited he
      (fun _ _ _ hE => hE ▸ ⟨rfl, rfl⟩) (fun _ _ _ hE => hE ▸ rfl) (fun _ _ _ hE => hE ▸ rfl)
      (fun _ _ _ hE hs => hE ▸ hs)
      fun a ha b hb hsame a' b' hE hE' => by rw [hE, hE', h.limits a ha b hb hsame]
    have hlineage1 := hlin.edited (he.mono fun r _ s _ hs => hs ▸ .refl r)
    refine h1.put hlineage1 hinj hid (fun s hs => ?_) hnew
    obtain ⟨r, hr, hid', -⟩ := he.back s hs
    rw [hid']
    exact hfresh r hr
  | enroll hid hfresh huser hstat hrot =>
    exact h.enroll hlin hinj hid hfresh huser hrot

lemma Subjects.update (h : Subjects sha keys)
    {target : String} {f : SpendLimits → SpendLimits}
    (he : Edited keys keys' (LimitsEdit target f)) : Subjects sha keys' := by
  refine h.edited he (fun _ _ _ hE => hE.owner) (fun _ _ _ hE => hE.subject)
    (fun _ _ _ hE => hE.rotated) (fun _ _ _ hE => hE.notPending) ?_
  intro a ha b hb hsame a' b' hE hE'
  rw [hE.limits, hE'.limits, h.effective ha, h.effective hb, hsame, h.limits a ha b hb hsame]

section

variable (hrout : ∀ inner op, allowed inner op → Routed inner op)

include hrout

/-- **What a change does to subjects.** -/
lemma Change.subjectStep (hchg : Change sha allowed issued inner inner')
    (hlin : Lineage sha issued inner.apiKeys) (h : Subjects sha inner.apiKeys) :
    SubjectStep sha inner.apiKeys inner'.apiKeys ∨ (∃ op, op.IsUpdate ∧ allowed inner op) ∧
        ∃ target f, Edited inner.apiKeys inner'.apiKeys (LimitsEdit target f) := by
  cases hchg with
  | operate op hall hrun hdraw =>
    refine ((Operation.run_save hrun).keys.subjectStep (hrout _ _ hall)
      (fun d hd => (hdraw d hd).2) hlin h).imp_right ?_
    exact And.imp_left fun hupdate => ⟨op, hupdate, hall⟩
  | restart => exact .inl (hlin.subjectStep_restart h)

lemma Change.subjects
    (hinj : Function.Injective sha) (hchg : Change sha allowed issued inner inner')
    (hlin : Lineage sha issued inner.apiKeys) (h : Subjects sha inner.apiKeys) :
    Subjects sha inner'.apiKeys := by
  rcases hchg.subjectStep hrout hlin h with hstep | ⟨-, target, f, he⟩
  · exact hstep.subjects hlin hinj h
  · exact h.update he

lemma Path.subjects
    (hinj : Function.Injective sha) (hpath : Path sha allowed issued inner inner')
    (hlin : Lineage sha issued inner.apiKeys) (h : Subjects sha inner.apiKeys) :
    Subjects sha inner'.apiKeys := by
  induction hpath with
  | refl => exact h
  | tail hpath hchg ih =>
    exact hchg.subjects hrout hinj (Path.lineage_of hpath hlin) ih

end

lemma subjects_empty : Subjects sha emptyInner.apiKeys := by
  refine ⟨⟨?_, ?_⟩, ?_, ?_⟩ <;> intro r hr <;> cases hr

lemma Reachable.subjects {h : History} (hinj : Function.Injective sha)
    (hreach : Reachable sha Routed h) : Subjects sha h.store.memory.apiKeys :=
  Path.subjects (fun _ _ hop => hop) hinj hreach.sound.path lineage_empty subjects_empty

end

end ModelPort.Control
