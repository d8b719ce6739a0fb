import ModelPort.Control.Authentication
import ModelPort.Control.Subjects
import ModelPort.Gateway.Steps
import ModelPort.Ledger.BudgetLimit
import ModelPort.Ledger.Origins

/-!
# Spend follows the quota subject

A request is charged to the quota subject its key had when it was authenticated, and the all-time
spend of a key is the sum over the rows whose subject is among the key's aliases. Keys are rotated,
and moved to the subject of their owner; `Metered` is the control store and the ledger side by
side, with the identities that were accepted so far.

* `SubjectStep.subjectBound`, `SubjectStep.keyBound`: no change but an update loosens limits.
* `rotation_keeps_spend`: spend is never left behind, and limits are shared and not loosened.
-/

namespace ModelPort.Control

open Relational Relation Transaction Sample List

variable {inner inner' : ControlInner} {r record n : ApiKeyRecord} {uuid : String} {keys1 : Keys}

/-! ### Aliases -/

/-- Every key that was accepted under a subject, as `G` says, is there, and all keys that now have
its subject have the former one among their aliases. -/
def Covers (sha256Hex : String → String) (G : String → String → Prop) (keys : Keys) : Prop :=
  ∀ id subject, G id subject → ∃ r ∈ keys.rows, r.id = id ∧ r.status ≠ .pendingRotation ∧
    ∀ s ∈ keys.rows, s.quotaSubjectId = r.quotaSubjectId →
      subject ∈ s.effectiveQuotaSubjectAliases sha256Hex

section

variable {sha : String → String} {issued : List (String × String)} {keys keys' : Keys}
  {G : String → String → Prop}

section

variable (hc : Covers sha G keys)

include hc

lemma Covers.edit (he : Edited keys keys' (SubjectEdit sha keys)) : Covers sha G keys' := by
  intro id subject hG
  obtain ⟨r, hr, hid, hpend, hall⟩ := hc id subject hG
  obtain ⟨r', hr', hid', hE⟩ := he.forth hr hpend
  refine ⟨r', hr', hid'.trans hid, hE.notPending hpend, fun s' hs' hsame => ?_⟩
  obtain ⟨s, hs, -, hE'⟩ := he.back s' hs'
  obtain ⟨t, ht, hsubj, halias⟩ := hE'.aliases
  refine halias _ (hall t ht ?_)
  rw [hsubj, ← hE'.subject, hsame, hE.subject]

lemma Covers.update {target : String}
    {f : SpendLimits → SpendLimits} (he : Edited keys keys' (LimitsEdit target f)) :
    Covers sha G keys' := by
  intro id subject hG
  obtain ⟨r, hr, hid, hpend, hall⟩ := hc id subject hG
  obtain ⟨r', hr', hid', hE⟩ := he.forth hr hpend
  refine ⟨r', hr', hid'.trans hid, hE.notPending hpend, fun s' hs' hsame => ?_⟩
  obtain ⟨s, hs, hsid, hE'⟩ := he.back s' hs'
  have hsubj := hall s hs (by rw [← hE'.subject, hsame, hE.subject])
  rw [mem_effectiveQuotaSubjectAliases] at hsubj ⊢
  rwa [hE'.aliases, ApiKeyRecord.effectiveQuotaSubjectId, hE'.subject, hsid]

lemma Covers.add (h : Seeded sha keys) (hinj : Function.Injective sha)
    (he : Edited keys keys1 fun r s => s = r) (hid : n.id = "key_" ++ uuid)
    (hfresh : ∀ s ∈ keys.rows, s.id ≠ n.id) (hnew : NewSubject sha keys1 n) :
    Covers sha G (keys1.put n) := by
  have hback : ∀ s ∈ keys1.rows, s ∈ keys.rows := by
    intro s hs
    obtain ⟨r, hr, -, rfl⟩ := he.back s hs
    exact hr
  intro id subject hG
  obtain ⟨r, hr, hrid, hpend, hall⟩ := hc id subject hG
  obtain ⟨r', hr', -, rfl⟩ := he.forth hr hpend
  refine ⟨r', mem_put_iff.2 (.inr ⟨hr', hfresh r' hr⟩), hrid, hpend, fun s hs hsame => ?_⟩
  rcases mem_put_iff.1 hs with rfl | ⟨hs, -⟩
  · cases hnew with
    | own hsubj =>
      rw [hid] at hfresh hsubj
      exact absurd (hsame.symm.trans hsubj) (h.fresh hinj hfresh hr)
    | @copied current hcurr _ hsubj _ _ halias =>
      exact halias _ (hall current (hback current hcurr) (hsubj.symm.trans hsame))
  · exact hall s (hback s hs) hsame

lemma Covers.enroll (h : Seeded sha keys) (hinj : Function.Injective sha)
    (hid : record.id = "key_" ++ uuid) (hfresh : ∀ s ∈ keys.rows, s.id ≠ record.id)
    (huser : record.principalType = .user) : Covers sha G (enroll sha keys record) := by
  intro id subject hG
  obtain ⟨r, hr, hrid, hpend, hall⟩ := hc id subject hG
  have hr' : enrolled sha keys record r ∈ (Control.enroll sha keys record).rows :=
    (mem_enroll hfresh huser).2 ⟨r, .inr hr, rfl⟩
  refine ⟨_, hr', (enrolled_id r).trans hrid, by rwa [enrolled_status], fun s' hs' hsame => ?_⟩
  have howner := (h.enroll hid hfresh huser).sameOwner hinj hs' hr' hsame
  obtain ⟨s, hs, rfl⟩ := (mem_enroll hfresh huser).1 hs'
  have hown := (((enrolled_owner s).symm.trans howner).trans (enrolled_owner r)).isUserKeyOf
    record.userId
  unfold enrolled at hsame ⊢
  rw [hown] at hsame ⊢
  split at hsame <;> rename_i hjoin
  · -- the aliases of the owner are those of all the owner's keys
    rw [if_pos hjoin]
    have hmem : subject ∈ ownerAliases sha keys record := by
      rw [ownerAliases, mem_sortDedup]
      refine mem_append_left _ (mem_append_right _ (mem_flatMap.2 ⟨r, ?_, ?_⟩))
      · exact mem_filter.2 ⟨hr, hjoin⟩
      · exact hall r hr rfl
    exact mem_effectiveQuotaSubjectAliases.2 (.inl hmem)
  · rw [if_neg hjoin]
    rcases hs with rfl | hs
    · simp [isUserKeyOf, huser] at hown
      simp [isUserKeyOf, hown] at hjoin
    · exact hall s hs hsame

end

lemma SubjectStep.covers (hstep : SubjectStep sha keys keys') (h : Seeded sha keys)
    (hinj : Function.Injective sha) (hc : Covers sha G keys) :
    Covers sha G keys' := by
  cases hstep with
  | edit he => exact hc.edit he
  | add he hid hfresh hnew => exact hc.add h hinj he hid hfresh hnew
  | enroll hid hfresh huser => exact hc.enroll h hinj hid hfresh huser

lemma Path.covers {allowed : ControlInner → Operation → Prop}
    (hrout : ∀ inner op, allowed inner op → Routed inner op)
    (hinj : Function.Injective sha) (hpath : Path sha allowed issued inner inner')
    (hlin : Lineage sha issued inner.apiKeys) (h : Subjects sha inner.apiKeys)
    (hc : Covers sha G inner.apiKeys) : Covers sha G inner'.apiKeys := by
  induction hpath with
  | refl => exact hc
  | tail hpath hchange ih =>
    have hlin' := Path.lineage_of hpath hlin
    have h' := Path.subjects hrout hinj hpath hlin h
    rcases hchange.subjectStep hrout hlin' h' with hstep | ⟨-, target, f, he⟩
    · exact hstep.covers h'.toSeeded hinj ih
    · exact ih.update he

end

/-! ### Limits are not loosened -/

/-- The records of a subject have limits at least as strict as `L`, and the subject is taken: no new
key can come by it otherwise. -/
structure SubjectBound (sha256Hex : String → String) (subject : String) (L : SpendLimits)
    (keys : Keys) : Prop where
  rooted : ∃ o ∈ keys.rows, o.status ≠ .pendingRotation ∧
    (subject = quotaSubjectForSeed sha256Hex o.id ∨ o.principalType = .user ∧
      subject = quotaSubjectForSeed sha256Hex ("self-service-user:" ++ o.userId))
  tight : ∀ r ∈ keys.rows, r.quotaSubjectId = subject → r.limits.Stricter L

/-- A key has limits at least as strict as `L`. -/
def KeyBound (id : String) (L : SpendLimits) (keys : Keys) : Prop :=
  ∃ r ∈ keys.rows, r.id = id ∧ r.status ≠ .pendingRotation ∧ r.limits.Stricter L

section

variable {sha : String → String} {issued : List (String × String)} {keys keys' : Keys}
  {subject id : String} {L : SpendLimits}

section

variable (hb : SubjectBound sha subject L keys)

include hb

lemma SubjectBound.edit (he : Edited keys keys' (SubjectEdit sha keys)) :
    SubjectBound sha subject L keys' where
  rooted := by
    obtain ⟨o, ho, hpend, hroot⟩ := hb.rooted
    obtain ⟨o', ho', hid, hE⟩ := he.forth ho hpend
    refine ⟨o', ho', hE.notPending hpend, ?_⟩
    rwa [hid, hE.owner.1, hE.owner.2]
  tight s hs hsame := by
    obtain ⟨r, hr, -, hE⟩ := he.back s hs
    rw [hE.limits]
    exact hb.tight r hr (hE.subject.symm.trans hsame)

lemma SubjectBound.add (hinj : Function.Injective sha)
    (he : Edited keys keys1 fun r s => s = r) (hid : n.id = "key_" ++ uuid)
    (hfresh : ∀ s ∈ keys.rows, s.id ≠ n.id) (hnew : NewSubject sha keys1 n) :
    SubjectBound sha subject L (keys1.put n) := by
  have hback : ∀ s ∈ keys1.rows, s ∈ keys.rows := by
    intro s hs
    obtain ⟨r, hr, -, rfl⟩ := he.back s hs
    exact hr
  obtain ⟨o, ho, hpend, hroot⟩ := hb.rooted
  refine ⟨⟨o, ?_, hpend, hroot⟩, fun s hs hsame => ?_⟩
  · obtain ⟨o', ho', -, rfl⟩ := he.forth ho hpend
    exact mem_put_iff.2 (.inr ⟨ho', hfresh o' ho⟩)
  · rcases mem_put_iff.1 hs with rfl | ⟨hs, -⟩
    · cases hnew with
      | own hsubj =>
        have hseed := hsubj.symm.trans hsame
        rcases hroot with hroot | ⟨-, hroot⟩
        · exact absurd (quotaSubjectForSeed_injective hinj (hseed.trans hroot)).symm (hfresh o ho)
        · have hself := quotaSubjectForSeed_injective hinj (hseed.trans hroot)
          exact absurd (hself.symm.trans hid) (selfService_ne_key _ _)
      | @copied current hcurr _ hsubj _ hlim =>
        rw [hlim]
        exact hb.tight current (hback current hcurr) (hsubj.symm.trans hsame)
    · exact hb.tight s (hback s hs) hsame

lemma SubjectBound.enroll (h : Seeded sha keys) (hinj : Function.Injective sha)
    (hfresh : ∀ s ∈ keys.rows, s.id ≠ record.id) (huser : record.principalType = .user) :
    SubjectBound sha subject L (enroll sha keys record) := by
  obtain ⟨o, ho, hpend, hroot⟩ := hb.rooted
  refine ⟨⟨_, (mem_enroll hfresh huser).2 ⟨o, .inr ho, rfl⟩, by rwa [enrolled_status], ?_⟩, ?_⟩
  · rwa [enrolled_id, (enrolled_owner o).1, (enrolled_owner o).2]
  · intro s' hs' hsame
    obtain ⟨s, hs, rfl⟩ := (mem_enroll hfresh huser).1 hs'
    unfold enrolled at hsame ⊢
    split at hsame <;> rename_i hjoin
    · rw [if_pos hjoin]
      have howner : ownerSubject sha keys record.userId = subject := hsame
      unfold ownerSubject at howner
      cases hfirst : (keys.rows.filter (isUserKeyOf record.userId)).argmin
          fun r => toLex (r.createdAtMs, r.id) with
      | none =>
        -- an owner without keys gets the owner's own subject, which is not taken
        rw [hfirst] at howner
        rcases hroot with hroot | ⟨hkind, hroot⟩
        · obtain ⟨uuid, huuid⟩ := h.drawn o ho
          have hself := quotaSubjectForSeed_injective hinj (howner.trans hroot)
          exact absurd (hself.trans huuid) (selfService_ne_key _ _)
        · have hself := quotaSubjectForSeed_injective hinj (howner.trans hroot)
          have hown : isUserKeyOf record.userId o := by
            simp only [isUserKeyOf, hkind]
            simpa using hself.symm
          have hmem := mem_filter.2 ⟨ho, hown⟩
          rw [argmin_eq_none.1 hfirst] at hmem
          cases hmem
      | some m =>
        obtain ⟨hm, hown⟩ := mem_filter.1 (argmin_mem hfirst)
        rw [hfirst] at howner
        have hsubj : m.quotaSubjectId = subject := (h.effective hm).symm.trans howner
        exact (ownerLimits_stricter hm hown).trans (hb.tight m hm hsubj)
    · rw [if_neg hjoin]
      rcases hs with rfl | hs
      · simp [isUserKeyOf, huser] at hjoin
      · exact hb.tight s hs hsame

end

lemma SubjectStep.subjectBound (hstep : SubjectStep sha keys keys')
    (h : Seeded sha keys) (hinj : Function.Injective sha)
    (hb : SubjectBound sha subject L keys) : SubjectBound sha subject L keys' := by
  cases hstep with
  | edit he => exact hb.edit he
  | add he hid hfresh hnew => exact hb.add hinj he hid hfresh hnew
  | enroll hid hfresh huser => exact hb.enroll h hinj hfresh huser

lemma SubjectStep.keyBound (hstep : SubjectStep sha keys keys') (hb : KeyBound id L keys) :
    KeyBound id L keys' := by
  obtain ⟨r, hr, hid, hpend, hstr⟩ := hb
  cases hstep with
  | edit he =>
    obtain ⟨r', hr', hid', hE⟩ := he.forth hr hpend
    exact ⟨r', hr', hid'.trans hid, hE.notPending hpend, hE.limits ▸ hstr⟩
  | add he _ hfresh _ =>
    obtain ⟨r', hr', -, rfl⟩ := he.forth hr hpend
    exact ⟨r', mem_put_iff.2 (.inr ⟨hr', hfresh r' hr⟩), hid, hpend, hstr⟩
  | @enroll record uuid _ hfresh huser =>
    refine ⟨_, (mem_enroll hfresh huser).2 ⟨r, .inr hr, rfl⟩, (enrolled_id r).trans hid,
      by rwa [enrolled_status], ?_⟩
    unfold enrolled
    split
    · rename_i hown
      exact (ownerLimits_stricter hr hown).trans hstr
    · exact hstr

/-- The call is made as the routes make it, and it is no update. -/
def NoUpdate (inner : ControlInner) (op : Operation) : Prop := Routed inner op ∧ ¬ op.IsUpdate

lemma Change.subjectStep_noUpdate (hchange : Change sha NoUpdate issued inner inner')
    (hlin : Lineage sha issued inner.apiKeys) (h : Subjects sha inner.apiKeys) :
    SubjectStep sha inner.apiKeys inner'.apiKeys := by
  rcases hchange.subjectStep (fun _ _ hop => hop.1) hlin h with hstep | ⟨⟨op, hupd, hno⟩, -⟩
  · exact hstep
  · exact absurd hupd hno.2

/-- Without updates the keys keep what every step keeps. -/
lemma Path.subjectSteps (hinj : Function.Injective sha)
    (hpath : Path sha NoUpdate issued inner inner')
    (hlin : Lineage sha issued inner.apiKeys) (h : Subjects sha inner.apiKeys)
    {P : Keys → Prop} (hkeep : ∀ {keys keys'}, SubjectStep sha keys keys' →
      Seeded sha keys → P keys → P keys') (hP : P inner.apiKeys) : P inner'.apiKeys := by
  induction hpath with
  | refl => exact hP
  | tail hpath hchange ih =>
    have h' := Path.subjects (fun _ _ hop => hop.1) hinj hpath hlin h
    have hstep := hchange.subjectStep_noUpdate (Path.lineage_of hpath hlin) h'
    exact hkeep hstep h'.toSeeded ih

/-- The limits a key is used under are its own: those of its subject. -/
lemma Subjects.effectiveLimits (h : Subjects sha keys)
    (hr : r ∈ keys.rows) : effectiveLimits keys r = r.limits := by
  have hfold : ∀ (records : List ApiKeyRecord), (∀ s ∈ records, s.limits = r.limits) →
      records.foldl (fun limits s => limits.inherit s.limits) r.limits = r.limits := by
    intro records hall
    induction records with
    | nil => rfl
    | cons s records ih =>
      rw [foldl_cons, hall s mem_cons_self, SpendLimits.inherit_self]
      exact ih fun t ht => hall t (mem_cons_of_mem s ht)
  refine hfold _ fun s hs => ?_
  obtain ⟨hs, hsame⟩ := mem_filter.1 hs
  rw [decide_eq_true_eq, h.effective hs, h.effective hr] at hsame
  exact h.limits s hs r hr hsame

lemma Subjects.subjectBound (h : Subjects sha keys)
    (hlin : Lineage sha issued keys) (hr : r ∈ keys.rows) :
    SubjectBound sha r.quotaSubjectId r.limits keys := by
  refine ⟨?_, fun s hs hsame => h.limits s hs r hr hsame ▸ .refl _⟩
  obtain ⟨seed, hseed, ⟨huser, hself⟩ | ⟨o, ho, hpend, hid, -⟩⟩ := h.seed r hr
  · -- a prepared rotation has an owner in common with its source
    by_cases hpend : r.status = .pendingRotation
    · obtain ⟨source, hsrc⟩ := Option.isSome_iff_exists.1 (hlin.pending r hr hpend)
      obtain ⟨s, hs, -, hIs⟩ := hlin.rotated r hr source hsrc
      refine ⟨s, hs, hIs.notPending, .inr ⟨hIs.principalType.trans huser, ?_⟩⟩
      rw [hseed, hself, hIs.userId]
    · exact ⟨r, hr, hpend, .inr ⟨huser, by rw [hseed, hself]⟩⟩
  · exact ⟨o, ho, hpend, .inl (by rw [hseed, hid])⟩

end

/-! ### The control store and the ledger -/

/-- What `check_quotas` answers when the key's policy admits the request. -/
def usagePolicySnapshot (identity : ClientIdentity) (quotas : List UsageQuotaLimit) :
    UsagePolicySnapshot :=
  if identity.enforceQuotas then
    { userId := identity.userId
      username := identity.username
      apiKeyId := identity.apiKeyId
      quotaSubjectId := identity.quotaSubjectId
      quotaSubjectAliases := identity.quotaSubjectAliases
      teamId := identity.teamId.or identity.apiKeyPolicy.teamId
      apiKeyPolicy := identity.apiKeyPolicy
      quotas := quotas }
  else {}

/-- The client that presents the gateway's own token; it has no key and no quotas. -/
def legacyIdentity : Gateway.ClientIdentity where
  userId := "usr_local_admin"
  username := "local-admin"
  apiKeyId := none
  quotaSubjectId := none
  apiKeyName := some "MODELPORT_AUTH_TOKEN"
  apiKeyGroup := some "legacy"
  teamId := none
  teamName := none

/-- A request in the ledger, with the client it was begun for. -/
structure Charge where
  tenant : TenantKey
  ledgerId : String
  identity : ClientIdentity

/-- The control store and the ledger, with the clients accepted so far and the requests that were
begun for them. -/
structure Metered where
  history : History
  granted : List ClientIdentity
  charges : List Charge
  ledger : Sys Ledger Lock AppError Ledger.TimedCall

namespace Metered

abbrev keys (m : Metered) : Keys := m.history.store.memory.apiKeys

/-- What the handlers may call, apart from beginning a request for a client with a key: an attempt
is begun under the policy of the client of its request. -/
def Calls (charges : List Charge) : Ledger.Call → Prop
  | .beginRequest b => ∃ p : Gateway.Prepared, p.identity = legacyIdentity ∧
      b.metadata = p.claim.metadata
  | .beginAttempt b => b.usagePolicy = {} ∨ ∃ c ∈ charges, c.tenant = b.request.tenant ∧
      c.ledgerId = b.request.ledgerId ∧ ∃ quotas,
        b.usagePolicy = usagePolicySnapshot c.identity quotas
  | _ => True

/-- Operations on keys and the transactions of any number of requests, in any order. -/
inductive Step (sha256Hex : String → String) : Metered → Metered → Prop
  | control {m : Metered} {h : History} (hstep : Control.Step sha256Hex Routed m.history h) :
      Step sha256Hex m { m with history := h }
  | accept {m : Metered} {headers : ClientHeaders} {now : ℕ} {identity : ClientIdentity}
      (hacc : authenticateHeaders sha256Hex headers now m.history.store.memory
        = .ok (.answer (some identity))) :
      Step sha256Hex m { m with granted := identity :: m.granted }
  | request {m : Metered} {i : ℕ} {now : Timestamp} {b : Ledger.BeginRequest} {p : Gateway.Prepared}
      {identity : ClientIdentity} {s : Sys Ledger Lock AppError Ledger.TimedCall}
      (hgrant : identity ∈ m.granted) (hprep : p.identity = identity.toClientIdentity)
      (hclaim : b.metadata = p.claim.metadata)
      (hstep : Transaction.Step (Ledger.TimedCall.program sha256Hex) m.ledger
        (.start i (now, .beginRequest b)) s) :
      Step sha256Hex m
        { m with charges := ⟨b.tenant, b.ledgerId, identity⟩ :: m.charges, ledger := s }
  | ledger {m : Metered} {l : Label Ledger.TimedCall AppError}
      {s : Sys Ledger Lock AppError Ledger.TimedCall}
      (hcall : ∀ i call, l = .start i call → Calls m.charges call.2)
      (hstep : Transaction.Step (Ledger.TimedCall.program sha256Hex) m.ledger l s) :
      Step sha256Hex m { m with ledger := s }

/-- A new deployment, on a database without requests. -/
def start (d : Ledger) : Metered := ⟨initial, [], [], Sys.idle d⟩

def Reachable (sha256Hex : String → String) (m : Metered) : Prop :=
  ∃ d : Ledger, d.requests.rows = [] ∧ d.usage.rows = [] ∧
    ReflTransGen (Step sha256Hex) (start d) m

/-! ### Who is charged -/

/-- The request names no key, or the key and the subject of the client it was begun for. -/
def ChargedRequest (charges : List Charge) (o : Ledger.RequestOrigin) : Prop :=
  o.2.2.1.apiKeyId = none ∨ ∃ c ∈ charges, c.tenant = o.2.1 ∧ c.ledgerId = o.1 ∧
    o.2.2.1.apiKeyId = c.identity.apiKeyId ∧ o.2.2.1.quotaSubjectId = c.identity.quotaSubjectId

/-- The reservation has the subject of the client its request was begun for. -/
def ChargedUsage (charges : List Charge) (o : Ledger.UsageOrigin) : Prop :=
  ∃ c ∈ charges, c.tenant = o.1 ∧ c.ledgerId = o.2.1 ∧ o.2.2.1 = c.identity.quotaSubjectId

section

variable {charges : List Charge} {c : Charge}

lemma ChargedRequest.cons {o : Ledger.RequestOrigin} (h : ChargedRequest charges o) :
    ChargedRequest (c :: charges) o := by
  refine h.imp_right ?_
  rintro ⟨d, hd, hd'⟩
  exact ⟨d, mem_cons_of_mem c hd, hd'⟩

lemma ChargedUsage.cons {o : Ledger.UsageOrigin} (h : ChargedUsage charges o) :
    ChargedUsage (c :: charges) o := by
  obtain ⟨d, hd, hd'⟩ := h
  exact ⟨d, mem_cons_of_mem c hd, hd'⟩

end

/-- The accepted clients as `Covers` wants them. -/
def Granted (granted : List ClientIdentity) (id subject : String) : Prop :=
  ∃ j ∈ granted, j.apiKeyId = some id ∧ j.quotaSubjectId = some subject

/-- What holds of keys, clients and rows at any time. -/
structure Inv (sha256Hex : String → String) (m : Metered) : Prop where
  sound : Sound sha256Hex Routed emptyInner m.history
  subjects : Subjects sha256Hex m.keys
  covers : Covers sha256Hex (Granted m.granted) m.keys
  named : ∀ j ∈ m.granted, ∃ r inner, j = identityOf sha256Hex r inner
  accepted : ∀ c ∈ m.charges, c.identity ∈ m.granted
  requests : ∀ r ∈ m.ledger.committed.requests.rows,
    ChargedRequest m.charges (Ledger.requestOrigin r)
  usage : ∀ u ∈ m.ledger.committed.usage.rows, ChargedUsage m.charges (Ledger.usageOrigin u)
  writing : m.ledger.Writing
    (Ledger.Originates (ChargedRequest m.charges) (ChargedUsage m.charges))

section

variable {sha : String → String} {m m' : Metered}
  {s : Sys Ledger Lock AppError Ledger.TimedCall}

lemma inv_start {d : Ledger} (hreq : d.requests.rows = []) (husage : d.usage.rows = []) :
    (start d).Inv sha where
  sound := sound_initial
  subjects := subjects_empty
  covers := by rintro id subject ⟨j, hj, -⟩; cases hj
  named j hj := by cases hj
  accepted c hc := by cases hc
  requests r hr := by
    have hr' : r ∈ d.requests.rows := hr
    rw [hreq] at hr'
    cases hr'
  usage u hu := by
    have hu' : u ∈ d.usage.rows := hu
    rw [husage] at hu'
    cases hu'
  writing i t ht := by cases ht

/-- What a step of the ledger keeps, given that started calls bring rows that are charged. -/
lemma Inv.ledger (h : m.Inv sha) {l : Label Ledger.TimedCall AppError}
    (hstep : Transaction.Step (Ledger.TimedCall.program sha) m.ledger l s)
    (hcall : ∀ i call, l = .start i call →
      Ledger.Call.Brings (ChargedRequest m.charges) (ChargedUsage m.charges) call.1 call.2) :
    Inv sha { m with ledger := s } := by
  obtain ⟨hwriting, hcommitted⟩ := h.writing.step .refl (fun _ _ hv hw => hv.comp hw)
    (fun i call hl => Ledger.Call.originates sha (hcall i call hl)) hstep
  refine ⟨h.sound, h.subjects, h.covers, h.named, h.accepted, ?_, ?_, hwriting⟩
  · intro r hr
    rcases hcommitted with hsame | ⟨w, hw, hnext⟩
    · exact h.requests r (hsame ▸ hr)
    · have hr' := hnext ▸ hr
      rcases hw.requests _ r hr' with hchg | ⟨r0, hr0, horig⟩
      · exact hchg
      · exact horig ▸ h.requests r0 hr0
  · intro u hu
    rcases hcommitted with hsame | ⟨w, hw, hnext⟩
    · exact h.usage u (hsame ▸ hu)
    · have hu' := hnext ▸ hu
      rcases hw.usage _ u hu' with hchg | ⟨u0, hu0, horig⟩
      · exact hchg
      · exact horig ▸ h.usage u0 hu0

lemma Inv.charge (h : m.Inv sha) {c : Charge} (hc : c.identity ∈ m.granted) :
    Inv sha { m with charges := c :: m.charges } where
  sound := h.sound
  subjects := h.subjects
  covers := h.covers
  named := h.named
  accepted := forall_mem_cons.2 ⟨hc, h.accepted⟩
  requests r hr := (h.requests r hr).cons
  usage u hu := (h.usage u hu).cons
  writing := h.writing.mono fun _ hw => hw.mono (fun _ ho => ho.cons) fun _ ho => ho.cons

lemma Inv.brings (h : m.Inv sha) {call : Ledger.Call} {now : Timestamp}
    (hcall : Calls m.charges call) :
    call.Brings (ChargedRequest m.charges) (ChargedUsage m.charges) now := by
  cases call with
  | beginRequest b =>
    obtain ⟨p, hident, hclaim⟩ := hcall
    refine .inl ?_
    rw [hclaim, Gateway.Prepared.claim, hident]
    rfl
  | beginAttempt b =>
    intro hreserves
    rcases hcall with hnone | ⟨c, hc, hten, hid, quotas, hpol⟩
    · rw [hnone] at hreserves
      cases hreserves
    · refine ⟨c, hc, hten, hid, ?_⟩
      obtain ⟨r, inner, hr⟩ := h.named _ (h.accepted c hc)
      rw [hpol, hr]
      rfl
  | finalizeAttempt | finalizeRequest | renewLease | reconcileExpired | updateBudget |
      adjustBudget => trivial

lemma Inv.step (hinj : Function.Injective sha) (h : m.Inv sha)
    (hstep : Step sha m m') : m'.Inv sha := by
  have hrout : ∀ inner op, Routed inner op → Routed inner op := fun _ _ hop => hop
  cases hstep with
  | control hstep =>
    obtain ⟨hsound, hpath⟩ := h.sound.step hstep
    have hlin := h.sound.lineage.mono (issued_step hstep)
    exact ⟨hsound, Path.subjects hrout hinj hpath hlin h.subjects,
      Path.covers hrout hinj hpath hlin h.subjects h.covers, h.named, h.accepted,
      h.requests, h.usage, h.writing⟩
  | accept hacc =>
    obtain ⟨r, hr, hact, rfl⟩ := accepted_identity hacc
    refine ⟨h.sound, h.subjects, ?_, ?_, ?_, h.requests, h.usage, h.writing⟩
    · rintro id subject ⟨j, hj, hid, hsubj⟩
      rcases mem_cons.1 hj with rfl | hj
      · refine ⟨r, hr, Option.some.inj hid, by simp [hact], fun s hs hsame => ?_⟩
        rw [mem_effectiveQuotaSubjectAliases, h.subjects.effective hs, hsame]
        refine .inr (.inr (.inr ?_))
        exact (Option.some.inj hsubj).symm.trans (h.subjects.effective hr)
      · exact h.covers id subject ⟨j, hj, hid, hsubj⟩
    · exact forall_mem_cons.2 ⟨⟨r, _, rfl⟩, h.named⟩
    · exact fun c hc => mem_cons_of_mem _ (h.accepted c hc)
  | @request i now b p identity s hgrant hprep hclaim hstep =>
    have hchg : Inv sha
        { m with charges := ⟨b.tenant, b.ledgerId, identity⟩ :: m.charges } := h.charge hgrant
    refine hchg.ledger hstep ?_
    rintro j call hl
    cases hl
    refine .inr ⟨_, mem_cons_self, rfl, rfl, ?_⟩
    simp only [hclaim, Gateway.Prepared.claim, hprep, and_self]
  | ledger hcall hstep => exact h.ledger hstep fun i call hl => h.brings (hcall i call hl)

lemma run_moves {P : Protocol Ledger Lock AppError Ledger.TimedCall}
    [∀ c lg d d', Decidable (P.ok c lg d d')]
    [∀ c lg d me held, Decidable (P.apart c lg d me held)] {n : ℕ}
    {moves : List (Move Ledger.TimedCall)}
    (hmoves : ∀ j call, .start j call ∈ moves → Calls m.charges call.2) (h : m.ledger.Within n)
    (hplay : m.ledger.play (Ledger.TimedCall.program sha) n P moves = some s) :
    ReflTransGen (Step sha) m { m with ledger := s } := by
  have hrun := Sys.play_run (fun s l s' hstep hl => Step.ledger (m := { m with ledger := s }) hl
    hstep) hmoves h hplay
  exact ReflTransGen.lift (fun s => { m with ledger := s }) (fun _ _ hstep => hstep) _ _ hrun

lemma Reachable.inv (hinj : Function.Injective sha) (hreach : Reachable sha m) : m.Inv sha := by
  obtain ⟨d, hreq, husage, hrun⟩ := hreach
  induction hrun with
  | refl => exact inv_start hreq husage
  | tail _ hstep ih => exact ih.step hinj hstep

/-- A subject that a key was accepted under counts for every accepted key that now has the subject
of that key. -/
lemma Inv.counts (h : m.Inv sha) {s : ApiKeyRecord} (hr : r ∈ m.keys.rows)
    (hs : s ∈ m.keys.rows) (hsame : s.effectiveQuotaSubjectId = r.effectiveQuotaSubjectId)
    {j : ClientIdentity} (hj : j ∈ m.granted) (hid : j.apiKeyId = some s.id) (inner : ControlInner)
    (quotas : List UsageQuotaLimit) (team : Option String) :
    inSubjects (effectiveQuotaSubjectAliases
      (usagePolicySnapshot (identityOf sha r inner) quotas)) j.quotaSubjectId team := by
  obtain ⟨r', inner', hnamed⟩ := h.named j hj
  have hsubj : j.quotaSubjectId = some r'.effectiveQuotaSubjectId := by rw [hnamed]; rfl
  obtain ⟨s', hs', hid', -, hall⟩ := h.covers s.id _ ⟨j, hj, hid, hsubj⟩
  obtain rfl := eq_of_id hs' hs hid'
  rw [h.subjects.effective hs, h.subjects.effective hr] at hsame
  have hmem := hall r hr hsame.symm
  have hmem' : r'.effectiveQuotaSubjectId ∈ effectiveQuotaSubjectAliases
      (usagePolicySnapshot (identityOf sha r inner) quotas) := by
    rw [effectiveQuotaSubjectAliases, mem_sortDedup]
    exact mem_append_left _ (mem_append_left _ hmem)
  simpa [inSubjects, hsubj] using hmem'

end

end Metered

/-! ### The all-time spend -/

section

variable {policy : UsagePolicySnapshot} {d : Ledger}

/-- The all-time spend of the subjects of a policy. -/
def allTimeMicrounits (policy : UsagePolicySnapshot) (d : Ledger) : ℤ :=
  spendMicrounits d (inSubjects (effectiveQuotaSubjectAliases policy)) none

/-- **An amount is part of the all-time spend** that the policy's limit is held against: the spend
is this much more than it would be in `rest`. -/
structure PartOfSpend (policy : UsagePolicySnapshot) (d rest : Ledger) (amount : ℤ) : Prop where
  total : ∀ now totals, usageSpendTotals policy now d = .ok totals →
    totals.apiKeyAllTime = microunitsUsd (allTimeMicrounits policy d)
  summand : allTimeMicrounits policy d = amount + allTimeMicrounits policy rest

lemma apiKeyAllTime_eq {now : Timestamp} {totals : UsageSpendTotals}
    (h : usageSpendTotals policy now d = .ok totals) :
    totals.apiKeyAllTime = microunitsUsd (allTimeMicrounits policy d) := by
  simp only [usageSpendTotals, Except.bind_eq_ok] at h
  obtain ⟨allTime, hallTime, _, -, _, -, _, -, _, -, _, -, _, -, h⟩ := h
  rw [← Except.ok.inj h, allTimeMicrounits, bigint_eq_ok hallTime]

/-- A finished chargeable request in scope. -/
lemma partOfSpend_request {row : RequestRow} (hrow : row ∈ d.requests.rows)
    (hcnt : row.counts)
    (hscope : inSubjects (effectiveQuotaSubjectAliases policy) row.metadata.quotaSubjectId
      row.metadata.teamId) :
    PartOfSpend policy d (d.setRequests (d.requests.erase row))
      (row.record.billableCostMicrounits.getD 0) := by
  refine ⟨fun _ _ => apiKeyAllTime_eq, ?_⟩
  rw [allTimeMicrounits, spendMicrounits, usageTotal, Table.total_erase hrow, hcnt, hscope,
    add_assoc]
  rfl

/-- An open reservation in scope. -/
lemma partOfSpend_usage {row : UsageRow} (hrow : row ∈ d.usage.rows) (hopen : row.state = .reserved)
    (hscope : inSubjects (effectiveQuotaSubjectAliases policy) row.quotaSubjectId row.teamId) :
    PartOfSpend policy d (d.setUsage (d.usage.erase row)) row.reservedCostMicrounits := by
  refine ⟨fun _ _ => apiKeyAllTime_eq, ?_⟩
  rw [allTimeMicrounits, spendMicrounits, usageTotal, Table.total_erase hrow, hopen, hscope,
    add_left_comm]
  rfl

end

/-! ### Rotation never resets spend -/

/-- The limits of a policy. -/
def policyLimits (policy : ApiKeyPolicy) : SpendLimits where
  spendLimitUsd := policy.spendLimitUsd
  rateLimited := policy.rateLimited
  fiveHourLimitUsd := policy.fiveHourLimitUsd
  dailyLimitUsd := policy.dailyLimitUsd
  weeklyLimitUsd := policy.weeklyLimitUsd
  monthlyLimitUsd := policy.monthlyLimitUsd

/-- No run loosens limits without an update. -/
lemma stricter_of_run {sha : String → String} (hinj : Function.Injective sha)
    {h0 h h' : History} (hreach : Reachable sha Routed h0)
    (hsync : h0.store.documentRevision = h0.store.revision)
    (hbef : Run sha NoUpdate h0 h) (hrun : Run sha NoUpdate h h')
    {s : ApiKeyRecord} (hr : r ∈ h.store.memory.apiKeys.rows)
    (hs : s ∈ h'.store.memory.apiKeys.rows)
    (hsame : s.effectiveQuotaSubjectId = r.effectiveQuotaSubjectId ∨
      s.id = r.id ∧ r.status ≠ .pendingRotation) :
    (effectiveLimits h'.store.memory.apiKeys s).Stricter
      (effectiveLimits h.store.memory.apiKeys r) := by
  have hrout : ∀ inner op, NoUpdate inner op → Routed inner op := fun _ _ hop => hop.1
  have hsubjects0 := hreach.subjects hinj
  -- since the document was in step no update was made, so that a restart cannot bring one back
  have hsound0 : Sound sha NoUpdate h0.store.memory h0 := by
    refine ⟨ReflTransGen.refl, hreach.sound.lineage, ?_, hreach.sound.ids, hreach.sound.secrets⟩
    obtain ⟨d, hd, hstep | ⟨hrev, -⟩⟩ := hreach.sound.follows
    · exact ⟨d, hd, Or.inl hstep⟩
    · exact absurd hsync hrev
  obtain ⟨hsound, hiss, hpath0⟩ := hsound0.run hbef
  obtain ⟨hsound', -, hpath⟩ := hsound.run hrun
  have hsubjects := Path.subjects hrout hinj hpath0 (hsound0.lineage.mono hiss) hsubjects0
  have hlin := hsound.lineage.mono ((hsound.run hrun).2.1)
  have hsubjects' := Path.subjects hrout hinj hpath hlin hsubjects
  rw [hsubjects.effectiveLimits hr, hsubjects'.effectiveLimits hs]
  rcases hsame with hsame | ⟨hid, hpend⟩
  · rw [hsubjects.effective hr, hsubjects'.effective hs] at hsame
    have hbound := hsubjects.subjectBound hsound.lineage hr
    have hbound' := Path.subjectSteps hinj hpath hlin hsubjects
      (fun hstep h => hstep.subjectBound h hinj) hbound
    exact hbound'.tight s hs hsame
  · have hbound : KeyBound r.id r.limits h.store.memory.apiKeys :=
      ⟨r, hr, rfl, hpend, .refl _⟩
    obtain ⟨s', hs', hid', -, hstr⟩ := Path.subjectSteps hinj hpath hlin hsubjects
      (fun hstep _ => hstep.keyBound) hbound
    rwa [eq_of_id hs hs' (hid.trans hid'.symm)]

/-- **Rotation never resets spend.** In every run of operations on keys interleaved with requests, a
client that is accepted is limited as its key's subject is, and every finished chargeable request
of a key that now has that subject, and every open reservation for one, is part of its all-time
spend. Keys of a subject have the same limits. A subject's limits, and a key's, are never looser
than at an earlier time, unless an update was called after the last time at which the document had
been in step before it. -/
theorem rotation_keeps_spend {sha256Hex : String → String} (hinj : Function.Injective sha256Hex) :
    (∀ m : Metered, m.Reachable sha256Hex → (∀ headers now identity quotas,
        authenticateHeaders sha256Hex headers now m.history.store.memory
          = .ok (.answer (some identity)) → ∃ r ∈ m.keys.rows, identity.apiKeyId = some r.id ∧
          policyLimits identity.apiKeyPolicy = effectiveLimits m.keys r ∧
          ∀ s ∈ m.keys.rows, s.effectiveQuotaSubjectId = r.effectiveQuotaSubjectId →
            (∀ row ∈ m.ledger.committed.requests.rows, row.metadata.apiKeyId = some s.id →
              row.counts → PartOfSpend (usagePolicySnapshot identity quotas)
                m.ledger.committed
                (m.ledger.committed.setRequests (m.ledger.committed.requests.erase row))
                (row.record.billableCostMicrounits.getD 0)) ∧
            ∀ row ∈ m.ledger.committed.usage.rows, ∃ c ∈ m.charges, c.tenant = row.tenant ∧
              c.ledgerId = row.requestLedgerId ∧ row.quotaSubjectId = c.identity.quotaSubjectId ∧
              (c.identity.apiKeyId = some s.id → row.state = .reserved →
                PartOfSpend (usagePolicySnapshot identity quotas) m.ledger.committed
                  (m.ledger.committed.setUsage (m.ledger.committed.usage.erase row))
                  row.reservedCostMicrounits)) ∧ ∀ r ∈ m.keys.rows, ∀ s ∈ m.keys.rows,
        r.effectiveQuotaSubjectId = s.effectiveQuotaSubjectId →
        r.limits = s.limits ∧ effectiveLimits m.keys r = effectiveLimits m.keys s) ∧
    ∀ h0 h h' : History, Reachable sha256Hex Routed h0 →
      h0.store.documentRevision = h0.store.revision → Run sha256Hex NoUpdate h0 h →
      Run sha256Hex NoUpdate h h' →
      ∀ r ∈ h.store.memory.apiKeys.rows, ∀ s ∈ h'.store.memory.apiKeys.rows,
        (s.effectiveQuotaSubjectId = r.effectiveQuotaSubjectId ∨
          s.id = r.id ∧ r.status ≠ .pendingRotation) →
        (effectiveLimits h'.store.memory.apiKeys s).Stricter
          (effectiveLimits h.store.memory.apiKeys r) := by
  refine ⟨fun m hreach => ⟨?_, ?_⟩, ?_⟩
  · intro headers now identity quotas hacc
    have hinv := hreach.inv hinj
    obtain ⟨r, hr, -, rfl⟩ := accepted_identity hacc
    refine ⟨r, hr, rfl, rfl, fun s hs hsame => ⟨?_, ?_⟩⟩
    · intro row hrow hkey hchg
      rcases hinv.requests row hrow with hnone | ⟨c, hc, -, -, hid, hsubj⟩
      · exact absurd (hnone.symm.trans hkey) (by simp)
      · have hcnt := hinv.counts hr hs hsame (hinv.accepted c hc) (hid.symm.trans hkey)
          m.history.store.memory quotas row.metadata.teamId
        rw [← hsubj] at hcnt
        exact partOfSpend_request hrow hchg hcnt
    · intro row hrow
      obtain ⟨c, hc, hten, hid, hsubj⟩ := hinv.usage row hrow
      refine ⟨c, hc, hten, hid, hsubj, fun hkey hopen => ?_⟩
      have hcnt := hinv.counts hr hs hsame (hinv.accepted c hc) hkey m.history.store.memory
        quotas row.teamId
      rw [← hsubj] at hcnt
      exact partOfSpend_usage hrow hopen hcnt
  · intro r hr s hs hsame
    have hsubjects := (hreach.inv hinj).subjects
    rw [hsubjects.effective hr, hsubjects.effective hs] at hsame
    have hlim := hsubjects.limits r hr s hs hsame
    exact ⟨hlim, by rw [hsubjects.effectiveLimits hr, hsubjects.effectiveLimits hs, hlim]⟩
  · intro h0 h h' hreach hsync hbef hrun r hr s hs hsame
    exact stricter_of_run hinj hreach hsync hbef hrun hr hs hsame

namespace Sample

/-- The created key. -/
def createdKey : ApiKeyRecord :=
  created.store.memory.apiKeys.rows.head (by decide +kernel)

/-- The client with the created key. -/
def client : ClientIdentity := identityOf mark createdKey created.store.memory

/-- A request of the client. -/
def prepared : Gateway.Prepared where
  request := Gateway.Sample.clientRequest
  identity := client.toClientIdentity
  idempotencyKey := none
  fingerprint := ""
  clientIp := none
  trafficClass := "business"
  tenant := Gateway.Sample.tenant
  requestId := "req_1"
  policy := Gateway.Sample.policy
  classification := .publicData
  mode := .cloudFirst
  evidence := Gateway.Sample.evidence
  resolved := ⟨"main", Gateway.Sample.provider "https://main", "model"⟩
  fallbacks := []

def beginRequest : Ledger.BeginRequest :=
  { Ledger.Sample.beginRequest "req" with metadata := prepared.claim.metadata }

/-- The request is begun. -/
def begun : Metered where
  history := created
  granted := [client]
  charges := [⟨beginRequest.tenant, beginRequest.ledgerId, client⟩]
  ledger := (Sys.idle Ledger.empty).put 0 (some ⟨(1, .beginRequest beginRequest), [], id,
    (Ledger.Call.beginRequest beginRequest).program mark 1⟩)

/-- It is finished, at the price of a dollar. -/
def finish : List (Move Ledger.TimedCall) :=
  [.go 0, .go 0, .go 0, .go 0, .start 0 (2, .finalizeRequest
    ⟨"req", beginRequest.tenant, beginRequest.leaseOwner⟩ (Ledger.Sample.outcome 1) none),
    .go 0, .go 0, .go 0, .go 0]

/-- The key is rotated. -/
def confirmed : History := created.play mark
  [saved (.rotate "key_1" 2 "2" "sk-mp-2"), saved (.confirm "key_1" "key_2" 3)]

lemma reachable_begun : begun.Reachable mark := by
  have hcreat : Reachable mark AnyOperation created := reachable_play (by decide +kernel)
  have hacc : authenticateHeaders mark { xApiKey := some (some "sk-mp-1") } 2
      created.store.memory = .ok (.answer (some client)) :=
    accepted hcreat.sound (head_mem _) (by decide +kernel)
      ⟨by decide +kernel, by decide +kernel, by decide +kernel⟩
  have hcontrol : Metered.Step mark (.start Ledger.empty)
      { Metered.start Ledger.empty with history := created } :=
    .control (.operate create .acknowledged trivial (by decide +kernel))
  refine ⟨Ledger.empty, rfl, rfl, ((ReflTransGen.single hcontrol).tail (.accept hacc)).tail ?_⟩
  exact .request mem_cons_self rfl rfl (.start _ rfl)

end Sample

/-- A key was used and then rotated: the request is part of the spend of the new key. -/
theorem rotation_keeps_spend_rotated :
    ∃ m : Metered, m.Reachable Sample.mark ∧ ∃ headers now identity,
      authenticateHeaders Sample.mark headers now m.history.store.memory
        = .ok (.answer (some identity)) ∧ identity.apiKeyId = some "key_2" ∧
      ∃ row ∈ m.ledger.committed.requests.rows, row.metadata.apiKeyId = some "key_1" ∧
        row.counts ∧ PartOfSpend (usagePolicySnapshot identity []) m.ledger.committed
          (m.ledger.committed.setRequests (m.ledger.committed.requests.erase row)) 1000000 := by
  have hplay : (begun.ledger.play (Ledger.TimedCall.program mark) 1 Sys.unrestricted
      finish).any fun s => decide (∃ row ∈ s.committed.requests.rows,
        row.metadata.apiKeyId = some "key_1" ∧ row.counts ∧
          row.record.billableCostMicrounits = some 1000000) := by
    decide +kernel
  obtain ⟨s, hplay, hrow⟩ := (Option.any_eq_true _ _).1 hplay
  obtain ⟨row, hrow, hkey, hcnt, hcost⟩ := of_decide_eq_true hrow
  have hfin : ∀ j call, Move.start j call ∈ finish → Metered.Calls begun.charges call.2 := by
    intro j call hmem
    simp only [finish, mem_cons, Move.start.injEq, reduceCtorEq, not_mem_nil, or_false,
      false_or] at hmem
    rw [hmem.2]
    trivial
  -- the request is finished, and then the key is rotated
  have hledg := Metered.run_moves hfin (Sys.Within.put (fun _ _ => rfl) (Or.inl one_pos)) hplay
  have hreach : Metered.Reachable mark
      { begun with ledger := s, history := confirmed } := by
    obtain ⟨d, hreq, husage, hrun⟩ := reachable_begun
    have hrotate : Run mark Routed created confirmed :=
      run_play ⟨fun _ => trivial, fun _ => trivial⟩ (by decide +kernel)
    refine ⟨d, hreq, husage, (hrun.trans hledg).trans ?_⟩
    refine ReflTransGen.lift (r := Step mark Routed)
      (fun h => { begun with ledger := s, history := h }) (fun h h' hstep => ?_) _ _ hrotate
    exact Metered.Step.control (m := { begun with ledger := s, history := h }) hstep
  have hsound := (hreach.inv mark_injective).sound
  have hlive : ∃ r ∈ confirmed.store.memory.apiKeys.rows, r.id = "key_2" ∧
      (r.id, "sk-mp-2") ∈ confirmed.issued ∧ r.status = .active ∧ r.expired 4 = false ∧
      r.teamActive confirmed.store.memory.teams := by
    decide +kernel
  obtain ⟨r, hr, hid, hiss, hact, hunexp, hteam⟩ := hlive
  have hacc := accepted hsound hr hiss ⟨hact, hunexp, hteam⟩
  have hsame : ∃ s ∈ confirmed.store.memory.apiKeys.rows, s.id = "key_1" ∧
      ∀ r ∈ confirmed.store.memory.apiKeys.rows,
        s.effectiveQuotaSubjectId = r.effectiveQuotaSubjectId := by
    decide +kernel
  obtain ⟨t, ht, htid, hsubj⟩ := hsame
  obtain ⟨r', hr', hkey', -, hspend⟩ :=
    ((rotation_keeps_spend mark_injective).1 _ hreach).1 _ _ _ [] hacc
  refine ⟨_, hreach, _, _, _, hacc, congrArg some hid, row, hrow, hkey, hcnt, ?_⟩
  have hpart := (hspend t ht (hsubj r' hr')).1 row hrow (hkey.trans (congrArg some htid.symm)) hcnt
  rwa [hcost, Option.getD_some] at hpart

end ModelPort.Control
