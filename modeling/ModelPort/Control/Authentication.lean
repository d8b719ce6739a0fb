import ModelPort.Control.Run

/-!
# Which secrets authenticate

A secret is accepted exactly while its key is live: active, unexpired, and in no team or an
active one. Two keys of one rotation lineage are never live together.

* `secrets_authenticate_while_live`: so it is on every run.
-/

namespace ModelPort.Control

open Relational Relation Sample List

variable {keys : Keys} {sha : String → String} {issued : List (String × String)}

/-! ### The index -/

section

variable {α : Type} {f g : α → String} {m : StringMap String} {l : List α}

lemma lookup_foldl_insert {k v : String}
    (h : (l.foldl (fun m a => m.insert (f a) (g a)) m).lookup k = some v) :
    (∃ a ∈ l, f a = k ∧ g a = v) ∨ m.lookup k = some v := by
  induction l generalizing m with
  | nil => exact .inr h
  | cons a l ih =>
    rcases ih h with ⟨b, hb, hb'⟩ | hm
    · exact .inl ⟨b, mem_cons_of_mem a hb, hb'⟩
    · by_cases hk : k = f a
      · subst hk
        rw [AList.lookup_insert] at hm
        exact .inl ⟨a, mem_cons_self, rfl, Option.some.inj hm⟩
      · rw [AList.lookup_insert_ne hk] at hm
        exact .inr hm

lemma lookup_foldl_insert_of_mem {k v : String}
    (hmem : (∃ a ∈ l, f a = k) ∨ m.lookup k = some v) (hall : ∀ a ∈ l, f a = k → g a = v) :
    (l.foldl (fun m a => m.insert (f a) (g a)) m).lookup k = some v := by
  induction l generalizing m with
  | nil => simpa using hmem
  | cons a l ih =>
    refine ih ?_ fun b hb => hall b (mem_cons_of_mem a hb)
    by_cases hk : k = f a
    · subst hk
      refine .inr ?_
      rw [AList.lookup_insert, hall a mem_cons_self rfl]
    · rw [AList.lookup_insert_ne hk]
      refine hmem.imp_left ?_
      rintro ⟨b, hb, hb'⟩
      rcases mem_cons.1 hb with rfl | hb
      · exact absurd hb'.symm hk
      · exact ⟨b, hb, hb'⟩

end

/-- No two records have the same hash, except that it is cleared. -/
def DistinctHashes (keys : Keys) : Prop :=
  ∀ r ∈ keys.rows, ∀ s ∈ keys.rows, r.keyHash ≠ "" → r.keyHash = s.keyHash → r = s

/-- The index maps the hash of every record that has one to its id, and nothing else. -/
lemma lookup_hashIndex_iff (hdist : DistinctHashes keys) {hash id : String} :
    (hashIndex keys).lookup hash = some id ↔
      ∃ r ∈ keys.rows, r.keyHash = hash ∧ hash ≠ "" ∧ r.id = id := by
  constructor
  · intro h
    rcases lookup_foldl_insert h with ⟨r, hr, hhash, hid⟩ | h
    · obtain ⟨hr, hne⟩ := mem_filter.1 hr
      exact ⟨r, hr, hhash, by simpa [← hhash] using hne, hid⟩
    · simp at h
  · rintro ⟨r, hr, rfl, hne, rfl⟩
    refine lookup_foldl_insert_of_mem (.inl ⟨r, ?_, rfl⟩) ?_
    · exact mem_filter.2 ⟨hr, by simpa using hne⟩
    · intro s hs hhash
      rw [hdist r hr s (mem_of_mem_filter hs) hne hhash.symm]

section

lemma eq_of_fst {a b c : String} (hids : (issued.map Prod.fst).Nodup) (hb : (a, b) ∈ issued)
    (hc : (a, c) ∈ issued) : b = c :=
  congrArg Prod.snd (inj_on_of_nodup_map hids hb hc rfl)

lemma eq_of_snd {a b c : String} (hsecr : (issued.map Prod.snd).Nodup) (hb : (a, c) ∈ issued)
    (hc : (b, c) ∈ issued) : a = b :=
  congrArg Prod.fst (inj_on_of_nodup_map hsecr hb hc rfl)

lemma Lineage.distinctHashes (h : Lineage sha issued keys)
    (hinj : Function.Injective sha) (hsecr : (issued.map Prod.snd).Nodup) :
    DistinctHashes keys := by
  intro r hr s hs hne hsame
  obtain ⟨a, ha, hra | ⟨hempty, -⟩⟩ := h.secret r hr
  · obtain ⟨b, hb, hsb | ⟨hempty, -⟩⟩ := h.secret s hs
    · have hab : a = b := hinj (hra.symm.trans (hsame.trans hsb))
      subst hab
      exact eq_of_id hr hs (eq_of_snd hsecr ha hb)
    · exact absurd (hsame.trans hempty) hne
  · exact absurd hempty hne

end

/-! ### Acceptance -/

/-- The key is active and unexpired, and its team, if it has one, is active. -/
structure ApiKeyRecord.Live (r : ApiKeyRecord) (teams : Teams) (now : ℕ) : Prop where
  active : r.status = .active
  unexpired : r.expired now = false
  team : r.teamActive teams

variable {r : ApiKeyRecord} {now : ℕ}

section

variable {allowed : ControlInner → Operation → Prop} {h : History}

variable {identity : ClientIdentity} {inner : ControlInner} {headers : ClientHeaders}

lemma admitKey_eq_answer {record : ApiKeyRecord} :
    admitKey sha record now inner = .ok (.answer (some identity)) ↔
      record.Live inner.teams now ∧ identity = identityOf sha record inner := by
  rw [admitKey]
  constructor
  · intro h
    split at h
    · cases h
    · rename_i hact
      split at h
      · cases h
      · rename_i hexp
        split at h
        · rename_i hteam
          cases h
          exact ⟨⟨not_not.1 hact, by simpa using hexp, hteam⟩, rfl⟩
        · cases h
  · rintro ⟨hlive, rfl⟩
    simp [hlive.active, hlive.unexpired, hlive.team]

lemma accepted_identity
    (h : authenticateHeaders sha headers now inner = .ok (.answer (some identity))) :
    ∃ r ∈ inner.apiKeys.rows, r.status = .active ∧ identity = identityOf sha r inner := by
  rw [authenticateHeaders] at h
  split at h
  · cases h
  · rename_i r hr
    obtain ⟨token, -, hr⟩ := Option.bind_eq_some_iff.1 hr
    obtain ⟨hlive, hident⟩ := admitKey_eq_answer.1 h
    exact ⟨r, mem_of_keyOfToken hr, hlive.active, hident⟩

section

variable (hsound : Sound sha allowed emptyInner h)

include hsound

/-- A secret leads to the record it was issued for, until that record is spent. -/
lemma keyOfToken_iff (hinj : Function.Injective sha) (hne : ∀ value, sha value ≠ "")
    {token : String} :
    keyOfToken sha h.store.memory token = some r ↔
      r ∈ h.store.memory.apiKeys.rows ∧ (r.id, token) ∈ h.issued ∧ ¬ r.Spent := by
  have hlin := hsound.lineage
  have hdist := hlin.distinctHashes hinj hsound.secrets
  rw [keyOfToken, hsound.path.index, Option.bind_eq_some_iff]
  constructor
  · rintro ⟨id, hlook, hfind⟩
    obtain ⟨s, hs, hhash, hempty, hid⟩ := (lookup_hashIndex_iff hdist).1 hlook
    obtain ⟨hr, hrid⟩ := find_id_eq_some.1 hfind
    obtain rfl := eq_of_id hs hr (hid.trans hrid.symm)
    have hspent : ¬ s.Spent := fun hspent => hempty (hhash ▸ (hlin.spent s hs hspent).1)
    obtain ⟨secret, hiss, hsecret | ⟨-, hspent'⟩⟩ := hlin.secret s hs
    · obtain rfl : secret = token := hinj (hsecret.symm.trans hhash)
      exact ⟨hr, hiss, hspent⟩
    · exact absurd hspent' hspent
  · rintro ⟨hr, hiss, hspent⟩
    refine ⟨r.id, (lookup_hashIndex_iff hdist).2 ⟨r, hr, ?_, hne token, rfl⟩,
      find_id_eq_some.2 ⟨hr, rfl⟩⟩
    obtain ⟨secret, hissued', hsecret | ⟨-, hspent'⟩⟩ := hlin.secret r hr
    · rw [hsecret, eq_of_fst hsound.ids hissued' hiss]
    · exact absurd hspent' hspent

/-- **What a presented secret is accepted for.** -/
lemma authenticate_iff (hinj : Function.Injective sha) (hne : ∀ value, sha value ≠ "") :
    authenticateHeaders sha headers now h.store.memory = .ok (.answer (some identity)) ↔
      ∃ secret, clientToken headers = some secret ∧
        ∃ r ∈ h.store.memory.apiKeys.rows, (r.id, secret) ∈ h.issued ∧
          r.Live h.store.memory.teams now ∧ identity = identityOf sha r h.store.memory := by
  rw [authenticateHeaders]
  constructor
  · intro hauth
    split at hauth
    · cases hauth
    · rename_i record hrec
      obtain ⟨token, htoken, hrec⟩ := Option.bind_eq_some_iff.1 hrec
      obtain ⟨hmem, hiss, -⟩ := (keyOfToken_iff hsound hinj hne).1 hrec
      exact ⟨token, htoken, record, hmem, hiss, admitKey_eq_answer.1 hauth⟩
  · rintro ⟨secret, htoken, r, hr, hiss, hlive, hident⟩
    have hrec : (clientToken headers).bind (keyOfToken sha h.store.memory) = some r := by
      rw [htoken]
      exact (keyOfToken_iff hsound hinj hne).2
        ⟨hr, hiss, hsound.lineage.active_notSpent hr hlive.active⟩
    rw [hrec]
    exact admitKey_eq_answer.2 ⟨hlive, hident⟩

end

lemma Path.spent {issued : List (String × String)} {inner' : ControlInner}
    (hpath : Path sha allowed issued inner inner')
    (hlin : Lineage sha issued inner.apiKeys)
    (hr : r ∈ inner.apiKeys.rows) (hspent : r.Spent) :
    ∃ s ∈ inner'.apiKeys.rows, s.id = r.id ∧ s.Spent ∧
      s.supersededByKeyId = r.supersededByKeyId := by
  induction hpath with
  | refl => exact ⟨r, hr, rfl, hspent, rfl⟩
  | tail hpath hchg ih =>
    obtain ⟨s, hs, hid, hs', hsuper⟩ := ih
    have hlin' := Path.lineage_of hpath hlin
    obtain ⟨t, ht, hid', ht', hsuper'⟩ :=
      (hchg.lineageStep hlin').spent hlin' hs hs'
    exact ⟨t, ht, hid'.trans hid, ht', hsuper'.trans hsuper⟩

end

/-! ### Lineages -/

/-- `b` was rotated from `a`. -/
def Rotates (keys : Keys) (a b : ApiKeyRecord) : Prop :=
  a ∈ keys.rows ∧ b ∈ keys.rows ∧ b.rotationFromKeyId = some a.id

/-- Two records are linked by rotations. -/
def SameLineage (keys : Keys) : ApiKeyRecord → ApiKeyRecord → Prop := EqvGen (Rotates keys)

section

variable {a b c : ApiKeyRecord}

/-- Records linked by rotations descend from one of them. -/
lemma exists_ancestor (h : SameLineage keys a b) :
    ∃ c, ReflTransGen (Rotates keys) c a ∧ ReflTransGen (Rotates keys) c b := by
  induction h with
  | rel a b hab => exact ⟨a, .refl, .single hab⟩
  | refl a => exact ⟨a, .refl, .refl⟩
  | symm a b _ ih =>
    obtain ⟨c, hca, hcb⟩ := ih
    exact ⟨c, hcb, hca⟩
  | trans a b d _ _ ih ih' =>
    obtain ⟨c, hca, hcb⟩ := ih
    obtain ⟨e, heb, hed⟩ := ih'
    -- a record has one source, so that of two ancestors one descends from the other
    have hunique : Relator.RightUnique (Function.swap (Rotates keys)) := by
      rintro x y z ⟨hy, -, hxy⟩ ⟨hz, -, hxz⟩
      exact eq_of_id hy hz (Option.some.inj (hxy.symm.trans hxz))
    rcases ReflTransGen.total_of_right_unique hunique (reflTransGen_swap.2 hcb)
      (reflTransGen_swap.2 heb) with hce | hec
    · exact ⟨e, (reflTransGen_swap.1 hce).trans hca, hed⟩
    · exact ⟨c, hca, (reflTransGen_swap.1 hec).trans hed⟩

variable (h : Lineage sha issued keys)

include h

/-- The keys rotated from a superseded key go through its one replacement. -/
lemma eq_of_rotates (hab : Rotates keys a b)
    (hac : Rotates keys a c) (hb : b.status ≠ .pendingRotation) (hc : c.status ≠ .pendingRotation) :
    b = c := by
  have hbsuper := (h.source_of hab.2.1 hab.1 hab.2.2).superseded
  have hcsuper := (h.source_of hac.2.1 hac.1 hac.2.2).superseded
  rw [if_neg hb] at hbsuper
  rw [if_neg hc] at hcsuper
  exact eq_of_id hab.2.1 hac.2.1 (Option.some.inj (hbsuper.symm.trans hcsuper))

/-- A record that was rotated is no prepared rotation, and it is not active once the rotation is
confirmed. -/
lemma notPending_of_descends (hbc : ReflTransGen (Rotates keys) b c)
    (hact : c.status = .active) : b.status ≠ .pendingRotation := by
  rcases hbc.cases_head with rfl | ⟨d, hbd, -⟩
  · simp [hact]
  · exact (h.source_of hbd.2.1 hbd.1 hbd.2.2).notPending

lemma not_descends_of_active (hact : a.status = .active)
    (hab : Rotates keys a b) (hbc : ReflTransGen (Rotates keys) b c) : c.status ≠ .active := by
  intro hc
  have hb := notPending_of_descends h hbc hc
  have hsuper := (h.source_of hab.2.1 hab.1 hab.2.2).superseded
  rw [h.superseded_none hab.1 hact, if_neg hb] at hsuper
  cases hsuper

/-- **At most one active key in a lineage.** -/
lemma eq_of_sameLineage (hlin : SameLineage keys a b)
    (ha : a.status = .active) (hb : b.status = .active) : a = b := by
  obtain ⟨c, hca, hcb⟩ := exists_ancestor hlin
  induction hca using ReflTransGen.head_induction_on with
  | refl =>
    rcases hcb.cases_head with rfl | ⟨d, had, hdb⟩
    · rfl
    · exact absurd hb (not_descends_of_active h ha had hdb)
  | head hcd hda ih =>
    rcases hcb.cases_head with rfl | ⟨e, hce, heb⟩
    · exact absurd ha (not_descends_of_active h hb hcd hda)
    · have hde := eq_of_rotates h hcd hce (notPending_of_descends h hda ha)
        (notPending_of_descends h heb hb)
      exact ih (hde ▸ heb)

end

/-- **API-key secrets authenticate exactly while their key is live.** In every state of every run,
for a digest without collisions:

* a secret is accepted if and only if it was issued for a key that is now active, unexpired and in
  no team or an active one, and then with the identity of that key;
* the secret of a key that was deleted or superseded is never accepted again;
* two secrets accepted at one time for keys of one lineage are the same;
* the index is the map from the hashes of the records to their ids. -/
theorem secrets_authenticate_while_live (sha256Hex : String → String)
    (hinj : Function.Injective sha256Hex) (hne : ∀ value, sha256Hex value ≠ "") (h : History)
    (hreach : Reachable sha256Hex AnyOperation h) :
    (∀ headers now identity,
      authenticateHeaders sha256Hex headers now h.store.memory = .ok (.answer (some identity)) ↔
        ∃ secret, clientToken headers = some secret ∧
          ∃ r ∈ h.store.memory.apiKeys.rows, (r.id, secret) ∈ h.issued ∧
            r.Live h.store.memory.teams now ∧
            identity = identityOf sha256Hex r h.store.memory) ∧
    (∀ r ∈ h.store.memory.apiKeys.rows, r.Spent → ∀ secret, (r.id, secret) ∈ h.issued →
      ∀ h', Run sha256Hex AnyOperation h h' →
        ∀ headers now identity, clientToken headers = some secret →
          authenticateHeaders sha256Hex headers now h'.store.memory
            ≠ .ok (.answer (some identity))) ∧
    (∀ now headers1 headers2 identity1 identity2,
      authenticateHeaders sha256Hex headers1 now h.store.memory
        = .ok (.answer (some identity1)) →
      authenticateHeaders sha256Hex headers2 now h.store.memory
        = .ok (.answer (some identity2)) →
      (∃ r1 ∈ h.store.memory.apiKeys.rows, ∃ r2 ∈ h.store.memory.apiKeys.rows,
        identity1.apiKeyId = some r1.id ∧ identity2.apiKeyId = some r2.id ∧
          SameLineage h.store.memory.apiKeys r1 r2) →
      clientToken headers1 = clientToken headers2) ∧
    (∀ hash id, h.store.memory.apiKeyHashIndex.lookup hash = some id ↔
      ∃ r ∈ h.store.memory.apiKeys.rows, r.keyHash = hash ∧ hash ≠ "" ∧ r.id = id) := by
  have hsound := hreach.sound
  have hlin := hreach.lineage
  refine ⟨fun headers now identity => authenticate_iff hsound hinj hne, ?_, ?_, ?_⟩
  · intro r hr hspent secret hiss h' hrun headers now identity htoken hauth
    obtain ⟨hsound', hmore, hpath⟩ := hsound.run hrun
    obtain ⟨secret', htoken', s, hs, hissued', hlive, -⟩ :=
      (authenticate_iff hsound' hinj hne).1 hauth
    obtain rfl : secret = secret' := Option.some.inj (htoken.symm.trans htoken')
    obtain ⟨t, ht, hid, ht', -⟩ := hpath.spent (hlin.mono hmore) hr hspent
    have hst : s.id = t.id := by
      rw [hid, eq_of_snd hsound'.secrets hissued' (hmore _ hiss)]
    obtain rfl := eq_of_id hs ht hst
    exact hsound'.lineage.active_notSpent hs hlive.active ht'
  · rintro now headers1 headers2 identity1 identity2 hauth1 hauth2
      ⟨r1, hr1, r2, hr2, hid1, hid2, hsame⟩
    obtain ⟨secret1, htoken1, s1, hs1, hissued1, hlive1, rfl⟩ :=
      (authenticate_iff hsound hinj hne).1 hauth1
    obtain ⟨secret2, htoken2, s2, hs2, hissued2, hlive2, rfl⟩ :=
      (authenticate_iff hsound hinj hne).1 hauth2
    obtain rfl := eq_of_id hs1 hr1 (Option.some.inj hid1)
    obtain rfl := eq_of_id hs2 hr2 (Option.some.inj hid2)
    obtain rfl := eq_of_sameLineage hlin hsame hlive1.active hlive2.active
    rw [htoken1, htoken2, eq_of_fst hsound.ids hissued1 hissued2]
  · intro hash id
    rw [hsound.path.index]
    exact lookup_hashIndex_iff (hlin.distinctHashes hinj hsound.secrets)

lemma Sample.accepted {allowed : ControlInner → Operation → Prop} {h : History}
    {secret : String} (hsound : Sound mark allowed emptyInner h)
    (hr : r ∈ h.store.memory.apiKeys.rows) (hiss : (r.id, secret) ∈ h.issued)
    (hlive : r.Live h.store.memory.teams now) :
    authenticateHeaders mark { xApiKey := some (some secret) } now h.store.memory
      = .ok (.answer (some (identityOf mark r h.store.memory))) :=
  (authenticate_iff hsound mark_injective mark_ne_empty).2
    ⟨secret, rfl, r, hr, hiss, hlive, rfl⟩

/-- A created key authenticates with the secret that was issued for it. -/
theorem secrets_authenticate_while_live_created :
    ∃ r ∈ Sample.created.store.memory.apiKeys.rows, r.id = "key_1" ∧
      authenticateHeaders Sample.mark { xApiKey := some (some "sk-mp-1") } 10
        Sample.created.store.memory
          = .ok (.answer (some (identityOf Sample.mark r Sample.created.store.memory))) := by
  have hreach : Reachable mark AnyOperation created :=
    reachable_play (by decide +kernel)
  have hrec : ∃ r ∈ created.store.memory.apiKeys.rows, r.id = "key_1" ∧
      (r.id, "sk-mp-1") ∈ created.issued ∧ r.status = .active ∧ r.expired 10 = false ∧
      r.teamActive created.store.memory.teams := by
    decide +kernel
  obtain ⟨r, hr, hid, hiss, hact, hexp, hteam⟩ := hrec
  refine ⟨r, hr, hid, ((secrets_authenticate_while_live mark mark_injective
    mark_ne_empty created hreach).1 _ _ _).2 ?_⟩
  exact ⟨"sk-mp-1", rfl, r, hr, hiss, ⟨hact, hexp, hteam⟩, rfl⟩

end ModelPort.Control
