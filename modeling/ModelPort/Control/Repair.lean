import ModelPort.Control.Records

/-!
# Load-time repair of rotation links

`repairApiKeyRotationInvariants` runs over the records of a document when the store is loaded.
It completes the quota subjects, retires every record in whose place a confirmed rotation
stands, and drops the prepared rotations left beside a confirmed one.

* `walkChain_ends`: the walk to the root of a rotation chain ends by itself.
* `latest_eq_some`, `replacementBy_eq_some`: which record the source calls the winner, and which
  replacement a record is retired for.
-/

namespace ModelPort.Control

open Relational List

variable {records : List ApiKeyRecord}

variable {source w : String} {r : ApiKeyRecord} {counts counts' : ApiKeyRecord → Prop}

/-! ### Quota subjects -/

/-- The rotation source of the record with an id, the last one if there are several; `none` if
there is none. -/
def parentOf (records : List ApiKeyRecord) (id : String) : Option (Option String) :=
  (records.reverse.find? fun r => r.id = id).map (·.rotationFromKeyId)

/-- The walk up a rotation chain: the last id it reaches, and the ids it meets. It stops at a
record without a source, at an id met before, and at an id that no record has. -/
def walkChain (records : List ApiKeyRecord) :
    ℕ → String → List String → String × List String
  | 0, cursor, chain => (cursor, chain)
  | fuel + 1, cursor, chain =>
    match parentOf records cursor with
    | some (some parent) =>
      if chain.contains parent then (cursor, chain)
      else if (parentOf records parent).isNone then (cursor, parent :: chain)
      else walkChain records fuel parent (parent :: chain)
    | _ => (cursor, chain)

lemma exists_of_parentOf {records : List ApiKeyRecord} {id : String}
    (h : (parentOf records id).isNone = false) : ∃ r ∈ records, r.id = id := by
  simp only [parentOf, Option.isNone_map, Option.isNone_eq_false_iff, List.find?_isSome,
    mem_reverse, decide_eq_true_eq] at h
  exact h

/-- Every turn that goes on meets an id of the document for the first time, so that a walk with
more turns to spare than ids left to meet is over before they are used up. -/
lemma walkChain_stable (records : List ApiKeyRecord) {fuel : ℕ} {cursor : String}
    {chain : List String} (h : (records.filter fun r => !chain.contains r.id).length < fuel) :
    walkChain records (fuel + 1) cursor chain = walkChain records fuel cursor chain := by
  induction fuel generalizing cursor chain with
  | zero => exact absurd h (Nat.not_lt_zero _)
  | succ fuel ih =>
    rw [walkChain]
    conv_rhs => rw [walkChain]
    split
    · split_ifs with hmet hnone
      · rfl
      · rfl
      · obtain ⟨r, hr, rfl⟩ := exists_of_parentOf (Bool.eq_false_iff.2 hnone)
        have hsub : (records.filter fun s => !(r.id :: chain).contains s.id)
            = (records.filter fun s => !chain.contains s.id).filter fun s => s.id ≠ r.id := by
          simp
        have hlt : ((records.filter fun s => !chain.contains s.id).filter fun s =>
            s.id ≠ r.id).length < (records.filter fun s => !chain.contains s.id).length :=
          length_filter_lt_length_iff_exists.2
            ⟨r, mem_filter.2 ⟨hr, by simpa using hmet⟩, by simp⟩
        exact ih (by rw [hsub]; omega)
    · rfl

/-- **The walk from a record ends by itself**, also where the links run in a circle: the loop of
the source needs no more turns than there are records. -/
theorem walkChain_ends (records : List ApiKeyRecord) (i : Fin records.length) (more : ℕ) :
    walkChain records (records.length + more) records[i].id [records[i].id] =
      walkChain records records.length records[i].id [records[i].id] := by
  induction more with
  | zero => rfl
  | succ more ih =>
    have hleft : (records.filter fun r => !([records[i].id].contains r.id)).length <
        records.length :=
      length_filter_lt_length_iff_exists.2 ⟨records[i], getElem_mem i.2, by simp⟩
    exact (walkChain_stable records (Nat.lt_add_right more hleft)).trans ih

section

variable (sha256Hex : String → String)

/-- A record with its subject, found by the walk where there is none yet. -/
def reconstructSubject (records : List ApiKeyRecord) (r : ApiKeyRecord) : ApiKeyRecord :=
  if r.quotaSubjectId.isEmpty then
    let (cursor, chain) := walkChain records records.length r.id [r.id]
    { r with
      quotaSubjectId := quotaSubjectForSeed sha256Hex cursor
      quotaSubjectAliases := r.quotaSubjectAliases
        ++ chain.flatMap fun keyId => [keyId, quotaSubjectForSeed sha256Hex keyId] }
  else r

/-- A record with its subject and the aliases it always has. -/
def repairSubject (records : List ApiKeyRecord) (r : ApiKeyRecord) : ApiKeyRecord :=
  let r := reconstructSubject sha256Hex records r
  { r with
    quotaSubjectAliases := sortDedup (r.quotaSubjectAliases
      ++ [r.id, quotaSubjectForSeed sha256Hex r.id, r.quotaSubjectId]) }

end

/-! ### Links -/

/-- The record is not a prepared rotation. -/
def ApiKeyRecord.confirmed (r : ApiKeyRecord) : Bool := r.status ≠ .pendingRotation

/-- Among the records that count, the id of the latest one that was rotated from `source`. -/
def latest (counts : ApiKeyRecord → Bool) (records : List ApiKeyRecord) (source : String) :
    Option String :=
  (((records.filter fun r => counts r && r.rotationFromKeyId = some source).map
    fun r => toLex (r.createdAtMs, r.id)).max?).map fun child => (ofLex child).2

/-- The winner of a source: the latest of its confirmed rotations. -/
def winner : List ApiKeyRecord → String → Option String := latest ApiKeyRecord.confirmed

/-- The record that stands in the place of `r`: the latest rotation of `r`, or else the latest
rotation of the key `r` was rotated from, if that is not `r`. -/
def replacementBy (counts : ApiKeyRecord → Bool) (records : List ApiKeyRecord)
    (r : ApiKeyRecord) : Option String :=
  (latest counts records r.id).or
    ((r.rotationFromKeyId.bind (latest counts records)).filter (· ≠ r.id))

/-- A record retired for a replacement. -/
def ApiKeyRecord.retire (r : ApiKeyRecord) (replacement : String) : ApiKeyRecord :=
  { r with status := .revoked, supersededByKeyId := some replacement, keyHash := "" }

@[simp] lemma ApiKeyRecord.retire_id (r : ApiKeyRecord) (replacement : String) :
    (r.retire replacement).id = r.id := rfl

def repairLink (records : List ApiKeyRecord) (r : ApiKeyRecord) : ApiKeyRecord :=
  match replacementBy ApiKeyRecord.confirmed records r with
  | some replacement => r.retire replacement
  | none => r

/-- A prepared rotation beside a confirmed one. -/
def isGhost (records : List ApiKeyRecord) (r : ApiKeyRecord) : Bool :=
  r.status = .pendingRotation && (r.rotationFromKeyId.bind (winner records)).isSome

def repairLinks (records : List ApiKeyRecord) : List ApiKeyRecord :=
  (records.map (repairLink records)).filter fun r => !isGhost records r

def repairApiKeyRotationInvariants (sha256Hex : String → String)
    (records : List ApiKeyRecord) : List ApiKeyRecord :=
  repairLinks (records.map (repairSubject sha256Hex records))

/-! ### What the links say -/

/-- `c` is the latest of the records that count and were rotated from `source`. -/
structure IsLatest (counts : ApiKeyRecord → Prop) (records : List ApiKeyRecord)
    (source : String) (c : ApiKeyRecord) : Prop where
  mem : c ∈ records
  counted : counts c
  rotated : c.rotationFromKeyId = some source
  latest : ∀ d ∈ records, counts d → d.rotationFromKeyId = some source →
    toLex (d.createdAtMs, d.id) ≤ toLex (c.createdAtMs, c.id)

/-- Some record that counts was rotated from `source`. -/
def HasRotation (counts : ApiKeyRecord → Prop) (records : List ApiKeyRecord)
    (source : String) : Prop :=
  ∃ c ∈ records, counts c ∧ c.rotationFromKeyId = some source

/-- The record with id `w` stands in the place of `r`. -/
def Replaces (counts : ApiKeyRecord → Prop) (records : List ApiKeyRecord) (r : ApiKeyRecord)
    (w : String) : Prop :=
  (∃ c, IsLatest counts records r.id c ∧ c.id = w) ∨
    ¬ HasRotation counts records r.id ∧ w ≠ r.id ∧
      ∃ source c, r.rotationFromKeyId = some source ∧ IsLatest counts records source c ∧ c.id = w

section

variable {counts : ApiKeyRecord → Bool}

lemma latest_eq_some : latest counts records source = some w ↔
      ∃ c, IsLatest (fun r => counts r) records source c ∧ c.id = w := by
  simp only [latest, Option.map_eq_some_iff, List.max?_eq_some_iff, mem_map, mem_filter,
    Bool.and_eq_true, decide_eq_true_eq]
  constructor
  · rintro ⟨_, ⟨⟨c, ⟨hmem, hcnt, hsrc⟩, rfl⟩, hmax⟩, rfl⟩
    exact ⟨c, ⟨hmem, hcnt, hsrc, fun d hd hc hs => hmax _ ⟨d, ⟨hd, hc, hs⟩, rfl⟩⟩, rfl⟩
  · rintro ⟨c, ⟨hmem, hcnt, hsrc, hmax⟩, rfl⟩
    refine ⟨_, ⟨⟨c, ⟨hmem, hcnt, hsrc⟩, rfl⟩, ?_⟩, rfl⟩
    rintro _ ⟨d, ⟨hd, hc, hs⟩, rfl⟩
    exact hmax d hd hc hs

lemma latest_eq_none : latest counts records source = none ↔
      ¬ HasRotation (fun r => counts r) records source := by
  simp only [latest, Option.map_eq_none_iff, List.max?_eq_none_iff, map_eq_nil_iff,
    filter_eq_nil_iff, Bool.and_eq_true, decide_eq_true_eq, HasRotation, not_exists, not_and]

lemma replacementBy_eq_some : replacementBy counts records r = some w ↔
      Replaces (fun r => counts r) records r w := by
  simp only [replacementBy, Option.or_eq_some_iff, latest_eq_some, latest_eq_none,
    Option.filter_eq_some_iff, Option.bind_eq_some_iff, decide_eq_true_eq]
  constructor
  · rintro (h | ⟨hnone, ⟨source, hsrc, c, hc, hw⟩, hne⟩)
    · exact .inl h
    · exact .inr ⟨hnone, hne, source, c, hsrc, hc, hw⟩
  · rintro (h | ⟨hnone, hne, source, c, hsrc, hc, hw⟩)
    · exact .inl h
    · exact .inr ⟨hnone, ⟨source, hsrc, c, hc, hw⟩, hne⟩

/-- Records that do not count can be left out. -/
lemma latest_filter {keep : ApiKeyRecord → Bool} (h : ∀ r, counts r → keep r) :
    latest counts (records.filter keep) = latest counts records := by
  funext source
  have hfilt : (records.filter keep).filter (fun r => counts r && r.rotationFromKeyId = some source)
      = records.filter fun r => counts r && r.rotationFromKeyId = some source := by
    rw [filter_filter]
    refine filter_congr fun r _ => ?_
    cases hc : counts r with
    | false => rfl
    | true => simp [h r hc]
  simp only [latest, hfilt]

end

/-! ### A second repair -/

/-- The record is retired for this replacement. -/
def ApiKeyRecord.RetiredFor (r : ApiKeyRecord) (w : String) : Prop :=
  r.status = .revoked ∧ r.supersededByKeyId = some w ∧ r.keyHash = ""

lemma retire_eq_self : r.retire w = r ↔ r.RetiredFor w := by
  cases r
  simp only [ApiKeyRecord.retire, ApiKeyRecord.mk.injEq, true_and, and_true]
  constructor
  · rintro ⟨h1, h2, h3⟩
    exact ⟨h2.symm, h3.symm, h1.symm⟩
  · rintro ⟨h1, h2, h3⟩
    exact ⟨h3.symm, h1.symm, h2.symm⟩

abbrev Confirmed (r : ApiKeyRecord) : Prop := r.confirmed

/-- A repair retires the record. -/
def Retires (records : List ApiKeyRecord) (r : ApiKeyRecord) : Prop :=
  ∃ w, Replaces Confirmed records r w

/-- A repair drops the record: a prepared rotation that it does not retire, although the key it
was prepared for has a confirmed one. -/
def Drops (records : List ApiKeyRecord) (r : ApiKeyRecord) : Prop :=
  r.status = .pendingRotation ∧ ¬ Retires records r ∧
    ∃ source, r.rotationFromKeyId = some source ∧ HasRotation Confirmed records source

/-- The record is no prepared rotation after a repair. A prepared rotation that is retired
counts as a rotation of its source from then on. -/
def CountsAfter (records : List ApiKeyRecord) (r : ApiKeyRecord) : Prop :=
  Confirmed r ∨ Retires records r

/-- What a second repair finds in the place of `r` is what the first one found. -/
structure SettledAt (records : List ApiKeyRecord) (r : ApiKeyRecord) : Prop where
  /-- the replacement is the same one, or `r` was retired for it before either repair -/
  same : ∀ w, Replaces (CountsAfter records) records r w →
    Replaces Confirmed records r w ∨ ¬ Retires records r ∧ r.RetiredFor w
  /-- a prepared rotation that is kept stays alone -/
  alone : r.status = .pendingRotation → ¬ Retires records r →
    ∀ source, r.rotationFromKeyId = some source →
      ¬ HasRotation (CountsAfter records) records source

/-- Retiring prepared rotations changes no replacement. -/
def Settled (records : List ApiKeyRecord) : Prop :=
  ∀ r ∈ records, ¬ Drops records r → SettledAt records r

section

@[simp] lemma repairLink_id : (repairLink records r).id = r.id := by
  unfold repairLink
  split <;> rfl

@[simp] lemma repairLink_rotationFromKeyId :
    (repairLink records r).rotationFromKeyId = r.rotationFromKeyId := by
  unfold repairLink
  split <;> rfl

@[simp] lemma repairLink_createdAtMs : (repairLink records r).createdAtMs = r.createdAtMs := by
  unfold repairLink
  split <;> rfl

lemma repairLink_of_replaces (h : Replaces Confirmed records r w) :
    repairLink records r = r.retire w := by
  rw [repairLink, replacementBy_eq_some.2 h]

lemma repairLink_of_not_retires (h : ¬ Retires records r) : repairLink records r = r := by
  have hnone := Option.eq_none_iff_forall_ne_some.2 fun w hw => h ⟨w, replacementBy_eq_some.1 hw⟩
  rw [repairLink, hnone]

lemma retires_of_hasRotation (h : HasRotation Confirmed records r.id) : Retires records r := by
  cases hlat : latest ApiKeyRecord.confirmed records r.id with
  | none => exact absurd h (latest_eq_none.1 hlat)
  | some w => exact ⟨w, .inl (latest_eq_some.1 hlat)⟩

/-- After a repair the record is no prepared rotation. -/
def countsAfter (records : List ApiKeyRecord) (r : ApiKeyRecord) : Bool :=
  (repairLink records r).confirmed

lemma countsAfter_iff : countsAfter records r ↔ CountsAfter records r := by
  by_cases h : Retires records r
  · obtain ⟨w, hw⟩ := h
    rw [countsAfter, repairLink_of_replaces hw]
    exact ⟨fun _ => .inr ⟨w, hw⟩, fun _ => rfl⟩
  · rw [countsAfter, repairLink_of_not_retires h]
    exact ⟨.inl, fun hc => hc.resolve_right h⟩

lemma countsAfter_eq : (fun r => countsAfter records r = true) = CountsAfter records :=
  funext fun _ => propext countsAfter_iff

lemma status_repairLink_eq_pending : (repairLink records r).status = .pendingRotation ↔
      r.status = .pendingRotation ∧ ¬ Retires records r := by
  by_cases h : Retires records r
  · obtain ⟨w, hw⟩ := h
    rw [repairLink_of_replaces hw]
    simp [ApiKeyRecord.retire, show Retires records r from ⟨w, hw⟩]
  · simp [repairLink_of_not_retires h, h]

lemma bind_isSome_iff {counts : ApiKeyRecord → Bool} :
    (r.rotationFromKeyId.bind (latest counts records)).isSome ↔
      ∃ source, r.rotationFromKeyId = some source ∧
        HasRotation (fun r => counts r) records source := by
  rw [Option.isSome_bind, Option.any_eq_true]
  refine exists_congr fun source => and_congr_right fun _ => ?_
  rw [← Option.ne_none_iff_isSome, Ne, latest_eq_none, not_not]

lemma isGhost_repairLink : isGhost records (repairLink records r) ↔ Drops records r := by
  rw [isGhost, Bool.and_eq_true, decide_eq_true_eq, status_repairLink_eq_pending,
    repairLink_rotationFromKeyId, winner, bind_isSome_iff, and_assoc]
  rfl

/-- What a second repair takes for the winners. -/
lemma winner_repairLinks : winner (repairLinks records) = latest (countsAfter records) records := by
  have hkeep : ∀ r : ApiKeyRecord, r.confirmed → (!isGhost records r) := by
    intro r hr
    simp only [ApiKeyRecord.confirmed, decide_eq_true_eq] at hr
    simp [isGhost, hr]
  rw [winner, repairLinks, latest_filter hkeep]
  funext source
  simp only [latest, filter_map, map_map, Function.comp_def, repairLink_id,
    repairLink_rotationFromKeyId, repairLink_createdAtMs]
  rfl

lemma replacementBy_repairLinks :
    replacementBy ApiKeyRecord.confirmed (repairLinks records) (repairLink records r)
      = replacementBy (countsAfter records) records r := by
  have h : latest ApiKeyRecord.confirmed (repairLinks records)
      = latest (countsAfter records) records := winner_repairLinks
  simp only [replacementBy, h, repairLink_id, repairLink_rotationFromKeyId]

lemma repairLink_repairLink_iff :
    repairLink (repairLinks records) (repairLink records r) = repairLink records r ↔
      ∀ w, Replaces (CountsAfter records) records r w →
        Replaces Confirmed records r w ∨ ¬ Retires records r ∧ r.RetiredFor w := by
  have hafter : ∀ w, replacementBy (countsAfter records) records r = some w ↔
      Replaces (CountsAfter records) records r w := fun w => by
    rw [replacementBy_eq_some, countsAfter_eq]
  conv_lhs => lhs; rw [repairLink, replacementBy_repairLinks]
  cases hrep : replacementBy (countsAfter records) records r with
  | none =>
    refine ⟨fun _ w hw => ?_, fun _ => rfl⟩
    rw [← hafter, hrep] at hw
    cases hw
  | some w =>
    have hself : (repairLink records r).retire w = repairLink records r ↔
        Replaces Confirmed records r w ∨ ¬ Retires records r ∧ r.RetiredFor w := by
      by_cases h : Retires records r
      · obtain ⟨v, hv⟩ := h
        have hret : Retires records r := ⟨v, hv⟩
        rw [retire_eq_self, repairLink_of_replaces hv]
        simp only [ApiKeyRecord.RetiredFor, ApiKeyRecord.retire, Option.some.injEq, true_and,
          and_true, hret, not_true, false_and, or_false]
        exact ⟨fun hvw => hvw ▸ hv, fun hw => Option.some_injective _
          ((replacementBy_eq_some.2 hv).symm.trans (replacementBy_eq_some.2 hw))⟩
      · rw [repairLink_of_not_retires h, retire_eq_self]
        exact ⟨fun hr => .inr ⟨h, hr⟩, fun hr => hr.elim (fun hw => absurd ⟨w, hw⟩ h) And.right⟩
    refine hself.trans ⟨fun hr v hv => ?_, fun hr => hr w ((hafter w).1 hrep)⟩
    rw [← hafter, hrep, Option.some.injEq] at hv
    exact hv ▸ hr

lemma isGhost_repairLinks : isGhost (repairLinks records) (repairLink records r) ↔
      (r.status = .pendingRotation ∧ ¬ Retires records r) ∧
        ∃ source, r.rotationFromKeyId = some source ∧
          HasRotation (CountsAfter records) records source := by
  rw [isGhost, Bool.and_eq_true, decide_eq_true_eq, status_repairLink_eq_pending,
    repairLink_rotationFromKeyId, winner_repairLinks, bind_isSome_iff, countsAfter_eq]

lemma filter_map_eq_self {α : Type} {f : α → α} {p : α → Bool} {l : List α} :
    (l.map f).filter p = l ↔ ∀ a ∈ l, f a = a ∧ p a = true := by
  constructor
  · intro h
    have hlen : ((l.map f).filter p).length = (l.map f).length := by rw [h, length_map]
    have hall := length_filter_eq_length_iff.1 hlen
    rw [filter_eq_self.2 hall] at h
    have hself : ∀ a ∈ l, f a = a := map_inj_left.1 (h.trans (map_id l).symm)
    exact fun a ha => ⟨hself a ha, hself a ha ▸ hall (f a) (mem_map_of_mem ha)⟩
  · intro h
    have hmap : l.map f = l :=
      (map_congr_left fun a ha => (h a ha).1).trans (map_id l)
    rw [hmap]
    exact filter_eq_self.2 fun a ha => (h a ha).2

/-- A second repair of the links changes nothing exactly on settled documents. -/
lemma repairLinks_repairLinks_iff :
    repairLinks (repairLinks records) = repairLinks records ↔ Settled records := by
  conv_lhs => lhs; rw [repairLinks]
  rw [filter_map_eq_self]
  have hmem : ∀ s, s ∈ repairLinks records ↔
      ∃ r ∈ records, ¬ Drops records r ∧ repairLink records r = s := by
    intro s
    simp only [repairLinks, mem_filter, mem_map, Bool.not_eq_true']
    constructor
    · rintro ⟨⟨r, hr, rfl⟩, hghost⟩
      exact ⟨r, hr, fun hd => by simp [isGhost_repairLink.2 hd] at hghost, rfl⟩
    · rintro ⟨r, hr, hd, rfl⟩
      exact ⟨⟨r, hr, rfl⟩, Bool.eq_false_iff.2 fun hg => hd (isGhost_repairLink.1 hg)⟩
  constructor
  · intro h r hr hd
    obtain ⟨hself, hghost⟩ := h _ ((hmem _).2 ⟨r, hr, hd, rfl⟩)
    refine ⟨repairLink_repairLink_iff.1 hself, fun hpend hret source hsrc hrot => ?_⟩
    rw [isGhost_repairLinks.2 ⟨⟨hpend, hret⟩, source, hsrc, hrot⟩] at hghost
    cases hghost
  · intro h s hs
    obtain ⟨r, hr, hd, rfl⟩ := (hmem s).1 hs
    have hr := h r hr hd
    refine ⟨repairLink_repairLink_iff.2 hr.same, ?_⟩
    rw [Bool.not_eq_true', ← Bool.not_eq_true, isGhost_repairLinks]
    rintro ⟨⟨hpend, hret⟩, source, hsrc, hrot⟩
    exact hr.alone hpend hret source hsrc hrot

end

/-! ### Both phases -/

section

variable {f : ApiKeyRecord → ApiKeyRecord}

/-- The function leaves the fields alone that links are read from. -/
structure KeepsLinks (f : ApiKeyRecord → ApiKeyRecord) : Prop where
  id : ∀ r, (f r).id = r.id
  status : ∀ r, (f r).status = r.status
  rotationFromKeyId : ∀ r, (f r).rotationFromKeyId = r.rotationFromKeyId
  supersededByKeyId : ∀ r, (f r).supersededByKeyId = r.supersededByKeyId
  createdAtMs : ∀ r, (f r).createdAtMs = r.createdAtMs
  keyHash : ∀ r, (f r).keyHash = r.keyHash

section

variable (hf : KeepsLinks f)

include hf

section

variable (hcnt : ∀ r, counts' (f r) ↔ counts r)

include hcnt

lemma hasRotation_map :
    HasRotation counts' (records.map f) source ↔ HasRotation counts records source := by
  simp [HasRotation, hcnt, hf.rotationFromKeyId]

lemma exists_isLatest_map : (∃ c, IsLatest counts' (records.map f) source c ∧ c.id = w) ↔
      ∃ c, IsLatest counts records source c ∧ c.id = w := by
  constructor
  · rintro ⟨_, ⟨hmem, hcount, hrotated, hlat⟩, rfl⟩
    obtain ⟨c, hc, rfl⟩ := mem_map.1 hmem
    refine ⟨c, ⟨hc, (hcnt c).1 hcount, hf.rotationFromKeyId c ▸ hrotated, ?_⟩, (hf.id c).symm⟩
    intro d hd hdc hds
    have hle := hlat (f d) (mem_map_of_mem hd) ((hcnt d).2 hdc) ((hf.rotationFromKeyId d).trans hds)
    rwa [hf.createdAtMs, hf.createdAtMs, hf.id, hf.id] at hle
  · rintro ⟨c, ⟨hmem, hcount, hrotated, hlat⟩, rfl⟩
    refine ⟨f c, ⟨mem_map_of_mem hmem, (hcnt c).2 hcount,
      (hf.rotationFromKeyId c).trans hrotated, ?_⟩, hf.id c⟩
    intro _ hd hdc hds
    obtain ⟨d, hmap, rfl⟩ := mem_map.1 hd
    have hle := hlat d hmap ((hcnt d).1 hdc) (hf.rotationFromKeyId d ▸ hds)
    rwa [hf.createdAtMs, hf.createdAtMs, hf.id, hf.id]

lemma replaces_map : Replaces counts' (records.map f) (f r) w ↔ Replaces counts records r w := by
  simp only [Replaces, hf.id, hf.rotationFromKeyId, hasRotation_map hf hcnt,
    exists_isLatest_map hf hcnt, exists_and_left]

end

lemma settled_map : Settled (records.map f) ↔ Settled records := by
  have hconf : ∀ r, Confirmed (f r) ↔ Confirmed r := fun r => by
    simp [ApiKeyRecord.confirmed, hf.status]
  have hret : ∀ r, Retires (records.map f) (f r) ↔ Retires records r := fun r =>
    exists_congr fun _ => replaces_map hf hconf
  have hafter : ∀ r, CountsAfter (records.map f) (f r) ↔ CountsAfter records r := fun r =>
    or_congr (hconf r) (hret r)
  have hdrops : ∀ r, Drops (records.map f) (f r) ↔ Drops records r := fun r => by
    simp only [Drops, hf.status, hret, hf.rotationFromKeyId, hasRotation_map hf hconf]
  have hset : ∀ r, SettledAt (records.map f) (f r) ↔ SettledAt records r := fun r => by
    constructor
    · rintro ⟨hsame, halone⟩
      simp only [replaces_map hf hafter, replaces_map hf hconf, hret, hf.status,
        ApiKeyRecord.RetiredFor, hf.supersededByKeyId, hf.keyHash, hf.rotationFromKeyId,
        hasRotation_map hf hafter] at hsame halone
      exact ⟨hsame, halone⟩
    · rintro ⟨hsame, halone⟩
      constructor
      · simpa only [replaces_map hf hafter, replaces_map hf hconf, hret, hf.status,
          ApiKeyRecord.RetiredFor, hf.supersededByKeyId, hf.keyHash] using hsame
      · simpa only [hret, hf.status, hf.rotationFromKeyId, hasRotation_map hf hafter]
          using halone
  simp only [Settled, forall_mem_map, hdrops, hset]

end

end

section

variable {sha : String → String}

/-- The record has a subject, and its aliases are complete and in order. -/
structure ApiKeyRecord.Normal (sha256Hex : String → String) (r : ApiKeyRecord) : Prop where
  subject : r.quotaSubjectId.isEmpty = false
  aliases : sortDedup (r.quotaSubjectAliases
    ++ [r.id, quotaSubjectForSeed sha256Hex r.id, r.quotaSubjectId]) = r.quotaSubjectAliases

lemma normal_repairSubject : (repairSubject sha records r).Normal sha where
  subject := by
    simp only [repairSubject, reconstructSubject]
    split
    · simp [quotaSubjectForSeed]
    · rename_i h
      simpa using h
  aliases := by
    refine sortDedup_congr fun a => ?_
    simp only [repairSubject, mem_append, mem_sortDedup]
    tauto

lemma repairSubject_of_normal (h : r.Normal sha) : repairSubject sha records r = r := by
  have hsame : reconstructSubject sha records r = r := by
    rw [reconstructSubject, h.subject]
    rfl
  rw [repairSubject, hsame, h.aliases]

lemma keepsLinks_repairSubject : KeepsLinks (repairSubject sha records) := by
  constructor <;> intro r <;> simp only [repairSubject, reconstructSubject] <;> split <;> rfl

lemma normal_repairLink (h : r.Normal sha) : (repairLink records r).Normal sha := by
  unfold repairLink
  split
  · exact ⟨h.subject, h.aliases⟩
  · exact h

/-- **The documents a second repair leaves alone** are those in which retiring prepared
rotations changes no replacement. -/
lemma repair_repair_iff :
    repairApiKeyRotationInvariants sha (repairApiKeyRotationInvariants sha records)
        = repairApiKeyRotationInvariants sha records ↔ Settled records := by
  set phase := records.map (repairSubject sha records) with hphase
  have hnormal : ∀ s ∈ repairLinks phase, s.Normal sha := by
    intro s hs
    obtain ⟨r, hr, rfl⟩ := mem_map.1 (mem_of_mem_filter hs)
    obtain ⟨r, -, rfl⟩ := mem_map.1 hr
    exact normal_repairLink normal_repairSubject
  have hsubj : (repairLinks phase).map (repairSubject sha (repairLinks phase))
      = repairLinks phase :=
    (map_congr_left fun s hs => repairSubject_of_normal (hnormal s hs)).trans (map_id _)
  rw [repairApiKeyRotationInvariants, repairApiKeyRotationInvariants, hsubj,
    repairLinks_repairLinks_iff, settled_map keepsLinks_repairSubject]

end

end ModelPort.Control
