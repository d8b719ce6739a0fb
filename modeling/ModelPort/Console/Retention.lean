import ModelPort.Core.Error
import ModelPort.Lib.Runs
import ModelPort.Lib.Table

/-!
# Retention previews

An administrator who is to delete old records first asks for a preview of what the policy would
delete. The preview comes with a token, and the deletion is done for a token only
(`Previews.consume`). A token serves the administrator it was issued to, once, for a limited time,
and until they ask for another preview.

The map of previews is a table by token. Tokens are drawn at random; here they come with the event
that issues them.

* `retention_preview_authorises_once`: whose tokens are accepted, over every history of calls.
-/

namespace ModelPort.Retention

open Relational Runs List

/-- What is kept, and for how long. -/
structure RetentionPolicy where
  requestDetailDays : ℕ
  userUsageDays : ℕ
  auditDays : ℕ
  legalHold : Bool
  contentPersistence : Bool
  deriving DecidableEq

/-- What an administrator was shown. -/
structure RetentionPreview where
  actorId : String
  policy : RetentionPolicy
  evaluatedAtMs : ℕ
  expiresAtMs : ℕ
  deriving DecidableEq

/-- The previews by token. -/
abbrev Previews := Table fun entry : String × RetentionPreview => [entry.1]

def retentionPreviewUnavailable : AppError :=
  .stateConflict ("retention preview is missing, expired, already used, or belongs to another " ++
    "administrator; run a new preview")

namespace Previews

/-- A new preview, with a token; it takes the place of the administrator's older one. -/
def issue (ttlMs : ℕ) (inner : Previews) (actorId token : String) (policy : RetentionPolicy)
    (evaluatedAtMs nowMs : ℕ) : Previews × String × ℕ :=
  let preview : RetentionPreview := ⟨actorId, policy, evaluatedAtMs, saturatingAdd nowMs ttlMs⟩
  let inner := inner.retain fun entry => nowMs < entry.2.expiresAtMs && entry.2.actorId != actorId
  (inner.put (token, preview), token, preview.expiresAtMs)

def remove (inner : Previews) (token : String) : Previews :=
  inner.retain fun entry => entry.1 != token

/-- The preview of a token, which is used up. -/
def consume (inner : Previews) (actorId token : String) (nowMs : ℕ) :
    Previews × Except AppError RetentionPreview :=
  match inner.find token with
  | none => (inner, .error retentionPreviewUnavailable)
  | some (_, preview) =>
    if preview.expiresAtMs ≤ nowMs then (inner.remove token, .error retentionPreviewUnavailable)
    else if preview.actorId ≠ actorId then (inner, .error retentionPreviewUnavailable)
    else (inner.remove token, .ok preview)

end Previews

/-! ### Histories -/

/-- A call of an administrator. -/
inductive Event where
  | issue (actorId token : String) (policy : RetentionPolicy) (evaluatedAtMs nowMs : ℕ)
  | consume (actorId token : String) (nowMs : ℕ)

namespace Event

def nowMs : Event → ℕ
  | issue _ _ _ _ nowMs => nowMs
  | consume _ _ nowMs => nowMs

/-- The token a call issues. -/
def issued : Event → Option String
  | issue _ token _ _ _ => some token
  | consume _ _ _ => none

/-- The call ends the use of a token of an administrator: it is their next preview, or their own
use of the token. -/
def Ends (actor token : String) : Event → Prop
  | issue actorId _ _ _ _ => actorId = actor
  | consume actorId token' _ => actorId = actor ∧ token' = token

/-- The call leaves a preview under its token. -/
def Spares (token : String) (preview : RetentionPreview) : Event → Prop
  | issue actorId token' _ _ nowMs =>
    token' ≠ token ∧ nowMs < preview.expiresAtMs ∧ preview.actorId ≠ actorId
  | consume actorId token' nowMs =>
    token' = token → nowMs < preview.expiresAtMs ∧ preview.actorId ≠ actorId

end Event

/-- The previews after a call. -/
def step (ttlMs : ℕ) (inner : Previews) : Event → Previews
  | .issue actorId token policy evaluatedAtMs nowMs =>
    (inner.issue ttlMs actorId token policy evaluatedAtMs nowMs).1
  | .consume actorId token nowMs => (inner.consume actorId token nowMs).1

variable {ttlMs : ℕ} {inner : Previews} {actor token : String} {preview : RetentionPreview}

lemma consume_eq_ok {nowMs : ℕ} : (inner.consume actor token nowMs).2 = .ok preview ↔
    inner.find token = some (token, preview) ∧ nowMs < preview.expiresAtMs ∧
      preview.actorId = actor := by
  unfold Previews.consume
  cases hfind : inner.find token with
  | none => simp
  | some entry =>
    obtain rfl : token = entry.1 := by simpa using (Table.find_eq_some.1 hfind).2
    by_cases hold : entry.2.expiresAtMs ≤ nowMs <;>
      by_cases hown : entry.2.actorId = actor <;>
      grind

/-- **What one call leaves of the preview of a token**: the preview it issues, or one it spares. -/
lemma find_step {e : Event} : (step ttlMs inner e).find token = some (token, preview) ↔
    (∃ nowMs, e = .issue preview.actorId token preview.policy preview.evaluatedAtMs nowMs ∧
        preview.expiresAtMs = saturatingAdd nowMs ttlMs) ∨
      inner.find token = some (token, preview) ∧ e.Spares token preview := by
  cases e with
  | issue actorId token' policy evaluatedAtMs nowMs =>
    simp only [step, Previews.issue, Table.find_put_single, Table.find_retain, Event.Spares]
    by_cases htoken : token' = token
    · obtain ⟨owner, policy', evaluated, expires⟩ := preview
      simp [htoken, and_assoc, eq_comm]
    · rw [if_neg htoken, Option.filter_eq_some_iff]
      grind
  | consume actorId token' nowMs =>
    simp only [step, Previews.consume, Event.Spares]
    have hkey : ∀ t entry, inner.find t = some entry → entry.1 = t :=
      fun t entry h => (by simpa using (Table.find_eq_some.1 h).2 : t = entry.1).symm
    cases hfind : inner.find token' with
    | none => grind
    | some entry =>
      have : (inner.remove token').find token = _ := inner.find_retain _ token
      grind [Option.filter_eq_some_iff]

/-- **A retention preview authorises one deletion.** With fresh tokens and times that do not go
back, a use of a token succeeds exactly if the token was issued to the administrator who uses it,
is not expired, and since it was issued they have neither used it nor asked for another preview;
what others try is of no account. The deletion then has the policy and the time of evaluation of
that preview. -/
theorem retention_preview_authorises_once (ttlMs : ℕ) (events : List Event)
    (hfresh : (events.filterMap Event.issued).Nodup) (actor token : String) (nowMs : ℕ)
    (htimes : (events.map Event.nowMs ++ [nowMs]).Pairwise (· ≤ ·)) (preview : RetentionPreview) :
    ((after (step ttlMs) Table.empty events).consume actor token nowMs).2 = .ok preview ↔
      ∃ earlier issuedMs later,
        events = earlier ++
          .issue actor token preview.policy preview.evaluatedAtMs issuedMs :: later ∧
        preview = ⟨actor, preview.policy, preview.evaluatedAtMs, saturatingAdd issuedMs ttlMs⟩ ∧
        nowMs < preview.expiresAtMs ∧ ∀ e ∈ later, ¬ e.Ends actor token := by
  rw [consume_eq_ok]
  constructor
  · rintro ⟨hfind, hnow, rfl⟩
    obtain ⟨earlier, e, later, rfl, ⟨issuedMs, rfl, hexpiry⟩, hlater⟩ :=
      since_of_holds (H := fun s : Previews => s.find token = some (token, preview)) hfind nofun
        fun s e => find_step.1
    refine ⟨earlier, issuedMs, later, rfl, by rw [← hexpiry], hnow, fun e he hends => ?_⟩
    have hspar := hlater e he
    cases e with
    | issue => exact hspar.2.2 hends.symm
    | consume => exact (hspar hends.2).2 hends.1.symm
  · rintro ⟨earlier, issuedMs, later, rfl, hprev, hnow, hlater⟩
    refine ⟨?_, hnow, by rw [hprev]⟩
    have hspar : ∀ e ∈ later, e.Spares token preview := by
      intro e he
      have hle : e.nowMs ≤ nowMs := by
        refine (pairwise_append.1 htimes).2.2 _ (mem_map_of_mem ?_) nowMs (by simp)
        simp [he]
      have hlt := hle.trans_lt hnow
      have hends := hlater e he
      cases e with
      | issue actorId token' policy evaluatedAtMs ms =>
        refine ⟨?_, hlt, by rw [hprev]; exact Ne.symm hends⟩
        rintro rfl
        simp only [filterMap_append] at hfresh
        refine (nodup_cons.1 (nodup_append.1 hfresh).2.1).1 ?_
        exact mem_filterMap.2 ⟨_, he, rfl⟩
      | consume actorId token' ms =>
        refine fun htoken => ⟨hlt, ?_⟩
        rw [hprev]
        exact fun h => hends ⟨h.symm, htoken⟩
    rw [after_append, after_cons]
    refine Throughout.invariant (P := fun _ => Event.Spares token preview)
      (I := fun s : Previews => s.find token = some (token, preview)) ?_ ?_ ?_
    · exact fun before e rest hsplit => hspar e (by simp [hsplit])
    · exact find_step.2 (.inl ⟨issuedMs, by rw [hprev], by rw [hprev]⟩)
    · exact fun s e hs he => find_step.2 (.inr ⟨hs, he⟩)

/-- What an administrator was shown serves them, also after another has tried its token. -/
theorem retention_preview_after_attempt :
    let policy : RetentionPolicy := ⟨30, 30, 90, false, false⟩
    ((after (step 60000) Table.empty
      [.issue "alice" "rtp_1" policy 5 7, .consume "bob" "rtp_1" 8]).consume "alice" "rtp_1" 9).2
      = .ok ⟨"alice", policy, 5, 60007⟩ :=
  (retention_preview_authorises_once _ _ (by decide) _ _ _ (by decide) _).2
    ⟨[], 7, [_], rfl, by decide, by decide, by simp [Event.Ends]⟩

end ModelPort.Retention
