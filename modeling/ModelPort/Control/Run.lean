import ModelPort.Control.Lineage

/-!
# Runs of the control store

The store keeps its state in memory and writes it through to a document with a revision
(`WriteThrough.Cell`). A run is any sequence of operations, each with an arbitrary time and an
arbitrary end of its write, and of restarts that load the document with its repair. Ids and
secrets are drawn fresh; `History.issued` lists every pair drawn so far, whether or not the key was
saved in the end.

* `Reachable.sound`: the memory of a store that was started empty has been reached by changes, and
  so has the state of its document.
* `Reachable.path`: along a run the memory moves by changes only.
-/

namespace ModelPort.Control

open Relational Relation WriteThrough List

variable {sha : String → String} {allowed : ControlInner → Operation → Prop}

/-! ### The store -/

/-- The store: its state, its document and their revisions. -/
abbrev ControlStore := Cell ControlInner ControlFile

def saveError := documentError "control"

section

variable (sha256Hex : String → String)

/-- Perform an operation: `save_or_restore_locked` rebuilds the index, saves, and restores the
previous state when that fails. -/
def perform (op : Operation) (write : Write) (store : ControlStore) :
    ControlStore × Except AppError Unit :=
  match op.run sha256Hex store.memory with
  | .error e => (store, .error e)
  | .ok (.answer ()) => (store, .ok ())
  | .ok (.save next result) =>
    match store.save ControlInner.toFile write next.rebuildApiKeyHashIndex with
    | (store', none) => (store', result)
    | (store', some e) => (store', .error (saveError store.revision e))

def repairFile (file : ControlFile) : ControlFile :=
  { file with apiKeys := repairApiKeyRotationInvariants sha256Hex file.apiKeys }

/-- Load the document: `ControlStore::load`. -/
def load (store : ControlStore) : ControlStore :=
  store.restart ControlFile.toInner (repairFile sha256Hex)

/-- The state a restart makes of a state. -/
def restarted (inner : ControlInner) : ControlInner := (repairFile sha256Hex inner.toFile).toInner

end

def emptyInner : ControlInner := ⟨Table.empty, Table.empty, ∅⟩

/-- A store together with the ids and secrets drawn so far. -/
structure History where
  store : ControlStore
  issued : List (String × String)

/-- A store that was just set up. -/
def initial : History := ⟨⟨emptyInner, 1, emptyInner.toFile, 1⟩, []⟩

/-- A step of the store. `allowed` restricts the operations. -/
inductive Step (sha256Hex : String → String) (allowed : ControlInner → Operation → Prop) :
    History → History → Prop
  | operate {h : History} (op : Operation) (write : Write) (hall : allowed h.store.memory op)
      (hfresh : ∀ d ∈ op.draw, d.1 ∉ h.issued.map Prod.fst ∧ d.2 ∉ h.issued.map Prod.snd) :
      Step sha256Hex allowed h
        ⟨(perform sha256Hex op write h.store).1, op.draw.toList ++ h.issued⟩
  | restart {h : History} : Step sha256Hex allowed h ⟨load sha256Hex h.store, h.issued⟩

/-- Every operation is allowed. -/
def AnyOperation (_ : ControlInner) (_ : Operation) : Prop := True

abbrev Run (sha256Hex : String → String) (allowed : ControlInner → Operation → Prop) :=
  ReflTransGen (Step sha256Hex allowed)

def Reachable (sha256Hex : String → String) (allowed : ControlInner → Operation → Prop)
    (h : History) : Prop :=
  Run sha256Hex allowed initial h

/-! ### Changes of the state -/

/-- One state follows another: an operation has saved it, or a restart has loaded it. Ids and
secrets come from `issued`, and a new id is not in use. -/
inductive Change (sha256Hex : String → String) (allowed : ControlInner → Operation → Prop)
    (issued : List (String × String)) : ControlInner → ControlInner → Prop
  | operate {inner next : ControlInner} {result : Except AppError Unit} (op : Operation)
      (hall : allowed inner op) (hrun : op.run sha256Hex inner = .ok (.save next result))
      (hdraw : ∀ d ∈ op.draw, d ∈ issued ∧ ∀ r ∈ inner.apiKeys.rows, r.id ≠ d.1) :
      Change sha256Hex allowed issued inner next.rebuildApiKeyHashIndex
  | restart (inner : ControlInner) :
      Change sha256Hex allowed issued inner (restarted sha256Hex inner)

section

variable {issued issued' : List (String × String)} {inner inner' : ControlInner}

lemma Change.mono (hiss : ∀ d ∈ issued, d ∈ issued')
    (h : Change sha allowed issued inner inner') :
    Change sha allowed issued' inner inner' := by
  cases h with
  | operate op hall hrun hdraw =>
    exact .operate op hall hrun fun d hd => ⟨hiss d (hdraw d hd).1, (hdraw d hd).2⟩
  | restart => exact .restart inner

lemma Change.lineageStep (h : Change sha allowed issued inner inner')
    (hlin : Lineage sha issued inner.apiKeys) :
    LineageStep sha issued inner.apiKeys inner'.apiKeys := by
  cases h with
  | operate op _ hrun hdraw => exact (Operation.run_save hrun).keys.lineageStep hdraw hlin
  | restart => exact hlin.restartStep

/-- The states that a store started empty can be in. -/
abbrev Path (sha256Hex : String → String) (allowed : ControlInner → Operation → Prop)
    (issued : List (String × String)) :=
  ReflTransGen (Change sha256Hex allowed issued)

lemma lineage_empty : Lineage sha issued emptyInner.apiKeys := by
  constructor <;> intro r hr <;> cases hr

lemma Path.lineage_of (h : Path sha allowed issued inner inner')
    (hlin : Lineage sha issued inner.apiKeys) :
    Lineage sha issued inner'.apiKeys := by
  induction h with
  | refl => exact hlin
  | tail _ hchg ih => exact (hchg.lineageStep ih).lineage ih

section

variable (h : Path sha allowed issued emptyInner inner)

include h

lemma Path.lineage : Lineage sha issued inner.apiKeys :=
  Path.lineage_of h lineage_empty

lemma Path.index : inner.apiKeyHashIndex = hashIndex inner.apiKeys := by
  cases h with
  | refl => rfl
  | tail _ hchg =>
    cases hchg with
    | operate => rfl
    | restart => rfl

end

lemma toFile_restarted (inner : ControlInner) :
    (restarted sha inner).toFile = repairFile sha inner.toFile := by
  have hkeys : (restarted sha inner).apiKeys.rows
      = repairApiKeyRotationInvariants sha inner.apiKeys.rows := rows_restartKeys
  have hteams : (restarted sha inner).teams.rows = inner.teams.rows :=
    congrArg Table.rows (Table.ofRows_rows inner.teams)
  rw [ControlInner.toFile, hkeys, hteams]
  rfl

end

/-! ### Runs -/

section

variable {start : ControlInner} {h h' : History}

/-- What holds of a store that was in some state and has been operated on since. -/
structure Sound (sha256Hex : String → String) (allowed : ControlInner → Operation → Prop)
    (start : ControlInner) (h : History) : Prop where
  path : Path sha256Hex allowed h.issued start h.store.memory
  lineage : Lineage sha256Hex h.issued h.store.memory.apiKeys
  follows : h.store.Follows ControlInner.toFile (Change sha256Hex allowed h.issued)
  ids : (h.issued.map Prod.fst).Nodup
  secrets : (h.issued.map Prod.snd).Nodup

lemma memory_perform (op : Operation) (write : Write) (store : ControlStore) :
    (perform sha op write store).1 = store ∨
      ∃ next result, op.run sha store.memory = .ok (.save next result) ∧
        (perform sha op write store).1
          = (store.save ControlInner.toFile write next.rebuildApiKeyHashIndex).1 := by
  unfold perform
  match hrun : op.run sha store.memory with
  | .error e => exact .inl rfl
  | .ok (.answer ()) => exact .inl rfl
  | .ok (.save next result) =>
    refine .inr ⟨next, result, rfl, ?_⟩
    match hsave : store.save ControlInner.toFile write next.rebuildApiKeyHashIndex with
    | (store', none) => simp [hsave]
    | (store', some e) => simp [hsave]

/-- A step keeps the store sound, and moves the memory by changes. -/
lemma Sound.step (hsound : Sound sha allowed start h) (hstep : Step sha allowed h h') :
    Sound sha allowed start h' ∧
      Path sha allowed h'.issued h.store.memory h'.store.memory := by
  cases hstep with
  | operate op write hall hfresh =>
    have hmono : ∀ a b, Change sha allowed h.issued a b →
        Change sha allowed (op.draw.toList ++ h.issued) a b := fun a b =>
      Change.mono fun d hd => mem_append_right _ hd
    have hpath := ReflTransGen.mono hmono _ _ hsound.path
    have hlin : Lineage sha (op.draw.toList ++ h.issued) h.store.memory.apiKeys :=
      hsound.lineage.mono fun d hd => mem_append_right _ hd
    have hfollows := hsound.follows.mono hmono
    have hids : ((op.draw.toList ++ h.issued).map Prod.fst).Nodup := by
      cases hdraw : op.draw with
      | none => simpa using hsound.ids
      | some d => simpa [hsound.ids] using (hfresh d hdraw).1
    have hsecr : ((op.draw.toList ++ h.issued).map Prod.snd).Nodup := by
      cases hdraw : op.draw with
      | none => simpa using hsound.secrets
      | some d => simpa [hsound.secrets] using (hfresh d hdraw).2
    rcases memory_perform op write h.store with heq | ⟨next, result, hrun, heq⟩
    · rw [heq]
      exact ⟨⟨hpath, hlin, hfollows, hids, hsecr⟩, .refl⟩
    · have hchg : Change sha allowed (op.draw.toList ++ h.issued) h.store.memory
          next.rebuildApiKeyHashIndex := by
        refine .operate op hall hrun fun d hd => ⟨?_, fun r hr hid => ?_⟩
        · exact mem_append_left _ (by simpa using hd)
        · -- the ids in use were issued earlier
          exact (hfresh d hd).1 (hid ▸ hsound.lineage.issued_id hr)
      have hmove : Path sha allowed (op.draw.toList ++ h.issued) h.store.memory
          (h.store.save ControlInner.toFile write next.rebuildApiKeyHashIndex).1.memory := by
        rcases Cell.memory_save write _ with hsame | hnext
        · rw [hsame]
        · rw [hnext]
          exact .single hchg
      rw [heq]
      exact ⟨⟨hpath.trans hmove, Path.lineage_of hmove hlin, hfollows.save write hchg, hids,
        hsecr⟩, hmove⟩
  | restart =>
    have hmove := hsound.follows.memory_restart Change.restart
    exact ⟨⟨hsound.path.trans hmove, Path.lineage_of hmove hsound.lineage,
      hsound.follows.restart toFile_restarted, hsound.ids, hsound.secrets⟩, hmove⟩

lemma sound_initial : Sound sha allowed emptyInner initial :=
  ⟨.refl, lineage_empty, ⟨emptyInner, rfl, .inl ⟨rfl, rfl⟩⟩, nodup_nil, nodup_nil⟩

lemma issued_step (hstep : Step sha allowed h h') : ∀ d ∈ h.issued, d ∈ h'.issued := by
  cases hstep with
  | operate op write hall hfresh => exact fun d hd => mem_append_right _ hd
  | restart => exact fun d hd => hd

/-- A run keeps the store sound, and moves the memory by changes. -/
lemma Sound.run (hsound : Sound sha allowed start h) (hrun : Run sha allowed h h') :
    Sound sha allowed start h' ∧ (∀ d ∈ h.issued, d ∈ h'.issued) ∧
      Path sha allowed h'.issued h.store.memory h'.store.memory := by
  induction hrun with
  | refl => exact ⟨hsound, fun d hd => hd, .refl⟩
  | tail _ hstep ih =>
    obtain ⟨hsound', hiss, hpath⟩ := ih
    obtain ⟨hnext, hmove⟩ := hsound'.step hstep
    have hmore := issued_step hstep
    refine ⟨hnext, fun d hd => hmore d (hiss d hd), ?_⟩
    exact (ReflTransGen.mono (fun _ _ => .mono hmore) _ _ hpath).trans hmove

lemma Reachable.sound (hreach : Reachable sha allowed h) : Sound sha allowed emptyInner h :=
  (sound_initial.run hreach).1

lemma Reachable.lineage (hreach : Reachable sha allowed h) :
    Lineage sha h.issued h.store.memory.apiKeys :=
  hreach.sound.lineage

end

/-! ### Played runs -/

/-- A step of the store, as data. -/
inductive Event where
  | call (op : Operation) (write : Write)
  | restart

def Event.Allowed (allowed : ControlInner → Operation → Prop) (inner : ControlInner) : Event → Prop
  | .call op _ => allowed inner op
  | .restart => True

section

variable (sha256Hex : String → String)

def History.next (h : History) : Event → History
  | .call op write => ⟨(perform sha256Hex op write h.store).1, op.draw.toList ++ h.issued⟩
  | .restart => ⟨load sha256Hex h.store, h.issued⟩

/-- The history after a list of events. -/
def History.play (h : History) (events : List Event) : History :=
  events.foldl (History.next sha256Hex) h

/-- What an event draws is new. -/
def History.fresh (h : History) : Event → Bool
  | .call op _ => op.draw.all fun d => !(h.issued.map Prod.fst).contains d.1
      && !(h.issued.map Prod.snd).contains d.2
  | .restart => true

/-- What every event draws is new. -/
def History.freshAll (h : History) : List Event → Bool
  | [] => true
  | event :: events => h.fresh event && (h.next sha256Hex event).freshAll events

end

variable {events : List Event}

lemma run_play {allowed : ControlInner → Operation → Prop} {h : History}
    (hall : events.Forall fun e => ∀ inner, e.Allowed allowed inner)
    (hfresh : h.freshAll sha events) :
    Run sha allowed h (h.play sha events) := by
  induction events generalizing h with
  | nil => exact .refl
  | cons event events ih =>
    simp only [History.freshAll, Bool.and_eq_true] at hfresh
    rw [forall_cons] at hall
    refine .head ?_ (ih hall.2 hfresh.2)
    cases event with
    | call op write =>
      refine .operate op write (hall.1 _) fun d hd => ?_
      simpa [History.fresh, Option.mem_def.1 hd] using hfresh.1
    | restart => exact .restart

lemma reachable_play (hfresh : initial.freshAll sha events) :
    Reachable sha AnyOperation (initial.play sha events) :=
  run_play (forall_iff_forall_mem.2 fun e _ _ => by cases e <;> trivial) hfresh

namespace Sample

/-- A digest without collisions. -/
def mark (value : String) : String := "#" ++ value

lemma mark_injective : Function.Injective mark := fun a b h => by
  simpa [mark] using h

lemma mark_ne_empty (value : String) : mark value ≠ "" := by
  simp [mark]

/-- A saved operation. -/
def saved (op : Operation) : Event := .call op .acknowledged

/-- A key that is created at time 1 and expires at time 100. -/
def create : Operation :=
  .create { userId := "usr_1", name := "key", expiresAt := some "100" } none 1 "1" "sk-mp-1"

/-- A store with one key. -/
def created : History := initial.play mark [saved create]

end Sample

end ModelPort.Control
