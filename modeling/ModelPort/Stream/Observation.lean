import ModelPort.Stream.OpenAiClientStream

/-!
# What the observation of a response records

`observeOpenaiStreamChunk` adds the tool calls and the text of a chunk to what was observed before.
The indices of tool calls are the provider's, and the largest one wraps to zero.

* `observed_faithfully_iff`: what was recorded is what the chunks carried, up to that index.
-/

namespace ModelPort.Stream

open Gateway List

/-- The observation of a sequence of chunks. -/
def observeChunks (chunks : List Json) : Lifecycle :=
  chunks.foldl (fun l chunk => observeOpenaiStreamChunk chunk l) {}

/-- Some choice of the chunk has a delta with the property. -/
def SomeDelta (chunk : Json) (p : Json → Prop) : Prop :=
  ∃ choice ∈ choicesOf chunk, ∃ delta, choice.get "delta" = some delta ∧ p delta

/-- A delta with a tool call or a function call. -/
def CarriesCall (delta : Json) : Prop :=
  (∃ call calls, (delta.get "tool_calls").bind Json.asArray = some (call :: calls)) ∨
    ∃ call, delta.get "function_call" = some call ∧ call.isObject

/-- A tool call of the delta has this index. -/
def CarriesIndex (index : ℕ) (delta : Json) : Prop :=
  ∃ calls, (delta.get "tool_calls").bind Json.asArray = some calls ∧
    ∃ call ∈ calls, (call.get "index").bind Json.asUnsigned = some index

/-- What the observation of the chunks should be. -/
structure ObservedFaithfully (chunks : List Json) : Prop where
  noOverflow : ∀ chunk ∈ chunks, ∀ index, SomeDelta chunk (CarriesIndex index) → index + 1 < 2 ^ 64
  calls : 1 ≤ (observeChunks chunks).toolCallCount ↔ ∃ chunk ∈ chunks, SomeDelta chunk CarriesCall
  text : (observeChunks chunks).textPresent ↔
    ∃ chunk ∈ chunks, SomeDelta chunk fun delta =>
      ∃ text ≠ "", delta.getString "content" = some text
  grows : ∀ earlier, earlier <+: chunks →
    (observeChunks earlier).toolCallCount ≤ (observeChunks chunks).toolCallCount

/-- What holds of an observation as soon as some choice brings it about. -/
lemma observeChunks_iff {P : Lifecycle → Prop} {Q : ℕ × Bool → Prop} (hnone : ¬ P {})
    (hstep : ∀ chunk l, P (observeOpenaiStreamChunk chunk l) ↔
      P l ∨ ∃ choice ∈ choicesOf chunk, Q (observedInChoice choice)) (chunks : List Json) :
    P (observeChunks chunks) ↔
      ∃ chunk ∈ chunks, ∃ choice ∈ choicesOf chunk, Q (observedInChoice choice) := by
  induction chunks using List.reverseRecOn with
  | nil => simpa [observeChunks] using hnone
  | append_singleton chunks chunk ih =>
    rw [observeChunks, foldl_concat, hstep, ← observeChunks, ih]
    simp

lemma lt_foldl_max {n a : ℕ} {counts : List ℕ} :
    n < counts.foldl max a ↔ n < a ∨ ∃ count ∈ counts, n < count := by
  induction counts generalizing a with
  | nil => simp
  | cons count counts ih => rw [foldl_cons, ih, lt_max_iff, exists_mem_cons_iff, or_assoc]

/-- The count is the largest that some choice gave. -/
lemma lt_toolCallCount {n : ℕ} (chunks : List Json) : n < (observeChunks chunks).toolCallCount ↔
    ∃ chunk ∈ chunks, ∃ choice ∈ choicesOf chunk, n < (observedInChoice choice).1 := by
  refine observeChunks_iff (P := (n < ·.toolCallCount)) (Q := (n < ·.1)) n.not_lt_zero ?_ chunks
  simp [observeOpenaiStreamChunk, Lifecycle.observeResponseFragment, lt_foldl_max]

lemma textPresent_iff (chunks : List Json) : (observeChunks chunks).textPresent ↔
    ∃ chunk ∈ chunks, ∃ choice ∈ choicesOf chunk, (observedInChoice choice).2 := by
  refine observeChunks_iff (P := (·.textPresent)) (Q := (·.2)) nofun ?_ chunks
  simp [observeOpenaiStreamChunk, Lifecycle.observeResponseFragment]

/-- Without an index that wraps, a choice counts calls exactly if its delta carries some. -/
lemma observedInChoice_pos {choice delta : Json} (hdelta : choice.get "delta" = some delta)
    (hindex : ∀ index, CarriesIndex index delta → index + 1 < 2 ^ 64) :
    0 < (observedInChoice choice).1 ↔ CarriesCall delta := by
  have hfunction : 0 < (if ((delta.get "function_call").map Json.isObject).getD false then 1 else 0)
      ↔ ∃ call, delta.get "function_call" = some call ∧ call.isObject := by
    cases delta.get "function_call" with
    | none => simp
    | some call => cases hobject : call.isObject <;> simp [hobject]
  unfold observedInChoice CarriesCall
  simp only [hdelta, lt_max_iff, hfunction]
  refine or_congr_left ?_
  cases hcalls : (delta.get "tool_calls").bind Json.asArray with
  | none => simp
  | some calls =>
    cases hmax : (calls.filterMap fun call => (call.get "index").bind Json.asUnsigned).max? with
    | none => cases calls <;> simp [hmax]
    | some index =>
      obtain ⟨call, hcall, hread⟩ := mem_filterMap.1 (List.max?_mem hmax)
      obtain ⟨first, rest, rfl⟩ := exists_cons_of_ne_nil (ne_nil_of_mem hcall)
      have hpos : 0 < (index + 1) % 2 ^ 64 := by
        rw [Nat.mod_eq_of_lt (hindex index ⟨_, hcalls, call, hcall, hread⟩)]
        exact index.succ_pos
      simpa [hmax] using hpos

/-- **The observation of pass-through chunks is faithful** exactly when no tool call has the
largest index. -/
theorem observed_faithfully_iff (chunks : List Json) : ObservedFaithfully chunks ↔
    ∀ chunk ∈ chunks, ¬ SomeDelta chunk (CarriesIndex (2 ^ 64 - 1)) := by
  refine ⟨fun h chunk hchunk hmax => by simpa using h.noOverflow chunk hchunk _ hmax,
    fun h => ?_⟩
  have hindex : ∀ chunk ∈ chunks, ∀ index, SomeDelta chunk (CarriesIndex index) →
      index + 1 < 2 ^ 64 := by
    intro chunk hchunk index hcarr
    have hne : index ≠ 2 ^ 64 - 1 := by
      rintro rfl
      exact h chunk hchunk hcarr
    obtain ⟨_, _, _, _, _, _, _, _, hread⟩ := hcarr
    obtain ⟨json, -, hjson⟩ := Option.bind_eq_some_iff.1 hread
    have hlt := Json.asUnsigned_lt hjson
    omega
  constructor
  · exact hindex
  · rw [Nat.succ_le_iff, lt_toolCallCount]
    refine exists_congr fun chunk => and_congr_right fun hchunk => exists_congr fun choice =>
      and_congr_right fun hchoice => ?_
    cases hdelta : choice.get "delta" with
    | none => simp [observedInChoice, hdelta]
    | some delta =>
      rw [observedInChoice_pos hdelta fun index hcarr =>
        hindex chunk hchunk index ⟨choice, hchoice, delta, hdelta, hcarr⟩]
      simp
  · rw [textPresent_iff]
    refine exists_congr fun chunk => and_congr_right fun _ => exists_congr fun choice =>
      and_congr_right fun _ => ?_
    cases hdelta : choice.get "delta" with
    | none => simp [observedInChoice, hdelta]
    | some delta => simp [observedInChoice, hdelta, Option.any_eq_true, and_comm]
  · rintro earlier ⟨later, rfl⟩
    refine le_of_forall_lt fun n hn => ?_
    obtain ⟨chunk, hchunk, hchoice⟩ := (lt_toolCallCount _).1 hn
    exact (lt_toolCallCount _).2 ⟨chunk, mem_append_left later hchunk, hchoice⟩

/-- A call with the largest index is not counted. -/
theorem largest_index_not_counted :
    let call := Json.obj [("index", .int (2 ^ 64 - 1))]
    let chunk := Json.obj [("choices", .arr [.obj [("delta", .obj [("tool_calls", .arr [call])])]])]
    SomeDelta chunk CarriesCall ∧ (observeChunks [chunk]).toolCallCount = 0 := by
  refine ⟨⟨_, mem_singleton_self _, _, rfl, .inl ⟨_, _, rfl⟩⟩, by decide +kernel⟩

end ModelPort.Stream
