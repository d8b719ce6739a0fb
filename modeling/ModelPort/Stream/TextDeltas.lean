import ModelPort.Stream.OpenAiStream

/-!
# Text without repetitions

Some providers repeat what they have sent. `text_delta` keeps what was seen and passes on only
what is new: nothing is lost that was not seen before.

* `text_deduplication_exact`: what is passed on is what was seen, and where every content extends
  the one before it, that is the last content.
-/

namespace ModelPort.Stream

/-- The deltas of a sequence of contents with de-duplication on, and what was seen in the end. -/
def textDeltas (contents : List String) : List String × String :=
  contents.foldl
    (fun (deltas, seen) content =>
      let (delta, seen) := textDelta seen content true
      (deltas ++ [delta], seen))
    ([], "")

/-- What was seen grows by the delta. -/
lemma textDelta_seen (seen content : String) :
    (textDelta seen content true).2 = seen ++ (textDelta seen content true).1 := by
  unfold textDelta
  split_ifs with hempty _ hstarts
  · simp
  · contradiction
  · have hrest := List.prefix_iff_eq_append.1 (List.isPrefixOf_iff_prefix.1 hstarts)
    exact String.toList_injective (by simp [hrest])
  all_goals simp

lemma textDelta_of_startsWith {seen content : String} (h : startsWith content seen) :
    (textDelta seen content true).2 = content := by
  unfold textDelta
  split_ifs with hempty
  · subst hempty
    simpa [startsWith] using h
  · contradiction
  · rfl

lemma textDeltas_concat (contents : List String) (content : String) :
    textDeltas (contents ++ [content]) =
      ((textDeltas contents).1 ++ [(textDelta (textDeltas contents).2 content true).1],
        (textDelta (textDeltas contents).2 content true).2) := by
  simp [textDeltas]

lemma join_textDeltas (contents : List String) :
    String.join (textDeltas contents).1 = (textDeltas contents).2 := by
  induction contents using List.reverseRecOn with
  | nil => rfl
  | append_singleton contents content ih =>
    rw [textDeltas_concat, textDelta_seen, ← ih]
    simp

/-- What was seen of contents of which each extends the one before. -/
lemma textDeltas_of_isChain {contents : List String}
    (h : contents.IsChain fun earlier later => startsWith later earlier) :
    (textDeltas contents).2 = contents.getLast?.getD "" := by
  induction contents using List.reverseRecOn with
  | nil => rfl
  | append_singleton contents content ih =>
    obtain ⟨hearl, -, hlast⟩ := List.isChain_append.1 h
    rw [textDeltas_concat, ih hearl, List.getLast?_concat]
    refine textDelta_of_startsWith ?_
    cases hcase : contents.getLast? with
    | none => simp [startsWith]
    | some last => exact hlast last hcase content rfl

/-- **De-duplication is exact**: the deltas are what was seen, and if every content extends the one
before, the last content. -/
theorem text_deduplication_exact (contents : List String) :
    String.join (textDeltas contents).1 = (textDeltas contents).2 ∧
      (contents.IsChain (fun earlier later => startsWith later earlier) → ∀ last,
        contents.getLast? = some last → String.join (textDeltas contents).1 = last) := by
  refine ⟨join_textDeltas contents, fun hchain last hlast => ?_⟩
  rw [join_textDeltas, textDeltas_of_isChain hchain, hlast, Option.getD_some]

end ModelPort.Stream
