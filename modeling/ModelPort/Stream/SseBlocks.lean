import ModelPort.Stream.Sse

/-!
# Blocks of server-sent events

A block of lines ends with a blank line. The reader forgets what it has read of a block when the
block has data; a block without data leaves its fields and its bytes to the next one. So a line is
read as if the reader had read nothing but its own block iff the blocks without data that come
before it are empty.

* `sse_blocks_isolated_iff`: when the lines of a body are read by their own blocks.
* `comment_leaks_into_next_frame`: a keep-alive that ends up in a later frame.
-/

namespace ModelPort.Stream

open Generator Generator.Gen List

variable {limits : SseLimits} {line text : List UInt8} {lines before : List (List UInt8)}
  {s t : Parser} {items : List SseFrame}

/-- The reader after one more line. -/
def Parser.next (s : Parser) (line : List UInt8) : Parser :=
  match handleSseLine (trimLineEnding line)
      { s with eventReceivedBytes := s.eventReceivedBytes + (trimLineEnding line).length } with
  | (some _, s) => { s with eventReceivedBytes := 0, yieldedFrame := true }
  | (none, s) => s

/-- What the next frame is made of, and what is charged for it. -/
def Parser.block (s : Parser) : Parser := { s with rawBody := [], yieldedFrame := false }

open Stream.Parser

def isBlank (line : List UInt8) : Bool := trim (fromUtf8Lossy (trimLineEnding line)) = ""

/-- The lines since the last blank one. -/
def ownBlock (lines : List (List UInt8)) : List (List UInt8) :=
  lines.foldl (fun block line => if isBlank line then [] else block ++ [line]) []

/-- The reader of the lines of one block alone. -/
def readAlone (lines : List (List UInt8)) : Parser := lines.foldl Parser.next {}

/-- The lines of a body; the last of them may lack its line feed. -/
def bodyLines (body : List UInt8) : List (List UInt8) :=
  (completeLines body).1 ++ if (completeLines body).2 = [] then [] else [(completeLines body).2]

/-- The reader gets through the lines within the limits. -/
def ComesTo (limits : SseLimits) (lines : List (List UInt8)) (s : Parser) : Prop :=
  ∃ items, forEach (readLine limits) lines {} = ⟨items, s, .ok ()⟩

/-! ### One line -/

lemma handleSseLine_of_not_blank (h : trim (fromUtf8Lossy text) ≠ "") :
    (handleSseLine text s).1 = none ∧
      (handleSseLine text s).2.eventReceivedBytes = s.eventReceivedBytes ∧
      (handleSseLine text s).2.block = (handleSseLine text s.block).2.block := by
  simp only [handleSseLine, if_neg h]
  split
  · exact ⟨rfl, rfl, rfl⟩
  split
  · exact ⟨rfl, rfl, rfl⟩
  split
  · split <;> exact ⟨rfl, rfl, rfl⟩
  split
  · exact ⟨rfl, rfl, rfl⟩
  split <;> exact ⟨rfl, rfl, rfl⟩

lemma stripStart_of_blank {text pre : String} {c : Char} (h : trim text = "")
    (hpre : pre.toList.head? = some c) (hc : isWhitespace c = false) :
    stripStart pre text = none := by
  refine if_neg fun hstart => ?_
  obtain ⟨rest, hrest⟩ := isPrefixOf_iff_prefix.1 hstart
  obtain ⟨tail, htail⟩ := List.head?_eq_some_iff.1 hpre
  have hblank := congrArg String.toList h
  simp only [trim, ← hrest, htail, cons_append, dropWhile_cons, hc, String.toList_ofList,
    String.toList_empty, reverse_eq_nil_iff, dropWhile_eq_nil_iff] at hblank
  rw [hblank c (by simp)] at hc
  cases hc

lemma handleSseLine_of_blank (h : trim (fromUtf8Lossy text) = "") :
    handleSseLine text s = if s.data = [] then (none, s)
      else (some s.frame,
        { s with event := none, id := none, retry := none, comments := [], data := [] }) := by
  simp only [handleSseLine, if_pos h]
  rw [stripStart_of_blank h (c := 'e') rfl rfl, stripStart_of_blank h (c := 'i') rfl rfl,
    stripStart_of_blank h (c := 'r') rfl rfl, stripStart_of_blank h (c := 'd') rfl rfl,
    stripStart_of_blank h (c := ':') rfl rfl]

lemma block_next_of_blank (h : isBlank line) : (s.next line).block = if s.data = [] then
      { s.block with eventReceivedBytes := s.eventReceivedBytes + (trimLineEnding line).length }
    else {} := by
  rw [Parser.next, handleSseLine_of_blank (of_decide_eq_true h)]
  by_cases hdata : s.data = []
  · simp [hdata, block]
  · simp [hdata, block]

lemma next_of_not_blank (h : isBlank line = false) : s.next line =
    (handleSseLine (trimLineEnding line)
      { s with eventReceivedBytes := s.eventReceivedBytes + (trimLineEnding line).length }).2 := by
  have hnone := (handleSseLine_of_not_blank (s := { s with
    eventReceivedBytes := s.eventReceivedBytes + (trimLineEnding line).length })
    (of_decide_eq_false h)).1
  rw [Parser.next]
  split
  · rename_i heq
    rw [heq] at hnone
    cases hnone
  · rename_i heq
    rw [heq]

lemma block_next_congr (hline : isBlank line = false) (h : s.block = t.block) :
    (s.next line).block = (t.next line).block := by
  have hcongr : ∀ s : Parser, (s.next line).block = (handleSseLine (trimLineEnding line)
      { s.block with
        eventReceivedBytes := s.block.eventReceivedBytes +
          (trimLineEnding line).length }).2.block :=
    fun s => by
      rw [next_of_not_blank hline, (handleSseLine_of_not_blank (of_decide_eq_false hline)).2.2]
      rfl
  rw [hcongr, hcongr, h]

lemma bytes_next_pos (h : isBlank line = false) : (s.next line).eventReceivedBytes ≠ 0 := by
  rw [next_of_not_blank h, (handleSseLine_of_not_blank (of_decide_eq_false h)).2.1]
  intro hzero
  have hempty := length_eq_zero_iff.1 (Nat.eq_zero_of_add_eq_zero hzero).2
  rw [isBlank, hempty] at h
  cases h

/-! ### Runs -/

lemma readLine_ok (h : readLine limits line s = ⟨items, t, .ok ()⟩) : t = s.next line := by
  unfold readLine at h
  cases hline : ensureSseLineLimit (trimLineEnding line) limits.maxSseLineBytes with
  | error e =>
    rw [lift_bind_error hline] at h
    cases h
  | ok _ =>
    rw [lift_bind_ok hline, get_bind] at h
    cases hbytes : checkedEventBytes limits s.eventReceivedBytes (trimLineEnding line).length with
    | error e =>
      rw [lift_bind_error hbytes] at h
      cases h
    | ok received =>
      rw [lift_bind_ok hbytes] at h
      unfold checkedEventBytes checkedSseBytes at hbytes
      split_ifs at hbytes
      cases hbytes
      rw [Parser.next]
      rcases hhandled : handleSseLine (trimLineEnding line) { s with
        eventReceivedBytes := s.eventReceivedBytes + (trimLineEnding line).length }
        with ⟨_ | frame, s'⟩
      · simp only [hhandled] at h
        cases h
        rfl
      · simp only [hhandled] at h
        cases h
        rfl

lemma foldl_of_forEach
    (h : forEach (readLine limits) lines s = ⟨items, t, .ok ()⟩) : t = lines.foldl next s := by
  induction lines generalizing s items with
  | nil =>
    cases h
    rfl
  | cons line lines ih =>
    rw [forEach] at h
    rcases hline : readLine limits line s with ⟨first, s', e | _⟩
    · rw [bind_of_error hline] at h
      cases h
    · rw [bind_of_ok hline] at h
      obtain rfl := readLine_ok hline
      cases hrest : forEach (readLine limits) lines (s.next line) with
      | mk items' t' result =>
        rw [hrest] at h
        cases h
        exact ih hrest

/-- The reader has come to its last line from the lines before. -/
lemma ComesTo.last (h : ComesTo limits (before ++ [line]) s) :
    ∃ t, ComesTo limits before t ∧ s = t.next line := by
  obtain ⟨items, h⟩ := h
  have hs := foldl_of_forEach h
  rw [forEach_append] at h
  rcases hbef : forEach (readLine limits) before {} with ⟨items', t, e | _⟩
  · rw [bind_of_error hbef] at h
    cases h
  · refine ⟨t, ⟨items', hbef⟩, ?_⟩
    rw [hs, foldl_append, ← foldl_of_forEach hbef]
    rfl

lemma ownBlock_append (line : List UInt8) : ownBlock (lines ++ [line]) =
    if isBlank line then [] else ownBlock lines ++ [line] := by
  simp [ownBlock]

lemma ownBlock_eq_nil (h : (readAlone (ownBlock lines)).eventReceivedBytes = 0) :
    ownBlock lines = [] := by
  rcases eq_nil_or_concat' lines with rfl | ⟨lines, line, rfl⟩
  · rfl
  · cases hline : isBlank line with
    | true => rw [ownBlock_append, hline, if_pos rfl]
    | false =>
      rw [ownBlock_append, hline, readAlone, if_neg Bool.false_ne_true, foldl_append] at h
      exact absurd h (bytes_next_pos hline)

/-- **When the lines of a body are read by their own blocks.** For every body: as far as it is
within the limits, the reader comes to every line as if it had read only the block of the line,
iff every block without data that another line follows is nothing but an empty line. -/
theorem sse_blocks_isolated_iff (limits : SseLimits) (body : List UInt8) :
    (∀ before line after s, bodyLines body = before ++ line :: after → ComesTo limits before s →
        s.block = (readAlone (ownBlock before)).block) ↔
      ∀ before blank line after s, bodyLines body = before ++ blank :: line :: after →
        ComesTo limits (before ++ [blank]) s → isBlank blank →
        (readAlone (ownBlock before)).data = [] →
          ownBlock before = [] ∧ trimLineEnding blank = [] := by
  constructor
  · intro h before blank line after s hbody hcomes hblank hdata
    have hafter := h (before ++ [blank]) line after s (by simpa using hbody) hcomes
    obtain ⟨t, ht, rfl⟩ := hcomes.last
    have hbef := h before blank (line :: after) t hbody ht
    have hdata' : t.data = [] := (congrArg data hbef).trans hdata
    rw [ownBlock_append, if_pos hblank, block_next_of_blank hblank, if_pos hdata'] at hafter
    have hzero : t.eventReceivedBytes + (trimLineEnding blank).length = 0 :=
      congrArg eventReceivedBytes hafter
    obtain ⟨hzero, hlength⟩ := Nat.eq_zero_of_add_eq_zero hzero
    refine ⟨ownBlock_eq_nil ?_, length_eq_zero_iff.1 hlength⟩
    exact (congrArg eventReceivedBytes hbef).symm.trans hzero
  · intro h before
    induction before using List.reverseRecOn with
    | nil =>
      rintro line after s - ⟨items, hcomes⟩
      cases hcomes
      rfl
    | append_singleton before line ih =>
      intro next after s hbody hcomes
      obtain ⟨t, ht, rfl⟩ := hcomes.last
      have hbody' : bodyLines body = before ++ line :: next :: after := by simpa using hbody
      have hblock := ih line (next :: after) t hbody' ht
      cases hline : isBlank line with
      | false =>
        rw [ownBlock_append, hline, if_neg Bool.false_ne_true, readAlone, foldl_append]
        exact block_next_congr hline hblock
      | true =>
        rw [ownBlock_append, hline, block_next_of_blank hline]
        split
        · rename_i hdata
          obtain ⟨hown, hempty⟩ := h before line next after _ hbody' hcomes hline
            ((congrArg data hblock).symm.trans hdata)
          rw [hown] at hblock
          have hzero : t.eventReceivedBytes = 0 := congrArg eventReceivedBytes hblock
          rw [hblock, hempty, hzero]
          rfl
        · rfl

/-- **A comment that gets into a later frame.** -/
theorem comment_leaks_into_next_frame :
    (readSse ⟨100, 100, 100⟩ id [": ping\n\ndata: x\n\n".toUTF8.data.toList]).1 =
      [⟨none, none, none, ["ping"], "x"⟩] := by
  decide +kernel

end ModelPort.Stream
