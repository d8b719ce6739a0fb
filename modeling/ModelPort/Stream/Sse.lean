import ModelPort.Core.Error
import ModelPort.Lib.Generator

/-!
# Reading server-sent events

`readSse` is the frame reader: it takes an upstream body as the chunks in which it arrives, cuts
it into lines (`completeLines`) and the lines into frames (`handleSseLine`), and checks the sizes
of lines, events and of the whole stream. The timeouts are left out: no timer fires.

What a chunk boundary changes is that a line is measured before it is complete. That is no
difference (`tooLong_parse`): a line that is too long already stays so, and nothing is yielded
before it is measured again. A body within the stream limit is therefore read as if it had arrived
as one chunk (`readChunks_finish`). The chunk that exceeds the limit is not looked into: the frames
that it completes are missing, and a line of it that would be refused is not (`refusal`); the
stream is refused instead (`sse_chunking_invariant`).
-/

namespace ModelPort.Stream

open Generator Generator.Gen List

variable {before buffer bytes chunk line pending : List UInt8} {chunks : List (List UInt8)}

/-! ### Frames and limits -/

/-- A frame of the stream. -/
structure SseFrame where
  event : Option String
  id : Option String
  retry : Option ℕ
  comments : List String
  data : String
  deriving DecidableEq

/-- The size limits of the transport. -/
structure SseLimits where
  maxSseLineBytes : ℕ
  maxSseEventBytes : ℕ
  maxSseStreamBytes : ℕ

def sseLimitError (kind setting : String) (limit : ℕ) : AppError :=
  .upstreamProtocol
    ("upstream SSE " ++ kind ++ " exceeded " ++ setting ++ " (" ++ toString limit ++ " bytes)")

def lineLimitError (limit : ℕ) : AppError :=
  sseLimitError "line" "MODELPORT_HTTP_SSE_MAX_LINE_BYTES" limit

def ensureSseLineLimit (line : List UInt8) (limit : ℕ) : Except AppError Unit :=
  if limit < line.length then .error (lineLimitError limit) else .ok ()

/-- The length a pending line has at least when it is complete. -/
def pendingLength (line : List UInt8) : ℕ :=
  if line.getLast? = some 0x0d then line.length - 1 else line.length

def ensurePendingSseLineLimit (line : List UInt8) (limit : ℕ) : Except AppError Unit :=
  if limit < pendingLength line then .error (lineLimitError limit) else .ok ()

def streamLimitError (limit : ℕ) : AppError :=
  sseLimitError "stream" "MODELPORT_HTTP_SSE_MAX_STREAM_BYTES" limit

/-- A sum that overflows is above every limit, and is refused with the same error. -/
def checkedSseBytes (current additional limit : ℕ) (kind setting : String) : Except AppError ℕ :=
  if limit < current + additional then .error (sseLimitError kind setting limit)
  else .ok (current + additional)

def checkedEventBytes (limits : SseLimits) (current additional : ℕ) : Except AppError ℕ :=
  checkedSseBytes current additional limits.maxSseEventBytes "event"
    "MODELPORT_HTTP_SSE_MAX_EVENT_BYTES"

def checkedStreamBytes (limits : SseLimits) (current additional : ℕ) : Except AppError ℕ :=
  checkedSseBytes current additional limits.maxSseStreamBytes "stream"
    "MODELPORT_HTTP_SSE_MAX_STREAM_BYTES"

/-! ### Lines -/

/-- The lines that are complete, each with its line feed, and what follows the last of them. -/
def completeLines : List UInt8 → List (List UInt8) × List UInt8
  | [] => ([], [])
  | b :: bytes =>
    if b = 0x0a then ([b] :: (completeLines bytes).1, (completeLines bytes).2)
    else
      match completeLines bytes with
      | ([], rest) => ([], b :: rest)
      | (line :: lines, rest) => ((b :: line) :: lines, rest)

/-- A byte sequence without its last byte, if that is `b`. -/
def popLast (b : UInt8) (line : List UInt8) : List UInt8 :=
  if line.getLast? = some b then line.dropLast else line

def trimLineEnding (line : List UInt8) : List UInt8 := popLast 0x0d (popLast 0x0a line)

/-- What was read of the next frame, and of the body as a whole. -/
structure Parser where
  event : Option String := none
  id : Option String := none
  retry : Option ℕ := none
  comments : List String := []
  data : List String := []
  rawBody : List String := []
  yieldedFrame : Bool := false
  eventReceivedBytes : ℕ := 0
  deriving DecidableEq

/-- The frame of the data read so far. -/
def Parser.frame (s : Parser) : SseFrame :=
  ⟨s.event, s.id, s.retry, s.comments, String.intercalate "\n" s.data⟩

def handleSseLine (line : List UInt8) (s : Parser) : Option SseFrame × Parser :=
  let line := fromUtf8Lossy line
  match stripStart "event:" line with
  | some value => (none, { s with event := some (trim value) })
  | none =>
  match stripStart "id:" line with
  | some value => (none, { s with id := some (trimStart value) })
  | none =>
  match stripStart "retry:" line with
  | some value =>
    match parseUnsigned (2 ^ 64) (trim value) with
    | some millis => (none, { s with retry := some millis })
    | none => (none, s)
  | none =>
  match stripStart "data:" line with
  | some value => (none, { s with data := s.data ++ [trimStart value] })
  | none =>
  match stripStart ":" line with
  | some value => (none, { s with comments := s.comments ++ [trimStart value] })
  | none =>
  if trim line = "" then
    if s.data = [] then (none, s)
    else
      (some s.frame,
       { s with event := none, id := none, retry := none, comments := [], data := [] })
  else (none, { s with rawBody := s.rawBody ++ [line] })

/-! ### The reader -/

section

variable (limits : SseLimits) (sanitizeErrorText : String → String)

/-- A complete line. -/
def readLine (line : List UInt8) : Gen Parser SseFrame AppError Unit := do
  let line := trimLineEnding line
  lift (ensureSseLineLimit line limits.maxSseLineBytes)
  let s ← get
  let received ← lift (checkedEventBytes limits s.eventReceivedBytes line.length)
  match handleSseLine line { s with eventReceivedBytes := received } with
  | (some frame, s) =>
    modify fun _ => { s with eventReceivedBytes := 0, yieldedFrame := true }
    yield frame
  | (none, s) => modify fun _ => s

/-- The chunks of the body, after `received` bytes of which `buffer` is a line not yet complete.
Returns the line that is left. -/
def readChunks : List UInt8 → ℕ → List (List UInt8) →
    Gen Parser SseFrame AppError (List UInt8)
  | buffer, _, [] => pure buffer
  | buffer, received, chunk :: chunks => do
      let received ← lift (checkedStreamBytes limits received chunk.length)
      let lines := completeLines (buffer ++ chunk)
      forEach (readLine limits) lines.1
      lift (ensurePendingSseLineLimit lines.2 limits.maxSseLineBytes)
      readChunks lines.2 received chunks

/-- The line that the end of the body completes; its ending is not trimmed. -/
def readLastLine (line : List UInt8) : Gen Parser SseFrame AppError Unit :=
  if line = [] then pure ()
  else do
    lift (ensureSseLineLimit line limits.maxSseLineBytes)
    let s ← get
    let _ ← lift (checkedEventBytes limits s.eventReceivedBytes line.length)
    match handleSseLine line s with
    | (some frame, s) =>
      modify fun _ => { s with yieldedFrame := true }
      yield frame
    | (none, s) => modify fun _ => s

/-- The frame that the end of the body completes. -/
def readLastFrame : Gen Parser SseFrame AppError Unit := do
  let s ← get
  if s.data = [] then pure ()
  else do
    modify fun s => { s with yieldedFrame := true }
    yield s.frame

/-- A body without a frame is an error. -/
def requireFrame : Gen Parser SseFrame AppError Unit := do
  let s ← get
  let rawBody := sanitizeErrorText (String.intercalate "\n" s.rawBody)
  if s.yieldedFrame then pure ()
  else if rawBody = "" then
    leave (.upstreamProtocol "upstream SSE response ended before any data event")
  else leave (.upstreamProtocol ("upstream returned a non-SSE response: " ++ rawBody))

/-- The end of the body. -/
def finishSse (buffer : List UInt8) : Gen Parser SseFrame AppError Unit := do
  readLastLine limits buffer
  readLastFrame
  requireFrame sanitizeErrorText

/-- **The frame reader**: the frames it yields, and how it ends. -/
def readSse (chunks : List (List UInt8)) : List SseFrame × Except AppError Unit :=
  let outcome := (readChunks limits [] 0 chunks >>= finishSse limits sanitizeErrorText) {}
  (outcome.items, outcome.result)

end

/-! ### Lines of a concatenation -/

lemma notMem_rest (bytes : List UInt8) : (0x0a : UInt8) ∉ (completeLines bytes).2 := by
  induction bytes with
  | nil => simp [completeLines]
  | cons b bytes ih =>
    rw [completeLines]
    split_ifs with hb
    · exact ih
    · rcases hlines : completeLines bytes with ⟨_ | ⟨line, lines⟩, rest⟩
      · rw [hlines] at ih
        simpa [Ne.symm hb] using ih
      · rw [hlines] at ih
        exact ih

/-- Lines of `pending ++ bytes`, where `pending` has no line feed: the first line of `bytes` goes
on from `pending`. -/
lemma completeLines_pending (hpend : (0x0a : UInt8) ∉ pending) (bytes : List UInt8) :
    completeLines (pending ++ bytes) =
      match completeLines bytes with
      | ([], rest) => ([], pending ++ rest)
      | (line :: lines, rest) => ((pending ++ line) :: lines, rest) := by
  induction pending with
  | nil =>
    rw [nil_append]
    rcases completeLines bytes with ⟨_ | ⟨line, lines⟩, rest⟩ <;> rfl
  | cons b pending ih =>
    have hb : b ≠ 0x0a := fun h => hpend (h ▸ mem_cons_self)
    rw [cons_append, completeLines, if_neg hb, ih fun h => hpend (mem_cons_of_mem _ h)]
    rcases completeLines bytes with ⟨_ | ⟨line, lines⟩, rest⟩ <;> rfl

/-- **Cutting a concatenation into lines**: the lines of the first part, then those of what it
left pending and the second part. -/
lemma completeLines_append (xs ys : List UInt8) : completeLines (xs ++ ys) =
      ((completeLines xs).1 ++ (completeLines ((completeLines xs).2 ++ ys)).1,
        (completeLines ((completeLines xs).2 ++ ys)).2) := by
  induction xs with
  | nil => rfl
  | cons b xs ih =>
    rw [cons_append, completeLines, completeLines, ih]
    split_ifs with hb
    · rfl
    · have hrest := notMem_rest xs
      rcases hlines : completeLines xs with ⟨_ | ⟨line, lines⟩, rest⟩
      · rw [hlines] at hrest
        have hpend : (0x0a : UInt8) ∉ b :: rest := by simpa [Ne.symm hb] using hrest
        rw [completeLines_pending hpend, completeLines_pending hrest]
        rcases completeLines ys with ⟨_ | ⟨line, lines⟩, rest'⟩ <;> rfl
      · rfl

lemma getLast_of_mem_lines (h : line ∈ (completeLines bytes).1) : line.getLast? = some 0x0a := by
  induction bytes generalizing line with
  | nil => simp [completeLines] at h
  | cons b bytes ih =>
    rw [completeLines] at h
    split_ifs at h with hb
    · rcases mem_cons.1 h with rfl | h
      · simp [hb]
      · exact ih h
    · rcases hlines : completeLines bytes with ⟨_ | ⟨first, lines⟩, rest⟩
      · simp [hlines] at h
      · rw [hlines] at h ih
        rcases mem_cons.1 h with rfl | h
        · rw [List.getLast?_cons, ih mem_cons_self, Option.getD_some]
        · exact ih (mem_cons_of_mem _ h)

/-! ### Lines that are too long already -/

/-- Completing a pending line makes it no shorter than it was measured. -/
lemma pendingLength_le_trim (hline : line.getLast? = some 0x0a) :
    pendingLength pending ≤ (trimLineEnding (pending ++ line)).length := by
  obtain ⟨start, rfl⟩ : ∃ start, line = start ++ [0x0a] := by
    have hne : line ≠ [] := by
      rintro rfl
      simp at hline
    refine ⟨line.dropLast, ?_⟩
    have hlast : line.getLast hne = 0x0a := by
      rw [List.getLast?_eq_some_getLast hne] at hline
      exact Option.some.inj hline
    rw [← hlast, dropLast_append_getLast]
  have hpop : popLast 0x0a (pending ++ (start ++ [0x0a])) = pending ++ start := by
    rw [← append_assoc, popLast, if_pos (by simp), dropLast_concat]
  rw [trimLineEnding, hpop, popLast, pendingLength]
  rcases eq_nil_or_concat start with rfl | ⟨start, b, rfl⟩
  · rw [append_nil]
    split_ifs with hcr
    · exact (length_dropLast).ge
    · exact le_rfl
  · split_ifs <;> simp <;> omega

section

variable {limits : SseLimits} {sanitizeErrorText : String → String} {received limit : ℕ}

lemma readLine_tooLong (s : Parser)
    (hlong : limits.maxSseLineBytes < (trimLineEnding line).length) :
    readLine limits line s = ⟨[], s, .error (lineLimitError limits.maxSseLineBytes)⟩ :=
  lift_bind_error (if_pos hlong) _ s

lemma readLastLine_tooLong (s : Parser) (hlong : limits.maxSseLineBytes < line.length) :
    readLastLine limits line s = ⟨[], s, .error (lineLimitError limits.maxSseLineBytes)⟩ := by
  have hne : line ≠ [] := by
    rintro rfl
    exact absurd hlong (Nat.not_lt_zero _)
  rw [readLastLine, if_neg hne]
  exact lift_bind_error (if_pos hlong) _ s

/-- The rest of a body, after the pending line `buffer`, read at one go. -/
def parse (limits : SseLimits) (sanitizeErrorText : String → String) (bytes : List UInt8) :
    Gen Parser SseFrame AppError Unit :=
  forEach (readLine limits) (completeLines bytes).1 >>= fun _ =>
    finishSse limits sanitizeErrorText (completeLines bytes).2

lemma parse_append (xs ys : List UInt8) : parse limits sanitizeErrorText (xs ++ ys) =
      forEach (readLine limits) (completeLines xs).1 >>= fun _ =>
        parse limits sanitizeErrorText ((completeLines xs).2 ++ ys) := by
  rw [parse, completeLines_append, forEach_append, bind_assoc]
  rfl

lemma pendingLength_le (line : List UInt8) : pendingLength line ≤ line.length := by
  rw [pendingLength]
  split_ifs <;> omega

/-- A pending line does not get shorter. -/
lemma pendingLength_append (pending line : List UInt8) :
    pendingLength pending ≤ pendingLength (pending ++ line) := by
  have hle := pendingLength_le pending
  rcases eq_nil_or_concat line with rfl | ⟨start, b, rfl⟩
  · rw [append_nil]
  · rw [pendingLength.eq_def (pending ++ _)]
    split_ifs <;> simp <;> omega

/-- The complete lines after a pending line that is too long: the first of them is refused. -/
lemma tooLong_lines (hpend : (0x0a : UInt8) ∉ pending)
    (hlong : limits.maxSseLineBytes < pendingLength pending) (bytes : List UInt8) (s : Parser) :
    (completeLines (pending ++ bytes)).1 = [] ∧
        limits.maxSseLineBytes < pendingLength (completeLines (pending ++ bytes)).2 ∨
      forEach (readLine limits) (completeLines (pending ++ bytes)).1 s =
        ⟨[], s, .error (lineLimitError limits.maxSseLineBytes)⟩ := by
  rw [completeLines_pending hpend]
  rcases hlines : completeLines bytes with ⟨_ | ⟨line, lines⟩, rest⟩
  · exact .inl ⟨rfl, hlong.trans_le (pendingLength_append pending rest)⟩
  · have hmem : line ∈ (completeLines bytes).1 := by
      rw [hlines]
      exact mem_cons_self
    have hline := getLast_of_mem_lines hmem
    right
    exact bind_of_error
      (readLine_tooLong s (Nat.lt_of_lt_of_le hlong (pendingLength_le_trim hline)))

lemma ensurePending_tooLong (h : limit < pendingLength line) :
    ensurePendingSseLineLimit line limit = .error (lineLimitError limit) := if_pos h

lemma ensurePending_fits (h : ¬limit < pendingLength line) :
    ensurePendingSseLineLimit line limit = .ok () := if_neg h

/-- **A pending line that is too long is refused**, whatever follows it, with nothing yielded
before. -/
lemma tooLong_parse (hpend : (0x0a : UInt8) ∉ pending)
    (hlong : limits.maxSseLineBytes < pendingLength pending) (bytes : List UInt8) (s : Parser) :
    parse limits sanitizeErrorText (pending ++ bytes) s =
      ⟨[], s, .error (lineLimitError limits.maxSseLineBytes)⟩ := by
  rw [parse]
  rcases tooLong_lines hpend hlong bytes s with ⟨hnone, hlen⟩ | herror
  · rw [hnone, forEach, pure_bind]
    exact bind_of_error (readLastLine_tooLong s (hlen.trans_le (pendingLength_le _)))
  · exact bind_of_error herror

lemma completeLines_of_notMem (h : (0x0a : UInt8) ∉ buffer) :
    completeLines buffer = ([], buffer) := by
  have hlines := completeLines_pending h []
  rw [append_nil] at hlines
  rw [hlines]
  show ([], buffer ++ []) = _
  rw [append_nil]

/-- **A body within the stream limit is read as one chunk.** -/
lemma readChunks_finish (chunks : List (List UInt8)) (hbuffer : (0x0a : UInt8) ∉ buffer)
    (hlimit : received + chunks.flatten.length ≤ limits.maxSseStreamBytes) :
    readChunks limits buffer received chunks >>= finishSse limits sanitizeErrorText =
      parse limits sanitizeErrorText (buffer ++ chunks.flatten) := by
  induction chunks generalizing buffer received with
  | nil =>
    rw [readChunks, pure_bind, flatten_nil, append_nil, parse,
      completeLines_of_notMem hbuffer, forEach, pure_bind]
  | cons chunk chunks ih =>
    rw [flatten_cons, length_append] at hlimit
    have hchunk : checkedStreamBytes limits received chunk.length =
        .ok (received + chunk.length) := if_neg (by omega)
    rw [readChunks, hchunk, flatten_cons, ← append_assoc, parse_append]
    show (pure _ >>= _) >>= _ = _
    rw [pure_bind, bind_assoc]
    congr 1
    funext _ s
    have hrest := notMem_rest (buffer ++ chunk)
    by_cases hlong : limits.maxSseLineBytes < pendingLength (completeLines (buffer ++ chunk)).2
    · rw [tooLong_parse hrest hlong, bind_assoc]
      exact lift_bind_error (ensurePending_tooLong hlong) _ s
    · have hih := @ih _ (received + chunk.length) hrest (by omega)
      rw [← hih, bind_assoc]
      exact lift_bind_ok (ensurePending_fits hlong) _ s

/-! ### The chunk that exceeds the stream limit -/

/-- The error with which a line of the bytes is refused, be it complete or not. -/
def refusal (limits : SseLimits) (bytes : List UInt8) (s : Parser) : Option AppError :=
  match (forEach (readLine limits) (completeLines bytes).1 s).result with
  | .error e => some e
  | .ok _ =>
    if limits.maxSseLineBytes < pendingLength (completeLines bytes).2 then
      some (lineLimitError limits.maxSseLineBytes)
    else none

section

variable {xs : List UInt8} {s s' : Parser} {items : List SseFrame} {e : AppError}

lemma refusal_of_error
    (h : forEach (readLine limits) (completeLines xs).1 s = ⟨items, s', .error e⟩) :
    refusal limits xs s = some e := by
  rw [refusal, h]

lemma refusal_of_ok {u : Unit}
    (h : forEach (readLine limits) (completeLines xs).1 s = ⟨items, s', .ok u⟩) :
    refusal limits xs s = if limits.maxSseLineBytes < pendingLength (completeLines xs).2 then
      some (lineLimitError limits.maxSseLineBytes) else none := by
  rw [refusal, h]

/-- Behind lines that are all read, the rest is refused as it would be alone. -/
lemma refusal_append_of_ok {u : Unit}
    (h : forEach (readLine limits) (completeLines xs).1 s = ⟨items, s', .ok u⟩)
    (ys : List UInt8) :
    refusal limits (xs ++ ys) s = refusal limits ((completeLines xs).2 ++ ys) s' := by
  rw [refusal, refusal, completeLines_append, forEach_append, bind_of_ok h]

/-- **What is refused stays refused**, whatever follows. -/
lemma refusal_mono (h : refusal limits xs s = some e) (ys : List UInt8) :
    refusal limits (xs ++ ys) s = some e := by
  rcases hlines : forEach (readLine limits) (completeLines xs).1 s with ⟨items, s', e' | u⟩
  · rw [refusal_of_error hlines] at h
    rw [refusal, completeLines_append, forEach_append, bind_of_error hlines]
    exact h
  · rw [refusal_of_ok hlines] at h
    split_ifs at h with hlong
    rw [refusal_append_of_ok hlines, refusal, ← h]
    rcases tooLong_lines (notMem_rest xs) hlong ys s' with ⟨hnone, hlong'⟩ | herror
    · rw [hnone, if_pos hlong']
      rfl
    · rw [herror]

end

/-- **The chunk that exceeds the stream limit is not looked into**: the frames and the refused line
are those of the chunks before it. -/
lemma readChunks_exceeding (before : List (List UInt8))
    {after : List (List UInt8)} (s : Parser) (hbuffer : (0x0a : UInt8) ∉ buffer)
    (hfits : ¬limits.maxSseLineBytes < pendingLength buffer)
    (hwith : received + before.flatten.length ≤ limits.maxSseStreamBytes)
    (hexc : limits.maxSseStreamBytes < received + before.flatten.length + chunk.length) :
    ∃ s', readChunks limits buffer received (before ++ chunk :: after) s =
      ⟨(forEach (readLine limits) (completeLines (buffer ++ before.flatten)).1 s).items, s',
        .error ((refusal limits (buffer ++ before.flatten) s).getD
          (streamLimitError limits.maxSseStreamBytes))⟩ := by
  induction before generalizing buffer received s with
  | nil =>
    rw [nil_append, flatten_nil, append_nil, refusal, completeLines_of_notMem hbuffer, if_neg hfits]
    exact ⟨s, lift_bind_error (if_pos (by simpa using hexc)) _ s⟩
  | cons first before ih =>
    rw [flatten_cons, length_append] at hwith hexc
    have hfirst : checkedStreamBytes limits received first.length =
        .ok (received + first.length) := if_neg (by omega)
    rw [cons_append, readChunks, lift_bind_ok hfirst, flatten_cons,
      ← append_assoc, completeLines_append (buffer ++ first), forEach_append]
    have hrest := notMem_rest (buffer ++ first)
    rcases hlines : forEach (readLine limits) (completeLines (buffer ++ first)).1 s with
      ⟨items, s', e | _⟩
    · -- a line of this chunk is refused already
      rw [refusal_mono (refusal_of_error hlines)]
      exact ⟨s', by rw [bind_of_error hlines, bind_of_error hlines]; rfl⟩
    · rw [bind_of_ok hlines, bind_of_ok hlines]
      by_cases hlong : limits.maxSseLineBytes < pendingLength (completeLines (buffer ++ first)).2
      · have href := refusal_of_ok hlines
        rw [if_pos hlong] at href
        rw [refusal_mono href, lift_bind_error (ensurePending_tooLong hlong)]
        refine ⟨s', ?_⟩
        rcases tooLong_lines hrest hlong before.flatten s' with ⟨hnone, _⟩ | herror
        · rw [hnone]
          rfl
        · rw [herror]
          rfl
      · rw [lift_bind_ok (ensurePending_fits hlong), refusal_append_of_ok hlines]
        obtain ⟨s'', heq⟩ := @ih _ (received + first.length) s' hrest hlong (by omega) (by omega)
        exact ⟨s'', by rw [heq]⟩

/-- The frames that a body completes, up to its first error. -/
def framesOf (limits : SseLimits) (bytes : List UInt8) : List SseFrame :=
  (forEach (readLine limits) (completeLines bytes).1 {}).items

/-- More bytes complete more frames. -/
lemma framesOf_mono {xs : List UInt8} (h : xs <+: bytes) :
    framesOf limits xs <+: framesOf limits bytes := by
  obtain ⟨ys, rfl⟩ := h
  rw [framesOf, framesOf, completeLines_append, forEach_append]
  rcases hxs : forEach (readLine limits) (completeLines xs).1 {} with ⟨items, s, e | _⟩
  · rw [bind_of_error hxs]
  · rw [bind_of_ok hxs]
    exact prefix_append _ _

/-- The body `bytes`, cut into non-empty chunks. -/
structure Splits (chunks : List (List UInt8)) (bytes : List UInt8) : Prop where
  flatten : chunks.flatten = bytes
  nonempty : ∀ chunk ∈ chunks, chunk ≠ []

/-- After the bytes `before`, the bytes `chunk` arrive together and exceed the stream limit. -/
structure ExceedsIn (limits : SseLimits) (chunks : List (List UInt8)) (before chunk : List UInt8) :
    Prop where
  arrives : ∃ earlier later, chunks = earlier ++ chunk :: later ∧ earlier.flatten = before
  within : before.length ≤ limits.maxSseStreamBytes
  exceeds : limits.maxSseStreamBytes < before.length + chunk.length

/-- The frames that `chunks` give are those of another reading, but for frames that are completed
inside the chunk that exceeds the stream limit; and the error is the same, unless it is the stream
limit for `chunks` and the line that the other reading refuses reaches into that chunk. -/
def MissesOnly (limits : SseLimits) (chunks : List (List UInt8))
    (reading reading' : List SseFrame × Except AppError Unit) : Prop :=
  ∃ before chunk e, ExceedsIn limits chunks before chunk ∧ reading.1 = framesOf limits before ∧
    reading.1 <+: reading'.1 ∧ reading'.1 <+: framesOf limits (before ++ chunk) ∧
    reading'.2 = .error e ∧ (reading.2 = .error e ∨
      reading.2 = .error (streamLimitError limits.maxSseStreamBytes) ∧
        refusal limits before {} = none ∧ refusal limits (before ++ chunk) {} = some e)

lemma ExceedsIn.isPrefix
    (h : ExceedsIn limits chunks before chunk) (hchunks : Splits chunks bytes) :
    before ++ chunk <+: bytes := by
  obtain ⟨earlier, later, rfl, rfl⟩ := h.arrives
  rw [← hchunks.flatten, flatten_append, flatten_cons, ← append_assoc]
  exact prefix_append _ _

lemma readSse_exceeding (sanitizeErrorText : String → String)
    (h : ExceedsIn limits chunks before chunk) : readSse limits sanitizeErrorText chunks =
      (framesOf limits before,
        .error ((refusal limits before {}).getD (streamLimitError limits.maxSseStreamBytes))) := by
  obtain ⟨⟨earlier, later, rfl, rfl⟩, hwith, hexc⟩ := h
  obtain ⟨s, heq⟩ : ∃ s, readChunks limits [] 0 (earlier ++ chunk :: later) {} = ⟨_, s, _⟩ :=
    readChunks_exceeding earlier {} not_mem_nil (Nat.not_lt_zero _) (by omega) (by omega)
  rw [readSse, bind_of_error heq]
  rfl

/-- Of two ways in which a body exceeds the limit, the one with fewer bytes before the exceeding
chunk misses frames of that chunk only: what the other has read by then lies inside it. -/
lemma missesOnly_of_le {chunks' : List (List UInt8)}
    {before' chunk' : List UInt8} (hchunks : Splits chunks bytes)
    (hchunks' : Splits chunks' bytes) (h : ExceedsIn limits chunks before chunk)
    (h' : ExceedsIn limits chunks' before' chunk') (hle : before.length ≤ before'.length) :
    MissesOnly limits chunks (readSse limits sanitizeErrorText chunks)
      (readSse limits sanitizeErrorText chunks') := by
  have hbef : before <+: bytes := (prefix_append _ _).trans (h.isPrefix hchunks)
  have hbefore' : before' <+: bytes := (prefix_append _ _).trans (h'.isPrefix hchunks')
  have hlen : before'.length ≤ (before ++ chunk).length := by
    have hwith := h'.within
    have hexc := h.exceeds
    rw [length_append]
    omega
  have hfirst := prefix_of_prefix_length_le hbef hbefore' hle
  have hsecond := prefix_of_prefix_length_le hbefore' (h.isPrefix hchunks) hlen
  rw [readSse_exceeding sanitizeErrorText h, readSse_exceeding sanitizeErrorText h']
  refine ⟨before, chunk, _, h, rfl, framesOf_mono hfirst, framesOf_mono hsecond, rfl, ?_⟩
  obtain ⟨more, rfl⟩ := hfirst
  obtain ⟨rest, hrest⟩ := hsecond
  cases href : refusal limits before {} with
  | some e =>
    rw [refusal_mono href]
    exact .inl rfl
  | none =>
    cases hrefused' : refusal limits (before ++ more) {} with
    | none => exact .inl rfl
    | some e => exact .inr ⟨rfl, rfl, hrest ▸ refusal_mono hrefused' rest⟩

lemma exists_exceedsIn (chunks : List (List UInt8))
    (h : limits.maxSseStreamBytes < chunks.flatten.length) :
    ∃ before chunk, ExceedsIn limits chunks before chunk := by
  induction chunks using List.reverseRecOn with
  | nil => exact absurd h (Nat.not_lt_zero _)
  | append_singleton chunks chunk ih =>
    by_cases hbef : limits.maxSseStreamBytes < chunks.flatten.length
    · obtain ⟨before, chunk', ⟨earlier, later, rfl, hflatten⟩, hwith, hexc⟩ := ih hbef
      refine ⟨before, chunk', ⟨earlier, later ++ [chunk], by simp, hflatten⟩, hwith, hexc⟩
    · refine ⟨chunks.flatten, chunk, ⟨chunks, [], rfl, rfl⟩, by omega, ?_⟩
      simpa using h

/-- **Chunk boundaries matter beyond the stream limit only.** Two ways in which a body arrives give
the same frames and the same end if the body is within the stream limit. If it exceeds it, both end
with an error, and they differ at most by the frames completed, and the line refused, inside the
chunk that exceeds the limit. -/
theorem sse_chunking_invariant (limits : SseLimits) (sanitizeErrorText : String → String)
    (bytes : List UInt8) (chunks chunks' : List (List UInt8)) (hchunks : Splits chunks bytes)
    (hchunks' : Splits chunks' bytes) : (bytes.length ≤ limits.maxSseStreamBytes →
      readSse limits sanitizeErrorText chunks = readSse limits sanitizeErrorText chunks') ∧
    (limits.maxSseStreamBytes < bytes.length →
      MissesOnly limits chunks (readSse limits sanitizeErrorText chunks)
          (readSse limits sanitizeErrorText chunks') ∨
        MissesOnly limits chunks' (readSse limits sanitizeErrorText chunks')
          (readSse limits sanitizeErrorText chunks)) := by
  constructor
  · intro hwith
    have hread : ∀ chunks, Splits chunks bytes → readSse limits sanitizeErrorText chunks =
        ((parse limits sanitizeErrorText bytes {}).items,
          (parse limits sanitizeErrorText bytes {}).result) := by
      intro chunks hchunks
      have hfin : readChunks limits [] 0 chunks >>= finishSse limits sanitizeErrorText = _ :=
        readChunks_finish chunks not_mem_nil (by rw [hchunks.flatten]; omega)
      rw [readSse, hfin, hchunks.flatten]
      rfl
    rw [hread chunks hchunks, hread chunks' hchunks']
  · intro hexc
    obtain ⟨before, chunk, hin⟩ := exists_exceedsIn chunks (hchunks.flatten ▸ hexc)
    obtain ⟨before', chunk', hin'⟩ := exists_exceedsIn chunks' (hchunks'.flatten ▸ hexc)
    rcases Nat.le_total before.length before'.length with hle | hle
    · exact .inl (missesOnly_of_le hchunks hchunks' hin hin' hle)
    · exact .inr (missesOnly_of_le hchunks' hchunks hin' hin hle)

/-- Two frames, as one chunk and in chunks that cut through lines. -/
theorem sse_chunking_invariant_two_frames :
    readSse ⟨16, 64, 64⟩ id ["data: a\r\n\r\n:b\ndata: c\n\n".toUTF8.toList] =
      readSse ⟨16, 64, 64⟩ id
        ["dat".toUTF8.toList, "a: a\r".toUTF8.toList, "\n\r\n:b\ndata: c\n\n".toUTF8.toList] :=
  (sse_chunking_invariant ⟨16, 64, 64⟩ id "data: a\r\n\r\n:b\ndata: c\n\n".toUTF8.toList _ _
    ⟨by decide +kernel, by decide +kernel⟩ ⟨by decide +kernel, by decide +kernel⟩).1
    (by decide +kernel)

/-- **The limit that is named depends on the chunks.** A line that is too long, and another one that
exceeds the stream limit: as one chunk the stream is refused, as two the line is. -/
theorem stream_limit_hides_line_limit :
    (readSse ⟨4, 100, 8⟩ id ["aaaaa\nbbbb".toUTF8.toList]).2 = .error (streamLimitError 8) ∧
      (readSse ⟨4, 100, 8⟩ id ["aaaaa\n".toUTF8.toList, "bbbb".toUTF8.toList]).2
        = .error (lineLimitError 4) ∧ streamLimitError 8 ≠ lineLimitError 4 := by
  decide +kernel

end

end ModelPort.Stream
