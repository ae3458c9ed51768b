import Mathlib.Data.List.TakeWhile
import Symbolizer.Proofs.Text.Encoding
import Symbolizer.Store.Session

set_option autoImplicit false

namespace Symbolizer

namespace Text

/-- The pieces of a text between line ends, without the last one where it is empty. -/
def lines (text : Text) : List Text :=
  let pieces := text.splitOn '\n'
  if pieces.getLast? = some [] then pieces.dropLast else pieces

theorem bne_newline (text : Text) (closed : '\n' ∉ text) : ∀ c ∈ text, (c == '\n') = false := by
  intro c member
  have other : c ≠ '\n' := fun same => closed (same ▸ member)
  simpa using other

theorem lines_of_notMem (text : Text) (closed : '\n' ∉ text) :
    lines text = if text = [] then [] else [text] := by
  have whole : text.splitOn '\n' = [text] := List.splitOnP_eq_singleton (bne_newline text closed)
  simp [lines, whole]

theorem lines_append (line rest : Text) (closed : '\n' ∉ line) :
    lines (line ++ '\n' :: rest) = line :: lines rest := by
  have first : (line ++ '\n' :: rest).splitOn '\n' = line :: rest.splitOn '\n' :=
    List.splitOnP_append_cons_of_forall_mem (bne_newline line closed) '\n' rfl rest
  obtain ⟨piece, pieces, parts⟩ := List.exists_cons_of_ne_nil (List.splitOn_ne_nil '\n' rest)
  simp only [lines, first, parts, List.getLast?_cons_cons, List.dropLast_cons_cons]
  split <;> rfl

def joinLines (lines : List Text) : Text :=
  lines.flatMap fun line => line ++ ['\n']

theorem joinLines_cons (line : Text) (rest : List Text) :
    joinLines (line :: rest) = line ++ '\n' :: joinLines rest := by
  simp [joinLines]

theorem lines_joinLines (texts : List Text) (closed : ∀ line ∈ texts, '\n' ∉ line) :
    lines (joinLines texts) = texts := by
  induction texts with
  | nil => rfl
  | cons line rest ih =>
      rw [List.forall_mem_cons] at closed
      rw [joinLines_cons, lines_append line _ closed.1, ih closed.2]

theorem lines_dropLast_joinLines (texts : List Text) (closed : ∀ line ∈ texts, '\n' ∉ line)
    (occupied : ∀ line ∈ texts, line ≠ []) : lines (joinLines texts).dropLast = texts := by
  induction texts with
  | nil => rfl
  | cons line rest ih =>
      rw [List.forall_mem_cons] at closed occupied
      cases rest with
      | nil =>
          have last : (joinLines [line]).dropLast = line := by simp [joinLines]
          rw [last, lines_of_notMem line closed.1, if_neg occupied.1]
      | cons next others =>
          have more : joinLines (next :: others) ≠ [] := by simp [joinLines]
          rw [joinLines_cons, List.dropLast_append_of_ne_nil (by simp),
            List.dropLast_cons_of_ne_nil more, lines_append line _ closed.1,
            ih closed.2 occupied.2]

end Text

namespace Stream

@[elab_as_elim]
theorem lineInduction {motive : List UInt8 → Prop}
    (last : ∀ line, lineEnd ∉ line → motive line)
    (more : ∀ line rest, lineEnd ∉ line → motive rest → motive (line ++ lineEnd :: rest))
    (bytes : List UInt8) : motive bytes := by
  by_cases ended : lineEnd ∈ bytes
  · obtain ⟨line, rest, whole, closed⟩ := List.eq_append_cons_of_mem ended
    rw [whole]
    exact more line rest closed (lineInduction last more rest)
  · exact last bytes ended
termination_by bytes.length
decreasing_by
  simp [whole]
  omega

theorem bne_lineEnd_of_notMem (line : List UInt8) (closed : lineEnd ∉ line) :
    ∀ byte ∈ line, (byte != lineEnd) = true := by
  intro byte member
  have other : byte ≠ lineEnd := fun same => closed (same ▸ member)
  simpa using other

theorem splitLine_of_notMem (line : List UInt8) (closed : lineEnd ∉ line) :
    splitLine line = (line, none) := by
  have nothing : line.dropWhile (· != lineEnd) = [] :=
    List.dropWhile_eq_nil_iff.2 (bne_lineEnd_of_notMem line closed)
  rw [splitLine, nothing]

theorem splitLine_append (line rest : List UInt8) (closed : lineEnd ∉ line) :
    splitLine (line ++ lineEnd :: rest) = (line, some rest) := by
  have other := bne_lineEnd_of_notMem line closed
  simp [splitLine, List.dropWhile_append_of_pos other, List.takeWhile_append_of_pos other]

theorem readAll_of_line (stream rest : Stream) (line : Text)
    (read : stream.readLine = .line line rest) :
    stream.readAll = (line :: rest.readAll.1, rest.readAll.2) := by
  rw [readAll]
  split <;> simp_all

theorem readAll_of_finished (stream : Stream) (read : stream.readLine = .finished) :
    stream.readAll = ([], none) := by
  rw [readAll]
  split <;> simp_all

theorem readAll_of_failed (stream : Stream) (reason : Text)
    (read : stream.readLine = .failed reason) : stream.readAll = ([], some reason) := by
  rw [readAll]
  split <;> simp_all

theorem readAll_last (line : List UInt8) (closed : lineEnd ∉ line) :
    readAll { bytes := line } = (if line = [] then [] else [Text.decode line], none) := by
  have finished : readAll { bytes := [] } = ([], none) := readAll_of_finished _ rfl
  by_cases done : line = []
  · rw [done, finished, if_pos rfl]
  · have read : readLine { bytes := line } = .line (Text.decode line) { bytes := [] } := by
      simp [readLine, splitLine_of_notMem line closed, done]
    rw [readAll_of_line _ _ _ read, finished, if_neg done]

theorem readAll_append (line rest : List UInt8) (closed : lineEnd ∉ line) :
    readAll { bytes := line ++ lineEnd :: rest } =
      (Text.decode line :: (readAll { bytes := rest }).1, (readAll { bytes := rest }).2) := by
  have read : readLine { bytes := line ++ lineEnd :: rest } =
      .line (Text.decode line) { bytes := rest } := by
    simp [readLine, splitLine_append line rest closed]
  exact readAll_of_line _ _ _ read

theorem readAll_eq_lines (bytes : List UInt8) :
    readAll { bytes } = (Text.lines (Text.decode bytes), none) := by
  induction bytes using lineInduction with
  | last line closed =>
      rw [readAll_last line closed,
        Text.lines_of_notMem _ (Text.newline_notMem_decode line closed)]
      simp [Text.decode_eq_nil_iff]
  | more line rest closed ih =>
      rw [readAll_append line rest closed, ih, lineEnd, Text.decode_append_newline,
        Text.lines_append _ _ (Text.newline_notMem_decode line closed)]

theorem readLine_failure (stream : Stream) :
    match stream.readLine with
    | .line _ rest => rest.failure = stream.failure
    | .finished => stream.failure = none
    | .failed reason => stream.failure = some reason := by
  unfold readLine
  obtain ⟨line, after⟩ := splitLine stream.bytes
  cases after with
  | some rest => rfl
  | none =>
      cases failing : stream.failure with
      | some reason => rfl
      | none => by_cases empty : line.isEmpty <;> simp [empty]

theorem readAll_failure (stream : Stream) : stream.readAll.2 = stream.failure := by
  have step := readLine_failure stream
  induction stream using readAll.induct with
  | case1 stream line rest read ih =>
      rw [read] at step
      rw [readAll_of_line stream rest line read, ih (readLine_failure rest), step]
  | case2 stream read =>
      rw [read] at step
      rw [readAll_of_finished stream read, step]
  | case3 stream reason read =>
      rw [read] at step
      rw [readAll_of_failed stream reason read, step]

theorem eq_lines_of_readAll {stream : Stream} {lines : List Text}
    (read : stream.readAll = (lines, none)) : lines = Text.lines (Text.decode stream.bytes) := by
  have sound : stream.failure = none := by simpa [read] using stream.readAll_failure.symm
  have whole : stream = { bytes := stream.bytes } := by rw [← sound]
  rw [whole, readAll_eq_lines] at read
  simpa using read.symm

end Stream

namespace Source

theorem outcome_eq (options : BuildOptions) (source : Source) :
    source.outcome options =
      match source.opening with
      | .absent => .error (.absent source.name)
      | .refused reason => .error (.notOpened source.name reason)
      | .opened stream =>
          match stream.failure with
          | some reason => .error (.notRead reason)
          | none => .ok (buildLines options stream.lines) := by
  unfold outcome load
  cases source.opening with
  | absent => rfl
  | refused reason => rfl
  | opened stream =>
      simp only [stream.readAll_failure]
      cases stream.failure <;> rfl

theorem outcome_eq_ok_iff (options : BuildOptions) (source : Source) (outcome : BuildOutcome) :
    source.outcome options = .ok outcome ↔
      ∃ stream lines, source.opening = .opened stream ∧ stream.readAll = (lines, none) ∧
        outcome = buildLines options lines := by
  rw [outcome_eq]
  cases source.opening with
  | absent => simp
  | refused reason => simp
  | opened stream =>
      have whole : stream.readAll = (stream.lines, stream.failure) :=
        Prod.ext rfl stream.readAll_failure
      cases failing : stream.failure <;> simp [whole, failing, eq_comm]

theorem outcome_of_bytes (options : BuildOptions) (name : Text) (bytes : List UInt8) :
    outcome options ⟨name, .opened { bytes }⟩ =
      .ok (buildLines options (Text.lines (Text.decode bytes))) := by
  simp [outcome_eq, Stream.lines, Stream.readAll_eq_lines]

theorem outcome_of_decoded (options : BuildOptions) (name : Text) (bytes : List UInt8) :
    Stream.readAll { bytes } = (Text.lines (Text.decode bytes), none) ∧
      outcome options ⟨name, .opened { bytes }⟩ =
        .ok (buildLines options (Text.lines (Text.decode bytes))) ∧
      outcome options (.ofText (Text.decode bytes)) =
        .ok (buildLines options (Text.lines (Text.decode bytes))) := by
  refine ⟨Stream.readAll_eq_lines bytes, outcome_of_bytes options name bytes, ?_⟩
  have again := outcome_of_bytes options "<memory>".toList (Text.encode (Text.decode bytes))
  rwa [Text.decode_encode] at again

end Source

end Symbolizer
