import Mathlib.Data.List.TakeWhile
import Columnar.Feed.Lines
/-!
# Lines do not depend on chunks

What the polls of a line reader give is settled by the bytes of its stream and by whether it breaks
off (`answers_ofStream`). The bytes are cut behind each line feed; every line that has something else
than blanks gives one answer, under its number; a stream that breaks off gives one failure behind
them; and from then on there is nothing more. The chunks in which the bytes arrive take no part in it:
reading one line takes the first line off the cut (`lines_eq_of_readLine`), whatever chunks it
crosses, and a poll takes the first of the answers that are due (`polls_poll`).
-/

set_option autoImplicit false

namespace Columnar

/-- What each of a number of polls gives, with the number of the line after it. -/
def Feed.answers {σ : Type} (feed : Feed σ) : Nat → σ → List (Polled × Nat)
  | 0, _ => []
  | n + 1, state =>
    ((feed.poll state).1, feed.line (feed.poll state).2) :: feed.answers n (feed.poll state).2

namespace ByteStream

/-- Bytes cut behind each line feed: the lines that end with one, and the piece behind the last. -/
def cut : List UInt8 → List (List UInt8) × List UInt8
  | [] => ([], [])
  | byte :: rest =>
    if byte = lineFeed then ([byte] :: (cut rest).1, (cut rest).2)
    else
      match cut rest with
      | ([], piece) => ([], byte :: piece)
      | (line :: lines, piece) => ((byte :: line) :: lines, piece)

/-- Bytes are some lines and a piece behind them. Each line ends with its only line feed, and the
piece has none. -/
structure Cuts (bytes : List UInt8) (lines : List (List UInt8)) (piece : List UInt8) : Prop where
  whole : lines.flatten ++ piece = bytes
  line : ∀ line ∈ lines, ∃ body, lineFeed ∉ body ∧ line = body ++ [lineFeed]
  piece : lineFeed ∉ piece

/-- The lines that count: the last piece is one of them if it has bytes and the stream ends behind
it, but not if the stream breaks off there. -/
def linesOf (breaksOff : Bool) (bytes : List UInt8) : List (List UInt8) :=
  if breaksOff ∨ (cut bytes).2 = [] then (cut bytes).1 else (cut bytes).1 ++ [(cut bytes).2]

/-! ### Cutting bytes -/

namespace Cuts

variable {byte : UInt8} {rest line piece : List UInt8} {lines : List (List UInt8)}

/-- A line feed is a line of its own before the lines of what follows. -/
theorem lineFeed_cons (cuts : Cuts rest lines piece) :
    Cuts (lineFeed :: rest) ([lineFeed] :: lines) piece := by
  refine ⟨by simp [cuts.whole], ?_, cuts.piece⟩
  intro other among
  rcases List.mem_cons.mp among with rfl | among
  · exact ⟨[], List.not_mem_nil, rfl⟩
  · exact cuts.line other among

/-- Any other byte belongs to the piece if no line follows. -/
theorem cons_piece (other : byte ≠ lineFeed) (cuts : Cuts rest [] piece) :
    Cuts (byte :: rest) [] (byte :: piece) := by
  refine ⟨by simpa using cuts.whole, cuts.line, ?_⟩
  exact List.not_mem_cons_of_ne_of_not_mem other.symm cuts.piece

/-- Any other byte belongs to the first line that follows. -/
theorem cons_line (other : byte ≠ lineFeed) (cuts : Cuts rest (line :: lines) piece) :
    Cuts (byte :: rest) ((byte :: line) :: lines) piece := by
  refine ⟨by simpa using cuts.whole, ?_, cuts.piece⟩
  intro next among
  rcases List.mem_cons.mp among with rfl | among
  · obtain ⟨body, none, rfl⟩ := cuts.line line List.mem_cons_self
    exact ⟨byte :: body, List.not_mem_cons_of_ne_of_not_mem other.symm none, rfl⟩
  · exact cuts.line next (List.mem_cons_of_mem line among)

end Cuts

/-- Cutting loses no byte and cuts behind every line feed. -/
theorem cuts_cut (bytes : List UInt8) : Cuts bytes (cut bytes).1 (cut bytes).2 := by
  induction bytes with
  | nil => exact ⟨rfl, by simp [cut], by simp [cut]⟩
  | cons byte rest ih =>
    rw [cut]
    by_cases feed : byte = lineFeed
    · rw [if_pos feed, feed]
      exact ih.lineFeed_cons
    · rw [if_neg feed]
      rcases same : cut rest with ⟨_ | ⟨line, lines⟩, piece⟩
      · rw [same] at ih
        exact ih.cons_piece feed
      · rw [same] at ih
        exact ih.cons_line feed

example : cut [97, 10, 10, 98] = ([[97, 10], [10]], [98]) := by decide

/-- Bytes without a line feed are one piece. -/
theorem cut_of_not_mem {bytes : List UInt8} (none : lineFeed ∉ bytes) : cut bytes = ([], bytes) := by
  induction bytes with
  | nil => rfl
  | cons byte rest ih =>
    rw [List.mem_cons, not_or] at none
    rw [cut, if_neg (Ne.symm none.1), ih none.2]

/-- The first line feed ends the first line. -/
theorem cut_append_lineFeed {body : List UInt8} (none : lineFeed ∉ body) (rest : List UInt8) :
    cut (body ++ lineFeed :: rest) = ((body ++ [lineFeed]) :: (cut rest).1, (cut rest).2) := by
  induction body with
  | nil => simp [cut]
  | cons byte body ih =>
    rw [List.mem_cons, not_or] at none
    rw [List.cons_append, cut, if_neg (Ne.symm none.1), ih none.2]
    rfl

/-- The first line feed ends the first of the lines that count, whether or not the stream breaks off
later. -/
theorem linesOf_append_lineFeed (breaksOff : Bool) {body : List UInt8} (none : lineFeed ∉ body)
    (rest : List UInt8) :
    linesOf breaksOff (body ++ lineFeed :: rest) =
      (body ++ [lineFeed]) :: linesOf breaksOff rest := by
  unfold linesOf
  rw [cut_append_lineFeed none]
  split <;> rfl

/-! ### Reading one line -/

/-- What reading a line says about the lines of the bytes: it gives the first of them and leaves the
others, or there is none. -/
def Reads (breaksOff : Bool) (bytes : List UInt8) (read : LineRead) (left : List UInt8) : Prop :=
  match read with
  | .line line => linesOf breaksOff bytes = line :: linesOf breaksOff left
  | .ended => linesOf breaksOff bytes = [] ∧ breaksOff = false
  | .brokeOff => linesOf breaksOff bytes = [] ∧ breaksOff = true

/-- The chunks do not matter for what a line is. What has arrived of it has no line feed, and the
bytes to be cut are these and those of the chunks to come. -/
theorem reads_readLineFrom (breaksOff : Bool) (chunks : List (List UInt8)) :
    ∀ begun : List UInt8, lineFeed ∉ begun →
      Reads breaksOff (begun ++ chunks.flatten) (readLineFrom breaksOff begun chunks).1
        (readLineFrom breaksOff begun chunks).2.flatten := by
  induction chunks with
  | nil =>
    intro begun none
    have piece := cut_of_not_mem none
    rw [List.flatten_nil, List.append_nil, readLineFrom]
    cases breaksOff with
    | true => simp [Reads, linesOf, piece]
    | false =>
      cases begun with
      | nil => simp [Reads, linesOf, cut]
      | cons byte rest =>
        show linesOf false (byte :: rest) = (byte :: rest) :: linesOf false []
        simp [linesOf, piece, cut_of_not_mem]
  | cons chunk chunks ih =>
    intro begun none
    have whole := List.takeWhile_append_dropWhile (p := (· != lineFeed)) (l := chunk)
    have before : lineFeed ∉ begun ++ chunk.takeWhile (· != lineFeed) := by
      intro among
      rcases List.mem_append.mp among with early | late
      · exact none early
      · have other := List.mem_takeWhile_imp late
        simp at other
    rw [readLineFrom, List.flatten_cons]
    split
    · next noFeed =>
      rw [noFeed, List.append_nil] at whole
      have later := ih _ before
      rw [whole, List.append_assoc] at later
      rw [whole]
      exact later
    · next feed rest left =>
      -- What stops the scan of a chunk is the line feed.
      have stops : feed = lineFeed := by
        have head := List.head?_dropWhile_not (· != lineFeed) chunk
        rw [left] at head
        simpa using head
      subst stops
      rw [left] at whole
      have line := linesOf_append_lineFeed breaksOff before (rest ++ chunks.flatten)
      have same : begun ++ (chunk ++ chunks.flatten) =
          begun ++ chunk.takeWhile (· != lineFeed) ++ lineFeed :: (rest ++ chunks.flatten) := by
        conv => lhs; rw [← whole]
        simp
      rw [same]
      exact line

/-- The lines of a stream. -/
def lines (stream : ByteStream) : List (List UInt8) :=
  linesOf stream.breaksOff stream.bytes

/-- Reading from a stream takes the first of its lines, if there is one. -/
theorem reads_readLine (stream : ByteStream) :
    Reads stream.breaksOff stream.bytes stream.readLine.1 stream.readLine.2.bytes := by
  have reads := reads_readLineFrom stream.breaksOff stream.chunks [] (by simp)
  simpa [readLine, bytes] using reads

/-- Reading a line takes the first line off those of the stream. -/
theorem lines_eq_of_readLine {stream rest : ByteStream} {line : List UInt8}
    (read : stream.readLine = (.line line, rest)) :
    stream.lines = line :: rest.lines ∧ rest.breaksOff = stream.breaksOff := by
  have reads := reads_readLine stream
  have same : rest.breaksOff = stream.breaksOff := by
    have second := congrArg (fun answer => answer.2.breaksOff) read
    exact second.symm
  rw [read] at reads
  refine ⟨?_, same⟩
  rw [lines, lines, same]
  exact reads

/-- Nothing is read only at the end of the lines. -/
theorem lines_eq_nil_of_ended {stream rest : ByteStream} (read : stream.readLine = (.ended, rest)) :
    stream.lines = [] ∧ stream.breaksOff = false := by
  have reads := reads_readLine stream
  rw [read] at reads
  exact reads

/-- A stream is said to break off only where it does, behind all lines that count. -/
theorem lines_eq_nil_of_brokeOff {stream rest : ByteStream}
    (read : stream.readLine = (.brokeOff, rest)) :
    stream.lines = [] ∧ stream.breaksOff = true := by
  have reads := reads_readLine stream
  rw [read] at reads
  exact reads

end ByteStream

/-- Nothing is left of a line exactly when it has nothing but blanks. -/
theorem isEmpty_trimAscii (line : List UInt8) :
    (trimAscii line).isEmpty = line.all isAsciiBlank := by
  unfold trimAscii
  rw [List.isEmpty_reverse]
  cases rest : line.dropWhile isAsciiBlank with
  | nil =>
    have blanks := List.dropWhile_eq_nil_iff.mp rest
    simp only [List.reverse_nil, List.dropWhile_nil, List.isEmpty_nil]
    exact (List.all_eq_true.mpr blanks).symm
  | cons byte others =>
    have filled := List.head?_dropWhile_not isAsciiBlank line
    rw [rest] at filled
    have kept : (byte :: others).reverse.dropWhile isAsciiBlank ≠ [] := by
      intro nothing
      have blank := List.dropWhile_eq_nil_iff.mp nothing byte (by simp)
      simp [blank] at filled
    have among : byte ∈ line := by
      have whole := List.takeWhile_append_dropWhile (p := isAsciiBlank) (l := line)
      rw [rest] at whole
      rw [← whole]
      simp
    have notAll : line.all isAsciiBlank = false := by
      rw [List.all_eq_false]
      exact ⟨byte, among, by simpa using filled⟩
    rw [notAll]
    simpa using kept

namespace LineReader

/-- What a line with a number is to be answered with. A blank line is passed over; any other is freed
of blanks at both ends, and is then the text of a record or malformed, under its number. -/
def lineAnswer? (line : List UInt8) (number : Nat) : Option (Polled × Nat) :=
  if line.all isAsciiBlank then none
  else
    match Json.parseBytes? (trimAscii line) with
    | some value => some (.record value, number)
    | none => some (.failed (.malformedRecord number), number)

/-- A line of which nothing is left without its blanks has no answer. -/
theorem lineAnswer?_of_isEmpty {line : List UInt8} (blank : (trimAscii line).isEmpty = true)
    (number : Nat) : lineAnswer? line number = none := by
  rw [lineAnswer?, ← isEmpty_trimAscii, if_pos blank]

/-- A line of which something is left is answered with what a poll says of that. -/
theorem lineAnswer?_of_not_isEmpty {line : List UInt8} (filled : ¬(trimAscii line).isEmpty = true)
    (number : Nat) :
    lineAnswer? line number = some (pollText number (trimAscii line), number) := by
  rw [lineAnswer?, ← isEmpty_trimAscii, if_neg filled, pollText]
  cases Json.parseBytes? (trimAscii line) <;> rfl

/-- What lines are to be answered with, behind a number of other lines; and a failure behind them if
the stream breaks off. -/
def answersOf (breaksOff : Bool) (before : Nat) (lines : List (List UInt8)) : List (Polled × Nat) :=
  (lines.zipIdx (before + 1)).filterMap (fun line => lineAnswer? line.1 line.2) ++
    if breaksOff then [(.failed .unreadableInput, before + lines.length)] else []

/-- The first line is answered under the next number, if it is answered at all, and counts for the
numbers of the others in any case. -/
theorem answersOf_cons (breaksOff : Bool) (before : Nat) (line : List UInt8)
    (lines : List (List UInt8)) :
    answersOf breaksOff before (line :: lines) =
      (lineAnswer? line (before + 1)).toList ++ answersOf breaksOff (before + 1) lines := by
  have count : before + (line :: lines).length = before + 1 + lines.length := by
    rw [List.length_cons]
    omega
  unfold answersOf
  rw [List.zipIdx_cons, List.filterMap_cons, count]
  cases lineAnswer? line (before + 1) <;> rfl

/-- The answers that a reader has still to give. -/
def due (reader : LineReader) : List (Polled × Nat) :=
  if reader.finished then [] else answersOf reader.stream.breaksOff reader.line reader.stream.lines

/-- How many lines a reader will have read in the end. -/
def total (reader : LineReader) : Nat :=
  if reader.finished then reader.line else reader.line + reader.stream.lines.length

/-- A poll gives the first of the answers that are due and leaves the others, or there is none and the
reader stays at its last line. -/
def Polls (reader : LineReader) (answer : Polled × LineReader) : Prop :=
  answer.2.total = reader.total ∧
    match reader.due with
    | [] => answer.1 = .exhausted ∧ answer.2.line = reader.total ∧ answer.2.due = []
    | first :: rest => (answer.1, answer.2.line) = first ∧ answer.2.due = rest

/-- A poll gives the first of the answers that are due. -/
theorem polls_poll (reader : LineReader) : reader.Polls reader.poll := by
  fun_induction poll reader with
  | case1 reader finished => simp [Polls, due, total, finished]
  | case2 reader running stream read =>
    obtain ⟨none, ends⟩ := ByteStream.lines_eq_nil_of_ended read
    simp [Polls, due, total, running, none, ends, answersOf]
  | case3 reader running stream read =>
    obtain ⟨none, breaks⟩ := ByteStream.lines_eq_nil_of_brokeOff read
    simp [Polls, due, total, running, none, breaks, answersOf]
  | case4 reader running bytes stream read next text blank ih =>
    obtain ⟨lines, same⟩ := ByteStream.lines_eq_of_readLine read
    -- A blank line has no answer, so what is due after it is what was due before.
    have skipped : lineAnswer? bytes (reader.line + 1) = none :=
      lineAnswer?_of_isEmpty blank (reader.line + 1)
    have sameDue : next.due = reader.due := by
      simp [due, running, next, lines, same, answersOf_cons, skipped]
    have sameTotal : next.total = reader.total := by
      simp [total, running, next, lines]
      omega
    unfold Polls at ih ⊢
    rw [sameDue, sameTotal] at ih
    exact ih
  | case5 reader running bytes stream read next text filled =>
    obtain ⟨lines, same⟩ := ByteStream.lines_eq_of_readLine read
    have answered : lineAnswer? bytes (reader.line + 1) =
        some (pollText next.line text, next.line) :=
      lineAnswer?_of_not_isEmpty filled (reader.line + 1)
    have dueHere : reader.due = (pollText next.line text, next.line) :: next.due := by
      simp [due, running, next, lines, same, answersOf_cons, answered]
    have sameTotal : next.total = reader.total := by
      simp [total, running, next, lines]
      omega
    unfold Polls
    rw [dueHere]
    exact ⟨sameTotal, rfl, rfl⟩

/-- Any number of polls gives the answers that are due, and then nothing more for ever. -/
theorem answers_due (n : Nat) : ∀ reader : LineReader,
    feed.answers n reader =
      (reader.due ++ List.replicate n (Polled.exhausted, reader.total)).take n := by
  induction n with
  | zero => intro reader; rfl
  | succ n ih =>
    intro reader
    obtain ⟨sameTotal, polled⟩ := polls_poll reader
    rw [Feed.answers]
    show (reader.poll.1, reader.poll.2.line) :: feed.answers n reader.poll.2 = _
    rw [ih, sameTotal]
    cases dueHere : reader.due with
    | nil =>
      rw [dueHere] at polled
      obtain ⟨exhausted, line, rest⟩ := polled
      rw [exhausted, line, rest]
      simp [List.replicate_succ]
    | cons first rest =>
      rw [dueHere] at polled
      obtain ⟨answer, left⟩ := polled
      rw [answer, left, List.cons_append, List.take_succ_cons, List.replicate_succ']
      -- One of the copies behind the answers lies beyond those that are taken.
      have enough : n ≤ (rest ++ List.replicate n (Polled.exhausted, reader.total)).length := by
        simp
      rw [← List.append_assoc, List.take_append_of_le_length enough]

end LineReader

/-- What polls of a line reader give does not depend on the chunks. The bytes are cut behind each line
feed, and a last piece without one is a line if it has bytes and the stream ends behind it. The
polls answer the lines that have something else than blanks, in order, with the record in them or
with the failure of the line, and the number of the line; then, if the stream breaks off, with one
failure, the piece not being counted; and then with nothing for ever, at the last line. -/
theorem answers_ofStream (chunks : List (List UInt8)) (breaksOff : Bool) (n : Nat) :
    let bytes := chunks.flatten
    let lines := ByteStream.linesOf breaksOff bytes
    ByteStream.Cuts bytes (ByteStream.cut bytes).1 (ByteStream.cut bytes).2 ∧
      LineReader.feed.answers n (.ofStream ⟨chunks, breaksOff⟩) =
        (LineReader.answersOf breaksOff 0 lines ++
          List.replicate n (Polled.exhausted, lines.length)).take n := by
  intro bytes lines
  refine ⟨ByteStream.cuts_cut bytes, ?_⟩
  rw [LineReader.answers_due]
  simp [LineReader.due, LineReader.total, LineReader.ofStream, ByteStream.lines, ByteStream.bytes,
    lines, bytes]

end Columnar
