import Columnar.Feed.Basic
import Columnar.Json.Parser
/-!
# Records in lines of text

A byte stream is cut into lines behind each line feed, however the bytes arrive in chunks. A line is
freed of ASCII blanks at both ends; a line of nothing else is counted but is no record. A stream that
breaks off loses the line that was not complete.
-/

set_option autoImplicit false

namespace Columnar

/-- The bytes still to come, in the chunks in which they arrive, and whether the stream breaks off
behind them instead of ending. -/
structure ByteStream where
  chunks : List (List UInt8)
  breaksOff : Bool
deriving DecidableEq

/-- What reading up to the next line feed gives. -/
inductive LineRead where
  /-- The bytes of a line, its line feed included if it has one. -/
  | line (bytes : List UInt8)
  | ended
  | brokeOff
deriving DecidableEq

namespace ByteStream

/-- The byte that ends a line. -/
def lineFeed : UInt8 := 10

/-- All bytes still to come. -/
def bytes (stream : ByteStream) : List UInt8 :=
  stream.chunks.flatten

/-- Reads up to the next line feed, given the bytes of the line that have already arrived. -/
def readLineFrom (breaksOff : Bool) (begun : List UInt8) :
    List (List UInt8) → LineRead × List (List UInt8)
  | [] =>
    if breaksOff then (.brokeOff, [])
    else if begun.isEmpty then (.ended, [])
    else (.line begun, [])
  | chunk :: chunks =>
    let head := chunk.takeWhile (· != lineFeed)
    match chunk.dropWhile (· != lineFeed) with
    | [] => readLineFrom breaksOff (begun ++ head) chunks
    | feed :: rest => (.line (begun ++ head ++ [feed]), rest :: chunks)

/-- Reads the next line. -/
def readLine (stream : ByteStream) : LineRead × ByteStream :=
  let (read, chunks) := readLineFrom stream.breaksOff [] stream.chunks
  (read, ⟨chunks, stream.breaksOff⟩)

/-- A line takes at least one of the bytes still to come. -/
theorem length_readLineFrom (breaksOff : Bool) (begun : List UInt8) (chunks : List (List UInt8))
    {bytes : List UInt8} (h : (readLineFrom breaksOff begun chunks).1 = .line bytes) :
    (readLineFrom breaksOff begun chunks).2.flatten.length <
      begun.length + chunks.flatten.length := by
  induction chunks generalizing begun with
  | nil =>
    cases breaksOff with
    | true => simp [readLineFrom] at h
    | false =>
      cases begun with
      | nil => simp [readLineFrom] at h
      | cons b rest => simp [readLineFrom]
  | cons chunk chunks ih =>
    have split := List.takeWhile_append_dropWhile (p := (· != lineFeed)) (l := chunk)
    have total := congrArg List.length split
    rw [List.length_append] at total
    rw [readLineFrom] at h ⊢
    split at h
    · next none_left =>
      rw [none_left, List.length_nil] at total
      have shorter := ih (begun ++ chunk.takeWhile (· != lineFeed)) h
      rw [List.length_append] at shorter
      rw [List.flatten_cons, List.length_append]
      omega
    · next feed rest left =>
      rw [left, List.length_cons] at total
      simp only [List.flatten_cons, List.length_append]
      omega

/-- Whatever chunks a line crosses, reading it takes at least one byte off the stream, so polls end.
-/
theorem length_readLine (stream : ByteStream) (bytes : List UInt8)
    (h : stream.readLine.1 = .line bytes) :
    stream.readLine.2.bytes.length < stream.bytes.length := by
  have shorter := length_readLineFrom stream.breaksOff [] stream.chunks h
  simpa [readLine, ByteStream.bytes] using shorter

end ByteStream

/-- The ASCII blanks that are cut off a line: spaces, tabs, line feeds, form feeds and carriage
returns. -/
def isAsciiBlank (byte : UInt8) : Bool :=
  byte == 32 || byte == 9 || byte == 10 || byte == 12 || byte == 13

/-- A line without the ASCII blanks at its ends. -/
def trimAscii (bytes : List UInt8) : List UInt8 :=
  ((bytes.dropWhile isAsciiBlank).reverse.dropWhile isAsciiBlank).reverse

/-- A stream being read line by line: how many lines were read, and whether there are no more. -/
structure LineReader where
  stream : ByteStream
  line : Nat
  finished : Bool

namespace LineReader

/-- The reader of a stream. -/
def ofStream (stream : ByteStream) : LineReader := ⟨stream, 0, false⟩

/-- What the text of a line with a number is. -/
def pollText (line : Nat) (text : List UInt8) : Polled :=
  match Json.parseBytes? text with
  | some value => .record value
  | none => .failed (.malformedRecord line)

/-- Gives the record of the next line that is not blank. -/
def poll (reader : LineReader) : Polled × LineReader :=
  if reader.finished then (.exhausted, reader)
  else
    match _read : reader.stream.readLine with
    | (.ended, stream) => (.exhausted, { reader with stream, finished := true })
    | (.brokeOff, stream) => (.failed .unreadableInput, { reader with stream, finished := true })
    | (.line bytes, stream) =>
      let next : LineReader := { reader with stream, line := reader.line + 1 }
      let text := trimAscii bytes
      if text.isEmpty then poll next else (pollText next.line text, next)
termination_by reader.stream.bytes.length
decreasing_by
  have shorter := ByteStream.length_readLine reader.stream bytes (by rw [_read])
  rwa [_read] at shorter

/-- How many polls may still give something: one for each byte, and one for a broken stream. -/
def remaining (reader : LineReader) : Nat :=
  if reader.finished then 0 else reader.stream.bytes.length + 1

/-- A poll that gives anything leaves fewer polls to come. -/
theorem remaining_poll_lt (reader : LineReader) (h : reader.poll.1 ≠ .exhausted) :
    reader.poll.2.remaining < reader.remaining := by
  fun_induction poll reader with
  | case1 reader finished => exact absurd rfl h
  | case2 reader running stream read => exact absurd rfl h
  | case3 reader running stream read => simp [remaining, running]
  | case4 reader running bytes stream read next text blank ih =>
    have shorter := ByteStream.length_readLine reader.stream bytes (by rw [read])
    rw [read] at shorter
    have later := ih h
    have fewer : next.remaining < reader.remaining := by
      simp only [remaining, running, next]
      simpa using shorter
    omega
  | case5 reader running bytes stream read next text filled =>
    have shorter := ByteStream.length_readLine reader.stream bytes (by rw [read])
    rw [read] at shorter
    simp only [remaining, running, next]
    simpa using shorter

/-- Readers of lines as a feed. -/
def feed : FiniteFeed LineReader where
  poll := poll
  line := LineReader.line
  remaining := remaining
  remaining_lt := remaining_poll_lt

end LineReader

end Columnar
