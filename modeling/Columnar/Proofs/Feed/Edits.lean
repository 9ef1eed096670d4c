import Columnar.Proofs.Feed.Lines
/-!
# Lines that carry no record

Two byte streams may differ in lines that are blank, or are no JSON, or JSON but no object. How they
differ is a script of texts that are kept, inserted or removed (`LineEdit`), which leaves the objects
among them as they are (`objectsIn_sides`). Where two readers have come to the same object, the script
can be cut so that each of them has read one side of its first part (`exists_front`). What one poll
reads of the texts is described once, by `answered_poll`.
-/

set_option autoImplicit false

namespace Columnar

/-- The members of the object that a text is. -/
def objectText? (text : List UInt8) : Option Json.Members :=
  match Json.parseBytes? text with
  | some (.object members) => some members
  | _ => none

/-- The objects among texts, in order. -/
def objectsIn (texts : List (List UInt8)) : List Json.Members :=
  texts.filterMap objectText?

/-- How many texts have something in them but are no object. -/
def noiseIn (texts : List (List UInt8)) : Nat :=
  texts.countP fun text => !text.isEmpty && (objectText? text).isNone

/-- The last of the texts, if there is one, is an object. -/
def EndsWithObject (texts : List (List UInt8)) : Prop :=
  ∀ text ∈ texts.getLast?, (objectText? text).isSome

section

variable {text : List UInt8} {texts more : List (List UInt8)} {members : Json.Members}

/-- Nothing at all is no object. -/
theorem objectText?_nil : objectText? [] = none := rfl

@[simp] theorem objectsIn_append (texts more : List (List UInt8)) :
    objectsIn (texts ++ more) = objectsIn texts ++ objectsIn more :=
  List.filterMap_append

@[simp] theorem noiseIn_append (texts more : List (List UInt8)) :
    noiseIn (texts ++ more) = noiseIn texts + noiseIn more :=
  List.countP_append

/-- A text that is no object adds none. -/
theorem objectsIn_cons_of_none (none : objectText? text = none) (texts : List (List UInt8)) :
    objectsIn (text :: texts) = objectsIn texts :=
  List.filterMap_cons_none none

/-- A text that is an object comes before those of the texts behind it. -/
theorem objectsIn_cons_of_some (object : objectText? text = some members)
    (texts : List (List UInt8)) : objectsIn (text :: texts) = members :: objectsIn texts :=
  List.filterMap_cons_some object

@[simp] theorem objectsIn_replicate_nil (blanks : Nat) :
    objectsIn (List.replicate blanks []) = [] := by
  induction blanks with
  | zero => rfl
  | succ blanks ih => rw [List.replicate_succ, objectsIn_cons_of_none objectText?_nil, ih]

@[simp] theorem noiseIn_replicate_nil (blanks : Nat) :
    noiseIn (List.replicate blanks []) = 0 := by
  simp [noiseIn, List.countP_replicate]

/-- Texts with an object behind them end with it. -/
theorem endsWithObject_append_singleton (object : (objectText? text).isSome)
    (texts : List (List UInt8)) : EndsWithObject (texts ++ [text]) := by
  intro last found
  rw [List.getLast?_concat] at found
  cases found
  exact object

/-- What ends with an object does so without its first text, or is empty then. -/
theorem EndsWithObject.tail (ends : EndsWithObject (text :: texts)) : EndsWithObject texts := by
  intro last found
  refine ends last ?_
  cases texts with
  | nil => cases found
  | cons next texts => rwa [List.getLast?_cons_cons]

/-- Texts of which the last is an object have none only if there are none. -/
theorem EndsWithObject.eq_nil (ends : EndsWithObject texts) (none : objectsIn texts = []) :
    texts = [] := by
  cases last : texts.getLast? with
  | none => exact List.getLast?_eq_none_iff.mp last
  | some text =>
    have among := List.mem_of_getLast? last
    have object := ends text last
    rw [List.filterMap_eq_nil_iff.mp none text among] at object
    cases object

end

/-! ### Scripts -/

/-- What becomes of a text on the way from one stream to another. -/
inductive LineEdit where
  | kept (text : List UInt8)
  | inserted (text : List UInt8)
  | removed (text : List UInt8)

namespace LineEdit

/-- What is inserted or removed is no object. -/
def IsQuiet : LineEdit → Prop
  | .kept _ => True
  | .inserted text | .removed text => objectText? text = none

instance : DecidablePred IsQuiet
  | .kept _ => .isTrue trivial
  | .inserted text | .removed text => inferInstanceAs (Decidable (objectText? text = none))

/-- The texts that are there before a script. -/
def before (edits : List LineEdit) : List (List UInt8) :=
  edits.filterMap fun
    | .kept text | .removed text => some text
    | .inserted _ => none

/-- The texts that are there after a script. -/
def after (edits : List LineEdit) : List (List UInt8) :=
  edits.filterMap fun
    | .kept text | .inserted text => some text
    | .removed _ => none

/-- The texts that a script inserts. -/
def insertions (edits : List LineEdit) : List (List UInt8) :=
  edits.filterMap fun
    | .inserted text => some text
    | .kept _ | .removed _ => none

/-- The texts that a script removes. -/
def removals (edits : List LineEdit) : List (List UInt8) :=
  edits.filterMap fun
    | .removed text => some text
    | .kept _ | .inserted _ => none

/-- A script of quiet edits leaves the objects as they are. -/
theorem objectsIn_sides {edits : List LineEdit} (quiet : ∀ edit ∈ edits, edit.IsQuiet) :
    objectsIn (before edits) = objectsIn (after edits) := by
  induction edits with
  | nil => rfl
  | cons edit edits ih =>
    have rest := ih fun other among => quiet other (List.mem_cons_of_mem edit among)
    have here := quiet edit List.mem_cons_self
    cases edit with
    | kept text =>
      show objectsIn ([text] ++ before edits) = objectsIn ([text] ++ after edits)
      rw [objectsIn_append, objectsIn_append, rest]
    | inserted text =>
      show objectsIn (before edits) = objectsIn (text :: after edits)
      rw [objectsIn_cons_of_none here, rest]
    | removed text =>
      show objectsIn (text :: before edits) = objectsIn (after edits)
      rw [objectsIn_cons_of_none here, rest]

/-- The noise on both sides of a script differs by what is inserted and what is removed. -/
theorem noiseIn_sides (edits : List LineEdit) :
    noiseIn (after edits) + noiseIn (removals edits) =
      noiseIn (before edits) + noiseIn (insertions edits) := by
  induction edits with
  | nil => rfl
  | cons edit edits ih =>
    cases edit with
    | kept text =>
      show noiseIn ([text] ++ after edits) + noiseIn (removals edits) =
        noiseIn ([text] ++ before edits) + noiseIn (insertions edits)
      rw [noiseIn_append, noiseIn_append]
      omega
    | inserted text =>
      show noiseIn ([text] ++ after edits) + noiseIn (removals edits) =
        noiseIn (before edits) + noiseIn ([text] ++ insertions edits)
      rw [noiseIn_append, noiseIn_append]
      omega
    | removed text =>
      show noiseIn (after edits) + noiseIn ([text] ++ removals edits) =
        noiseIn ([text] ++ before edits) + noiseIn (insertions edits)
      rw [noiseIn_append, noiseIn_append]
      omega

/-- First parts of both sides that end with the same object, or are empty, are the sides of a first
part of the script. -/
theorem exists_front {edits : List LineEdit} :
    ∀ {read more read' more' : List (List UInt8)}, (∀ edit ∈ edits, edit.IsQuiet) →
      before edits = read ++ more → after edits = read' ++ more' →
      EndsWithObject read → EndsWithObject read' →
      (objectsIn read).length = (objectsIn read').length →
      ∃ front back, edits = front ++ back ∧ before front = read ∧ after front = read' := by
  induction edits with
  | nil =>
    intro read more read' more' _ sides sides' _ _ _
    obtain ⟨rfl, -⟩ := List.append_eq_nil_iff.mp sides.symm
    obtain ⟨rfl, -⟩ := List.append_eq_nil_iff.mp sides'.symm
    exact ⟨[], [], rfl, rfl, rfl⟩
  | cons edit edits ih =>
    intro read more read' more' quiet sides sides' ends ends' same
    have here := quiet edit List.mem_cons_self
    have rest : ∀ other ∈ edits, other.IsQuiet := fun other among =>
      quiet other (List.mem_cons_of_mem edit among)
    by_cases none : objectsIn read = []
    -- Neither reader has come to an object.
    · have none' : objectsIn read' = [] := by
        rw [none] at same
        exact List.length_eq_zero_iff.mp same.symm
      exact ⟨[], edit :: edits, rfl, (ends.eq_nil none).symm, (ends'.eq_nil none').symm⟩
    · have none' : objectsIn read' ≠ [] := by
        intro nothing
        rw [nothing] at same
        exact none (List.length_eq_zero_iff.mp same)
      cases read with
      | nil => exact absurd rfl none
      | cons text read =>
        cases read' with
        | nil => exact absurd rfl none'
        | cons text' read' =>
          cases edit with
          | kept both =>
            have sides : both :: before edits = text :: (read ++ more) := sides
            have sides' : both :: after edits = text' :: (read' ++ more') := sides'
            obtain ⟨rfl, left⟩ := List.cons.inj sides
            obtain ⟨rfl, right⟩ := List.cons.inj sides'
            have fewer : (objectsIn read).length = (objectsIn read').length := by
              have both_eq : (objectsIn ([both] ++ read)).length =
                (objectsIn ([both] ++ read')).length := same
              rw [objectsIn_append, objectsIn_append, List.length_append, List.length_append] at both_eq
              exact Nat.add_left_cancel both_eq
            obtain ⟨front, back, rfl, rfl, rfl⟩ := ih rest left right ends.tail ends'.tail fewer
            exact ⟨.kept both :: front, back, rfl, rfl, rfl⟩
          | inserted other =>
            have sides' : other :: after edits = text' :: (read' ++ more') := sides'
            obtain ⟨rfl, right⟩ := List.cons.inj sides'
            rw [objectsIn_cons_of_none here read'] at same
            obtain ⟨front, back, rfl, first, rfl⟩ := ih rest sides right ends ends'.tail same
            exact ⟨.inserted other :: front, back, rfl, first, rfl⟩
          | removed other =>
            have sides : other :: before edits = text :: (read ++ more) := sides
            obtain ⟨rfl, left⟩ := List.cons.inj sides
            rw [objectsIn_cons_of_none here read] at same
            obtain ⟨front, back, rfl, rfl, second⟩ := ih rest left sides' ends.tail ends' same
            exact ⟨.removed other :: front, back, rfl, rfl, second⟩

end LineEdit

/-! ### What a poll reads -/

namespace LineReader

/-- The texts of the lines that are still to be read, without the blanks at their ends. -/
def texts (reader : LineReader) : List (List UInt8) :=
  if reader.finished then [] else reader.stream.lines.map trimAscii

/-- Whether the stream breaks off behind the lines that are still to be read. -/
def breaks (reader : LineReader) : Bool :=
  !reader.finished && reader.stream.breaksOff

/-- A reader has read some texts on the way from one state to another. -/
structure Took (reader next : LineReader) (read : List (List UInt8)) : Prop where
  texts_eq : reader.texts = read ++ next.texts
  line_eq : next.line = reader.line + read.length

/-- The answers of a reader: it passes over blank lines to the next text and says what that is, or
there is none, and the reader is finished. -/
inductive Answered (reader : LineReader) : Polled × LineReader → Prop
  | text (blanks : Nat) (text : List UInt8) (next : LineReader)
      (took : reader.Took next (List.replicate blanks [] ++ [text])) (filled : text.isEmpty = false)
      (breaks_eq : next.breaks = reader.breaks) (ran : reader.finished = false)
      (running : next.finished = false) : Answered reader (pollText next.line text, next)
  | ended (blanks : Nat) (next : LineReader) (took : reader.Took next (List.replicate blanks []))
      (left : next.texts = []) (finished : next.finished = true) :
      Answered reader (if reader.breaks then .failed .unreadableInput else .exhausted, next)

/-- A blank line more is read before the answer is given. -/
theorem Answered.of_blank {reader next : LineReader} {answer : Polled × LineReader}
    (took : reader.Took next [[]]) (breaks_eq : next.breaks = reader.breaks)
    (ran : reader.finished = false) (answered : next.Answered answer) :
    reader.Answered answer := by
  have more : ∀ {later : LineReader} {read : List (List UInt8)}, next.Took later read →
      reader.Took later ([] :: read) := by
    intro later read after
    refine ⟨?_, ?_⟩
    · rw [took.texts_eq, after.texts_eq]
      rfl
    · simp only [after.line_eq, took.line_eq, List.length_cons, List.length_nil]
      omega
  cases answered with
  | text blanks text later after filled same ran' running =>
    exact .text (blanks + 1) text later (more after) filled (same.trans breaks_eq) ran running
  | ended blanks later after left finished =>
    rw [breaks_eq]
    exact .ended (blanks + 1) later (more after) left finished

/-- What a poll comes to. -/
theorem answered_poll (reader : LineReader) : reader.Answered reader.poll := by
  fun_induction poll reader with
  | case1 reader finished =>
    have answer : reader.Answered _ :=
      .ended 0 reader ⟨rfl, rfl⟩ (by simp [texts, finished]) finished
    rwa [breaks, finished] at answer
  | case2 reader running stream read =>
    obtain ⟨none, ends⟩ := ByteStream.lines_eq_nil_of_ended read
    have answer : reader.Answered _ :=
      .ended 0 { reader with stream, finished := true } ⟨by simp [texts, none], rfl⟩ rfl rfl
    rwa [breaks, ends, Bool.and_false] at answer
  | case3 reader running stream read =>
    obtain ⟨none, breaksOff⟩ := ByteStream.lines_eq_nil_of_brokeOff read
    have answer : reader.Answered _ :=
      .ended 0 { reader with stream, finished := true } ⟨by simp [texts, none], rfl⟩ rfl rfl
    rwa [breaks, breaksOff, Bool.eq_false_iff.mpr running] at answer
  | case4 reader running bytes stream read next text blank ih =>
    obtain ⟨lines, same⟩ := ByteStream.lines_eq_of_readLine read
    have empty : trimAscii bytes = [] := List.isEmpty_iff.mp blank
    refine ih.of_blank ⟨?_, rfl⟩ ?_ ?_
    · simp [texts, running, next, lines, empty]
    · simp [breaks, next, same]
    · simpa using running
  | case5 reader running bytes stream read next text filled =>
    obtain ⟨lines, same⟩ := ByteStream.lines_eq_of_readLine read
    refine .text 0 text next ⟨?_, rfl⟩ ?_ ?_ ?_ ?_
    · simp [texts, running, next, lines, text]
    · simpa using filled
    · simp [breaks, next, same]
    · simpa using running
    · simpa [next] using running

end LineReader

end Columnar
