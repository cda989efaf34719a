import DeclGen.Json.Quoted

/-!
# Reading a JSON text

`Json.read` reads the value at the start of a text, as far as the text is JSON, and keeps what the
outline wants. A kept value may be nested 127 deep; values that are only passed over may be nested
without limit, and so `skip` keeps track of the open lists and objects itself.

Both readers end because every step leaves a shorter text.
-/

namespace DeclGen.Json

/-- Whether a character may stand between the parts of a value. -/
def isBlank (c : Char) : Bool :=
  c == ' ' || c == '\n' || c == '\t' || c == '\r'

/-- The text after the blanks at its start. -/
def skipBlanks (s : List Char) : List Char := (RestLe.afterWhile isBlank s).text

theorem length_skipBlanks_le (s : List Char) : (skipBlanks s).length ≤ s.length :=
  (RestLe.afterWhile isBlank s).length_le

/-- How many lists and objects a kept value may be nested. -/
def maxDepth : Nat := 127

/-- The rest of a text that starts with the given word. -/
def word (expected : List Char) (s : List Char) : Except Flaw (RestLe s) :=
  match expected, s with
  | [], s => .ok (.all s)
  | _ :: _, [] => .error .truncated
  | e :: es, c :: r => if e = c then do .ok ((← word es r).cons c) else .error .malformed

/-- The next character that is no blank, with the text after it. -/
structure Next (s : List Char) where
  char : Char
  rest : List Char
  length_lt : rest.length < s.length

namespace Next

variable {s : List Char}

/-- The text from the character on. -/
def text (n : Next s) : List Char := n.char :: n.rest

theorem length_text_le (n : Next s) : n.text.length ≤ s.length := n.length_lt

/-- The text from the character on, as a rest. -/
def whole (n : Next s) : RestLe s := ⟨n.text, n.length_text_le⟩

/-- The next character of a text that is no blank, if there is one. -/
def of? (s : List Char) : Option (Next s) :=
  match h : skipBlanks s with
  | [] => none
  | c :: r =>
    some ⟨c, r, by have := length_skipBlanks_le s; rw [h, List.length_cons] at this; omega⟩

/-- A rest of the text after the character. -/
def after (n : Next s) (rest : RestLe n.rest) : Rest s :=
  ⟨rest.text, Nat.lt_of_le_of_lt rest.length_le n.length_lt⟩

end Next

/-! ### Passing over a value -/

/-- What is open around the place that is read. -/
inductive Frame where
  | list
  | object

/-- What is expected at the place that is read. -/
inductive Awaited where
  /-- A value. -/
  | value
  /-- The first element of a list, or its end. -/
  | firstElement
  /-- The first key of an object, or its end. -/
  | firstKey
  /-- A key, after a comma. -/
  | nextKey
  /-- A comma, or the end of what is open. -/
  | separator

/-- Passes over a value that is neither a list nor an object. -/
def skipScalar (c : Char) (r : List Char) : Except Flaw (Rest (c :: r)) :=
  match c with
  | 'n' => (word "ull".toList r).map (·.consLt _)
  | 't' => (word "rue".toList r).map (·.consLt _)
  | 'f' => (word "alse".toList r).map (·.consLt _)
  | '"' => (skipQuoted r).map fun rest => rest.le.consLt _
  | '-' => (skipNumber true r).map fun rest => rest.le.consLt _
  | c => if c.isDigit then skipNumber false (c :: r) else .error .malformed

/-- Passes over the colon after a key. -/
def skipColon (s : List Char) : Except Flaw (Rest s) :=
  match Next.of? s with
  | none => .error .truncated
  | some n => if n.char = ':' then .ok (n.after (.all _)) else .error .malformed

/-- What is awaited and what is open after a step, and the text after it. -/
structure Step (s : List Char) where
  awaited : Awaited
  frames : List Frame
  rest : Rest s

/-- A step that passes over one character. -/
def Step.over (c : Char) (r : List Char) (awaited : Awaited) (frames : List Frame) :
    Step (c :: r) :=
  ⟨awaited, frames, (RestLe.all r).consLt c⟩

/-- Passes over the first character of a value, or over the whole of a scalar. -/
def skipValueStart (frames : List Frame) (c : Char) (r : List Char) : Except Flaw (Step (c :: r)) :=
  if c = '[' then .ok (.over c r .firstElement (.list :: frames))
  else if c = '\x7b' then .ok (.over c r .firstKey (.object :: frames))
  else do .ok ⟨.separator, frames, ← skipScalar c r⟩

/-- Passes over a key and its colon. -/
def skipKey (frames : List Frame) (c : Char) (r : List Char) : Except Flaw (Step (c :: r)) :=
  if c = '"' then do
    let name ← skipQuoted r
    let rest ← skipColon name.text
    .ok ⟨.value, frames, (name.trans rest.le).le.consLt c⟩
  else .error .malformed

/-- Passes over what the character `c` begins. -/
def skipStep (awaited : Awaited) (frames : List Frame) (c : Char) (r : List Char) :
    Except Flaw (Step (c :: r)) :=
  match awaited, frames with
  | .value, frames => skipValueStart frames c r
  | .firstElement, frames =>
    if c = ']' then .ok (.over c r .separator frames.tail) else skipValueStart frames c r
  | .firstKey, frames =>
    if c = '\x7d' then .ok (.over c r .separator frames.tail) else skipKey frames c r
  | .nextKey, frames => skipKey frames c r
  | .separator, .list :: outer =>
    if c = ',' then .ok (.over c r .value (.list :: outer))
    else if c = ']' then .ok (.over c r .separator outer)
    else .error .malformed
  | .separator, .object :: outer =>
    if c = ',' then .ok (.over c r .nextKey (.object :: outer))
    else if c = '\x7d' then .ok (.over c r .separator outer)
    else .error .malformed
  | .separator, [] => .error .malformed

/-- Passes over the rest of a value that began in the text `start`, given what is awaited, what is
open, the innermost first, and the text that is left. -/
def skipFrom {start : List Char} (awaited : Awaited) (frames : List Frame) (s : RestLe start) :
    Except Flaw (RestLe start) :=
  match awaited, frames with
  | .separator, [] => .ok s
  | awaited, frames =>
    match Next.of? s.text with
    | none => .error .truncated
    | some n =>
      match skipStep awaited frames n.char n.rest with
      | .error flaw => .error flaw
      | .ok step =>
        let rest := step.rest.weaken n.length_text_le
        have := rest.length_lt
        skipFrom step.awaited step.frames (s.trans rest.le)
termination_by s.text.length
decreasing_by exact this

/-- Passes over the value at the start of a text. -/
def skip (s : List Char) : Except Flaw (RestLe s) :=
  skipFrom .value [] (.all s)

/-- Passes over the colon and the value of a field. -/
def skipField (s : List Char) : Except Flaw (Rest s) := do
  let afterColon ← skipColon s
  .ok (afterColon.trans (← skip afterColon.text))

/-! ### Reading a value -/

/-- What is read from the start of a text, and the rest of the text; no rest after a flaw. -/
structure Reading (α : Type) (s : List Char) where
  result : α
  rest? : Option (Rest s)

namespace Reading

variable {α β : Type} {s : List Char}

/-- The reading of a text is one of every text that is no shorter and leaves the same rest. -/
def weaken {t : List Char} (h : s.length ≤ t.length) (r : Reading α s) : Reading α t :=
  { result := r.result, rest? := r.rest?.map (·.weaken h) }

/-- Changes what is read. -/
def map (f : α → β) (r : Reading α s) : Reading β s :=
  { result := f r.result, rest? := r.rest? }

/-- What is read up to a flaw, where reading stops. -/
def stopped (result : α) : Reading α s :=
  { result, rest? := none }

/-- A place where no value can be read. -/
def flawed (flaw : Flaw) : Reading Json s :=
  stopped (.unread flaw)

/-- A scalar value, or a flaw. -/
def ofExcept (e : Except Flaw (Json × Rest s)) : Reading Json s :=
  match e with
  | .ok (v, rest) => { result := v, rest? := some rest }
  | .error flaw => flawed flaw

end Reading

/-- Reads a value that is neither a list nor an object. -/
def readScalar (c : Char) (r : List Char) : Reading Json (c :: r) :=
  match c with
  | 'n' => .ofExcept ((word "ull".toList r).map (.null, ·.consLt _))
  | 't' => .ofExcept ((word "rue".toList r).map (.bool true, ·.consLt _))
  | 'f' => .ofExcept ((word "alse".toList r).map (.bool false, ·.consLt _))
  | '"' => .ofExcept ((readQuoted r).map fun (text, rest) =>
      (.string (String.ofList text), rest.le.consLt _))
  | '-' => .ofExcept ((readNumber true r).map fun (n, rest) => (.number n, rest.le.consLt _))
  | c =>
    if c.isDigit then
      .ofExcept ((readNumber false (c :: r)).map fun (n, rest) => (.number n, rest))
    else .flawed .malformed

/-! The readers below call each other. What goes down with every call is the length of the text, and
for a text of the same length the rank of the reader, of which there are three. -/

/-- A reader of any rank may be called on a shorter text. -/
theorem measure_lt_of_lt {a b m n : Nat} (h : a < b) (hm : m < 3) : 3 * a + m < 3 * b + n := by
  omega

/-- A reader of a lower rank may be called on a text that is no longer. -/
theorem measure_lt_of_le {a b m n : Nat} (h : a ≤ b) (hm : m < n) : 3 * a + m < 3 * b + n := by
  omega

mutual

/-- Reads the value at the start of a text, in which `depth` more lists and objects may be
nested. -/
def read (o : Outline) (depth : Nat) (s : List Char) : Reading Json s :=
  match Next.of? s with
  | none => .flawed .truncated
  | some n =>
    have := n.length_lt
    if o.isKeyword && !(n.char == '"' || n.char == 'n' || n.char == '\x7b') then
      .flawed .malformed
    else if n.char = '[' then
      match depth with
      | 0 => .flawed .malformed
      | depth + 1 =>
        ((readElements o 0 depth n.rest).map fun e => .array e.1 e.2).weaken (Nat.le_of_lt this)
    else if n.char = '\x7b' then
      match depth with
      | 0 => .flawed .malformed
      | depth + 1 =>
        ((readFields o true depth n.rest).map fun e => .object e.1 e.2).weaken (Nat.le_of_lt this)
    else (readScalar n.char n.rest).weaken n.length_text_le
termination_by 3 * s.length + 0
decreasing_by all_goals exact measure_lt_of_lt this (by decide)

/-- Reads the elements of a list from the one at position `i` on, and the list's end. -/
def readElements (o : Outline) (i depth : Nat) (s : List Char) :
    Reading (List Json × Option Flaw) s :=
  match Next.of? s with
  | none => .stopped ([], some .truncated)
  | some n =>
    if n.char = ']' then { result := ([], none), rest? := some (n.after (.all _)) }
    else if i = 0 ∨ n.char = ',' then
      let start : RestLe s := if i = 0 then n.whole else (n.after (.all _)).le
      let element := read (o.element i) depth start.text
      match element.rest? with
      | none => .stopped ([element.result], none)
      | some rest =>
        have := (rest.weaken start.length_le).length_lt
        ((readElements o (i + 1) depth rest.text).map fun e =>
          (element.result :: e.1, e.2)).weaken (Nat.le_of_lt this)
    else .stopped ([], some .malformed)
termination_by 3 * s.length + 1
decreasing_by
  · exact measure_lt_of_le start.length_le Nat.one_pos
  · exact measure_lt_of_lt this (by decide)

/-- Reads the fields of an object, and its end. -/
def readFields (o : Outline) (isFirst : Bool) (depth : Nat) (s : List Char) :
    Reading (List (String × Json) × Option Flaw) s :=
  match Next.of? s with
  | none => .stopped ([], some .truncated)
  | some n =>
    have := n.length_lt
    if n.char = '\x7d' then { result := ([], none), rest? := some (n.after (.all _)) }
    else if isFirst then
      if n.char = '"' then (readField o depth n.rest).weaken (Nat.le_of_lt this)
      else .stopped ([], some .malformed)
    else if n.char = ',' && !o.isKeyword then
      match Next.of? n.rest with
      | none => .stopped ([], some .truncated)
      | some k =>
        have := Nat.lt_trans k.length_lt this
        if k.char = '"' then (readField o depth k.rest).weaken (Nat.le_of_lt this)
        else .stopped ([], some .malformed)
    else .stopped ([], some .malformed)
termination_by 3 * s.length + 2
decreasing_by all_goals exact measure_lt_of_lt this (by decide)

/-- Reads a field after the opening quote of its key, and the fields after it. -/
def readField (o : Outline) (depth : Nat) (s : List Char) :
    Reading (List (String × Json) × Option Flaw) s :=
  match readQuoted s with
  | .error flaw => .stopped ([], some flaw)
  | .ok (text, afterKey) =>
    let key := String.ofList text
    match o.field? key with
    | none =>
      match skipField afterKey.text with
      | .error flaw => .stopped ([], some flaw)
      | .ok value =>
        have := (afterKey.trans value.le).length_lt
        (readFields o false depth value.text).weaken (Nat.le_of_lt this)
    | some wanted =>
      match skipColon afterKey.text with
      | .error flaw => .stopped ([(key, .unread flaw)], none)
      | .ok colon =>
        let afterColon := afterKey.trans colon.le
        have := afterColon.length_lt
        let value := read wanted depth colon.text
        match value.rest? with
        | none => .stopped ([(key, value.result)], none)
        | some rest =>
          have := (afterColon.trans rest.le).length_lt
          ((readFields o false depth rest.text).map fun e =>
            ((key, value.result) :: e.1, e.2)).weaken (Nat.le_of_lt this)
termination_by 3 * s.length + 1
decreasing_by all_goals exact measure_lt_of_lt this (by decide)

end

end DeclGen.Json
