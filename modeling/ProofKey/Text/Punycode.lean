import ProofKey.Text.Pieces

/-!
# Punycode

A text is written in ASCII: its ASCII characters, and behind the last dash the others in the order
of their numbers, each by how far it is from the one before it (RFC 3492). The distances are
numbers in base 36 whose digits end by thresholds that adapt to the text.
-/

namespace ProofKey.Punycode

inductive Fault where
  /-- The text ends within a number. -/
  | unfinished
  /-- A character is no digit. -/
  | badDigit (c : CodePoint)
  /-- The number of a character is above U+10FFFF. -/
  | tooLarge (n : Nat)
  deriving DecidableEq, Repr

/-- The value of a digit: letters, which may be capital or small, come before the decimal
digits. -/
def digit? (c : CodePoint) : Option Nat :=
  if CodePoint.between 'a' 'z' c then some (c.value - 0x61)
  else if CodePoint.between 'A' 'Z' c then some (c.value - 0x41)
  else if c.isDigit then some (c.value - 0x30 + 26)
  else none

def threshold (place bias : Nat) : Nat :=
  let n := 36 * (place + 1)
  if n ≤ bias then 1 else if bias + 26 ≤ n then 26 else n - bias

theorem threshold_pos (place bias : Nat) : 0 < threshold place bias := by
  simp only [threshold]
  split
  · omega
  · split <;> omega

/-- Divides a distance until it is small, and counts up for each time. -/
def settle (distance count : Nat) : Nat × Nat :=
  if 455 < distance then settle (distance / 35) (count + 36) else (distance, count)
termination_by distance
decreasing_by exact Nat.div_lt_self (by omega) (by omega)

/-- The bias after a distance, by which the text has come to a length. -/
def adapt (distance : Nat) (isFirst : Bool) (length : Nat) : Nat :=
  let damped := if isFirst then distance / 700 else distance / 2
  let (small, count) := settle (damped + damped / length) 0
  count + 36 * small / (small + 38)

def digit (value : Nat) : CodePoint := .ofNat (if value < 26 then 0x61 + value else 0x16 + value)

/-- Reads a number from its digit at a place on: the number, and the rest. -/
def readNumber (bias place weight sum : Nat) : Text → Except Fault (Nat × Text)
  | [] => .error .unfinished
  | c :: rest =>
      match digit? c with
      | none => .error (.badDigit (CodePoint.toUpper c))
      | some digit =>
          let limit := threshold place bias
          let total := sum + digit * weight
          if digit < limit then .ok (total, rest)
          else readNumber bias (place + 1) (weight * (36 - limit)) total rest

theorem length_of_readNumber {bias place weight sum n : Nat} {t rest : Text}
    (h : readNumber bias place weight sum t = .ok (n, rest)) : rest.length < t.length := by
  induction t generalizing place weight sum with
  | nil => simp [readNumber] at h
  | cons c more ih =>
      simp only [readNumber] at h
      split at h
      · simp at h
      · split at h
        · simp only [Except.ok.injEq, Prod.mk.injEq] at h
          simp [← h.2]
        · exact Nat.lt_succ_of_lt (ih h)

/-- Where insertion has come to: the last code point and its position, the bias, whether no number
has been read, and the text so far. -/
structure State where
  last : Nat := 0x80
  position : Nat := 0
  bias : Nat := 72
  isFirst : Bool := true
  text : Text
  deriving DecidableEq, Repr

/-- Puts a code point into the text, at a distance from the last one. -/
def State.insert (s : State) (distance : Nat) : Except Fault State :=
  let places := s.text.length + 1
  let start := s.position + distance
  let n := s.last + start / places
  if 0x10FFFF < n then .error (.tooLarge n)
  else
    .ok {
      last := n
      position := start % places + 1
      bias := adapt distance s.isFirst places
      isFirst := false
      text := s.text.insertIdx (start % places) (.ofNat n) }

def insertAll (s : State) (t : Text) : Except Fault Text :=
  if t.isEmpty then .ok s.text
  else
    match _read : readNumber s.bias 0 1 0 t with
    | .error fault => .error fault
    | .ok (distance, rest) =>
        match s.insert distance with
        | .error fault => .error fault
        | .ok next => insertAll next rest
termination_by t.length
decreasing_by exact length_of_readNumber _read

def writeNumber (bias place n : Nat) : Text :=
  let limit := threshold place bias
  if n < limit then [digit n]
  else
    digit (limit + (n - limit) % (36 - limit)) ::
      writeNumber bias (place + 1) ((n - limit) / (36 - limit))
termination_by n
decreasing_by
  have := threshold_pos place bias
  have := Nat.div_le_self (n - threshold place bias) (36 - threshold place bias)
  omega

/-- The code points of a text that are not ASCII, in the order of their numbers, each with its
position among those that do not come after it in that order. -/
def insertions (t : Text) : List (CodePoint × Nat) :=
  ((t.zipIdx.filter fun (c, _) => !c.isAscii).mergeSort fun a b => a.1.value ≤ b.1.value).map
    fun (c, i) => (c, (t.take i).countP fun d => d.value ≤ c.value)

def writeAll (s : State) : List (CodePoint × Nat) → Text
  | [] => []
  | (c, position) :: more =>
      let distance := (c.value - s.last) * (s.text.length + 1) + position - s.position
      writeNumber s.bias 0 distance ++
        match s.insert distance with
        | .ok next => writeAll next more
        | .error _ => []

def encode (t : Text) : Text :=
  let base := t.filter CodePoint.isAscii
  let dash : Text := if base.isEmpty then [] else "-"
  base ++ dash ++ writeAll { text := base } (insertions t)

def decode (t : Text) : Except Fault Text :=
  let dash := CodePoint.ofChar '-'
  let others := Text.afterLast dash t
  insertAll { text := t.take (t.length - others.length - 1) } others

end ProofKey.Punycode
