/-!
# UTF-8

`encode` writes a text as bytes. Reading goes byte by byte: a `Pending` sequence knows how many continuation
bytes it is owed and which values the next one may take, so an ill-formed sequence is noticed at its first
wrong byte. `decode?` refuses ill-formed bytes; `decodeLossy` puts one U+FFFD for each longest run of bytes
that begins a character and does not complete it.
-/

namespace PackageAudit.Text.Utf8

/-- A character that has begun: the continuation bytes still owed, the range of the next one, and the value
of the bits read so far. -/
structure Pending where
  owed : Nat
  low : Nat
  high : Nat
  value : Nat
  deriving DecidableEq, Repr

/-- What a first byte above 0x7F begins, if it begins anything. -/
def lead (b : Nat) : Option Pending :=
  if 0xC2 ≤ b ∧ b ≤ 0xDF then some ⟨1, 0x80, 0xBF, b - 0xC0⟩
  else if b = 0xE0 then some ⟨2, 0xA0, 0xBF, 0⟩
  else if b = 0xED then some ⟨2, 0x80, 0x9F, 0xD⟩
  else if 0xE1 ≤ b ∧ b ≤ 0xEF then some ⟨2, 0x80, 0xBF, b - 0xE0⟩
  else if b = 0xF0 then some ⟨3, 0x90, 0xBF, 0⟩
  else if 0xF1 ≤ b ∧ b ≤ 0xF3 then some ⟨3, 0x80, 0xBF, b - 0xF0⟩
  else if b = 0xF4 then some ⟨3, 0x80, 0x8F, 4⟩
  else none

/-- A byte between characters: the units it completes and the sequence it begins. The unit `none` stands for
bytes that are no character. -/
def first (b : Nat) : List (Option Char) × Option Pending :=
  if b < 0x80 then ([some (Char.ofNat b)], none)
  else match lead b with
    | some pending => ([], some pending)
    | none => ([none], none)

/-- One byte: the units it completes and the sequence that is then pending. -/
def step : Option Pending → Nat → List (Option Char) × Option Pending
  | none, b => first b
  | some p, b =>
    if p.low ≤ b ∧ b ≤ p.high then
      let value := p.value * 64 + (b - 0x80)
      if p.owed ≤ 1 then ([some (Char.ofNat value)], none)
      else ([], some ⟨p.owed - 1, 0x80, 0xBF, value⟩)
    else
      let (units, pending) := first b
      (none :: units, pending)

/-- The units of a sequence of bytes, read from a state between or inside characters. -/
def units : Option Pending → List UInt8 → List (Option Char)
  | none, [] => []
  | some _, [] => [none]
  | pending, b :: rest =>
    let (done, pending) := step pending b.toNat
    done ++ units pending rest

/-- The text that well-formed bytes hold. -/
def decode? (bytes : List UInt8) : Option (List Char) :=
  (units none bytes).mapM id

/-- The text that bytes hold, with U+FFFD where they are ill-formed. -/
def decodeLossy (bytes : List UInt8) : List Char :=
  (units none bytes).map (·.getD '\uFFFD')

def encode (text : List Char) : List UInt8 :=
  text.flatMap String.utf8EncodeChar

/-- The number of bytes that a text takes. -/
def size : List Char → Nat
  | [] => 0
  | c :: rest => c.utf8Size + size rest

theorem size_append (first second : List Char) : size (first ++ second) = size first + size second := by
  induction first with
  | nil => exact (Nat.zero_add _).symm
  | cons c rest ih => rw [List.cons_append, size, ih, size, Nat.add_assoc]

end PackageAudit.Text.Utf8
