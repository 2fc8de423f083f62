/-! UTF-8 read byte by byte: each character, or each longest run of bytes that begins none. -/
namespace ActivityRelay.Text.Utf8

/-- A decoded piece; a bad one is cut when the text ended inside a possible character. -/
inductive Item where
  | char (c : Char)
  | bad (cut : Bool)
  deriving DecidableEq, Repr

/-- A character begun: the bits so far, the bounds of the next byte, and how many follow that. -/
structure Begun where
  bits : Nat
  low : Nat
  high : Nat
  more : Nat

/-- What a byte at the start of a character begins. -/
def begin? (b : Nat) : Option Begun :=
  if b < 0xC2 then none
  else if b < 0xE0 then some ⟨b - 0xC0, 0x80, 0xBF, 0⟩
  else if b = 0xE0 then some ⟨0, 0xA0, 0xBF, 1⟩
  else if b = 0xED then some ⟨0xD, 0x80, 0x9F, 1⟩
  else if b < 0xF0 then some ⟨b - 0xE0, 0x80, 0xBF, 1⟩
  else if b = 0xF0 then some ⟨0, 0x90, 0xBF, 2⟩
  else if b < 0xF4 then some ⟨b - 0xF0, 0x80, 0xBF, 2⟩
  else if b = 0xF4 then some ⟨4, 0x80, 0x8F, 2⟩
  else none

/-- One byte read: the pieces it completes and what it leaves begun. -/
def read (state : Option Begun) (b : Nat) : List Item × Option Begun :=
  let fresh : List Item × Option Begun :=
    if b < 0x80 then ([.char (Char.ofNat b)], none)
    else match begin? b with
      | some s => ([], some s)
      | none => ([.bad false], none)
  match state with
  | none => fresh
  | some s =>
    if s.low ≤ b ∧ b ≤ s.high then
      let bits := s.bits * 64 + (b - 0x80)
      match s.more with
      | 0 => ([.char (Char.ofNat bits)], none)
      | more + 1 => ([], some ⟨bits, 0x80, 0xBF, more⟩)
    else (.bad false :: fresh.1, fresh.2)

def itemsFrom (state : Option Begun) : List UInt8 → List Item
  | [] => if state.isSome then [.bad true] else []
  | b :: bs => let r := read state b.toNat; r.1 ++ itemsFrom r.2 bs

def items (bytes : List UInt8) : List Item := itemsFrom none bytes

def Item.char? : Item → Option Char
  | .char c => some c
  | .bad _ => none

/-- The text that the bytes spell, if they spell one. -/
def decode? (bytes : List UInt8) : Option String :=
  ((items bytes).mapM Item.char?).map String.ofList

/-- The text with one replacement character for each piece that spells nothing. -/
def lossy (bytes : List UInt8) : String :=
  String.ofList ((items bytes).map fun i => i.char?.getD (Char.ofNat 0xFFFD))

/-- Whether more bytes may still complete the text. -/
def couldContinue (bytes : List UInt8) : Bool :=
  (items bytes).all (· ≠ .bad false)

def encodeChar (c : Char) : List UInt8 :=
  let n := c.toNat
  if n < 0x80 then [n.toUInt8]
  else if n < 0x800 then [(0xC0 + n / 64).toUInt8, (0x80 + n % 64).toUInt8]
  else if n < 0x10000 then
    [(0xE0 + n / 4096).toUInt8, (0x80 + n / 64 % 64).toUInt8, (0x80 + n % 64).toUInt8]
  else
    [(0xF0 + n / 262144).toUInt8, (0x80 + n / 4096 % 64).toUInt8, (0x80 + n / 64 % 64).toUInt8,
      (0x80 + n % 64).toUInt8]

def encode (s : String) : List UInt8 := s.toList.flatMap encodeChar

/-- The count of bytes of a text. -/
def size (cs : List Char) : Nat := (cs.flatMap encodeChar).length

end ActivityRelay.Text.Utf8
