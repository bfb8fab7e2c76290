/-!
# The eight-bit form of text

Characters are stored as one to four bytes.  Reading stops at the first byte
that cannot continue what has been read, and tells where the damaged sequence
begins and how many of its bytes were still possible.
-/

namespace CityMarkup

namespace Utf8

/-- What is wrong with a sequence of bytes that is no text. -/
inductive Fault where
  | invalid (length index : Nat)
  | incomplete (index : Nat)
deriving DecidableEq, Repr

/-- The wording of a fault. -/
def Fault.message : Fault → String
  | invalid length index =>
    "invalid utf-8 sequence of " ++ toString length ++
      " bytes from index " ++ toString index
  | incomplete index =>
    "incomplete utf-8 byte sequence from index " ++ toString index

/-- The bytes of one character. -/
def encodeChar (c : Char) : List UInt8 :=
  let n := c.toNat
  if n < 0x80 then
    [n.toUInt8]
  else if n < 0x800 then
    [(0xC0 + n / 0x40).toUInt8, (0x80 + n % 0x40).toUInt8]
  else if n < 0x10000 then
    [(0xE0 + n / 0x1000).toUInt8, (0x80 + n / 0x40 % 0x40).toUInt8,
      (0x80 + n % 0x40).toUInt8]
  else
    [(0xF0 + n / 0x40000).toUInt8, (0x80 + n / 0x1000 % 0x40).toUInt8,
      (0x80 + n / 0x40 % 0x40).toUInt8, (0x80 + n % 0x40).toUInt8]

/-- The bytes of a text. -/
def encode (cs : List Char) : List UInt8 :=
  cs.flatMap encodeChar

/-- What a first byte says of its sequence: how many bytes follow, between
which bounds the next one lies, and the leading part of the character. -/
structure Lead where
  following : Nat
  lowest : Nat
  highest : Nat
  value : Nat
deriving DecidableEq, Repr

/-- Reads a first byte.  The bounds of the second byte keep out sequences that
are longer than needed, surrogates, and values beyond the last character. -/
def lead? (byte : Nat) : Option Lead :=
  if byte < 0x80 then some ⟨0, 0x80, 0xBF, byte⟩
  else if byte < 0xC2 then none
  else if byte < 0xE0 then some ⟨1, 0x80, 0xBF, byte - 0xC0⟩
  else if byte = 0xE0 then some ⟨2, 0xA0, 0xBF, 0⟩
  else if byte = 0xED then some ⟨2, 0x80, 0x9F, byte - 0xE0⟩
  else if byte < 0xF0 then some ⟨2, 0x80, 0xBF, byte - 0xE0⟩
  else if byte = 0xF0 then some ⟨3, 0x90, 0xBF, 0⟩
  else if byte < 0xF4 then some ⟨3, 0x80, 0xBF, byte - 0xF0⟩
  else if byte = 0xF4 then some ⟨3, 0x80, 0x8F, byte - 0xF0⟩
  else none

/-- Where a reader stands: how many bytes of a sequence it has seen, and what
the sequence still needs. -/
structure Progress where
  seen : Nat
  rest : Lead
deriving DecidableEq, Repr

/-- Reads bytes from an index on, inside a sequence that began there or
between two sequences. -/
def decodeFrom (index : Nat) :
    Option Progress → List UInt8 → Except Fault (List Char)
  | none, [] => .ok []
  | some _, [] => .error (.incomplete index)
  | none, byte :: bytes =>
    match lead? byte.toNat with
    | none => .error (.invalid 1 index)
    | some lead =>
      if lead.following = 0 then
        (decodeFrom (index + 1) none bytes).map (Char.ofNat lead.value :: ·)
      else
        decodeFrom index (some ⟨1, lead⟩) bytes
  | some ⟨seen, lead⟩, byte :: bytes =>
    if lead.lowest ≤ byte.toNat ∧ byte.toNat ≤ lead.highest then
      let value := lead.value * 0x40 + (byte.toNat - 0x80)
      if lead.following ≤ 1 then
        (decodeFrom (index + seen + 1) none bytes).map
          (Char.ofNat value :: ·)
      else
        decodeFrom index
          (some ⟨seen + 1, lead.following - 1, 0x80, 0xBF, value⟩) bytes
    else
      .error (.invalid seen index)

/-- The text of a sequence of bytes. -/
def decode (bytes : List UInt8) : Except Fault (List Char) :=
  decodeFrom 0 none bytes

end Utf8

end CityMarkup
