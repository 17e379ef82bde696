/-!
# Bytes and text

A text travels as its UTF-8 bytes.  `text?` reads bytes back and refuses invalid ones.  `lossyText`
reads any bytes: every maximal run of bytes that starts a character but cannot be completed, and
every byte that starts none, becomes one replacement character.

`lossyText` runs a small machine over the bytes.  Between characters it looks at the lead byte;
inside a character it remembers how many bytes are owed, which values the next may take and the
bits read so far.  A byte outside the allowed range ends the broken character and is read again as
a lead byte, so the machine moves on with every byte.
-/

namespace MeterNode.Text

/-- Bytes, in order. -/
abbrev Bytes := List UInt8

/-- The UTF-8 bytes of a text. -/
def bytesOf (s : String) : Bytes := s.toUTF8.data.toList

/-- The text whose UTF-8 bytes these are, if they are valid. -/
def text? (bytes : Bytes) : Option String := String.fromUTF8? ⟨bytes.toArray⟩

/-- A character whose lead byte was read. -/
structure Unfinished where
  /-- Bytes owed after the next one. -/
  more : Nat
  /-- The least value the next byte may have. -/
  low : UInt8
  /-- The greatest value the next byte may have. -/
  high : UInt8
  /-- The bits read so far. -/
  bits : Nat

/-- What a byte between characters starts. -/
inductive Lead where
  /-- The byte is a character by itself. -/
  | whole (c : Char)
  /-- The byte starts a longer character. -/
  | opens (p : Unfinished)
  /-- The byte starts nothing. -/
  | stray

/-- Read a byte between characters. -/
def lead (b : UInt8) : Lead :=
  let n := b.toNat
  if n < 0x80 then .whole (Char.ofNat n)
  else if n < 0xc2 then .stray
  else if n < 0xe0 then .opens ⟨0, 0x80, 0xbf, n - 0xc0⟩
  else if n = 0xe0 then .opens ⟨1, 0xa0, 0xbf, 0⟩
  else if n = 0xed then .opens ⟨1, 0x80, 0x9f, 0xd⟩
  else if n < 0xf0 then .opens ⟨1, 0x80, 0xbf, n - 0xe0⟩
  else if n = 0xf0 then .opens ⟨2, 0x90, 0xbf, 0⟩
  else if n < 0xf4 then .opens ⟨2, 0x80, 0xbf, n - 0xf0⟩
  else if n = 0xf4 then .opens ⟨2, 0x80, 0x8f, 4⟩
  else .stray

/-- What stands for bytes that are no character. -/
def replacement : Char := Char.ofNat 0xfffd

/-- The characters of some bytes, given the character under way. -/
def lossyFrom : Option Unfinished → Bytes → List Char
  | none, [] => []
  | some _, [] => [replacement]
  | none, b :: r =>
      match lead b with
      | .whole c => c :: lossyFrom none r
      | .opens p => lossyFrom (some p) r
      | .stray => replacement :: lossyFrom none r
  | some p, b :: r =>
      if p.low ≤ b ∧ b ≤ p.high then
        let bits := p.bits * 64 + (b.toNat - 0x80)
        match p.more with
        | 0 => Char.ofNat bits :: lossyFrom none r
        | more + 1 => lossyFrom (some ⟨more, 0x80, 0xbf, bits⟩) r
      else
        match lead b with
        | .whole c => replacement :: c :: lossyFrom none r
        | .opens q => replacement :: lossyFrom (some q) r
        | .stray => replacement :: replacement :: lossyFrom none r

/-- The text some bytes stand for, with replacements where they stand for none. -/
def lossyText (bytes : Bytes) : String := String.ofList (lossyFrom none bytes)

/-- A euro sign, a cut-off euro sign and a stray byte. -/
example : lossyFrom none [0xe2, 0x82, 0xac, 0xe2, 0x82, 0x41, 0xff]
    = ['€', replacement, 'A', replacement] := by decide

end MeterNode.Text
