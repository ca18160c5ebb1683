import DependencyGate.Text.Quoted

/-!
# Percent codes

A byte may be written as a percent sign and two hexadecimal digits. `percentDecode` reads
the bytes of a text and takes them for UTF-8; each longest piece that starts no character there
becomes a replacement character.
-/

namespace DependencyGate.Text

def utf8Bytes (c : Char) : List Nat := (String.utf8EncodeChar c).map UInt8.toNat

/-- The bytes that a text with percent codes stands for. A sign without two digits is plain. -/
def percentBytes : List Char → List Nat
  | '%' :: a :: b :: rest =>
    match hexValue? a, hexValue? b with
    | some high, some low => (high * 16 + low) :: percentBytes rest
    | _, _ => '%'.toNat :: percentBytes (a :: b :: rest)
  | c :: rest => utf8Bytes c ++ percentBytes rest
  | [] => []

structure PartialChar where
  /-- The bits read so far. -/
  bits : Nat
  /-- The bytes still to come, at least one. -/
  missing : Nat
  /-- The least next byte. -/
  low : Nat
  /-- The greatest next byte. -/
  high : Nat

def leadByte? (b : Nat) : Option PartialChar :=
  if 0xC2 ≤ b ∧ b ≤ 0xDF then some ⟨b % 32, 1, 0x80, 0xBF⟩
  else if b = 0xE0 then some ⟨0, 2, 0xA0, 0xBF⟩
  else if b = 0xED then some ⟨13, 2, 0x80, 0x9F⟩
  else if 0xE1 ≤ b ∧ b ≤ 0xEF then some ⟨b % 16, 2, 0x80, 0xBF⟩
  else if b = 0xF0 then some ⟨0, 3, 0x90, 0xBF⟩
  else if 0xF1 ≤ b ∧ b ≤ 0xF3 then some ⟨b % 8, 3, 0x80, 0xBF⟩
  else if b = 0xF4 then some ⟨4, 3, 0x80, 0x8F⟩
  else none

def replacement : Char := Char.ofNat 0xFFFD

/-- Reads the first byte of a character: what it shows at once, and what it starts. -/
def startChar (b : Nat) : List Char × Option PartialChar :=
  if b < 0x80 then ([Char.ofNat b], none)
  else
    match leadByte? b with
    | some p => ([], some p)
    | none => ([replacement], none)

def nextByte (pending : Option PartialChar) (b : Nat) : List Char × Option PartialChar :=
  match pending with
  | none => startChar b
  | some p =>
    if p.low ≤ b ∧ b ≤ p.high then
      let bits := p.bits * 64 + b % 64
      if p.missing ≤ 1 then ([Char.ofNat bits], none)
      else ([], some ⟨bits, p.missing - 1, 0x80, 0xBF⟩)
    else
      let (shown, started) := startChar b
      (replacement :: shown, started)

def utf8CharsFrom (pending : Option PartialChar) : List Nat → List Char
  | [] => if pending.isSome then [replacement] else []
  | b :: rest =>
    let (shown, pending) := nextByte pending b
    shown ++ utf8CharsFrom pending rest

def percentDecode (cs : List Char) : List Char := utf8CharsFrom none (percentBytes cs)

end DependencyGate.Text
