/-!
# Utf8 — bytes read as text

`decodeLossy` reads bytes as UTF-8 and puts one replacement character for each maximal part that no valid
sequence continues.
-/
namespace QueryRows
namespace Text

def encodeUtf8 (s : String) : List UInt8 := s.toUTF8.toList

def utf8Length : List Char → Nat
  | [] => 0
  | c :: cs => c.utf8Size + utf8Length cs

/-- How a lead byte continues: the bits it contributes, the range of the byte that must follow it, and how many
plain continuation bytes come after that one. -/
def leadByte (b : Nat) : Option (Nat × (Nat × Nat) × Nat) :=
  if 0xC2 ≤ b && b ≤ 0xDF then some (b - 0xC0, (0x80, 0xBF), 0)
  else if b == 0xE0 then some (0, (0xA0, 0xBF), 1)
  else if b == 0xED then some (0xD, (0x80, 0x9F), 1)
  else if 0xE1 ≤ b && b ≤ 0xEF then some (b - 0xE0, (0x80, 0xBF), 1)
  else if b == 0xF0 then some (0, (0x90, 0xBF), 2)
  else if 0xF1 ≤ b && b ≤ 0xF3 then some (b - 0xF0, (0x80, 0xBF), 2)
  else if b == 0xF4 then some (4, (0x80, 0x8F), 2)
  else none

/-- What is still missing of a sequence: the bits read so far, the range of the next byte, and how many plain
continuation bytes come after it. -/
structure Unfinished where
  bits : Nat
  range : Nat × Nat
  more : Nat

/-- What stands where no valid sequence does. -/
def replacement : Char := '\uFFFD'

/-- Reads a byte that starts a sequence. -/
def startSequence (b : Nat) : List Char × Option Unfinished :=
  if b < 0x80 then ([Char.ofNat b], none)
  else match leadByte b with
    | some (bits, range, more) => ([], some ⟨bits, range, more⟩)
    | none => ([replacement], none)

/-- **Reads on**, within a sequence or between two.  A byte that cannot continue the sequence closes it with a
replacement character and is read again as a start. -/
def decodeFrom : Option Unfinished → List UInt8 → List Char
  | none, [] => []
  | some _, [] => [replacement]
  | none, b :: bs =>
    let (cs, next) := startSequence b.toNat
    cs ++ decodeFrom next bs
  | some u, b :: bs =>
    let n := b.toNat
    if u.range.1 ≤ n && n ≤ u.range.2 then
      let bits := u.bits * 64 + (n - 0x80)
      match u.more with
      | 0 => Char.ofNat bits :: decodeFrom none bs
      | more + 1 => decodeFrom (some ⟨bits, (0x80, 0xBF), more⟩) bs
    else
      let (cs, next) := startSequence n
      replacement :: cs ++ decodeFrom next bs

/-- **Bytes as text**, with replacement characters for what is not UTF-8. -/
def decodeLossy (bytes : List UInt8) : String := String.ofList (decodeFrom none bytes)

end Text
end QueryRows
