/-! # Decoding bytes as UTF-8

Valid sequences become characters; each longest piece that begins a valid sequence without
completing one, and each byte that begins none, becomes one replacement character. -/

namespace BrokerFleet.Text

/-- The character that stands for undecodable bytes. -/
def replacement : Char := '\uFFFD'

/-- How many continuation bytes follow a leading byte, the range of the first of them, and the bits
that the leading byte contributes; nothing for a byte that cannot lead. -/
def leadByte? (b : Nat) : Option (Nat × Nat × Nat × Nat) :=
  if b < 0x80 then some (0, 0x80, 0xBF, b)
  else if b < 0xC2 then none
  else if b < 0xE0 then some (1, 0x80, 0xBF, b - 0xC0)
  else if b = 0xE0 then some (2, 0xA0, 0xBF, 0)
  else if b = 0xED then some (2, 0x80, 0x9F, 0xD)
  else if b < 0xF0 then some (2, 0x80, 0xBF, b - 0xE0)
  else if b = 0xF0 then some (3, 0x90, 0xBF, 0)
  else if b < 0xF4 then some (3, 0x80, 0xBF, b - 0xF0)
  else if b = 0xF4 then some (3, 0x80, 0x8F, 4)
  else none

/-- Decodes bytes with `pending` continuation bytes outstanding, the next of which must lie between
`low` and `high`, and the bits `bits` read so far. -/
def decodeFrom (pending low high bits : Nat) : List UInt8 → List Char
  | [] => if pending = 0 then [] else [replacement]
  | byte :: rest =>
    let b := byte.toNat
    let begin := match leadByte? b with
      | none => replacement :: decodeFrom 0 0 0 0 rest
      | some (0, _, _, value) => Char.ofNat value :: decodeFrom 0 0 0 0 rest
      | some (more, low, high, value) => decodeFrom more low high value rest
    match pending with
    | 0 => begin
    | 1 =>
      if low ≤ b ∧ b ≤ high then Char.ofNat (bits * 64 + (b - 0x80)) :: decodeFrom 0 0 0 0 rest
      else replacement :: begin
    | more + 2 =>
      if low ≤ b ∧ b ≤ high then decodeFrom (more + 1) 0x80 0xBF (bits * 64 + (b - 0x80)) rest
      else replacement :: begin

/-- The text of bytes, with replacement characters for what is not UTF-8. -/
def decodeUtf8 (bytes : List UInt8) : String := String.ofList (decodeFrom 0 0 0 0 bytes)

/-- The UTF-8 bytes of a text. -/
def encodeUtf8 (text : String) : List UInt8 := text.toUTF8.toList

end BrokerFleet.Text
