import BrokerFleet.Text.Utf8
import BrokerFleet.Text.Number

/-! # Form URL encoding

Letters, digits and `* - . _` stand for themselves, a blank becomes a plus sign and every other byte
of the UTF-8 form becomes a percent sign with two hexadecimal digits. -/

namespace BrokerFleet.Text

def formByte (byte : UInt8) : List Char :=
  let n := byte.toNat
  let c := Char.ofNat n
  if n < 0x80 ∧ (c.isAlphanum ∨ c = '*' ∨ c = '-' ∨ c = '.' ∨ c = '_') then [c]
  else if n = 0x20 then ['+']
  else '%' :: (padded 16 2 n).map Char.toUpper

def formEncode (text : String) : String := String.ofList ((encodeUtf8 text).flatMap formByte)

end BrokerFleet.Text
