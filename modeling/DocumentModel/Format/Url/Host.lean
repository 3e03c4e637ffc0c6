import DocumentModel.Format.Domain.Basic
import DocumentModel.Format.Url.Address

/-!
# Hosts

A host in square brackets is an address. Where the scheme is known to use domain names, any other
host is percent-decoded and read as one, and if that ends in a number it has to be an address; else
a host only has to be free of characters that would end it.
-/

namespace DocumentModel

namespace Format

namespace Url

/-- A host with an opening bracket has to be an address up to a closing bracket at its end. -/
def bracketed? : List Char → Option Bool
  | '[' :: rest => some (rest.getLast? == some ']' && isGroupedAddress rest.dropLast)
  | _ => none

/-- A percent sign that two hexadecimal digits do not follow stands for itself. -/
def percentDecode : List UInt8 → List UInt8
  | [] => []
  | b :: rest =>
    match b, rest with
    | 0x25, h :: l :: rest =>
      match Text.hexValue? (Char.ofNat h.toNat), Text.hexValue? (Char.ofNat l.toNat) with
      | some high, some low => UInt8.ofNat (16 * high + low) :: percentDecode rest
      | _, _ => 0x25 :: percentDecode (h :: l :: rest)
    | b, rest => b :: percentDecode rest

/-- The text that percent-decoding makes, `none` where its bytes are no text. -/
def decodedText? (cs : List Char) : Option (List Char) :=
  let bytes := percentDecode (String.ofList cs).toUTF8.data.toList
  (String.fromUTF8? (ByteArray.mk bytes.toArray)).map String.toList

/-- Whether a text is the host of a scheme that uses domain names. -/
def isDomainHost (cs : List Char) : Bool :=
  (bracketed? cs).getD <|
    match (decodedText? cs).bind Domain.labels? with
    | none => false
    | some labels => !endsInNumber labels || isAddress labels

/-- Whether a text is the host of another scheme; it may be empty. -/
def isPlainHost (cs : List Char) : Bool :=
  (bracketed? cs).getD <| !cs.any ("\x00\t\n\r #/:<>?@[\\]^|".toList.contains ·)

end Url

end Format

end DocumentModel
