import Walkthrough.Text.Hexadecimal
import Walkthrough.Text.Utf8

/-!
# Percent encoding

A character outside a set of safe ones is written as the bytes of its UTF-8 form, each as a percent
sign and two digits. A percent sign itself is kept, so encoding twice is encoding once.
-/

namespace Walkthrough.Url

/-- A hexadecimal digit in capitals. -/
def hexDigit (n : Nat) : Char :=
  if n < 10 then Char.ofNat (48 + n) else Char.ofNat (55 + n)

namespace Percent

/-- A byte as a percent sign and two digits. -/
def byte (b : UInt8) : List Char :=
  ['%', hexDigit (b.toNat / 16), hexDigit (b.toNat % 16)]

/-- A character as its encoded bytes. -/
def char (c : Char) : List Char :=
  (String.utf8EncodeChar c).flatMap byte

/-- Encode the characters that a set contains. -/
def encode (encoded : Char → Bool) (cs : List Char) : String :=
  String.ofList (cs.flatMap fun c => if encoded c then char c else [c])

/-- Control characters and all that is not ASCII. -/
def isControl (c : Char) : Bool := c.toNat < 0x20 || 0x7F ≤ c.toNat

/-- What is encoded in a fragment. -/
def inFragment (c : Char) : Bool := isControl c || " \"<>\x60".toList.contains c

/-- What is encoded in a path. -/
def inPath (c : Char) : Bool := inFragment c || "#?\x7b\x7d".toList.contains c

/-- What is encoded in the name and password of a user. -/
def inCredentials (c : Char) : Bool := inPath c || "/:;=@[\\]^|".toList.contains c

/-- What is encoded in a query; the apostrophe only under some schemes. -/
def inQuery (special : Bool) (c : Char) : Bool :=
  isControl c || " \"#<>".toList.contains c || (special && c == '\'')

/-- The bytes of a text whose encoded bytes are decoded. A percent sign without two digits stands for
itself. -/
def decode : List Char → List UInt8
  | [] => []
  | '%' :: a :: b :: rest =>
    match Text.hexValue? a, Text.hexValue? b with
    | some h, some l => UInt8.ofNat (h * 16 + l) :: decode rest
    | _, _ => 37 :: decode (a :: b :: rest)
  | c :: rest => String.utf8EncodeChar c ++ decode rest

end Percent

end Walkthrough.Url
