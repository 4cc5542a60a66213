import ApiLoad.Text.Hex
import ApiLoad.Text.Utf8

/-!
# Percent encoding

The bytes of a character written as `%` and two digits each, for the characters that a part of a URL
does not admit.
-/
set_option autoImplicit false

namespace ApiLoad.Http.Percent

def isControl (c : Char) : Bool := c.toNat < 0x20 || 0x7E < c.toNat

def inFragment (c : Char) : Bool := isControl c || [' ', '"', '<', '>', '\x60'].contains c

def inQuery (special : Bool) (c : Char) : Bool :=
  isControl c || [' ', '"', '#', '<', '>'].contains c || (special && c == '\'')

def inPath (c : Char) : Bool :=
  inQuery false c || ['?', '\x60', '\x7b', '\x7d'].contains c

def inUser (c : Char) : Bool :=
  inPath c || ['/', ':', ';', '=', '@', '[', '\\', ']', '^', '|'].contains c

def encodeByte (b : UInt8) : List Char :=
  '%' :: [Text.Hex.digit (b.toNat / 16), Text.Hex.digit (b.toNat % 16)].map Char.toUpper

def encode (set : Char → Bool) (text : List Char) : List Char :=
  text.flatMap fun c =>
    if set c then (String.utf8EncodeChar c).flatMap encodeByte else [c]

def decode : List Char → List UInt8
  | [] => []
  | '%' :: high :: low :: rest =>
    match Text.Hex.number? [high, low] with
    | some n => UInt8.ofNat n :: decode rest
    | none => 0x25 :: decode (high :: low :: rest)
  | c :: rest => String.utf8EncodeChar c ++ decode rest

end ApiLoad.Http.Percent
