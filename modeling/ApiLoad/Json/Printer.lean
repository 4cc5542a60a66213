import ApiLoad.Json.Basic
import ApiLoad.Text.Hex

/-!
# Compact JSON text

No space outside strings. In a string only the quote, the backslash and the characters below U+0020
are escaped; everything else stands for itself.
-/
set_option autoImplicit false

namespace ApiLoad.Json

/-- Doubles are positional from `0.00001` to below `10 ^ 16` and keep `.0` when integral. -/
def numberLayout : Layout := ⟨some (-5, 16), true, true, .even⟩

def numberText : Number → String
  | .integer n => intText n
  | .float x => if x.isFinite then numberLayout.text x else "null"

def escaped (c : Char) : List Char :=
  match c with
  | '"' => ['\\', '"']
  | '\\' => ['\\', '\\']
  | '\x08' => ['\\', 'b']
  | '\x0c' => ['\\', 'f']
  | '\n' => ['\\', 'n']
  | '\r' => ['\\', 'r']
  | '\t' => ['\\', 't']
  | c =>
    if c.toNat < 0x20 then ['\\', 'u', '0', '0', Text.Hex.digit (c.toNat / 16), Text.Hex.digit (c.toNat % 16)]
    else [c]

def stringChars (text : String) : List Char :=
  '"' :: text.toList.flatMap escaped ++ ['"']

mutual

def chars : Json → List Char
  | .null => ['n', 'u', 'l', 'l']
  | .bool true => ['t', 'r', 'u', 'e']
  | .bool false => ['f', 'a', 'l', 's', 'e']
  | .number n => (numberText n).toList
  | .string text => stringChars text
  | .array items => '[' :: charsOfItems items
  | .object fields => '\x7b' :: charsOfFields fields

def charsOfItems : List Json → List Char
  | [] => [']']
  | [item] => chars item ++ [']']
  | item :: rest => chars item ++ ',' :: charsOfItems rest

def charsOfFields : List (String × Json) → List Char
  | [] => ['\x7d']
  | [(name, value)] => stringChars name ++ ':' :: (chars value ++ ['\x7d'])
  | (name, value) :: rest => stringChars name ++ ':' :: (chars value ++ ',' :: charsOfFields rest)

end

def compact (value : Json) : String := String.ofList value.chars

end ApiLoad.Json
