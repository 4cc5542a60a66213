import ApiLoad.Text.Hex
import ApiLoad.Text.Unprintable

/-!
# Quoted texts in messages

A text is shown between double quotes. Quotes, backslashes and the usual controls have short escapes;
what a reader could not see or tell apart is given by its code point.
-/
set_option autoImplicit false

namespace ApiLoad.Text

def quotedChar (c : Char) : List Char :=
  match c with
  | '\x00' => ['\\', '0']
  | '\t' => ['\\', 't']
  | '\r' => ['\\', 'r']
  | '\n' => ['\\', 'n']
  | '"' => ['\\', '"']
  | '\\' => ['\\', '\\']
  | c => if isUnprintable c then ['\\', 'u', '\x7b'] ++ Hex.digits c.toNat ++ ['\x7d'] else [c]

def quoted (text : String) : String :=
  String.ofList ('"' :: text.toList.flatMap quotedChar ++ ['"'])

def quotedOption : Option String → String
  | none => "None"
  | some text => "Some(" ++ quoted text ++ ")"

end ApiLoad.Text
