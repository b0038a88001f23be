import DirectoryInterchange.Bytes
import DirectoryInterchange.Text.Shown

/-!
Text between double quotes.  Quotes and backslashes are escaped by a
backslash, the usual control characters by a letter, and every other
character that is not shown by its code point in hexadecimal.
-/

namespace DirectoryInterchange.Quoted

def hexNumber (number : Nat) : String :=
  String.ofList (Nat.toDigits 16 number)

def escape (c : Char) : String :=
  match c with
  | '"' => "\\\""
  | '\\' => "\\\\"
  | '\t' => "\\t"
  | '\n' => "\\n"
  | '\r' => "\\r"
  | '\x00' => "\\0"
  | c =>
      if Shown.isShown c then c.toString
      else "\\u\x7b" ++ hexNumber c.toNat ++ "\x7d"

def quote (text : String) : String :=
  "\"" ++ String.join (text.toList.map escape) ++ "\""

end DirectoryInterchange.Quoted
