/-
Module: StaticSite.Text.Decode
Purpose: Turning the bytes of a text file into a string.
Trusted boundary: none
Main exports:
  unifyNewlines, decode?, encode
-/
namespace StaticSite.Text

/-- Write every end of line as a line feed: a carriage return, alone or before a
line feed, becomes one. -/
def unifyNewlines : List Char → List Char
  | [] => []
  | '\r' :: '\n' :: rest => '\n' :: unifyNewlines rest
  | '\r' :: rest => '\n' :: unifyNewlines rest
  | c :: rest => c :: unifyNewlines rest

/-- The text of a file, with its ends of lines unified; `none` if the bytes are
not UTF-8. -/
def decode? (bytes : ByteArray) : Option String :=
  (String.fromUTF8? bytes).map fun s => String.ofList (unifyNewlines s.toList)

/-- The bytes of a text. -/
def encode (s : String) : ByteArray :=
  s.toUTF8

end StaticSite.Text
