/-
Module: StaticSite.Markup.Serialize
Purpose: Writing a tree as HTML.  Nothing else in the library turns nodes into markup.
Trusted boundary: none
Main exports:
  escapeText, quoteValue, writtenValue, Node.write, Node.toHtml, toHtml
-/
import StaticSite.Markup.Node
import StaticSite.Text.Case
import StaticSite.Text.Search

namespace StaticSite.Markup

open Text

/-! ### Text and attribute values -/

/-- How a character of text or of an attribute value is written. -/
def escapeTextChar (c : Char) : List Char :=
  if c = '&' then ['&', 'a', 'm', 'p', ';']
  else if c = '<' then ['&', 'l', 't', ';']
  else if c = '>' then ['&', 'g', 't', ';']
  else [c]

/-- Text with the characters escaped that could be taken for markup. -/
def escapeText (s : String) : String :=
  String.ofList (s.toList.flatMap escapeTextChar)

/-- Put quotes around an escaped value: double ones, or single ones if the value
holds double ones only. -/
def quoteValue (value : String) : String :=
  if value.toList.contains '"' then
    if value.toList.contains '\'' then
      "\"" ++ replaceChar '"' "&quot;" value ++ "\""
    else
      "'" ++ value ++ "'"
  else
    "\"" ++ value ++ "\""

/-! ### The character set a document declares -/

/-- Read `charset=` after optional white space: the characters read and the
rest, without the old name of the character set. -/
def charset? (cs : List Char) : Option (List Char × List Char) :=
  match dropStart? "charset=".toList (cs.dropWhile isSpace) with
  | some rest => some (cs.takeWhile isSpace ++ "charset=".toList, rest.dropWhile (· != ';'))
  | none => none

/-- Replace the name of the character set in each parameter of a content type.
A parameter starts at a semicolon or at the start of a line; `fuel` bounds the
number of characters to read. -/
def replaceCharset : (fuel : Nat) → (lineStart : Bool) → List Char → List Char
  | 0, _, cs => cs
  | _ + 1, _, [] => []
  | fuel + 1, lineStart, c :: rest =>
      let found :=
        match (if lineStart then charset? (c :: rest) else none) with
        | some found => some found
        | none =>
            if c = ';' then (charset? rest).map fun (read, after) => (';' :: read, after) else none
      match found with
      | some (read, after) =>
          let old := (c :: rest).take ((c :: rest).length - after.length)
          read ++ "utf-8".toList ++ replaceCharset fuel (old.getLastD ' ' == '\n') after
      | none => c :: replaceCharset fuel (c == '\n') rest

/-- The value written for an attribute.  Output is always UTF-8, so a `meta`
element that declares a character set declares that one. -/
def writtenValue (element : String) (attributes : Attributes) (name value : String) : String :=
  if element = "meta" then
    if attributes.has "charset" then
      if name = "charset" then "utf-8" else value
    else if name = "content"
        && (attributes.get? "http-equiv").any (toLower · == "content-type") then
      String.ofList (replaceCharset value.toList.length true value.toList)
    else
      value
  else
    value

/-! ### Nodes -/

/-- The attributes of an element as they stand in its start tag. -/
def writeAttributes (element : String) (attributes : Attributes) : String :=
  concat (attributes.map fun (name, value) =>
    " " ++ name ++ "=" ++ quoteValue (escapeText (writtenValue element attributes name value)))

/-- Text inside these elements is written as it is. -/
def holdsRawText (name : String) : Bool :=
  name == "script" || name == "style"

/-- A string node as markup.  `raw` tells that it stands in an element with raw text. -/
def writeString (raw : Bool) (kind : StringKind) (text : String) : String :=
  match kind with
  | .comment => "<!--" ++ text ++ "-->"
  | .doctype => "<!DOCTYPE " ++ text ++ ">\n"
  | .cdata => "<![CDATA[" ++ text ++ "]]>"
  | .instruction => "<?" ++ text ++ ">"
  | .declaration => "<?" ++ text ++ "?>"
  | .text | .script | .style | .template | .rubyText | .rubyParenthesis =>
      if raw then text else escapeText text

mutual

/-- Write a node; `raw` tells that it stands in an element with raw text. -/
def Node.write (raw : Bool) : Node → String
  | .string kind text => writeString raw kind text
  | .element name attributes children =>
      match children with
      | [] =>
          if isVoidElement name then
            "<" ++ name ++ writeAttributes name attributes ++ "/>"
          else
            "<" ++ name ++ writeAttributes name attributes ++ "></" ++ name ++ ">"
      | child :: rest =>
          "<" ++ name ++ writeAttributes name attributes ++ ">"
            ++ (Node.write (holdsRawText name) child ++ Node.writeAll (holdsRawText name) rest)
            ++ "</" ++ name ++ ">"

/-- Write nodes one after the other. -/
def Node.writeAll (raw : Bool) : List Node → String
  | [] => ""
  | node :: rest => Node.write raw node ++ Node.writeAll raw rest

end

/-- The markup of a node that stands on its own. -/
def Node.toHtml (node : Node) : String :=
  Node.write false node

/-- The markup of nodes that stand on their own. -/
def toHtml (nodes : List Node) : String :=
  Node.writeAll false nodes

end StaticSite.Markup
