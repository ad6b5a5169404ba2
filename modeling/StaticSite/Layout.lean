/-
Module: StaticSite.Layout
Purpose: Indenting the block structure of a page without changing what a browser shows.
Trusted boundary: none
Main exports:
  Indent, detectIndent, isInline, blockLines, childLines, beautify
-/
import StaticSite.Markup.Serialize

namespace StaticSite

open Text Markup

/-- One level of indentation: a number of spaces or a literal string. -/
inductive Indent where
  | spaces (count : Int)
  | literal (text : String)
deriving DecidableEq, Repr, Inhabited

namespace Indent

/-- The indentation used when nothing says otherwise. -/
def standard : Indent :=
  .spaces 2

/-- The string that one level of indentation adds.  A negative number of spaces
adds nothing. -/
def unit : Indent → String
  | .spaces count => String.ofList (List.replicate count.toNat ' ')
  | .literal text => text

end Indent

/-! ### The indentation an author uses -/

/-- A character authors indent with. -/
def isIndentChar (c : Char) : Bool :=
  c == ' ' || c == '\t'

/-- The indentation of a line that starts here: a run of spaces and tabs with
something visible right after it. -/
def lineIndent? (cs : List Char) : Option Indent :=
  let run := cs.takeWhile isIndentChar
  match run, cs.dropWhile isIndentChar with
  | c :: _, next :: _ =>
      if isSpace next then none
      else if c = '\t' then some (.literal "\t")
      else some (.spaces run.length)
  | _, _ => none

/-- The indentation of the first indented line after a line feed. -/
def firstIndent? : List Char → Option Indent
  | [] => none
  | c :: rest =>
      if c = '\n' then
        match lineIndent? rest with
        | some indent => some indent
        | none => firstIndent? rest
      else
        firstIndent? rest

/-- The indentation the first indented line of `source` uses, or `default`.
The text before the first line feed is not looked at. -/
def detectIndent (source : String) (default : Indent) : Indent :=
  (firstIndent? source.toList).getD default

/-! ### Inline and block content -/

/-- Elements laid out within a line, where white space around them shows. -/
def inlineElements : List String :=
  [ "a", "abbr", "audio", "b", "bdi", "bdo", "br", "button", "canvas", "cite", "code", "data",
    "del", "dfn", "em", "embed", "i", "iframe", "img", "input", "ins", "kbd", "label", "map",
    "mark", "math", "meter", "object", "output", "picture", "progress", "q", "ruby", "s", "samp",
    "select", "small", "span", "strong", "sub", "sup", "svg", "textarea", "time", "u", "var",
    "video", "wbr" ]

/-- Elements whose content is written exactly as it is. -/
def preservedElements : List String :=
  ["pre", "textarea", "script", "style"]

/-- The node is laid out within a line: a string other than a document type, or
an inline element. -/
def isInline : Node → Bool
  | .string kind _ => kind != .doctype
  | .element name _ _ => inlineElements.contains name

/-- The element is written on one line as it is: its content is preserved, or
holds nothing but inline nodes. -/
def isVerbatim (name : String) (children : List Node) : Bool :=
  preservedElements.contains name || children.all isInline

/-! ### Lines -/

/-- What an inline node adds to its line.  White space in plain text is collapsed. -/
def inlinePiece : Node → String
  | .string .text text => collapse (writeString false .text text)
  | node => node.toHtml

/-- The white space a line at this depth starts with. -/
def margin (unit : String) : (depth : Nat) → String
  | 0 => ""
  | depth + 1 => unit ++ margin unit depth

/-- The line that inline nodes make together, or nothing if they are blank. -/
def runLines (unit : String) (depth : Nat) (run : String) : List String :=
  if trim run = "" then [] else [margin unit depth ++ trim run]

/-- The start tag of an element, as a line of its own. -/
def openingTag (name : String) (attributes : Attributes) : String :=
  removeEnd (Node.toHtml (.element name attributes [])) ("</" ++ name ++ ">")

mutual

/-- The lines of a block node. -/
def blockLines (unit : String) (depth : Nat) : Node → List String
  | .string kind text => [margin unit depth ++ trim (writeString false kind text)]
  | .element name attributes children =>
      if isVerbatim name children then
        [margin unit depth ++ Node.toHtml (.element name attributes children)]
      else
        (margin unit depth ++ openingTag name attributes)
          :: childLines unit (depth + 1) "" children
          ++ [margin unit depth ++ ("</" ++ name ++ ">")]

/-- The lines of sibling nodes.  `run` is what the inline nodes right before
them have added to their line. -/
def childLines (unit : String) (depth : Nat) (run : String) : List Node → List String
  | [] => runLines unit depth run
  | child :: rest =>
      if isInline child then
        childLines unit depth (run ++ inlinePiece child) rest
      else
        runLines unit depth run ++ (blockLines unit depth child ++ childLines unit depth "" rest)

end

/-- A document with its block structure indented; every line ends in a line feed. -/
def beautify (document : List Node) (indent : Indent) : String :=
  concat ((childLines indent.unit 0 "" document).map (· ++ "\n"))

end StaticSite
