/-
Module: StaticSite.Bundling.Signature
Purpose: When two inline scripts are the same script.
Trusted boundary: none
Main exports:
  Signature, Signature.ofScript, Signature.canonical, Signature.digest, Signature.isAsync
-/
import StaticSite.Digest
import StaticSite.Markup.Script
import StaticSite.Sort

namespace StaticSite.Bundling

open Text Markup

/-- What makes a script the same wherever it appears: its element's name, its
attributes and its source text. -/
structure Signature where
  tag : String
  attributes : List (String × String)
  code : String
deriving DecidableEq, Repr, Inhabited

namespace Signature

/-- The signature of an inline script.  Sorting makes the authored order of the
attributes irrelevant. -/
def ofScript (script : Script) : Signature :=
  ⟨"script", sortBy pairLe script.attributes, script.code⟩

/-- How a character of an attribute value is written in a canonical form. -/
def escapeValueChar (c : Char) : List Char :=
  if c = '&' then "&amp;".toList
  else if c = '<' then "&lt;".toList
  else if c = '>' then "&gt;".toList
  else if c = '"' then "&quot;".toList
  else if c = '\'' then "&#x27;".toList
  else [c]

/-- One attribute in a canonical form. -/
def canonicalAttribute (pair : String × String) : String :=
  " " ++ pair.1 ++ "=\"" ++ String.ofList (pair.2.toList.flatMap escapeValueChar) ++ "\""

/-- The markup that the signature stands for. -/
def canonical (signature : Signature) : String :=
  "<" ++ signature.tag ++ concat (signature.attributes.map canonicalAttribute) ++ ">"
    ++ signature.code ++ "</" ++ signature.tag ++ ">"

/-- The digest of the canonical form. -/
def digest (signature : Signature) : String :=
  sha256Hex signature.canonical

/-- The start of the digest, as it is shown in messages. -/
def shortDigest (signature : Signature) : String :=
  String.ofList (signature.digest.toList.take 12)

/-- The script may run at any time. -/
def isAsync (signature : Signature) : Bool :=
  signature.attributes.any fun pair => pair.1 == "async"

end Signature

end StaticSite.Bundling
