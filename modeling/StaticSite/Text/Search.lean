/-
Module: StaticSite.Text.Search
Purpose: Searching, cutting and joining on character lists and strings.
Trusted boundary: none
Main exports:
  dropStart?, dropStartNoCase?, startsWith, endsWith, removeEnd, splitAtFirst?, splitWhere?,
  splitOnChar, replaceChar, joinWith, concat
-/
namespace StaticSite.Text

/-- What follows `start` in `cs`, when `cs` begins with it. -/
def dropStart? : (start cs : List Char) → Option (List Char)
  | [], cs => some cs
  | _ :: _, [] => none
  | p :: start, c :: cs => if p = c then dropStart? start cs else none

/-- Like `dropStart?`, reading `start` (given in lower case) without regard to ASCII case. -/
def dropStartNoCase? : (start cs : List Char) → Option (List Char)
  | [], cs => some cs
  | _ :: _, [] => none
  | p :: start, c :: cs => if p = c.toLower then dropStartNoCase? start cs else none

/-- The string begins with `start`. -/
def startsWith (s start : String) : Bool :=
  (dropStart? start.toList s.toList).isSome

/-- The string ends with `last`. -/
def endsWith (s last : String) : Bool :=
  (dropStart? last.toList.reverse s.toList.reverse).isSome

/-- Cut `last` off the end of `s`; a string that does not end with it is unchanged. -/
def removeEnd (s last : String) : String :=
  match dropStart? last.toList.reverse s.toList.reverse with
  | some kept => String.ofList kept.reverse
  | none => s

/-- Split at the first character that satisfies `p`: what comes before it and
what comes after it. -/
def splitAtFirst? (p : Char → Bool) : List Char → Option (List Char × List Char)
  | [] => none
  | c :: rest =>
      if p c then
        some ([], rest)
      else
        match splitAtFirst? p rest with
        | none => none
        | some (before, after) => some (c :: before, after)

/-- Split at the first place where `read?` succeeds: what comes before that
place and what `read?` leaves there. -/
def splitWhere? (read? : List Char → Option (List Char)) :
    List Char → Option (List Char × List Char)
  | [] =>
      match read? [] with
      | some after => some ([], after)
      | none => none
  | c :: rest =>
      match read? (c :: rest) with
      | some after => some ([], after)
      | none =>
          match splitWhere? read? rest with
          | some (before, after) => some (c :: before, after)
          | none => none

/-- Split at every occurrence of the separator character; the pieces joined by
it give the list back. -/
def splitOnChar (separator : Char) : List Char → List (List Char)
  | [] => [[]]
  | c :: rest =>
      if c = separator then
        [] :: splitOnChar separator rest
      else
        match splitOnChar separator rest with
        | [] => [[c]]
        | piece :: pieces => (c :: piece) :: pieces

/-- Replace every occurrence of one character by a string. -/
def replaceChar (old : Char) (new : String) (s : String) : String :=
  String.ofList (s.toList.flatMap fun c => if c = old then new.toList else [c])

/-- The strings in order with `separator` between neighbours. -/
def joinWith (separator : String) : List String → String
  | [] => ""
  | [s] => s
  | s :: rest => s ++ separator ++ joinWith separator rest

/-- The strings in order with nothing between them. -/
def concat : List String → String
  | [] => ""
  | s :: rest => s ++ concat rest

end StaticSite.Text
