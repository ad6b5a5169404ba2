/-
Module: StaticSite.Yaml.Resolve
Purpose: What plain scalars mean: null, booleans, numbers, dates and times or strings.
Trusted boundary: none
Main exports:
  Kind, kindOf, boolOf, intOf, floatOf, timestampOf, binaryOf, scalarOf
-/
import StaticSite.Numeral
import StaticSite.Text.Case
import StaticSite.Yaml.Cursor
import StaticSite.Yaml.Value

namespace StaticSite.Yaml

open Text

/-- The kinds of scalars. -/
inductive Kind where
  | null
  | bool
  | int
  | float
  | timestamp
  | binary
  | string
  /-- The key whose value is merged into the mapping around it. -/
  | merge
  /-- The key of the default value of a mapping. -/
  | default
deriving DecidableEq, Repr, Inhabited

/-- The words for true and false. -/
def boolWords (version : Version) : List (String × Bool) :=
  let words := [("true", true), ("True", true), ("TRUE", true), ("false", false),
    ("False", false), ("FALSE", false)]
  if version = Version.old then
    words ++
      [ ("y", true), ("Y", true), ("yes", true), ("Yes", true), ("YES", true), ("n", false),
        ("N", false), ("no", false), ("No", false), ("NO", false), ("on", true), ("On", true),
        ("ON", true), ("off", false), ("Off", false), ("OFF", false) ]
  else
    words

/-- A decimal digit or an underscore. -/
def isDigitOrGap (c : Char) : Bool :=
  c.isDigit || c == '_'

/-- The digits without the underscores between them. -/
def withoutGaps (cs : List Char) : List Char :=
  cs.filter (· != '_')

/-- A number of units of sixty that stands after a colon. -/
def isSixtieth (cs : List Char) : Bool :=
  match cs with
  | [c] => c.isDigit
  | [c, d] => c.isDigit && c ≤ '5' && d.isDigit
  | _ => false

/-- A number to the base of sixty, with colons between its parts. -/
def isSexagesimal (cs : List Char) : Bool :=
  match splitOnChar ':' cs with
  | first :: second :: more => first.all isDigitOrGap && (second :: more).all isSixtieth
  | _ => false

/-- A number to the base of sixty with a decimal point. -/
def isSexagesimalFloat (cs : List Char) : Bool :=
  match splitAtFirst? (· == '.') cs with
  | some (whole, fraction) =>
      whole.head?.any Char.isDigit && isSexagesimal whole && fraction.all isDigitOrGap
  | none => false

/-- The characters that follow a sign make up an integer. -/
def isUnsignedInt (version : Version) (cs : List Char) : Bool :=
  let digitsIn (p : Char → Bool) (cs : List Char) : Bool := !cs.isEmpty && cs.all p
  match cs with
  | '0' :: 'b' :: rest => digitsIn (fun c => c == '0' || c == '1' || c == '_') rest
  | '0' :: 'x' :: rest => digitsIn (fun c => isHexDigit c || c == '_') rest
  | '0' :: 'o' :: rest =>
      version != Version.old && digitsIn (fun c => ('0' ≤ c && c ≤ '7') || c == '_') rest
  | c :: rest =>
      if version = Version.old then
        digitsIn (fun c => ('0' ≤ c && c ≤ '7') || c == '_') cs
          || (c != '0' && c.isDigit && rest.all isDigitOrGap)
          || (c != '0' && c.isDigit && isSexagesimal cs)
      else
        digitsIn isDigitOrGap cs
  | [] => false

/-- The scalar is written as an integer. -/
def isInt (version : Version) (cs : List Char) : Bool :=
  cs.head? != some '_' && isUnsignedInt version (signed cs).2

/-- Nothing, or an exponent; `signNeeded` tells that the exponent has to have a sign. -/
def isExponent (signNeeded : Bool) (cs : List Char) : Bool :=
  match cs with
  | [] => true
  | e :: more =>
      (e == 'e' || e == 'E') &&
        (match more with
          | c :: digits =>
              if c == '+' || c == '-' then !digits.isEmpty && digits.all Char.isDigit
              else !signNeeded && more.all Char.isDigit
          | [] => false)

/-- The scalar is written as a floating-point number. -/
def isFloat (version : Version) (cs : List Char) : Bool :=
  let (_, body) := signed cs
  let hasSign := body.length != cs.length
  (version == Version.old && isSexagesimalFloat body)
    || [".inf", ".Inf", ".INF"].contains (String.ofList body)
    || [".nan", ".NaN", ".NAN"].contains (String.ofList cs)
    || (match body with
        | '.' :: more =>
            let digits := more.takeWhile isDigitOrGap
            !digits.isEmpty && isExponent true (more.dropWhile isDigitOrGap)
              && !(hasSign && version == Version.old)
        | c :: _ =>
            c.isDigit &&
              (match body.dropWhile isDigitOrGap with
                | '.' :: more => isExponent false (more.dropWhile isDigitOrGap)
                | [] => false
                | more => isExponent false more)
        | [] => false)

/-- A text without the end of line at its end. -/
def withoutFinalBreak (text : String) : String :=
  removeEnd text "\n"

/-- The kind of a plain scalar. -/
def kindOf (version : Version) (text : String) : Kind :=
  let word := withoutFinalBreak text
  let cs := word.toList
  if text = "" then .null
  else if ((boolWords version).lookup word).isSome then .bool
  else if isFloat version cs then .float
  else if isInt version cs then .int
  else if word = "<<" then .merge
  else if ["~", "null", "Null", "NULL"].contains word then .null
  else if isDate cs || isDateTime cs then .timestamp
  else if word = "=" then .default
  else .string

/-! ### Values -/

/-- The boolean that a word stands for, in any case. -/
def boolOf (text : String) : Except YamlError Bool :=
  let word := toLower text
  if ["yes", "y", "true", "on"].contains word then .ok true
  else if ["no", "n", "false", "off"].contains word then .ok false
  else .error (.notBoolean text)

/-- The value, or else there is none for the text. -/
def orNone {α : Type} (text : String) (value? : Option α) : Except YamlError α :=
  match value? with
  | some value => .ok value
  | none => .error (.noSuchValue text)

/-- The integer that digits stand for, to the base of sixty if there are colons
between them. -/
def sexagesimal? (cs : List Char) : Option Int :=
  (splitOnChar ':' cs).foldlM (fun n digits => (Numeral.integer? 10 digits).map (60 * n + ·)) 0

/-- The integer that a scalar stands for, without its sign and underscores. -/
def unsignedInt (version : Version) (text : String) (body : List Char) : Except YamlError Int :=
  match body with
  | '0' :: 'b' :: rest => orNone text (Numeral.integer? 2 rest)
  | '0' :: 'x' :: rest => orNone text (Numeral.integer? 16 rest)
  | '0' :: 'o' :: rest => orNone text (Numeral.integer? 8 rest)
  | ['0'] => .ok 0
  | _ =>
      if version != Version.old then orNone text (Numeral.integer? 10 body)
      else
        match body with
        | [] => .error .emptyNumber
        | '0' :: _ => orNone text (Numeral.integer? 8 body)
        | _ => orNone text (sexagesimal? body)

/-- The integer that a scalar stands for. -/
def intOf (version : Version) (text : String) : Except YamlError Int :=
  match withoutGaps text.toList with
  | [] => .error .emptyNumber
  | cs =>
      let (negative, body) := signed cs
      (unsignedInt version text body).map fun n => if negative then -n else n

/-- The sum of the parts of a number to the base of sixty, last part first; `unit`
is the unit of the first of them. -/
def sexagesimalSum : (unit : Nat) → (sum : Binary64) → List Binary64 → Binary64
  | _, sum, [] => sum
  | unit, sum, part :: rest =>
      sexagesimalSum (60 * unit) (sum.add (part.mul (Binary64.ofNat unit))) rest

/-- The floating-point number that a scalar stands for, without its sign and
underscores, in lower case. -/
def unsignedFloat? (version : Version) (body : List Char) : Option Binary64 :=
  let word := String.ofList body
  if word = ".inf" then some (.infinite false)
  else if word = ".nan" then some .nan
  else if version != Version.standard && body.contains ':' then
    ((splitOnChar ':' body).mapM Numeral.real?).map fun parts =>
      sexagesimalSum 1 (Binary64.ofNat 0) parts.reverse
  else
    Numeral.real? body

/-- The floating-point number that a scalar stands for. -/
def floatOf (version : Version) (text : String) : Except YamlError Binary64 :=
  match withoutGaps (toLower text).toList with
  | [] => .error .emptyNumber
  | cs =>
      let (negative, body) := signed cs
      orNone text ((unsignedFloat? version body).map fun x => if negative then x.neg else x)

/-- The date, or the date and time, that a scalar stands for. -/
def timestampOf (text : String) : Except YamlError Value :=
  let word := withoutFinalBreak text
  match dayOf? 1 word.toList, dateTime? word.toList with
  | some (day, []), _ => if day.isValid then .ok (.date day) else .error (.noSuchValue text)
  | _, some time =>
      if time.isValid then .ok (.time time.carried) else .error (.noSuchValue text)
  | _, none => .error (.malformed "not a date" 0)

/-- The bytes that a scalar stands for. -/
def binaryOf (text : String) : Except YamlError (List UInt8) :=
  match base64Bytes? text with
  | some bytes => .ok bytes
  | none => .error (.malformed "not a sequence of bytes" 0)

/-- The value of a scalar of some kind. -/
def scalarOf (version : Version) (kind : Kind) (text : String) : Except YamlError Value :=
  match kind with
  | .null => .ok .null
  | .bool => (boolOf text).map .bool
  | .int => (intOf version text).map .int
  | .float => (floatOf version text).map .float
  | .timestamp => timestampOf text
  | .binary => (binaryOf text).map .bytes
  | .string => .ok (.string text)
  | .merge => .error (.malformed "a merge is no value" 0)
  | .default => .error (.malformed "a default is no value" 0)

end StaticSite.Yaml
