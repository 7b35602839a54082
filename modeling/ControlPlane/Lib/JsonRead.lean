/-
Reading JSON text, as `json.loads` does.

The text and the strings in it are lists of code points, because an escape may stand for a
surrogate that no other one completes.  Objects and arrays are read one level of nesting deeper
than what they are in, and there is a limit to that; a whole number has at most so many digits.
How the text of a number that is not whole is read is a parameter.
-/
import ControlPlane.Lib.JsonText

namespace ControlPlane

namespace JsonRead

/-- A string: its code points. -/
abbrev Codes := List Nat

instance lawfulCodes : LawfulBEq Codes := inferInstance

/-- The code points of a text. -/
def codesOf (chars : List Char) : Codes := chars.map Char.toNat

/-- The code points of a text. -/
def codes (text : String) : Codes := codesOf text.toList

/-- The text of code points, none of which is a surrogate. -/
def textOf (text : Codes) : String := String.ofList (text.map Char.ofNat)

/-- A value that was read, where `F` are the floats. -/
inductive Value (F : Type) where
  | null
  | bool (b : Bool)
  | int (n : Int)
  | float (x : F)
  | str (text : Codes)
  | arr (items : List (Value F))
  | obj (members : List (Codes × Value F))

/-- What `loads` raises. -/
inductive ReadError where
  /-- `JSONDecodeError` -/
  | decode
  /-- `ValueError`: a whole number has too many digits. -/
  | digits
  | recursion
deriving DecidableEq, Repr

/-- The character of a literal in this file. -/
abbrev code (c : Char) : Nat := c.toNat

/-! ### Strings -/

/-- A code unit in a string: one written as an escape `\u` may be half of a pair. -/
inductive CodeUnit where
  | plain (c : Nat)
  | escaped (n : Nat)
deriving DecidableEq, Repr

/-- The value of a hexadecimal digit. -/
def hexValue? (c : Nat) : Option Nat :=
  if 48 ≤ c ∧ c ≤ 57 then some (c - 48)
  else if 97 ≤ c ∧ c ≤ 102 then some (c - 87)
  else if 65 ≤ c ∧ c ≤ 70 then some (c - 55)
  else none

/-- The value of four hex digits. -/
def hex4? (a b c d : Nat) : Option Nat := do
  let a ← hexValue? a
  let b ← hexValue? b
  let c ← hexValue? c
  let d ← hexValue? d
  some (a * 4096 + b * 256 + c * 16 + d)

/-- What the character after a backslash stands for. -/
def escape? (c : Nat) : Option Nat :=
  if c = code '"' ∨ c = code '\\' ∨ c = code '/' then some c
  else if c = code 'b' then some 8
  else if c = code 'f' then some 12
  else if c = code 'n' then some 10
  else if c = code 'r' then some 13
  else if c = code 't' then some 9
  else none

/-- One more unit in front. -/
def pushUnit (unit : CodeUnit) (read : Except ReadError (List CodeUnit × Codes)) :
    Except ReadError (List CodeUnit × Codes) :=
  read.map fun found => (unit :: found.1, found.2)

/-- The units of a string up to the closing quote, and what is behind that. -/
def stringUnits : Codes → Except ReadError (List CodeUnit × Codes)
  | [] => .error .decode
  | c :: rest =>
      if c = code '"' then .ok ([], rest)
      else if c = code '\\' then
        match rest with
        | [] => .error .decode
        | e :: rest =>
            if e = code 'u' then
              match rest with
              | h₁ :: h₂ :: h₃ :: h₄ :: rest =>
                  match hex4? h₁ h₂ h₃ h₄ with
                  | some n => pushUnit (.escaped n) (stringUnits rest)
                  | none => .error .decode
              | _ => .error .decode
            else
              match escape? e with
              | some n => pushUnit (.plain n) (stringUnits rest)
              | none => .error .decode
      else if c < 32 then .error .decode
      else pushUnit (.plain c) (stringUnits rest)

/-- The first half of a surrogate pair. -/
def isHigh (n : Nat) : Bool := 0xd800 ≤ n && n ≤ 0xdbff

/-- The second half. -/
def isLow (n : Nat) : Bool := 0xdc00 ≤ n && n ≤ 0xdfff

/-- The code points of a string: two escapes that are the halves of a pair are one. -/
def joinUnits : List CodeUnit → Codes
  | [] => []
  | .plain c :: rest => c :: joinUnits rest
  | .escaped high :: .escaped low :: rest =>
      if isHigh high && isLow low then
        (0x10000 + (high - 0xd800) * 1024 + (low - 0xdc00)) :: joinUnits rest
      else high :: joinUnits (.escaped low :: rest)
  | .escaped n :: rest => n :: joinUnits rest

/-- `scanstring`, behind the opening quote. -/
def scanString (input : Codes) : Except ReadError (Codes × Codes) :=
  (stringUnits input).map fun found => (joinUnits found.1, found.2)

/-! ### Numbers -/

/-- A decimal digit. -/
def isDigit (c : Nat) : Bool := 48 ≤ c && c ≤ 57

/-- The digits of a whole number without a sign: a zero, or digits of which the first is none. -/
def naturalText : Codes → Option (Codes × Codes)
  | [] => none
  | c :: rest =>
      if c = code '0' then some ([c], rest)
      else if isDigit c then some (c :: rest.takeWhile isDigit, rest.dropWhile isDigit)
      else none

/-- A whole number, which may have a sign. -/
def integerText : Codes → Option (Codes × Codes)
  | [] => none
  | c :: rest =>
      if c = code '-' then (naturalText rest).map fun found => (c :: found.1, found.2)
      else naturalText (c :: rest)

/-- A point and digits, if they are there. -/
def fractionText : Codes → Codes × Codes
  | [] => ([], [])
  | c :: rest =>
      if c = code '.' ∧ rest.takeWhile isDigit ≠ [] then
        (c :: rest.takeWhile isDigit, rest.dropWhile isDigit)
      else ([], c :: rest)

/-- The sign of an exponent, if it has one. -/
def signText : Codes → Codes × Codes
  | [] => ([], [])
  | c :: rest => if c = code '+' ∨ c = code '-' then ([c], rest) else ([], c :: rest)

/-- An exponent, if it is there. -/
def exponentText : Codes → Codes × Codes
  | [] => ([], [])
  | c :: rest =>
      let (sign, digits) := signText rest
      if (c = code 'e' ∨ c = code 'E') ∧ digits.takeWhile isDigit ≠ [] then
        (c :: sign ++ digits.takeWhile isDigit, digits.dropWhile isDigit)
      else ([], c :: rest)

/-- The number that decimal digits write. -/
def decimal (digits : Codes) : Nat := digits.foldl (fun n c => n * 10 + (c - 48)) 0

/-- `int(text)`. -/
def integerValue : Codes → Int
  | [] => 0
  | c :: rest => if c = code '-' then -(decimal rest : Int) else decimal (c :: rest)

section

variable {F : Type} (readFloat : Codes → F) (maxDigits : Nat)

/-- The number that a text writes, unless it has too many digits. -/
def readInteger (text : Codes) : Except ReadError (Value F) :=
  if maxDigits < (text.filter isDigit).length then .error .digits
  else .ok (.int (integerValue text))

/-- A number, if the text begins with one. -/
def scanNumber (input : Codes) : Option (Except ReadError (Value F × Codes)) :=
  match integerText input with
  | none => none
  | some (integer, rest) =>
      let (fraction, rest) := fractionText rest
      let (exponent, rest) := exponentText rest
      if fraction = [] ∧ exponent = [] then
        some ((readInteger maxDigits integer).map fun value => (value, rest))
      else some (.ok (.float (readFloat (integer ++ fraction ++ exponent)), rest))

/-! ### Values -/

/-- What may stand between tokens. -/
def isSpace (c : Nat) : Bool := c = 32 || c = 9 || c = 10 || c = 13

/-- The input after the white space it begins with. -/
def skipSpace (input : Codes) : Codes := input.dropWhile isSpace

/-- `values.append(value)`, in front of what follows. -/
def pushValue {α : Type} (value : α) (read : Except ReadError (List α × Codes)) :
    Except ReadError (List α × Codes) :=
  read.map fun found => (value :: found.1, found.2)

section

variable (scan : Codes → Except ReadError (Value F × Codes))

/-- The items of an array up to its end.  Every item takes a character, so there are not more of
them than `fuel`. -/
def scanItems : Nat → Codes → Except ReadError (List (Value F) × Codes)
  | 0, _ => .error .decode
  | fuel + 1, input =>
      match scan input with
      | .error e => .error e
      | .ok (value, rest) =>
          match skipSpace rest with
          | [] => .error .decode
          | c :: rest =>
              if c = code ']' then .ok ([value], rest)
              else if c = code ',' then pushValue value (scanItems fuel (skipSpace rest))
              else .error .decode

/-- `JSONArray`, behind the bracket. -/
def scanArray (input : Codes) : Except ReadError (Value F × Codes) :=
  match skipSpace input with
  | [] => .error .decode
  | c :: rest =>
      if c = code ']' then .ok (.arr [], rest)
      else (scanItems scan (rest.length + 1) (c :: rest)).map fun found => (.arr found.1, found.2)

/-- A name, a colon and a value. -/
def scanMember (input : Codes) : Except ReadError ((Codes × Value F) × Codes) :=
  match input with
  | [] => .error .decode
  | c :: rest =>
      if c = code '"' then
        match scanString rest with
        | .error e => .error e
        | .ok (name, rest) =>
            match skipSpace rest with
            | [] => .error .decode
            | c :: rest =>
                if c = code ':' then
                  (scan (skipSpace rest)).map fun found => ((name, found.1), found.2)
                else .error .decode
      else .error .decode

/-- The members of an object up to its end. -/
def scanMembers : Nat → Codes → Except ReadError (List (Codes × Value F) × Codes)
  | 0, _ => .error .decode
  | fuel + 1, input =>
      match scanMember scan input with
      | .error e => .error e
      | .ok (member, rest) =>
          match skipSpace rest with
          | [] => .error .decode
          | c :: rest =>
              if c = code '}' then .ok ([member], rest)
              else if c = code ',' then pushValue member (scanMembers fuel (skipSpace rest))
              else .error .decode

/-- `mapping[key] = value`. -/
def setMember (members : List (Codes × Value F)) (member : Codes × Value F) :
    List (Codes × Value F) :=
  match members with
  | [] => [member]
  | other :: rest =>
      if other.1 = member.1 then member :: rest else other :: setMember rest member

/-- `dict(pairs)`. -/
def toDict (pairs : List (Codes × Value F)) : List (Codes × Value F) := pairs.foldl setMember []

/-- `JSONObject`, behind the brace. -/
def scanObject (input : Codes) : Except ReadError (Value F × Codes) :=
  match skipSpace input with
  | [] => .error .decode
  | c :: rest =>
      if c = code '}' then .ok (.obj [], rest)
      else (scanMembers scan (rest.length + 1) (c :: rest)).map
        fun found => (.obj (toDict found.1), found.2)

end

/-- The constants, each with its value. -/
def constants : List (String × Value F) :=
  [("null", .null), ("true", .bool true), ("false", .bool false),
    ("NaN", .float (readFloat (codes "NaN"))),
    ("Infinity", .float (readFloat (codes "Infinity"))),
    ("-Infinity", .float (readFloat (codes "-Infinity")))]

/-- A constant or a number. -/
def scanPlain (input : Codes) : Except ReadError (Value F × Codes) :=
  match (constants readFloat).find? fun constant => (codes constant.1).isPrefixOf input with
  | some (name, value) => .ok (value, input.drop (codes name).length)
  | none => (scanNumber readFloat maxDigits input).getD (.error .decode)

/-- `scan_once`, where `object` and `array` read what is in brackets. -/
def scanWith (object array : Codes → Except ReadError (Value F × Codes)) (input : Codes) :
    Except ReadError (Value F × Codes) :=
  match input with
  | [] => .error .decode
  | c :: rest =>
      if c = code '"' then (scanString rest).map fun found => (.str found.1, found.2)
      else if c = code '{' then object rest
      else if c = code '[' then array rest
      else scanPlain readFloat maxDigits (c :: rest)

/-- `scan_once`, with so many levels of nesting left. -/
def scanOnce : Nat → Codes → Except ReadError (Value F × Codes)
  | 0 => scanWith readFloat maxDigits (fun _ => .error .recursion) (fun _ => .error .recursion)
  | depth + 1 => scanWith readFloat maxDigits (scanObject (scanOnce depth))
      (scanArray (scanOnce depth))

/-- `json.loads(text)`. -/
def loads (depth : Nat) (text : Codes) : Except ReadError (Value F) :=
  match scanOnce readFloat maxDigits depth (skipSpace text) with
  | .error e => .error e
  | .ok (value, rest) => if skipSpace rest = [] then .ok value else .error .decode

end

end JsonRead

end ControlPlane
