/-
The text of JSON values, as `json.dumps(value, separators=(",", ":"))` writes it.

Strings are written in ASCII, with everything else escaped.  Whole numbers are written
in decimal; how a number that is not whole is written is a parameter.
-/
import ControlPlane.Lib.Json
import ControlPlane.Lib.Text

namespace ControlPlane

namespace JsonText

/-- Four hex digits. -/
def hex4 (n : Nat) : List Char :=
  [Hex.digit (n / 4096 % 16), Hex.digit (n / 256 % 16), Hex.digit (n / 16 % 16), Hex.digit (n % 16)]

/-- A code unit of UTF-16, escaped. -/
def escapeUnit (n : Nat) : List Char := '\\' :: 'u' :: hex4 n

/-- One character of a string. -/
def escapeChar (c : Char) : List Char :=
  let n := c.toNat
  if c = '"' then ['\\', '"']
  else if c = '\\' then ['\\', '\\']
  else if 32 ≤ n ∧ n ≤ 126 then [c]
  else if n = 8 then ['\\', 'b']
  else if n = 9 then ['\\', 't']
  else if n = 10 then ['\\', 'n']
  else if n = 12 then ['\\', 'f']
  else if n = 13 then ['\\', 'r']
  else if n < 0x10000 then escapeUnit n
  else
    let v := n - 0x10000
    escapeUnit (0xd800 + v / 1024) ++ escapeUnit (0xdc00 + v % 1024)

/-- A string in quotes. -/
def quote (text : String) : List Char :=
  '"' :: text.toList.flatMap escapeChar ++ ['"']

/-- A whole number. -/
def int (n : Int) : List Char :=
  if n < 0 then '-' :: Nat.toDigits 10 n.natAbs else Nat.toDigits 10 n.natAbs

section
variable (floatText : Rat → List Char)

mutual

/-- The text of a value, without white space. -/
def write : Json → List Char
  | .null => "null".toList
  | .bool true => "true".toList
  | .bool false => "false".toList
  | .num q => if q.den = 1 then int q.num else floatText q
  | .str s => quote s
  | .arr items => '[' :: writeItems items ++ [']']
  | .obj members => '{' :: writeMembers members ++ ['}']

/-- The items of an array, between commas. -/
def writeItems : List Json → List Char
  | [] => []
  | [item] => write item
  | item :: rest => write item ++ ',' :: writeItems rest

/-- The members of an object, between commas. -/
def writeMembers : List (String × Json) → List Char
  | [] => []
  | [(key, value)] => quote key ++ ':' :: write value
  | (key, value) :: rest => quote key ++ ':' :: write value ++ ',' :: writeMembers rest

end

end

/-- A text that is given by its characters need not be read again. -/
theorem quote_ofList (chars : List Char) :
    quote (String.ofList chars) = '"' :: chars.flatMap escapeChar ++ ['"'] := by
  rw [quote, String.toList_ofList]

/-- `json.dumps(value, separators=(",", ":"))`. -/
def dumps (floatText : Rat → List Char) (value : Json) : String :=
  String.ofList (write floatText value)

example : dumps (fun _ => []) (.arr [.str "a\"é", .num 12]) = "[\"a\\\"\\u00e9\",12]" := by
  decide

end JsonText

/-- Canonical text of ASCII values whose members are sorted. -/
def asciiDumps (value : Json) : Option Bytes :=
  some (utf8 (JsonText.dumps (fun _ => []) value))

/-- The text of an object is not empty, for it starts with a brace. -/
theorem asciiDumps_obj (members : Members) :
    ∃ message, asciiDumps (.obj members) = some message ∧ message ≠ [] := by
  refine ⟨_, rfl, ?_⟩
  have hbrace : String.utf8EncodeChar '\x7b' ≠ [] := by decide
  rw [JsonText.dumps, utf8_ofList, JsonText.write, List.cons_append, List.flatMap_cons]
  exact List.append_ne_nil_of_left_ne_nil hbrace _

end ControlPlane
