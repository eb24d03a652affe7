import Mathlib.Data.Nat.Digits
import Mathlib.Data.List.Sort

/-
# JSON values and the encoder of `encoding/json`

The gateway writes every frame and every bus payload with `json.Marshal`
and reads them back with `json.Unmarshal`. A JSON text is modelled as the
list of its characters (the bytes on the wire are their UTF-8 encoding,
`utf8`); a value as `Value`, whose number literal keeps its text, as the
decoder does before it converts the literal for its target field.

The encoder is the one of Go 1.21 (the module's `go` line): no whitespace,
struct fields in declaration order, map keys sorted, and strings escaped with
`escapeHTML` on (`"`, `\`, `\n`, `\r`, `\t` by a backslash, other control
characters and `<`, `>`, `&` as `\u00XX`, U+2028 and U+2029 as `\u202X`).
A `[]byte` is encoded as its standard base64 text (`base64Encode`).

Key definitions: `Value`, `Value.print`, `formatInt`, `base64Encode`.
-/

namespace Gateway

/-- A Go `int64`: an integer that fits in 64 bits. -/
structure Int64 where
  val : Int
  lo : -2 ^ 63 ≤ val
  hi : val < 2 ^ 63

instance : DecidableEq Int64 := fun a b =>
  decidable_of_iff (a.val = b.val) (by cases a; cases b; simp)

/-- The zero `int64`. -/
def Int64.zero : Int64 := ⟨0, by norm_num, by norm_num⟩

namespace Json

/-- A JSON value. A number keeps its literal text. -/
inductive Value where
  | null
  | bool (b : Bool)
  | num (lit : String)
  | str (s : String)
  | arr (xs : List Value)
  | obj (fs : List (String × Value))
  deriving Repr, Inhabited

/-- The kind of a value, as an `UnmarshalTypeError` names it. -/
def Value.kind : Value → String
  | .null => "null"
  | .bool _ => "bool"
  | .num _ => "number"
  | .str _ => "string"
  | .arr _ => "array"
  | .obj _ => "object"

/-! ### Numbers -/

/-- The digit `d < 10` as a character. -/
def digitChar (d : Nat) : Char := Char.ofNat (48 + d)

/-- The decimal digits of `n`, most significant first, with no leading zero. -/
def formatNat (n : Nat) : List Char :=
  if n = 0 then ['0'] else ((Nat.digits 10 n).map digitChar).reverse

/-- `strconv.FormatInt(n, 10)`, which the encoder writes for an `int64`. -/
def formatInt (n : Int) : List Char :=
  (if n < 0 then ['-'] else []) ++ formatNat n.natAbs

/-- The value `json.Marshal` gives an `int64` field. -/
def Value.ofInt64 (n : Int64) : Value := .num (String.mk (formatInt n.val))

/-! ### Strings -/

/-- The hexadecimal digit of `n < 16`, lower case as the encoder writes it. -/
def hexDigit (n : Nat) : Char := if n < 10 then digitChar n else Char.ofNat (87 + n)

/-- The escape `\u00XX` of a character below `0x100`. -/
def escapeU00 (c : Char) : List Char :=
  ['\\', 'u', '0', '0', hexDigit (c.toNat / 16), hexDigit (c.toNat % 16)]

/-- How the encoder writes one character of a string (`appendString` with
`escapeHTML` set). -/
def escapeChar (c : Char) : List Char :=
  if c = '"' then ['\\', '"']
  else if c = '\\' then ['\\', '\\']
  else if c = '\n' then ['\\', 'n']
  else if c = '\r' then ['\\', 'r']
  else if c = '\t' then ['\\', 't']
  else if c.toNat < 0x20 ∨ c = '<' ∨ c = '>' ∨ c = '&' then escapeU00 c
  else if c = '\u2028' ∨ c = '\u2029' then ['\\', 'u', '2', '0', '2', hexDigit (c.toNat % 16)]
  else [c]

/-- A string literal: the escaped characters between quotes. -/
def quote (s : String) : List Char := '"' :: s.data.flatMap escapeChar ++ ['"']

/-! ### Values -/

mutual
/-- The text `json.Marshal` writes for a value. -/
def Value.print : Value → List Char
  | .null => ['n', 'u', 'l', 'l']
  | .bool true => ['t', 'r', 'u', 'e']
  | .bool false => ['f', 'a', 'l', 's', 'e']
  | .num lit => lit.data
  | .str s => quote s
  | .arr xs => '[' :: printElems xs ++ [']']
  | .obj fs => '{' :: printMembers fs ++ ['}']
/-- The elements of an array, separated by commas. -/
def printElems : List Value → List Char
  | [] => []
  | v :: vs => v.print ++ printElemsTail vs
/-- The elements after the first, each after a comma. -/
def printElemsTail : List Value → List Char
  | [] => []
  | v :: vs => ',' :: v.print ++ printElemsTail vs
/-- The members of an object, separated by commas. -/
def printMembers : List (String × Value) → List Char
  | [] => []
  | (k, v) :: fs => quote k ++ ':' :: v.print ++ printMembersTail fs
/-- The members after the first, each after a comma. -/
def printMembersTail : List (String × Value) → List Char
  | [] => []
  | (k, v) :: fs => ',' :: quote k ++ ':' :: v.print ++ printMembersTail fs
end

/-- The bytes of a text on the wire. -/
def utf8 (cs : List Char) : List UInt8 := cs.flatMap String.utf8EncodeChar

/-- Go's `<` on strings, byte by byte: on UTF-8 text, the order of the runes. -/
def runesLess : List Char → List Char → Bool
  | [], [] => false
  | [], _ :: _ => true
  | _ :: _, [] => false
  | a :: as, b :: bs => decide (a.toNat < b.toNat) || (a.toNat == b.toNat && runesLess as bs)

/-- `json.Marshal` of a `map[string]...`: its entries as an object with the keys
sorted. -/
def mapObject (entries : List (String × Value)) : Value :=
  .obj (entries.insertionSort fun a b => runesLess b.1.data a.1.data = false)

/-! ### Byte slices -/

/-- The alphabet of `base64.StdEncoding`. -/
def base64Char (n : Nat) : Char :=
  if n < 26 then Char.ofNat (65 + n)
  else if n < 52 then Char.ofNat (71 + n)
  else if n < 62 then Char.ofNat (n - 4)
  else if n = 62 then '+' else '/'

/-- `base64.StdEncoding.EncodeToString`, which the encoder writes for a `[]byte`:
three bytes to four characters, the last group padded with `=`. -/
def base64Encode : List UInt8 → List Char
  | [] => []
  | [a] =>
    [base64Char (a.toNat / 4), base64Char (a.toNat % 4 * 16), '=', '=']
  | [a, b] =>
    [base64Char (a.toNat / 4), base64Char (a.toNat % 4 * 16 + b.toNat / 16),
      base64Char (b.toNat % 16 * 4), '=']
  | a :: b :: c :: rest =>
    [base64Char (a.toNat / 4), base64Char (a.toNat % 4 * 16 + b.toNat / 16),
      base64Char (b.toNat % 16 * 4 + c.toNat / 64), base64Char (c.toNat % 64)] ++
      base64Encode rest

/-- The value `json.Marshal` gives a `[]byte`. -/
def Value.ofBytes (bs : List UInt8) : Value := .str (String.mk (base64Encode bs))

end Json
end Gateway
