import Gateway.Json.Value

/-
# The decoder's reading of a JSON text

`json.Unmarshal` first checks that its input is one JSON value with only
whitespace around it (`checkValid`), then decodes it. `parse` is both steps'
reading of the text: a value, or `none` for a `SyntaxError`.

Strings are read as `unquote` reads them: the escapes `\" \\ \/ \b \f \n \r \t`
and `\uXXXX`, where a surrogate pair is joined and a surrogate half that is not
part of a pair becomes U+FFFD; a raw control character is a syntax error.
Number literals follow the JSON grammar and keep their text.

The recursion over arrays and objects runs on fuel, one unit for each value
and each member; `parse` gives it the length of the text, more than any
text needs.

Key definitions: `scanString`, `scanNumber`, `parseValue`, `parse`.
-/

namespace Gateway
namespace Json

/-- JSON whitespace. -/
def isWs (c : Char) : Bool := c = ' ' || c = '\t' || c = '\n' || c = '\r'

/-- The text after the whitespace at its head. -/
def skipWs (cs : List Char) : List Char := cs.dropWhile isWs

/-! ### Numbers -/

/-- The digits at the head of a text and the text after them. -/
def spanDigits (cs : List Char) : List Char × List Char := cs.span Char.isDigit

/-- The integer part of a number: `0`, or a nonzero digit and more digits. -/
def scanIntPart : List Char → Option (List Char × List Char)
  | '0' :: r => some (['0'], r)
  | c :: r => if c.isDigit then some (c :: (spanDigits r).1, (spanDigits r).2) else none
  | [] => none

/-- The fraction of a number, `.` and at least one digit, if there is one. -/
def scanFrac : List Char → Option (List Char × List Char)
  | '.' :: r =>
    match spanDigits r with
    | ([], _) => none
    | (ds, r) => some ('.' :: ds, r)
  | r => some ([], r)

/-- The sign of an exponent, if there is one. -/
def scanSign : List Char → List Char × List Char
  | '+' :: r => (['+'], r)
  | '-' :: r => (['-'], r)
  | r => ([], r)

/-- The exponent of a number, `e` or `E`, a sign and at least one digit, if
there is one. -/
def scanExp : List Char → Option (List Char × List Char)
  | c :: r =>
    if c = 'e' ∨ c = 'E' then
      match spanDigits (scanSign r).2 with
      | ([], _) => none
      | (ds, r') => some (c :: (scanSign r).1 ++ ds, r')
    else some ([], c :: r)
  | [] => some ([], [])

/-- A number literal at the head of a text, and the text after it. -/
def scanNumber (cs : List Char) : Option (List Char × List Char) :=
  let (sgn, r) := match cs with
    | '-' :: r => (['-'], r)
    | r => ([], r)
  (scanIntPart r).bind fun (i, r) =>
    (scanFrac r).bind fun (f, r) =>
      (scanExp r).map fun (e, r) => (sgn ++ i ++ f ++ e, r)

/-! ### Strings -/

/-- The value of a hexadecimal digit. -/
def hexVal (c : Char) : Option Nat :=
  if c.isDigit then some (c.toNat - 48)
  else if 'a' ≤ c ∧ c ≤ 'f' then some (c.toNat - 87)
  else if 'A' ≤ c ∧ c ≤ 'F' then some (c.toNat - 55)
  else none

/-- The code unit of four hexadecimal digits (`getu4`). -/
def hex4 (a b c d : Char) : Option Nat :=
  (hexVal a).bind fun a => (hexVal b).bind fun b => (hexVal c).bind fun c =>
    (hexVal d).map fun d => ((a * 16 + b) * 16 + c) * 16 + d

/-- A UTF-16 surrogate half. -/
def isSurrogate (n : Nat) : Bool := 0xD800 ≤ n && n < 0xE000

/-- `c` before the characters of a scanned string. -/
def consChar (c : Char) : Option (List Char × List Char) → Option (List Char × List Char) :=
  Option.map fun (s, r) => (c :: s, r)

/-- The characters of a string literal after its opening quote, and the text
after its closing quote. -/
def scanString : List Char → Option (List Char × List Char)
  | [] => none
  | '"' :: r => some ([], r)
  | '\\' :: 'u' :: a :: b :: c :: d :: r@('\\' :: 'u' :: e :: f :: g :: h :: r') =>
    match hex4 a b c d with
    | none => none
    | some n =>
      if isSurrogate n then
        match hex4 e f g h with
        | some m =>
          if n < 0xDC00 ∧ 0xDC00 ≤ m ∧ m < 0xE000 then
            consChar (Char.ofNat (0x10000 + (n - 0xD800) * 0x400 + (m - 0xDC00))) (scanString r')
          else consChar '\uFFFD' (scanString r)
        | none => consChar '\uFFFD' (scanString r)
      else consChar (Char.ofNat n) (scanString r)
  | '\\' :: 'u' :: a :: b :: c :: d :: r =>
    match hex4 a b c d with
    | none => none
    | some n => consChar (if isSurrogate n then '\uFFFD' else Char.ofNat n) (scanString r)
  | '\\' :: e :: r =>
    if e = '"' then consChar '"' (scanString r)
    else if e = '\\' then consChar '\\' (scanString r)
    else if e = '/' then consChar '/' (scanString r)
    else if e = 'b' then consChar (Char.ofNat 8) (scanString r)
    else if e = 'f' then consChar (Char.ofNat 12) (scanString r)
    else if e = 'n' then consChar '\n' (scanString r)
    else if e = 'r' then consChar '\r' (scanString r)
    else if e = 't' then consChar '\t' (scanString r)
    else none
  | c :: r => if c.toNat < 0x20 then none else consChar c (scanString r)

/-! ### Values -/

mutual
/-- A value at the head of a text (after its whitespace), and the text after it. -/
def parseValue : Nat → List Char → Option (Value × List Char)
  | 0, _ => none
  | _ + 1, 'n' :: 'u' :: 'l' :: 'l' :: r => some (.null, r)
  | _ + 1, 't' :: 'r' :: 'u' :: 'e' :: r => some (.bool true, r)
  | _ + 1, 'f' :: 'a' :: 'l' :: 's' :: 'e' :: r => some (.bool false, r)
  | _ + 1, '"' :: r => (scanString r).map fun (s, r) => (.str (String.mk s), r)
  | n + 1, '[' :: r =>
    match skipWs r with
    | ']' :: r => some (.arr [], r)
    | r => (parseElems n r).map fun (xs, r) => (.arr xs, r)
  | n + 1, '{' :: r =>
    match skipWs r with
    | '}' :: r => some (.obj [], r)
    | r => (parseMembers n r).map fun (fs, r) => (.obj fs, r)
  | _ + 1, cs => (scanNumber cs).map fun (lit, r) => (.num (String.mk lit), r)
/-- The elements of an array up to its closing bracket. -/
def parseElems : Nat → List Char → Option (List Value × List Char)
  | 0, _ => none
  | n + 1, cs =>
    match parseValue n (skipWs cs) with
    | none => none
    | some (v, r) =>
      match skipWs r with
      | ',' :: r => (parseElems n r).map fun (vs, r) => (v :: vs, r)
      | ']' :: r => some ([v], r)
      | _ => none
/-- The members of an object up to its closing brace. -/
def parseMembers : Nat → List Char → Option (List (String × Value) × List Char)
  | 0, _ => none
  | n + 1, cs =>
    match skipWs cs with
    | '"' :: r =>
      match scanString r with
      | none => none
      | some (k, r) =>
        match skipWs r with
        | ':' :: r =>
          match parseValue n (skipWs r) with
          | none => none
          | some (v, r) =>
            match skipWs r with
            | ',' :: r => (parseMembers n r).map fun (fs, r) => ((String.mk k, v) :: fs, r)
            | '}' :: r => some ([(String.mk k, v)], r)
            | _ => none
        | _ => none
    | _ => none
end

/-- The value a whole text denotes, or `none` for a syntax error. -/
def parse (cs : List Char) : Option Value :=
  match parseValue (cs.length + 1) (skipWs cs) with
  | some (v, r) => if skipWs r = [] then some v else none
  | none => none

end Json
end Gateway
