import Gateway.Json.RoundTrip
import Mathlib.Data.List.AList

/-
# `json.Unmarshal` into Go types

What the decoder does with a parsed value and a Go variable: a `Decoder`
stores the value into the variable's current content and reports the first
`UnmarshalTypeError` it meets, going on with the rest as `decodeState` does
(`saveError` keeps the first error).

A struct decodes an object member by member: the member's key picks the field
with that JSON name, else the field whose name folds to the same (`foldName`),
else nothing; `null` leaves a struct, a string and a number unchanged, sets a
map to nil; a value of another kind is a type error and leaves the variable.
A type error inside a struct names the struct and the path of JSON field names
to the field (`addErrorContext`).

`unmarshal` is `json.Unmarshal`: a syntax error, or the value decoded into
the zero value of the type, or the first type error.

Key definitions: `Decoder`, `StructField`, `structDecoder`, `unmarshal`.
-/

namespace Gateway
namespace Json

/-- `json.UnmarshalTypeError`: a value of kind `value` where a `type` was
expected, in the field at path `field` of the struct named `struct` (both
empty at the top). -/
structure TypeError where
  value : String
  type : String
  struct : String := ""
  field : String := ""
  deriving DecidableEq, Repr

/-- An error `json.Unmarshal` returns. A `SyntaxError`'s offset and message are
not modelled. -/
inductive DecodeError where
  | malformed
  | type (e : TypeError)
  deriving DecidableEq, Repr

/-- Storing a JSON value into a Go variable of type `σ` holding a given content:
the new content, and the first type error met. -/
abbrev Decoder (σ : Type) := Value → σ → σ × Option TypeError

/-! ### Basic types -/

/-- The value of a list of decimal digits. -/
def digitsValue (ds : List Char) : Nat := ds.foldl (fun acc c => acc * 10 + (c.toNat - 48)) 0

/-- The sign of a literal, `true` when negative, and the rest of it. -/
def splitSign : List Char → Bool × List Char
  | '-' :: ds => (true, ds)
  | '+' :: ds => (false, ds)
  | ds => (false, ds)

/-- `strconv.ParseInt(s, 10, 64)`: an optional sign, at least one digit, and the
value in range. -/
def parseInt64 (lit : String) : Option Int64 :=
  let (neg, ds) := splitSign lit.data
  let n : Int := if neg then -(digitsValue ds : Int) else digitsValue ds
  if h : ds ≠ [] ∧ ds.all Char.isDigit = true ∧ -2 ^ 63 ≤ n ∧ n < 2 ^ 63 then
    some ⟨n, h.2.2.1, h.2.2.2⟩
  else none

/-- Decoding into a `string`. -/
def stringDecoder : Decoder String
  | .str s, _ => (s, none)
  | .null, x => (x, none)
  | v, x => (x, some { value := v.kind, type := "string" })

/-- Decoding into a `bool`. -/
def boolDecoder : Decoder Bool
  | .bool b, _ => (b, none)
  | .null, x => (x, none)
  | v, x => (x, some { value := v.kind, type := "bool" })

/-- Decoding into an `int64`: the literal must be an integer in range. -/
def int64Decoder : Decoder Int64
  | .num lit, x =>
    match parseInt64 lit with
    | some n => (n, none)
    | none => (x, some { value := "number " ++ lit, type := "int64" })
  | .null, x => (x, none)
  | v, x => (x, some { value := v.kind, type := "int64" })

/-- Decoding into a `map[string]string`: `null` sets it to nil (the empty map);
an object adds its members, a member that is not a string setting its key to
the empty string after its type error. -/
def stringMapDecoder : Decoder (AList fun _ : String => String)
  | .null, _ => (∅, none)
  | .obj fs, x =>
    fs.foldl (fun (acc : (AList fun _ : String => String) × Option TypeError) (k, v) =>
      let (s, e) := stringDecoder v ""
      (acc.1.insert k s, acc.2.or e)) (x, none)
  | v, x => (x, some { value := v.kind, type := "map[string]string" })

/-- Decoding into a `json.RawMessage`: it keeps the value's text, which reads
back as the value; `none` is the nil message. -/
def rawDecoder : Decoder (Option Value)
  | v, _ => (some v, none)

/-! ### Structs -/

/-- `foldName` on the runes that fold onto ASCII: ASCII letters to upper case,
the Kelvin sign to `K`, the long s to `S`. Every other rune is kept: it folds
to a rune outside ASCII, so for the gateway's ASCII field names it never
matches, as in Go. -/
def foldRune (c : Char) : Char :=
  if 'a' ≤ c ∧ c ≤ 'z' then Char.ofNat (c.toNat - 32)
  else if c = '\u212A' then 'K'
  else if c = '\u017F' then 'S'
  else c

/-- A name as `byFoldedName` keys it. -/
def foldName (s : String) : List Char := s.data.map foldRune

/-- A struct field: its JSON name and how a value is stored into the struct
through it. -/
structure StructField (σ : Type) where
  name : String
  store : Decoder σ

/-- The field a member's key selects: the exact name, else the folded name. -/
def findField {σ : Type} (fields : List (StructField σ)) (key : String) : Option (StructField σ) :=
  match fields.find? (·.name = key) with
  | some f => some f
  | none => fields.find? fun f => foldName f.name = foldName key

/-- A field of a struct named `struct`, read and written through `get` and
`set`, decoded by `dec`; a type error under it gets its context. -/
def StructField.lift {σ τ : Type} (struct name : String) (get : σ → τ) (set : τ → σ → σ)
    (dec : Decoder τ) : StructField σ where
  name := name
  store v x :=
    let (y, e) := dec v (get x)
    (set y x, e.map fun e =>
      if e.field = "" then { e with struct := struct, field := name }
      else { e with field := name ++ "." ++ e.field })

/-- The members of an object stored into a struct, in order. -/
def decodeMembers {σ : Type} (fields : List (StructField σ)) :
    List (String × Value) → σ → σ × Option TypeError
  | [], x => (x, none)
  | (k, v) :: fs, x =>
    let (x, e₁) := match findField fields k with
      | some f => f.store v x
      | none => (x, none)
    let (x, e₂) := decodeMembers fields fs x
    (x, e₁.or e₂)

/-- Decoding into a struct of Go type `type` with the given fields. -/
def structDecoder {σ : Type} (type : String) (fields : List (StructField σ)) : Decoder σ
  | .obj fs, x => decodeMembers fields fs x
  | .null, x => (x, none)
  | v, x => (x, some { value := v.kind, type := type })

/-- `json.Unmarshal` of a text into a variable holding the zero value `zero`. -/
def unmarshal {σ : Type} (dec : Decoder σ) (zero : σ) (text : List Char) :
    Except DecodeError σ :=
  match parse text with
  | none => .error .malformed
  | some v =>
    match dec v zero with
    | (x, none) => .ok x
    | (_, some e) => .error (.type e)

/-! ### What decoding gives back -/

theorem toNat_digitChar : ∀ d, d < 10 → (digitChar d).toNat - 48 = d := by decide

theorem digitsValue_formatNat (n : Nat) : digitsValue (formatNat n) = n := by
  unfold formatNat digitsValue
  split_ifs with hn
  · subst hn; rfl
  · rw [List.foldl_reverse]
    suffices ∀ ds : List Nat, (∀ d ∈ ds, d < 10) →
        (ds.map digitChar).foldr (fun c acc => acc * 10 + (c.toNat - 48)) 0 = Nat.ofDigits 10 ds by
      rw [this _ fun d hd => Nat.digits_lt_base (by norm_num) hd, Nat.ofDigits_digits]
    intro ds hds
    induction ds with
    | nil => rfl
    | cons d ds ih =>
      simp only [List.map_cons, List.foldr_cons, Nat.ofDigits_cons,
        toNat_digitChar d (hds d (List.mem_cons_self d ds)),
        ih fun d' hd' => hds d' (List.mem_cons_of_mem d hd')]
      ring

/-- **An `int64` reads back** from the literal the encoder writes for it. -/
theorem parseInt64_formatInt (n : Int64) : parseInt64 (String.mk (formatInt n.val)) = some n := by
  obtain ⟨v, hlo, hhi⟩ := n
  have hds : formatNat v.natAbs ≠ [] := by
    obtain ⟨c, t, h, -⟩ := formatNat_head v.natAbs; simp [h]
  have hall : (formatNat v.natAbs).all Char.isDigit = true :=
    List.all_eq_true.mpr (formatNat_isDigit v.natAbs)
  unfold parseInt64 formatInt
  by_cases hv : v < 0
  · simp only [hv, if_true, List.singleton_append, splitSign, digitsValue_formatNat]
    rw [dif_pos ⟨hds, hall, by omega, by omega⟩]
    congr 2
    omega
  · obtain ⟨c, t, hct, hc⟩ := formatNat_head v.natAbs
    have hc1 : c ≠ '-' := fun h => absurd (h ▸ hc) (by decide)
    have hc2 : c ≠ '+' := fun h => absurd (h ▸ hc) (by decide)
    have hs : splitSign (formatNat v.natAbs) = (false, formatNat v.natAbs) := by
      rw [hct, splitSign.eq_3 _ (fun _ h => hc1 (List.cons.inj h).1)
        (fun _ h => hc2 (List.cons.inj h).1)]
    simp only [hv, if_false, List.nil_append, hs, Bool.false_eq_true, digitsValue_formatNat]
    rw [dif_pos ⟨hds, hall, by omega, by omega⟩]
    congr 2
    omega

theorem decodeMembers_append {σ : Type} (fields : List (StructField σ))
    (xs ys : List (String × Value)) (x : σ) :
    decodeMembers fields (xs ++ ys) x =
      ((decodeMembers fields ys (decodeMembers fields xs x).1).1,
        (decodeMembers fields xs x).2.or
          (decodeMembers fields ys (decodeMembers fields xs x).1).2) := by
  induction xs generalizing x with
  | nil => simp [decodeMembers]
  | cons kv xs ih =>
    obtain ⟨k, v⟩ := kv
    simp only [List.cons_append, decodeMembers, List.append_eq, ih, Option.or_assoc]

/-- Members whose keys select no field leave the struct and report nothing. -/
theorem decodeMembers_unknown {σ : Type} (fields : List (StructField σ))
    {fs : List (String × Value)} (h : ∀ p ∈ fs, findField fields p.1 = none) (x : σ) :
    decodeMembers fields fs x = (x, none) := by
  induction fs with
  | nil => rfl
  | cons kv fs ih =>
    obtain ⟨k, v⟩ := kv
    simp only [decodeMembers, h (k, v) (List.mem_cons_self _ _),
      ih fun p hp => h p (List.mem_cons_of_mem _ hp), Option.or_none]

end Json
end Gateway
