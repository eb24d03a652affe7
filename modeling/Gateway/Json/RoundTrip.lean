import Gateway.Json.Parse

/-
# The decoder reads back what the encoder writes

`parse (v.print) = some v` for every value whose numbers are written as
the encoder writes an integer (`Value.Canonical`), which is every value
`json.Marshal` produces for the gateway's messages and envelopes.

The proof follows the printer: a string literal scans back character by
character (`scanString_escapeChar`), an integer literal scans back whole when
a delimiter follows it (`scanNumber_formatInt`), and a value, the elements of
an array and the members of an object parse back by structural recursion on
the value (`parseValue_print`), given as much fuel as the value has nodes.

Key theorems: `scanString_quote`, `scanNumber_formatInt`, `parseValue_print`,
`parse_print`.
-/

namespace Gateway
namespace Json

/-! ### Whitespace and delimiters -/

theorem skipWs_cons {c : Char} (h : isWs c = false) (t : List Char) :
    skipWs (c :: t) = c :: t := by
  simp [skipWs, List.dropWhile_cons, h]

/-- What may follow a value in a printed text: nothing, a comma, or the end of
the array or object around it. -/
def Follows : List Char → Prop
  | [] => True
  | c :: _ => c = ',' ∨ c = ']' ∨ c = '}'

/-! ### Strings -/

theorem hexVal_hexDigit : ∀ n, n < 16 → hexVal (hexDigit n) = some n := by decide

theorem hex4_escapeU00 {c : Char} (h : c.toNat < 0x100) :
    hex4 '0' '0' (hexDigit (c.toNat / 16)) (hexDigit (c.toNat % 16)) = some c.toNat := by
  have h0 : hexVal '0' = some 0 := rfl
  simp only [hex4, h0, hexVal_hexDigit _ (by omega : c.toNat / 16 < 16),
    hexVal_hexDigit _ (by omega : c.toNat % 16 < 16), Option.some_bind, Option.map_some', Option.some.injEq]
  omega

/-- A `\\uXXXX` escape of a code unit that is no surrogate half reads as that
character, whatever follows it. -/
theorem scanString_u {a b c d : Char} {n : Nat} (h : hex4 a b c d = some n)
    (hs : isSurrogate n = false) (rest : List Char) :
    scanString ('\\' :: 'u' :: a :: b :: c :: d :: rest) =
      consChar (Char.ofNat n) (scanString rest) := by
  by_cases hr : ∃ e f g k r', rest = '\\' :: 'u' :: e :: f :: g :: k :: r'
  · obtain ⟨e, f, g, k, r', rfl⟩ := hr
    rw [scanString.eq_3, h]
    simp [hs]
  · rw [scanString.eq_4 _ _ _ _ _ fun e f g k r' he => hr ⟨e, f, g, k, r', he⟩, h]
    simp [hs]

theorem scanString_esc {e : Char} (he : e ≠ 'u') (r : List Char) :
    scanString ('\\' :: e :: r) =
      if e = '"' then consChar '"' (scanString r)
      else if e = '\\' then consChar '\\' (scanString r)
      else if e = '/' then consChar '/' (scanString r)
      else if e = 'b' then consChar (Char.ofNat 8) (scanString r)
      else if e = 'f' then consChar (Char.ofNat 12) (scanString r)
      else if e = 'n' then consChar '\n' (scanString r)
      else if e = 'r' then consChar '\r' (scanString r)
      else if e = 't' then consChar '\t' (scanString r) else none :=
  scanString.eq_5 _ _ (fun _ _ _ _ _ _ _ _ _ h => absurd h he) (fun _ _ _ _ _ h => absurd h he)

theorem scanString_plain {c : Char} (h1 : c ≠ '"') (h2 : c ≠ '\\') (h3 : 0x20 ≤ c.toNat)
    (r : List Char) : scanString (c :: r) = consChar c (scanString r) := by
  rw [scanString.eq_6 _ _ h1 (fun _ _ _ _ _ _ _ _ _ h => absurd h h2)
    (fun _ _ _ _ _ h => absurd h h2) (fun _ _ h => absurd h h2), if_neg (by omega)]

theorem scanString_escapeU00 {c : Char} (h : c.toNat < 0x100) (rest : List Char) :
    scanString (escapeU00 c ++ rest) = consChar c (scanString rest) := by
  rw [escapeU00, List.cons_append, List.cons_append, List.cons_append, List.cons_append,
    List.cons_append, List.cons_append, List.nil_append,
    scanString_u (hex4_escapeU00 h) (by simp [isSurrogate]; omega), Char.ofNat_toNat]

theorem scanString_escapeChar (c : Char) (rest : List Char) :
    scanString (escapeChar c ++ rest) = consChar c (scanString rest) := by
  unfold escapeChar
  split_ifs with h1 h2 h3 h4 h5 h6 h7
  · subst h1; simp [scanString_esc]
  · subst h2; simp [scanString_esc]
  · subst h3; simp [scanString_esc]
  · subst h4; simp [scanString_esc]
  · subst h5; simp [scanString_esc]
  · refine scanString_escapeU00 ?_ rest
    rcases h6 with h | rfl | rfl | rfl
    · omega
    all_goals decide
  · have hc : c.toNat = 0x2028 ∨ c.toNat = 0x2029 := by
      rcases h7 with rfl | rfl <;> decide
    simp only [List.cons_append, List.nil_append]
    rw [scanString_u (n := c.toNat) ?_ (by simp [isSurrogate]; omega), Char.ofNat_toNat]
    have h2 : hexVal '2' = some 2 := rfl
    have h0 : hexVal '0' = some 0 := rfl
    simp only [hex4, h2, h0, hexVal_hexDigit _ (by omega : c.toNat % 16 < 16), Option.some_bind,
      Option.map_some', Option.some.injEq]
    omega
  · exact scanString_plain h1 h2 (by omega) rest

/-- **A string literal scans back.** -/
theorem scanString_quote (s : String) (r : List Char) :
    scanString (s.data.flatMap escapeChar ++ '"' :: r) = some (s.data, r) := by
  obtain ⟨cs⟩ := s
  induction cs with
  | nil => exact scanString.eq_2 r
  | cons c cs ih =>
    simp only [List.flatMap_cons, List.append_assoc, scanString_escapeChar] at ih ⊢
    rw [ih]
    rfl

/-! ### Numbers -/

/-- No digit heads the text. -/
def NoDigit : List Char → Prop
  | [] => True
  | c :: _ => c.isDigit = false

theorem isDigit_digitChar : ∀ d, d < 10 → (digitChar d).isDigit = true := by decide

theorem digitChar_ne_zero : ∀ d, d < 10 → d ≠ 0 → digitChar d ≠ '0' := by decide

theorem spanDigits_append : ∀ {ds : List Char} (r : List Char), (∀ c ∈ ds, c.isDigit = true) →
    NoDigit r → spanDigits (ds ++ r) = (ds, r)
  | [], [], _, _ => rfl
  | [], c :: r, _, h => by simp [spanDigits, List.span_eq_take_drop, NoDigit.eq_def] at h ⊢; simp [h]
  | d :: ds, r, hd, h => by
    have ih := spanDigits_append r (fun c hc => hd c (List.mem_cons_of_mem d hc)) h
    simp only [spanDigits, List.span_eq_take_drop, Prod.mk.injEq] at ih ⊢
    simp [List.takeWhile_cons, List.dropWhile_cons, hd d (List.mem_cons_self d ds), ih]

theorem formatNat_isDigit (n : Nat) : ∀ c ∈ formatNat n, c.isDigit = true := by
  unfold formatNat
  split_ifs
  · simp
  · intro c hc
    simp only [List.mem_reverse, List.mem_map] at hc
    obtain ⟨d, hd, rfl⟩ := hc
    exact isDigit_digitChar d (Nat.digits_lt_base (by norm_num) hd)

/-- A positive number is written with a nonzero digit first. -/
theorem formatNat_pos {n : Nat} (hn : n ≠ 0) :
    ∃ d ds, formatNat n = digitChar d :: ds ∧ d < 10 ∧ d ≠ 0 := by
  have hne : Nat.digits 10 n ≠ [] := Nat.digits_ne_nil_iff_ne_zero.mpr hn
  refine ⟨(Nat.digits 10 n).getLast hne, ((Nat.digits 10 n).dropLast.map digitChar).reverse,
    ?_, Nat.digits_lt_base (by norm_num) (List.getLast_mem hne),
    Nat.getLast_digit_ne_zero 10 hn⟩
  conv_lhs => rw [formatNat, if_neg hn, ← List.dropLast_append_getLast hne]
  simp

theorem formatNat_head_digit (n : Nat) : ∃ d t, formatNat n = digitChar d :: t ∧ d < 10 := by
  by_cases hn : n = 0
  · exact ⟨0, [], by simp [formatNat, hn]; rfl, by norm_num⟩
  · obtain ⟨d, ds, hf, hd, -⟩ := formatNat_pos hn
    exact ⟨d, ds, hf, hd⟩

theorem formatNat_head (n : Nat) : ∃ c t, formatNat n = c :: t ∧ c.isDigit = true := by
  obtain ⟨d, t, hf, hd⟩ := formatNat_head_digit n
  exact ⟨_, t, hf, isDigit_digitChar d hd⟩

theorem scanIntPart_formatNat (n : Nat) {r : List Char} (hr : NoDigit r) :
    scanIntPart (formatNat n ++ r) = some (formatNat n, r) := by
  by_cases hn : n = 0
  · subst hn; rfl
  · obtain ⟨d, ds, hf, hd, hd0⟩ := formatNat_pos hn
    have hds : ∀ c ∈ ds, c.isDigit = true := fun c hc =>
      formatNat_isDigit n c (by rw [hf]; exact List.mem_cons_of_mem _ hc)
    rw [hf, List.cons_append, scanIntPart.eq_2 _ _ (digitChar_ne_zero d hd hd0),
      if_pos (isDigit_digitChar d hd), spanDigits_append r hds hr]

theorem Follows.noDigit {r : List Char} (h : Follows r) : NoDigit r :=
  match r, h with
  | [], _ => trivial
  | _ :: _, h => by rcases h with rfl | rfl | rfl <;> rfl

theorem scanFrac_follows {r : List Char} (h : Follows r) : scanFrac r = some ([], r) :=
  match r, h with
  | [], _ => rfl
  | _ :: _, h => by rcases h with rfl | rfl | rfl <;> rfl

theorem scanExp_follows {r : List Char} (h : Follows r) : scanExp r = some ([], r) :=
  match r, h with
  | [], _ => rfl
  | _ :: _, h => by rcases h with rfl | rfl | rfl <;> rfl

/-- **An integer literal scans back** when a delimiter follows it. -/
theorem scanNumber_formatInt (i : Int) {r : List Char} (hr : Follows r) :
    scanNumber (formatInt i ++ r) = some (formatInt i, r) := by
  have hint := scanIntPart_formatNat i.natAbs hr.noDigit
  unfold scanNumber formatInt
  split_ifs with hi
  · simp [hint, scanFrac_follows hr, scanExp_follows hr]
  · obtain ⟨c, t, hct, hc⟩ := formatNat_head i.natAbs
    simp only [List.nil_append, hct, List.cons_append] at hint ⊢
    split
    · rename_i heq
      simp only [List.cons.injEq] at heq
      rw [heq.1] at hc
      exact absurd hc (by decide)
    · simp [hint, scanFrac_follows hr, scanExp_follows hr]

/-! ### Values -/

mutual
/-- Every number of the value is an integer written as the encoder writes one. -/
def Value.Canonical : Value → Prop
  | .num lit => ∃ i : Int, lit = String.mk (formatInt i)
  | .arr xs => ElemsCanonical xs
  | .obj fs => MembersCanonical fs
  | _ => True
/-- Every element is canonical. -/
def ElemsCanonical : List Value → Prop
  | [] => True
  | v :: vs => v.Canonical ∧ ElemsCanonical vs
/-- Every member's value is canonical. -/
def MembersCanonical : List (String × Value) → Prop
  | [] => True
  | (_, v) :: fs => v.Canonical ∧ MembersCanonical fs
end

mutual
/-- The nodes of a value: the fuel `parseValue` needs to read it. -/
def Value.size : Value → Nat
  | .arr xs => sizeElems xs + 1
  | .obj fs => sizeMembers fs + 1
  | _ => 1
/-- The nodes of the elements of an array. -/
def sizeElems : List Value → Nat
  | [] => 0
  | v :: vs => v.size + sizeElems vs + 1
/-- The nodes of the members of an object. -/
def sizeMembers : List (String × Value) → Nat
  | [] => 0
  | (_, v) :: fs => v.size + sizeMembers fs + 1
end

theorem isDigit_special {c : Char} (h : c.isDigit = true) :
    isWs c = false ∧ c ≠ ']' ∧ c ≠ '}' := by
  refine ⟨?_, fun e => absurd (e ▸ h) (by decide), fun e => absurd (e ▸ h) (by decide)⟩
  cases hw : isWs c
  · rfl
  · simp only [isWs, Bool.or_eq_true, decide_eq_true_eq] at hw
    rcases hw with ((rfl | rfl) | rfl) | rfl <;> exact absurd h (by decide)

/-- A printed value starts with a character that is neither whitespace nor a
closing bracket or brace. -/
theorem print_head {v : Value} (hv : v.Canonical) :
    ∃ c t, v.print = c :: t ∧ isWs c = false ∧ c ≠ ']' ∧ c ≠ '}' := by
  cases v with
  | num lit =>
    obtain ⟨i, rfl⟩ := hv
    by_cases hi : i < 0
    · exact ⟨'-', formatNat i.natAbs, by simp [Value.print, formatInt, hi], rfl, by decide,
        by decide⟩
    · obtain ⟨c, t, hct, hc⟩ := formatNat_head i.natAbs
      exact ⟨c, t, by simp [Value.print, formatInt, hi, hct], isDigit_special hc⟩
  | bool b => cases b <;> exact ⟨_, _, rfl, rfl, by decide, by decide⟩
  | null | str _ | arr _ | obj _ => exact ⟨_, _, rfl, rfl, by decide, by decide⟩

theorem print_append_head {v : Value} (hv : v.Canonical) (r : List Char) :
    ∃ c t, v.print ++ r = c :: t ∧ isWs c = false ∧ c ≠ ']' ∧ c ≠ '}' := by
  obtain ⟨c, t, h, hw, hb, hc⟩ := print_head hv
  exact ⟨c, t ++ r, by rw [h, List.cons_append], hw, hb, hc⟩

theorem skipWs_print {v : Value} (hv : v.Canonical) (r : List Char) :
    skipWs (v.print ++ r) = v.print ++ r := by
  obtain ⟨c, t, h, hw, -⟩ := print_append_head hv r
  rw [h, skipWs_cons hw]

theorem printElemsTail_cons (v : Value) (vs : List Value) :
    printElemsTail (v :: vs) = ',' :: printElems (v :: vs) := by
  simp [printElemsTail, printElems]

theorem printMembersTail_cons (f : String × Value) (fs : List (String × Value)) :
    printMembersTail (f :: fs) = ',' :: printMembers (f :: fs) := by
  obtain ⟨k, v⟩ := f
  simp [printMembersTail, printMembers]

theorem formatInt_head (i : Int) (r : List Char) :
    ∃ c t, formatInt i ++ r = c :: t ∧ (c = '-' ∨ ∃ d < 10, c = digitChar d) := by
  by_cases hi : i < 0
  · exact ⟨'-', formatNat i.natAbs ++ r, by simp [formatInt, hi], Or.inl rfl⟩
  · obtain ⟨d, t, hf, hd⟩ := formatNat_head_digit i.natAbs
    exact ⟨_, t ++ r, by simp [formatInt, hi, hf], Or.inr ⟨d, hd, rfl⟩⟩

theorem parseValue_quote (n : Nat) (r : List Char) :
    parseValue (n + 1) ('"' :: r) = (scanString r).map fun (s, r) => (.str (String.mk s), r) := rfl

theorem parseValue_bracket (n : Nat) (r : List Char) :
    parseValue (n + 1) ('[' :: r) =
      match skipWs r with
      | ']' :: r => some (.arr [], r)
      | r => (parseElems n r).map fun (xs, r) => (.arr xs, r) := rfl

theorem parseValue_brace (n : Nat) (r : List Char) :
    parseValue (n + 1) ('{' :: r) =
      match skipWs r with
      | '}' :: r => some (.obj [], r)
      | r => (parseMembers n r).map fun (fs, r) => (.obj fs, r) := rfl

/-- A number's first character takes `parseValue` to `scanNumber`: each of
the eleven is a concrete head, no other case's pattern. -/
theorem parseValue_number {c : Char} (hc : c = '-' ∨ ∃ d < 10, c = digitChar d) (n : Nat)
    (t : List Char) : parseValue (n + 1) (c :: t) =
      (scanNumber (c :: t)).map fun (lit, r) => (.num (String.mk lit), r) := by
  obtain rfl | ⟨d, hd, rfl⟩ := hc
  · rfl
  · interval_cases d <;> rfl

mutual
/-- **A printed value parses back**, given as much fuel as it has nodes, when a
delimiter follows it. -/
theorem parseValue_print : ∀ (v : Value), v.Canonical → ∀ (n : Nat) (r : List Char),
    v.size ≤ n → Follows r → parseValue n (v.print ++ r) = some (v, r)
  | .null, _, _ + 1, _, _, _ => rfl
  | .bool true, _, _ + 1, _, _, _ => rfl
  | .bool false, _, _ + 1, _, _, _ => rfl
  | .num _, ⟨i, rfl⟩, n + 1, r, _, hr => by
    obtain ⟨c, t, hct, hc⟩ := formatInt_head i r
    simp only [Value.print]
    rw [hct, parseValue_number hc, ← hct, scanNumber_formatInt i hr]
    rfl
  | .str s, _, n + 1, r, _, _ => by
    simp only [Value.print, quote, List.cons_append, List.append_assoc, List.singleton_append, List.nil_append]
    rw [parseValue_quote, scanString_quote]
    rfl
  | .arr xs, hv, n + 1, r, hs, _ => by
    have ih := parseElems_print xs hv n r (by simp only [Value.size] at hs; omega)
    simp only [Value.print, List.cons_append, List.append_assoc, List.singleton_append, List.nil_append]
    rw [parseValue_bracket]
    cases xs with
    | nil => rfl
    | cons x xs =>
      obtain ⟨c, t, hct, hw, hb, -⟩ := print_append_head hv.1 (printElemsTail xs ++ ']' :: r)
      simp only [printElems, List.append_assoc] at ih ⊢
      rw [hct, skipWs_cons hw]
      split
      · rename_i heq
        exact absurd (List.cons.inj heq).1 hb
      · rw [← hct, ih (List.cons_ne_nil _ _)]
        rfl
  | .obj fs, hv, n + 1, r, hs, _ => by
    have ih := parseMembers_print fs hv n r (by simp only [Value.size] at hs; omega)
    simp only [Value.print, List.cons_append, List.append_assoc, List.singleton_append, List.nil_append]
    rw [parseValue_brace]
    cases fs with
    | nil => rfl
    | cons f fs =>
      exact congrArg (Option.map fun x => (Value.obj x.1, x.2)) (ih (List.cons_ne_nil _ _))
/-- The elements of an array parse back, up to its closing bracket. -/
theorem parseElems_print : ∀ (xs : List Value), ElemsCanonical xs → ∀ (n : Nat) (r : List Char),
    sizeElems xs ≤ n → xs ≠ [] → parseElems n (printElems xs ++ ']' :: r) = some (xs, r)
  | x :: xs, ⟨hx, hxs⟩, n + 1, r, hs, _ => by
    simp only [sizeElems] at hs
    have ih := parseElems_print xs hxs n r (by omega)
    rw [printElems, List.append_assoc, parseElems.eq_2, skipWs_print hx]
    cases xs with
    | nil =>
      rw [printElemsTail, List.nil_append,
        parseValue_print x hx n (']' :: r) (by omega) (Or.inr (Or.inl rfl))]
      rfl
    | cons y ys =>
      rw [printElemsTail_cons, List.cons_append,
        parseValue_print x hx n (',' :: (printElems (y :: ys) ++ ']' :: r)) (by omega) (Or.inl rfl)]
      exact congrArg (Option.map fun x_1 => (x :: x_1.1, x_1.2)) (ih (List.cons_ne_nil _ _))
/-- The members of an object parse back, up to its closing brace. -/
theorem parseMembers_print : ∀ (fs : List (String × Value)), MembersCanonical fs →
    ∀ (n : Nat) (r : List Char), sizeMembers fs ≤ n → fs ≠ [] →
      parseMembers n (printMembers fs ++ '}' :: r) = some (fs, r)
  | (k, v) :: fs, ⟨hv, hfs⟩, n + 1, r, hs, _ => by
    simp only [sizeMembers] at hs
    have ih := parseMembers_print fs hfs n r (by omega)
    simp only [printMembers, quote, List.cons_append, List.append_assoc, List.singleton_append, List.nil_append]
    rw [parseMembers.eq_2, skipWs_cons (c := '"') rfl]
    simp only [scanString_quote, skipWs_cons (c := ':') rfl, skipWs_print hv]
    cases fs with
    | nil =>
      rw [printMembersTail, List.nil_append,
        parseValue_print v hv n ('}' :: r) (by omega) (Or.inr (Or.inr rfl))]
      rfl
    | cons g gs =>
      rw [printMembersTail_cons, List.cons_append,
        parseValue_print v hv n (',' :: (printMembers (g :: gs) ++ '}' :: r)) (by omega) (Or.inl rfl)]
      exact congrArg (Option.map fun x => (((String.mk k.data), v) :: x.1, x.2))
        (ih (List.cons_ne_nil _ _))
end

theorem formatInt_ne_nil (i : Int) : formatInt i ≠ [] := by
  obtain ⟨c, t, h, -⟩ := formatInt_head i []
  rw [List.append_nil] at h
  simp [h]

mutual
/-- A canonical value has no more nodes than its text has characters. -/
theorem size_le_length : ∀ (v : Value), v.Canonical → v.size ≤ v.print.length
  | .num _, ⟨i, rfl⟩ => by
    have := formatInt_ne_nil i
    simp only [Value.size, Value.print]
    exact List.length_pos.mpr this
  | .arr [], _ => by simp [Value.size, Value.print, sizeElems, printElems]
  | .arr (x :: xs), ⟨hx, hxs⟩ => by
    have := size_le_length x hx
    have := sizeElems_le xs hxs
    simp only [Value.size, Value.print, sizeElems, printElems, List.length_cons,
      List.length_append, List.length_singleton]
    omega
  | .obj [], _ => by simp [Value.size, Value.print, sizeMembers, printMembers]
  | .obj ((k, v) :: fs), ⟨hv, hfs⟩ => by
    have := size_le_length v hv
    have := sizeMembers_le fs hfs
    simp only [Value.size, Value.print, sizeMembers, printMembers, List.length_cons,
      List.length_append, List.length_singleton]
    omega
  | .null, _ | .bool true, _ | .bool false, _ | .str _, _ => by
    simp [Value.size, Value.print, quote]
/-- The elements after the first have no more nodes than their text has characters. -/
theorem sizeElems_le : ∀ (xs : List Value), ElemsCanonical xs →
    sizeElems xs ≤ (printElemsTail xs).length
  | [], _ => le_refl 0
  | x :: xs, ⟨hx, hxs⟩ => by
    have := size_le_length x hx
    have := sizeElems_le xs hxs
    simp only [sizeElems, printElemsTail, List.length_cons, List.length_append]
    omega
/-- The members after the first have no more nodes than their text has characters. -/
theorem sizeMembers_le : ∀ (fs : List (String × Value)), MembersCanonical fs →
    sizeMembers fs ≤ (printMembersTail fs).length
  | [], _ => le_refl 0
  | (k, v) :: fs, ⟨hv, hfs⟩ => by
    have := size_le_length v hv
    have := sizeMembers_le fs hfs
    simp only [sizeMembers, printMembersTail, List.length_cons, List.length_append]
    omega
end

/-- **`json.Unmarshal` reads back what `json.Marshal` writes**, for every value
whose numbers are integers. -/
theorem parse_print {v : Value} (hv : v.Canonical) : parse v.print = some v := by
  have h := parseValue_print v hv (v.print.length + 1) [] (by have := size_le_length v hv; omega)
    trivial
  rw [List.append_nil] at h
  have hs := skipWs_print hv []
  rw [List.append_nil] at hs
  rw [parse, hs, h]
  rfl

theorem membersCanonical_iff : ∀ {fs : List (String × Value)},
    MembersCanonical fs ↔ ∀ p ∈ fs, p.2.Canonical
  | [] => by simp [MembersCanonical]
  | (k, v) :: fs => by simp [MembersCanonical, membersCanonical_iff]

theorem canonical_ofInt64 (n : Int64) : (Value.ofInt64 n).Canonical := ⟨n.val, rfl⟩

end Json
end Gateway
