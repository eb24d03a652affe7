import Gateway.Protocol.RoundTrip

/-
# What `ParseMessage` accepts

`ParseMessage` decodes a text twice: as a `BaseMessage`, to read the type,
and then as the struct the type names. The struct embeds `BaseMessage`, whose
fields are promoted beside the struct's own. For any text, whatever its keys
(in any letter case, repeated, unknown) and its values, the struct's embedded
`BaseMessage` comes out as the first decoding gave it: a key selects the same
base field in both, since no own field's name folds onto a base field's
(`findField_append_own`), and the own fields leave the base alone
(`decodeMembers_embedded`). So a message `ParseMessage` returns is of the
struct its type names, with the `BaseMessage` the text decodes to
(`parseMessage_ok`).

Key theorems: `decodeMembers_embedded`, `parseMessage_ok`.
-/

namespace Gateway
namespace Protocol

open Json

/-! ### Selecting a field -/

section Select

variable {σ τ α β : Type}

/-- Lists of fields with the same names in the same order select alike, for
any test on the name. -/
theorem find?_rel {R : StructField σ → StructField τ → Prop}
    (hn : ∀ f g, R f g → f.name = g.name) (q : String → Bool) :
    ∀ {F : List (StructField σ)} {G : List (StructField τ)}, List.Forall₂ R F G →
      Option.Rel R (F.find? fun f => q f.name) (G.find? fun g => q g.name)
  | [], [], .nil => .none
  | f :: _, g :: _, .cons hfg hrest => by
    simp only [List.find?_cons, hn f g hfg]
    split
    · exact .some hfg
    · exact find?_rel hn q hrest

/-- `findField` is the exact match, or else the folded one. -/
theorem findField_eq_or (F : List (StructField σ)) (k : String) :
    findField F k = (F.find? fun f => decide (f.name = k)).or
      (F.find? fun f => decide (foldName f.name = foldName k)) := by
  unfold findField
  cases F.find? fun f => decide (f.name = k) <;> rfl

theorem option_rel_or {R : α → β → Prop} {a a' : Option α} {b b' : Option β}
    (h : Option.Rel R a b) (h' : Option.Rel R a' b') : Option.Rel R (a.or a') (b.or b') := by
  cases h with
  | some hr => exact .some hr
  | none => exact h'

theorem findField_rel {R : StructField σ → StructField τ → Prop}
    (hn : ∀ f g, R f g → f.name = g.name) {F : List (StructField σ)} {G : List (StructField τ)}
    (h : List.Forall₂ R F G) (k : String) : Option.Rel R (findField F k) (findField G k) := by
  rw [findField_eq_or, findField_eq_or]
  exact option_rel_or (find?_rel hn (fun n => decide (n = k)) h)
    (find?_rel hn (fun n => decide (foldName n = foldName k)) h)

/-- Appending fields whose names never fold onto those of `F` changes no choice
of a field of `F`; a key that selects none of them selects among the others. -/
theorem findField_append_own {F O : List (StructField σ)} (k : String)
    (hname : ∀ f ∈ F, ∀ g ∈ O, foldName f.name ≠ foldName g.name) :
    (∃ f, findField F k = some f ∧ findField (F ++ O) k = some f) ∨
      (findField F k = none ∧ findField (F ++ O) k = findField O k) := by
  unfold findField
  simp only [List.find?_append]
  cases hF : F.find? (fun f => decide (f.name = k)) with
  | some f => exact .inl ⟨f, rfl, rfl⟩
  | none =>
    cases hO : O.find? (fun f => decide (f.name = k)) with
    | some g =>
      have hg : g.name = k := by simpa using List.find?_some hO
      have hFf : F.find? (fun f => decide (foldName f.name = foldName k)) = none := by
        rw [List.find?_eq_none]
        intro f hf hfold
        exact hname f hf g (List.mem_of_find?_eq_some hO) (by simpa [hg] using hfold)
      exact .inr ⟨by rw [hFf], by simp [hFf]⟩
    | none =>
      cases hFf : F.find? (fun f => decide (foldName f.name = foldName k)) with
      | some f => exact .inl ⟨f, rfl, rfl⟩
      | none => exact .inr ⟨rfl, by simp⟩

theorem findField_mem {F : List (StructField σ)} {k : String} {f : StructField σ}
    (h : findField F k = some f) : f ∈ F := by
  unfold findField at h
  split at h
  · next h' => exact List.mem_of_find?_eq_some ((Option.some.inj h) ▸ h')
  · exact List.mem_of_find?_eq_some h

end Select

/-! ### Decoding into an embedded struct -/

section Embedded

variable {σ τ : Type}

/-- The field `f` of a struct stores into its embedded part, read by `get`,
what the field `g` of that part stores into it, under the same name. -/
def StructField.Embeds (get : σ → τ) (f : StructField σ) (g : StructField τ) : Prop :=
  f.name = g.name ∧ ∀ v x, get (f.store v x).1 = (g.store v (get x)).1

/-- One member decoded, then the rest. -/
theorem decodeMembers_cons_fst (fields : List (StructField σ)) (k : String) (v : Value)
    (fs : List (String × Value)) (x : σ) :
    (decodeMembers fields ((k, v) :: fs) x).1 =
      (decodeMembers fields fs (match findField fields k with
        | some f => f.store v x
        | none => (x, none)).1).1 :=
  rfl

/-- **Decoding into a struct leaves its embedded part as decoding into that
part alone would**, for any members: the fields `F` store into the part what
the fields `G` of the part store into it, name for name, and the struct's own
fields `O`, whose names never fold onto those of `F`, leave it alone. -/
theorem decodeMembers_embedded (get : σ → τ) {F O : List (StructField σ)}
    {G : List (StructField τ)}
    (hFG : List.Forall₂ (StructField.Embeds get) F G)
    (hO : ∀ f ∈ O, ∀ v x, get (f.store v x).1 = get x)
    (hname : ∀ f ∈ F, ∀ g ∈ O, foldName f.name ≠ foldName g.name) :
    ∀ (fs : List (String × Value)) (x : σ),
      get (decodeMembers (F ++ O) fs x).1 = (decodeMembers G fs (get x)).1
  | [], _ => rfl
  | (k, v) :: fs, x => by
    rw [decodeMembers_cons_fst, decodeMembers_cons_fst,
      decodeMembers_embedded get hFG hO hname fs]
    congr 2
    generalize hog : findField G k = og
    have hrel := hog ▸ findField_rel (R := StructField.Embeds get) (fun _ _ h => h.1) hFG k
    rcases findField_append_own k hname with ⟨f, hf, hfo⟩ | ⟨hf, hfo⟩
    · rw [hf] at hrel
      cases hrel with
      | some hr => rw [hfo]; exact hr.2 v x
    · rw [hf] at hrel
      cases hrel
      rw [hfo]
      cases hO' : findField O k with
      | none => rfl
      | some f => exact hO f (findField_mem hO') v x

end Embedded

/-! ### The embedded `BaseMessage` -/

section Base

variable {σ τ : Type} (st : String) (get : σ → BaseMessage) (set : BaseMessage → σ → σ)

@[simp] theorem StructField.lift_store_fst (name : String) (g : σ → τ) (s : τ → σ → σ)
    (dec : Decoder τ) (v : Value) (x : σ) :
    ((StructField.lift st name g s dec).store v x).1 = s (dec v (g x)).1 x := rfl

/-- The promoted fields of `BaseMessage` store into the embedded one what its
own fields store into a `BaseMessage`. -/
theorem baseFields_embeds (hgs : ∀ b x, get (set b x) = b) :
    List.Forall₂ (StructField.Embeds get) (baseFields st get set)
      (baseFields "BaseMessage" id fun b _ => b) := by
  refine .cons ⟨rfl, ?_⟩ (.cons ⟨rfl, ?_⟩ (.cons ⟨rfl, ?_⟩ .nil)) <;>
    intro v x <;> simp [hgs]

/-- The names of the promoted fields. -/
def baseKeys : List String := ["type", "message_id", "timestamp"]

theorem baseFields_names : ∀ f ∈ baseFields st get set, f.name ∈ baseKeys := by
  simp [baseFields, baseKeys, StructField.lift]

/-- No own key folds onto a base key. -/
theorem baseKeys_fold_ownKeys : ∀ n ∈ baseKeys, ∀ k ∈ ownKeys, foldName n ≠ foldName k := by
  decide

end Base

/-- **The struct a text decodes into has the `BaseMessage` the text decodes to**,
for any text, when the struct's own fields have own keys and leave the
embedded `BaseMessage` alone. -/
theorem unmarshal_embedded {σ : Type} {type st : String} {get : σ → BaseMessage}
    {set : BaseMessage → σ → σ} {own : List (StructField σ)} {zero : σ} {raw : List Char}
    {base : BaseMessage} {x : σ}
    (hb : unmarshal BaseMessage.decoder {} raw = .ok base)
    (hx : unmarshal (structDecoder type (baseFields st get set ++ own)) zero raw = .ok x)
    (hgs : ∀ b x, get (set b x) = b)
    (hown : ∀ f ∈ own, f.name ∈ ownKeys ∧ ∀ v x, get (f.store v x).1 = get x)
    (hzero : get zero = {}) : get x = base := by
  unfold unmarshal at hb hx
  cases hp : parse raw with
  | none => simp only [hp, reduceCtorEq] at hb
  | some v =>
    simp only [hp] at hb hx
    cases v
    case obj fs =>
      simp only [BaseMessage.decoder, structDecoder] at hb hx
      have hemb := decodeMembers_embedded get (baseFields_embeds st get set hgs)
        (fun f hf => (hown f hf).2)
        (fun f hf g hg =>
          baseKeys_fold_ownKeys _ (baseFields_names st get set f hf) _ (hown g hg).1)
        fs zero
      rw [hzero] at hemb
      revert hb hx hemb
      cases decodeMembers (baseFields "BaseMessage" id fun b _ => b) fs {} with
      | mk b eb =>
        cases decodeMembers (baseFields st get set ++ own) fs zero with
        | mk y ey =>
          cases eb <;> cases ey <;> simp only [reduceCtorEq, Except.ok.injEq, imp_false,
            IsEmpty.forall_iff, forall_const, implies_true]
          rintro rfl rfl h
          exact h
    case null =>
      simp only [BaseMessage.decoder, structDecoder, Except.ok.injEq] at hb hx
      rw [← hx, ← hb, hzero]
    all_goals simp [BaseMessage.decoder, structDecoder] at hb


/-! ### `ParseMessage` -/

theorem decodeAs_ok {σ : Type} {dec : Decoder σ} {zero : σ} {wrap : σ → Message}
    {raw : List Char} {m : Message} (h : decodeAs dec zero wrap raw = .ok m) :
    ∃ x, unmarshal dec zero raw = .ok x ∧ m = wrap x := by
  unfold decodeAs at h
  split at h
  · exact ⟨_, ‹_›, (Except.ok.inj h).symm⟩
  · cases h

/-- **A message `ParseMessage` returns is of the struct its type names, with the
`BaseMessage` the text decodes to**, for every text: its embedded
`BaseMessage` is the one the first decoding read the type from, its type is
its struct's tag, and it is never an `ErrorMessage`. -/
theorem parseMessage_ok {raw : List Char} {m : Message} (h : parseMessage raw = .ok m) :
    unmarshal BaseMessage.decoder {} raw = .ok m.base ∧ m.tag = m.base.type ∧
      m.tag ≠ typeError := by
  unfold parseMessage at h
  split at h
  · cases h
  next base hb =>
    split at h
    all_goals first
      | cases h
      | obtain ⟨x, hx, rfl⟩ := decodeAs_ok h
        have hbase := unmarshal_embedded hb hx (fun _ _ => rfl) (by
          simp only [List.forall_mem_cons, List.not_mem_nil, IsEmpty.forall_iff, implies_true,
            and_true]
          and_intros
          all_goals first | decide | (intro v x; rfl)) rfl
        simp only [Message.base, Message.tag, hbase]
        exact ⟨hb, by rw [‹base.type = _›]; rfl, by decide⟩

/-- A marshalled `AuthMessage` of type `auth` parses back as itself. -/
theorem parseMessage_marshal_auth (m : AuthMessage) (h : m.base.type = typeAuth) :
    parseMessage (marshal (.auth m)) = .ok (.auth m) := by
  simp only [parseMessage, unmarshal_base, Message.base, h]
  exact decodeAs_marshal _ _ _ _ m.decoder_toJson

/-- A marshalled `AuthMessage`. -/
def tokenAuth : AuthMessage := { base := { type := typeAuth, messageID := "m1" }, token := "t" }

theorem parseMessage_ok_tokenAuth :
    parseMessage (marshal (.auth tokenAuth)) = .ok (.auth tokenAuth) ∧
      unmarshal BaseMessage.decoder {} (marshal (.auth tokenAuth)) = .ok tokenAuth.base ∧
      typeAuth = tokenAuth.base.type ∧ typeAuth ≠ typeError :=
  have h : parseMessage (marshal (.auth tokenAuth)) = .ok (.auth tokenAuth) :=
    parseMessage_marshal_auth tokenAuth rfl
  ⟨h, parseMessage_ok h⟩

end Protocol
end Gateway
