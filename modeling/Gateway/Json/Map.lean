import Gateway.Json.Decode
import Mathlib.Data.List.Sort

/-
# Maps: the text of a map does not depend on the order of its entries

`json.Marshal` writes a `map[string]T` with its keys sorted in Go's string
order (`mapObject`), and `json.Unmarshal` into a `map[string]string` adds the
members one by one. Go's string order is a strict total order on texts
(`runesLess_trans`, `runesLess_trichotomous`), and a list sorted by keys that
are all distinct is fixed by its entries (`eq_of_perm_of_sorted_keys`): so two
maps with the same entries marshal to the same value (`mapObject_perm`), and
decoding a marshalled map gives back its entries, in some order
(`stringMapDecoder_mapObject`).

Key theorems: `mapObject_perm`, `stringMapDecoder_mapObject`.
-/

namespace Gateway
namespace Json

/-! ### Go's string order -/

theorem char_eq_of_toNat_eq {a b : Char} (h : a.toNat = b.toNat) : a = b := by
  rw [← Char.ofNat_toNat a, h, Char.ofNat_toNat]

@[simp] theorem runesLess_self : ∀ cs : List Char, runesLess cs cs = false
  | [] => rfl
  | c :: cs => by simp [runesLess, runesLess_self cs]

@[simp] theorem runesLess_cons {a b : Char} {as bs : List Char} :
    runesLess (a :: as) (b :: bs) = true ↔
      a.toNat < b.toNat ∨ (a.toNat = b.toNat ∧ runesLess as bs = true) := by
  simp [runesLess]

theorem runesLess_trans : ∀ {as bs cs : List Char},
    runesLess as bs = true → runesLess bs cs = true → runesLess as cs = true
  | [], [], _, h, _ | _ :: _, [], _, h, _ | [], _ :: _, [], _, h | _ :: _, _ :: _, [], _, h =>
    by cases h
  | [], _ :: _, _ :: _, _, _ => rfl
  | a :: as, b :: bs, c :: cs, h₁, h₂ => by
    rw [runesLess_cons] at h₁ h₂ ⊢
    rcases h₁ with h₁ | ⟨e₁, h₁⟩ <;> rcases h₂ with h₂ | ⟨e₂, h₂⟩
    · exact .inl (h₁.trans h₂)
    · exact .inl (e₂ ▸ h₁)
    · exact .inl (e₁ ▸ h₂)
    · exact .inr ⟨e₁.trans e₂, runesLess_trans h₁ h₂⟩

/-- Two texts neither before the other are equal. -/
theorem runesLess_trichotomous : ∀ {as bs : List Char},
    runesLess as bs = false → runesLess bs as = false → as = bs
  | [], [], _, _ => rfl
  | [], _ :: _, h, _ | _ :: _, [], _, h => by cases h
  | a :: as, b :: bs, h₁, h₂ => by
    rw [← Bool.not_eq_true, runesLess_cons] at h₁ h₂
    have hab : a.toNat = b.toNat := by
      have := h₁ ∘ Or.inl
      have := h₂ ∘ Or.inl
      omega
    have hs := runesLess_trichotomous (Bool.eq_false_iff.mpr fun h => h₁ (.inr ⟨hab, h⟩))
      (Bool.eq_false_iff.mpr fun h => h₂ (.inr ⟨hab.symm, h⟩))
    rw [char_eq_of_toNat_eq hab, hs]

/-- The order `mapObject` sorts the members by: the key not after the other's. -/
def keyLE (a b : String × Value) : Prop := runesLess b.1.data a.1.data = false

instance : DecidableRel keyLE := fun _ _ => inferInstanceAs (Decidable (_ = false))

instance : IsTotal (String × Value) keyLE where
  total a b := by
    unfold keyLE
    cases h : runesLess b.1.data a.1.data
    · exact .inl rfl
    · exact .inr (Bool.eq_false_iff.mpr fun h' => by simpa using runesLess_trans h h')

instance : IsTrans (String × Value) keyLE where
  trans a b c hab hbc := by
    unfold keyLE at *
    refine Bool.eq_false_iff.mpr fun hca => ?_
    cases hba : runesLess a.1.data b.1.data
    · rw [runesLess_trichotomous hba hab] at hca
      rw [hca] at hbc
      cases hbc
    · rw [runesLess_trans hca hba] at hbc
      cases hbc

theorem mapObject_eq (entries : List (String × Value)) :
    mapObject entries = .obj (entries.insertionSort keyLE) := rfl

/-- Members sorted by keys, all distinct, are fixed by the set of members. -/
theorem eq_of_perm_of_sorted_keys : ∀ {l₁ l₂ : List (String × Value)}, l₁.Perm l₂ →
    (l₁.map Prod.fst).Nodup → l₁.Sorted keyLE → l₂.Sorted keyLE → l₁ = l₂
  | [], _, hp, _, _, _ => (List.nil_perm.mp hp).symm
  | _ :: _, [], hp, _, _, _ => absurd hp.length_eq (by simp)
  | a :: l₁, b :: l₂, hp, hk, h₁, h₂ => by
    by_cases hab : a = b
    · subst hab
      rw [eq_of_perm_of_sorted_keys hp.cons_inv (List.nodup_cons.mp hk).2 h₁.of_cons h₂.of_cons]
    · have ha : a ∈ l₂ := (List.mem_cons.mp (hp.subset (List.mem_cons_self a l₁))).resolve_left hab
      have hb : b ∈ l₁ :=
        (List.mem_cons.mp (hp.symm.subset (List.mem_cons_self b l₂))).resolve_left (Ne.symm hab)
      have hkey : a.1 = b.1 := String.ext (runesLess_trichotomous
        (List.rel_of_sorted_cons h₂ a ha) (List.rel_of_sorted_cons h₁ b hb))
      exact ((List.nodup_cons.mp hk).1 (hkey ▸ List.mem_map_of_mem Prod.fst hb)).elim

/-- **Maps with the same entries marshal alike.** -/
theorem mapObject_perm {es es' : List (String × Value)} (hp : es.Perm es')
    (hk : (es.map Prod.fst).Nodup) : mapObject es = mapObject es' := by
  have hs : (es.insertionSort keyLE).Perm (es'.insertionSort keyLE) :=
    (List.perm_insertionSort _ _).trans (hp.trans (List.perm_insertionSort _ _).symm)
  rw [mapObject_eq, mapObject_eq, eq_of_perm_of_sorted_keys hs
    (((List.perm_insertionSort _ _).map Prod.fst).nodup_iff.mpr hk)
    (List.sorted_insertionSort _ _) (List.sorted_insertionSort _ _)]

/-! ### Decoding a marshalled `map[string]string` -/

/-- A `map[string]string` entry as the member `json.Marshal` writes. -/
def strMember (e : Σ _ : String, String) : String × Value := (e.1, .str e.2)

/-- String members with fresh keys are added to the map. -/
theorem stringMapDecoder_strMembers : ∀ (es : List (Σ _ : String, String))
    (x : AList fun _ : String => String), es.NodupKeys → (∀ e ∈ es, e.1 ∉ x) →
    ∃ y, stringMapDecoder (.obj (es.map strMember)) x = (y, none) ∧
      y.entries.Perm (es ++ x.entries)
  | [], x, _, _ => ⟨x, rfl, .refl _⟩
  | ⟨k, s⟩ :: es, x, hk, hx => by
    obtain ⟨hk₁, hk₂⟩ := List.nodupKeys_cons.mp hk
    have hfresh : ∀ e ∈ es, e.1 ∉ x.insert k s := fun e he h => by
      rcases (AList.mem_insert _).mp h with h | h
      · exact hk₁ (h ▸ List.mem_keys_of_mem (s := e) he)
      · exact hx e (List.mem_cons_of_mem _ he) h
    obtain ⟨y, hy, hp⟩ := stringMapDecoder_strMembers es (x.insert k s) hk₂ hfresh
    refine ⟨y, hy, ?_⟩
    rw [AList.insert_entries_of_neg (hx _ (List.mem_cons_self _ _))] at hp
    exact hp.trans List.perm_middle

/-- **A marshalled map decodes to its entries**, in some order. -/
theorem stringMapDecoder_mapObject (m : AList fun _ : String => String) :
    ∃ y, stringMapDecoder (mapObject (m.entries.map strMember)) ∅ = (y, none) ∧
      y.entries.Perm m.entries := by
  let r : (Σ _ : String, String) → (Σ _ : String, String) → Prop :=
    fun a b => runesLess b.1.data a.1.data = false
  have hsort : (m.entries.map strMember).insertionSort keyLE =
      (m.entries.insertionSort r).map strMember :=
    (List.map_insertionSort r keyLE strMember m.entries fun _ _ _ _ => Iff.rfl).symm
  obtain ⟨y, hy, hp⟩ := stringMapDecoder_strMembers (m.entries.insertionSort r) ∅
    ((List.perm_nodupKeys (List.perm_insertionSort _ _)).mpr m.nodupKeys)
    (fun _ _ => AList.not_mem_empty _)
  refine ⟨y, by rw [mapObject_eq, hsort, hy], ?_⟩
  rw [AList.empty_entries, List.append_nil] at hp
  exact hp.trans (List.perm_insertionSort _ _)

end Json
end Gateway
