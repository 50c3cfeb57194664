import Fauna.Lib.DolevYao

/-!
# What an attacker derives once signing keys have got out

`Policy.PublicWith` is what may be public when the attacker also owns the signing keys of some
honest parties: those keys, and every signature with them. The exponents of these parties are still
their own, so that a point with two honest exponents stays out of reach.

* `Policy.derives_publicWith`: the closure rule, with the keys that got out among what was seen.
* `Policy.Public.publicWith`: what is public without them is public with them.
-/

namespace Fauna.Lib.DolevYao

/-- What may be public under a policy when the signing keys `leaked` have got out. -/
def Policy.PublicWith (P : Policy) (leaked : Set Key) : Term → Prop
  | .text n => n ∈ P.texts
  | .nonce _ => True
  | .signKey k => k.isHonest = false ∨ k ∈ leaked
  | .verKey _ => True
  | .scalar k => k.isHonest = false
  | .point m => honestCount m ≤ 1
  | .shared k t => k.isHonest = false ∧ P.PublicWith leaked t
  | .digest t => P.PublicWith leaked t
  | .tag _ => True
  | .signature k t => (k.isHonest = false ∨ k ∈ leaked ∨ P.signed k t) ∧ P.PublicWith leaked t
  | .cipher k n p =>
      (P.PublicWith leaked k ∧ P.PublicWith leaked n ∧ P.PublicWith leaked p) ∨
        (P.encrypted k n p ∧ (P.PublicWith leaked k → P.PublicWith leaked p))

variable {P : Policy} {leaked : Set Key} {K : Set Term} {t : Term}

/-- The closure rule: what is derived from public messages is public. -/
theorem Policy.derives_publicWith (hK : ∀ t ∈ K, P.PublicWith leaked t) (h : Derives K t) :
    P.PublicWith leaked t := by
  induction h with
  | known h => exact hK _ h
  | nonce n => trivial
  | signKey n => exact Or.inl rfl
  | scalar n => rfl
  | verKey _ _ => trivial
  | base => exact Nat.zero_le 1
  | exp _ _ ih₁ ih₂ =>
      simp only [Policy.PublicWith] at ih₁ ih₂ ⊢
      simpa [honestCount_cons, ih₁] using ih₂
  | root _ _ ih₁ ih₂ =>
      simp only [Policy.PublicWith] at ih₁ ih₂ ⊢
      simpa [honestCount_cons, ih₁] using ih₂
  | mix _ _ _ ih₁ ih₂ => exact ⟨ih₁, ih₂⟩
  | digest _ ih => exact ih
  | tag _ _ => trivial
  | sign _ _ ih₁ ih₂ => exact ⟨ih₁.imp_right Or.inl, ih₂⟩
  | signed _ ih => exact ih.2
  | encrypt _ _ _ ih₁ ih₂ ih₃ => exact Or.inl ⟨ih₁, ih₂, ih₃⟩
  | decrypt _ _ ih₁ ih₂ =>
      rcases ih₁ with ⟨-, -, hp⟩ | ⟨-, hp⟩
      · exact hp
      · exact hp ih₂

/-- What is public stays public when keys get out, as long as that opens no honest ciphertext. -/
theorem Policy.Public.publicWith
    (hkeys : ∀ k n p, P.encrypted k n p → P.PublicWith leaked k → P.Public k) (h : P.Public t) :
    P.PublicWith leaked t := by
  induction t with
  | text n => exact h
  | nonce n => trivial
  | signKey k => exact Or.inl h
  | verKey k => trivial
  | scalar k => exact h
  | point m => exact h
  | shared k t ih => exact ⟨h.1, ih h.2⟩
  | digest t ih => exact ih h
  | tag t ih => trivial
  | signature k t ih => exact ⟨h.1.imp_right Or.inr, ih h.2⟩
  | cipher k n p ihk ihn ihp =>
      rcases h with ⟨hk, hn, hp⟩ | ⟨hs, hp⟩
      · exact Or.inl ⟨ihk hk, ihn hn, ihp hp⟩
      · exact Or.inr ⟨hs, fun hk => ihp (hp (hkeys k n p hs hk))⟩

end Fauna.Lib.DolevYao
