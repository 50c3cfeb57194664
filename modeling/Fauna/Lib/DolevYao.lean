import Mathlib.Data.Multiset.Count
import Mathlib.Data.Multiset.AddSub
import Mathlib.Data.Set.Basic

/-!
# Symbolic messages and what an attacker can derive from them

Terms for a protocol with signatures, Diffie–Hellman points, a hash and authenticated
encryption, all ideal: a term can be taken apart only with the right key, and equal terms are
equal only for the reasons the constructors give. A point is the multiset of the exponents the
base was raised to, so that exponentiation commutes.

`Derives K t` is the attacker's deduction from the messages `K`: it owns the keys
`Key.attacker n`, may combine and take apart everything, and may also divide by an exponent it
knows. A `Policy` says what may be public: which texts, and which signatures and ciphertexts
the honest parties have made. `Policy.derives_public` is the closure rule every secrecy and
authenticity argument goes through: whatever is derived from public messages is public.
-/

namespace Fauna.Lib.DolevYao

/-- Who generated a key: the honest party of that number, or the attacker. -/
inductive Key
  | honest (n : ℕ)
  | attacker (n : ℕ)
  deriving DecidableEq

/-- Whether a key was generated by an honest party. -/
def Key.isHonest : Key → Bool
  | .honest _ => true
  | .attacker _ => false

/-- A message, or a part of one. -/
inductive Term
  /-- A text somebody wrote. -/
  | text (n : ℕ)
  | nonce (n : ℕ)
  | signKey (k : Key)
  | verKey (k : Key)
  | scalar (k : Key)
  /-- The base point raised to each of the exponents. -/
  | point (exponents : Multiset Key)
  /-- The result of exponentiating a value that is not a point of known origin. -/
  | shared (k : Key) (t : Term)
  | digest (t : Term)
  /-- A text made from a value one way. -/
  | tag (t : Term)
  | signature (k : Key) (t : Term)
  | cipher (key nonce plaintext : Term)
  deriving DecidableEq

/-- Whether a term is a point. -/
def Term.isPoint : Term → Bool
  | .point _ => true
  | _ => false

open Term

/-- What the attacker can derive from the messages it has seen. -/
inductive Derives (K : Set Term) : Term → Prop
  | known {t} : t ∈ K → Derives K t
  | nonce (n) : Derives K (nonce n)
  | signKey (n) : Derives K (signKey (.attacker n))
  | scalar (n) : Derives K (scalar (.attacker n))
  | verKey {k} : Derives K (signKey k) → Derives K (verKey k)
  | base : Derives K (point 0)
  | exp {k m} : Derives K (scalar k) → Derives K (point m) → Derives K (point (k ::ₘ m))
  | root {k m} : Derives K (scalar k) → Derives K (point (k ::ₘ m)) → Derives K (point m)
  | mix {k t} : Derives K (scalar k) → t.isPoint = false → Derives K t → Derives K (shared k t)
  | digest {t} : Derives K t → Derives K (digest t)
  | tag {t} : Derives K t → Derives K (tag t)
  | sign {k t} : Derives K (signKey k) → Derives K t → Derives K (signature k t)
  | signed {k t} : Derives K (signature k t) → Derives K t
  | encrypt {k n p} : Derives K k → Derives K n → Derives K p → Derives K (cipher k n p)
  | decrypt {k n p} : Derives K (cipher k n p) → Derives K k → Derives K p

variable {K K' : Set Term} {t : Term}

/-- Who knows more derives more. -/
theorem Derives.mono (hK : K ⊆ K') (h : Derives K t) : Derives K' t := by
  induction h with
  | known h => exact .known (hK h)
  | nonce n => exact .nonce n
  | signKey n => exact .signKey n
  | scalar n => exact .scalar n
  | verKey _ ih => exact .verKey ih
  | base => exact .base
  | exp _ _ ih₁ ih₂ => exact .exp ih₁ ih₂
  | root _ _ ih₁ ih₂ => exact .root ih₁ ih₂
  | mix _ hp _ ih₁ ih₂ => exact .mix ih₁ hp ih₂
  | digest _ ih => exact .digest ih
  | tag _ ih => exact .tag ih
  | sign _ _ ih₁ ih₂ => exact .sign ih₁ ih₂
  | signed _ ih => exact .signed ih
  | encrypt _ _ _ ih₁ ih₂ ih₃ => exact .encrypt ih₁ ih₂ ih₃
  | decrypt _ _ ih₁ ih₂ => exact .decrypt ih₁ ih₂

/-- The attacker raises a point it has to all its own exponents. -/
theorem Derives.point_add {m m' : Multiset Key} (h : Derives K (point m))
    (hm' : ∀ k ∈ m', k.isHonest = false) : Derives K (point (m' + m)) := by
  induction m' using Multiset.induction with
  | empty => simpa using h
  | cons k m' ih =>
      rw [Multiset.cons_add]
      refine .exp ?_ (ih fun k' hk' => hm' k' (Multiset.mem_cons_of_mem hk'))
      have hk := hm' k (Multiset.mem_cons_self k m')
      cases k with
      | honest n => simp [Key.isHonest] at hk
      | attacker n => exact .scalar n

/-! ## Bounding the attacker's knowledge -/

/-- How many exponents of a point are honest. -/
def honestCount (m : Multiset Key) : ℕ := m.countP fun k => k.isHonest = true

@[simp] theorem honestCount_zero : honestCount 0 = 0 := rfl

/-- An honest key more counts. -/
theorem honestCount_cons (k : Key) (m : Multiset Key) :
    honestCount (k ::ₘ m) = honestCount m + if k.isHonest = true then 1 else 0 :=
  Multiset.countP_cons _ k m

/-- The count of one key. -/
theorem honestCount_singleton (k : Key) :
    honestCount {k} = if k.isHonest = true then 1 else 0 := by
  rw [← Multiset.cons_zero, honestCount_cons, honestCount_zero, Nat.zero_add]

/-- What the honest parties have let out: the texts in the clear, and the signatures and
ciphertexts they made. -/
structure Policy where
  texts : Set ℕ
  signed : Key → Term → Prop
  encrypted : Term → Term → Term → Prop

/-- What may be public under a policy. A point with two honest exponents may not, and neither
may the contents of an honest ciphertext whose key may not. -/
def Policy.Public (P : Policy) : Term → Prop
  | text n => n ∈ P.texts
  | nonce _ => True
  | signKey k => k.isHonest = false
  | verKey _ => True
  | scalar k => k.isHonest = false
  | point m => honestCount m ≤ 1
  | shared k t => k.isHonest = false ∧ P.Public t
  | digest t => P.Public t
  | tag _ => True
  | signature k t => (k.isHonest = false ∨ P.signed k t) ∧ P.Public t
  | cipher k n p => (P.Public k ∧ P.Public n ∧ P.Public p) ∨
      (P.encrypted k n p ∧ (P.Public k → P.Public p))

variable {P P' : Policy}

/-- The closure rule: what is derived from public messages is public. -/
theorem Policy.derives_public (hK : ∀ t ∈ K, P.Public t) (h : Derives K t) : P.Public t := by
  induction h with
  | known h => exact hK _ h
  | nonce n => trivial
  | signKey n => rfl
  | scalar n => rfl
  | verKey _ _ => trivial
  | base => exact Nat.zero_le 1
  | exp _ _ ih₁ ih₂ =>
      simp only [Policy.Public] at ih₁ ih₂ ⊢
      simpa [honestCount_cons, ih₁] using ih₂
  | root _ _ ih₁ ih₂ =>
      simp only [Policy.Public] at ih₁ ih₂ ⊢
      simpa [honestCount_cons, ih₁] using ih₂
  | mix _ _ _ ih₁ ih₂ => exact ⟨ih₁, ih₂⟩
  | digest _ ih => exact ih
  | tag _ _ => trivial
  | sign _ _ ih₁ ih₂ => exact ⟨Or.inl ih₁, ih₂⟩
  | signed _ ih => exact ih.2
  | encrypt _ _ _ ih₁ ih₂ ih₃ => exact Or.inl ⟨ih₁, ih₂, ih₃⟩
  | decrypt _ _ ih₁ ih₂ =>
      rcases ih₁ with ⟨-, -, hp⟩ | ⟨-, hp⟩
      · exact hp
      · exact hp ih₂

/-- A later policy: more is let out, but no key of an honest ciphertext becomes public. -/
structure Policy.Extends (P P' : Policy) : Prop where
  texts : P.texts ⊆ P'.texts
  signed : ∀ k t, P.signed k t → P'.signed k t
  encrypted : ∀ k n p, P.encrypted k n p → P'.encrypted k n p
  keys : ∀ k n p, P.encrypted k n p → P'.Public k → P.Public k

/-- What is public stays public. -/
theorem Policy.Extends.public (h : P.Extends P') (ht : P.Public t) : P'.Public t := by
  induction t with
  | text n => exact h.texts ht
  | nonce n => trivial
  | signKey k => exact ht
  | verKey k => trivial
  | scalar k => exact ht
  | point m => exact ht
  | shared k t ih => exact ⟨ht.1, ih ht.2⟩
  | digest t ih => exact ih ht
  | tag t ih => trivial
  | signature k t ih => exact ⟨ht.1.imp_right (h.signed k t), ih ht.2⟩
  | cipher k n p ihk ihn ihp =>
      rcases ht with ⟨hk, hn, hp⟩ | ⟨hs, hp⟩
      · exact Or.inl ⟨ihk hk, ihn hn, ihp hp⟩
      · exact Or.inr ⟨h.encrypted k n p hs, fun hk => ihp (hp (h.keys k n p hs hk))⟩

end Fauna.Lib.DolevYao
