import Blocklist.Proofs.Index.Lookup
/-!
# Index — how rare a token is

A histogram counts how often a token comes, in words (`getD_histogram`), so
the order in which tokens are counted leaves no trace: which token of a group
is the rarest depends on the tokens that are counted alone
(`rarest?_histogram_of_perm`). A weight that fits into a word is how often the
token comes, with the penalty of a common word (`toNat_weight_histogram`).
-/

namespace Blocklist

namespace TokenIndex

variable {tokens tokens' : List UInt32} {token : UInt32}

theorem getD_foldl_alter (counts : Std.HashMap UInt32 UInt32) (tokens : List UInt32)
    (token : UInt32) :
    (tokens.foldl (fun counts token => counts.alter token fun n => some (n.getD 0 + 1))
      counts).getD token 0 = counts.getD token 0 + .ofNat (tokens.count token) := by
  induction tokens generalizing counts with
  | nil => exact (UInt32.add_zero _).symm
  | cons first tokens ih =>
    rw [List.foldl_cons, ih, Std.HashMap.getD_alter, List.count_cons]
    by_cases h : first = token
    · subst h
      rw [if_pos (beq_self_eq_true first), if_pos (beq_self_eq_true first), Option.getD_some,
        ← Std.HashMap.getD_eq_getD_getElem?, UInt32.ofNat_add, UInt32.add_assoc,
        UInt32.add_comm (.ofNat _)]
      rfl
    · have hne : ¬ (first == token) = true := fun hbeq => h (beq_iff_eq.mp hbeq)
      rw [if_neg hne, if_neg hne, Nat.add_zero]

/-- **A histogram counts**, in words. -/
@[simp] theorem getD_histogram (tokens : List UInt32) (token : UInt32) :
    (histogram tokens).getD token 0 = .ofNat (tokens.count token) := by
  rw [histogram, getD_foldl_alter, Std.HashMap.getD_empty, UInt32.zero_add]

/-- The penalty is all that is added, where there is room. -/
theorem toNat_penalised {n : UInt32} (h : n.toNat + commonPenalty.toNat < UInt32.size) :
    (penalised n).toNat = n.toNat + commonPenalty.toNat :=
  UInt32.toNat_ofNatClamp_of_lt h

/-- How often a token comes among some tokens, with the penalty of a common word. -/
def frequency (tokens : List UInt32) (token : UInt32) : Nat :=
  tokens.count token + if commonTokens.contains token then commonPenalty.toNat else 0

/-- **A weight is true** where it fits into a word. -/
theorem toNat_weight_histogram (h : frequency tokens token < UInt32.size) :
    (weight (histogram tokens) token).toNat = frequency tokens token := by
  have hcount : (UInt32.ofNat (tokens.count token)).toNat = tokens.count token :=
    UInt32.toNat_ofNat_of_lt' (Nat.lt_of_le_of_lt (Nat.le_add_right ..) h)
  rw [weight, getD_histogram]
  rw [frequency] at h ⊢
  split
  · next hcommon =>
    rw [if_pos hcommon] at h
    rw [toNat_penalised (by rwa [hcount]), hcount]
  · exact hcount

/-- **The rarest token of a group depends on how often tokens come**, not on their order. -/
theorem rarest?_histogram_of_perm (h : tokens.Perm tokens') (group : List UInt32) :
    rarest? (histogram tokens) group = rarest? (histogram tokens') group := by
  have hweight : weight (histogram tokens) = weight (histogram tokens') := by
    funext token
    rw [weight, weight, getD_histogram, getD_histogram, h.count_eq]
  rw [rarest?, rarest?, hweight]

end TokenIndex

end Blocklist
