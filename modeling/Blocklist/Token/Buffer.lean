/-!
# Tokens — the bounded buffer

Tokens are collected up to a fixed number; what comes after is dropped.
-/

namespace Blocklist

/-- How many tokens a buffer holds at most. -/
def tokenCapacity : Nat := 200

/-- Tokens in the order they came, no more than the capacity. -/
structure TokenBuffer where
  /-- The tokens. -/
  tokens : List UInt32
  /-- There are no more than fit. -/
  length_le : tokens.length ≤ tokenCapacity

namespace TokenBuffer

/-- No tokens. -/
def empty : TokenBuffer := ⟨[], Nat.zero_le _⟩

/-- One more token at the end, where there is room. -/
def push? (b : TokenBuffer) (token : UInt32) : Option TokenBuffer :=
  if h : b.tokens.length < tokenCapacity then
    some ⟨b.tokens ++ [token], by simp only [List.length_append, List.length_singleton]; omega⟩
  else none

/-- One more token, dropped where there is no room. -/
def push (b : TokenBuffer) (token : UInt32) : TokenBuffer := (b.push? token).getD b

/-- More tokens, as far as there is room. -/
def extend (b : TokenBuffer) (tokens : List UInt32) : TokenBuffer := tokens.foldl push b

theorem extend_extend (b : TokenBuffer) (front back : List UInt32) :
    (b.extend front).extend back = b.extend (front ++ back) :=
  List.foldl_append.symm

@[simp] theorem tokens_push (b : TokenBuffer) (token : UInt32) :
    (b.push token).tokens = (b.tokens ++ [token]).take tokenCapacity := by
  unfold push push?
  split
  · next h => simp [List.take_of_length_le, Nat.succ_le_of_lt h]
  · next h =>
    have hlen : b.tokens.length = tokenCapacity := Nat.le_antisymm b.length_le (Nat.le_of_not_lt h)
    simp [← hlen]

theorem take_take_append {α : Type} (n : Nat) (a b : List α) :
    (a.take n ++ b).take n = (a ++ b).take n := by
  rw [List.take_append, List.take_append, List.take_take, Nat.min_self, List.length_take]
  congr 2
  omega

/-- **A buffer keeps the first tokens that came.** -/
@[simp] theorem tokens_extend (b : TokenBuffer) (tokens : List UInt32) :
    (b.extend tokens).tokens = (b.tokens ++ tokens).take tokenCapacity := by
  induction tokens generalizing b with
  | nil => simp [extend, List.take_of_length_le b.length_le]
  | cons t tokens ih =>
    have h := ih (b.push t)
    simp only [extend, List.foldl_cons] at h ⊢
    rw [h, tokens_push, take_take_append]
    simp

end TokenBuffer

end Blocklist
