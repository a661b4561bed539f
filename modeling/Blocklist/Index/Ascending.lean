/-!
# Index — ascending lists

Positions are kept in ascending order, each once.
-/

namespace Blocklist

variable {α : Type}

/-- The list with every run of equal neighbours shortened to one. -/
def dropRepeats [BEq α] : List α → List α
  | a :: b :: rest => if a == b then dropRepeats (b :: rest) else a :: dropRepeats (b :: rest)
  | short => short

/-- The members of a list in the order `le`, each once. -/
def ascending [BEq α] (le : α → α → Bool) (list : List α) : List α :=
  dropRepeats (list.mergeSort le)

@[simp] theorem mem_dropRepeats [BEq α] [LawfulBEq α] {a : α} {list : List α} :
    a ∈ dropRepeats list ↔ a ∈ list := by
  fun_induction dropRepeats list with
  | case1 x y rest hxy ih => simp [ih, eq_of_beq hxy]
  | case2 x y rest hxy ih => simp [ih]
  | case3 => rfl

/-- Sorting neither adds nor loses members. -/
@[simp] theorem mem_ascending [BEq α] [LawfulBEq α] {le : α → α → Bool} {a : α} {list : List α} :
    a ∈ ascending le list ↔ a ∈ list := by
  simp [ascending]

end Blocklist
