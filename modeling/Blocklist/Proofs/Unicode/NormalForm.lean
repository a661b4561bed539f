import Mathlib.Data.List.TakeWhile
import Blocklist.Unicode.Composition
/-!
# Unicode — what normal form keeps

What a table says of a character stands in the data it was made from
(`Table.mem_of_find?`). Taking apart and putting together never lose a text:
its normal form is empty only where it is (`normalForm_eq_nil_iff`).
-/

namespace Blocklist

namespace Unicode

namespace Table

variable {α : Type} {t : Table α} {spans : List (Span α)} {span : Span α} {value : α} {c : Char}
  {n lo hi : Nat}

theorem mem_of_findIn (h : t.findIn n lo hi = some span) : span ∈ t.spans.toList := by
  fun_induction t.findIn n lo hi with
  | case1 => cases h
  | case2 lo hi _ mid s hget hbelow ih => exact ih h
  | case3 lo hi _ mid s hget hbelow habove ih => exact ih h
  | case4 lo hi _ mid s hget hbelow habove =>
    cases h
    exact Array.mem_toList_iff.mpr (Array.mem_of_getElem? hget)
  | case5 => cases h

/-- **What a table says** it was made from. -/
theorem mem_of_find? (h : (ofSpans spans).find? c = some span) : span ∈ spans := by
  have hmem := mem_of_findIn h
  exact (List.mergeSort_perm _ _).mem_iff.mp hmem

/-- What holds of the values of all entries holds of a character's. -/
theorem of_get?_filterMap {P : α → Prop} {entries : List (List Nat)}
    {read : List Nat → Option (Span α)}
    (hread : ∀ entry span, read entry = some span → P span.value)
    (h : (ofSpans (entries.filterMap read)).get? c = some value) : P value := by
  obtain ⟨span, hspan, rfl⟩ := Option.map_eq_some_iff.mp h
  obtain ⟨entry, -, hentry⟩ := List.mem_filterMap.mp (mem_of_find? hspan)
  exact hread entry span hentry

end Table

variable {c : Char} {text : List Char}

/-! ## Taking apart -/

theorem ne_nil_of_mappingTable {parts : List Char} (h : mappingTable.get? c = some parts) :
    parts ≠ [] := by
  rw [mappingTable] at h
  refine Table.of_get?_filterMap (P := (· ≠ [])) ?_ h
  intro entry span hentry
  split at hentry
  · cases hentry
    exact List.cons_ne_nil _ _
  · cases hentry

theorem ne_nil_of_hangulLetters? {letters : List Char} (h : hangulLetters? c = some letters) :
    letters ≠ [] := by
  rw [hangulLetters?] at h
  obtain ⟨-, h⟩ := Option.ite_none_right_eq_some.mp h
  rw [← Option.some.inj h]
  split <;> simp

/-- A character is taken apart into something. -/
theorem ne_nil_of_decomposition? {parts : List Char} (h : decomposition? c = some parts) :
    parts ≠ [] := by
  rw [decomposition?, Option.or_eq_some_iff] at h
  rcases h with h | ⟨-, h⟩
  · exact ne_nil_of_hangulLetters? h
  · exact ne_nil_of_mappingTable h

section Steps

variable {step? : Char → Option (List Char)} {level : Char → Nat}
variable {join? : Char → Char → Option Char}

theorem takeApart_ne_nil (hstep : ∀ c parts, step? c = some parts → parts ≠ []) (depth : Nat)
    (c : Char) : takeApart step? depth c ≠ [] := by
  induction depth generalizing c with
  | zero => exact List.cons_ne_nil _ _
  | succ depth ih =>
    rw [takeApart]
    split
    · next parts hparts =>
      obtain ⟨part, others, rfl⟩ := List.exists_cons_of_ne_nil (hstep c parts hparts)
      exact List.append_ne_nil_of_left_ne_nil (ih part) _
    · exact List.cons_ne_nil _ _

theorem placeMark_ne_nil (level : Char → Nat) (c : Char) (back : List Char) :
    placeMark level c back ≠ [] := by
  cases back with
  | nil => exact List.cons_ne_nil _ _
  | cons d back =>
    rw [placeMark]
    split <;> exact List.cons_ne_nil _ _

theorem foldl_placeMark_ne_nil {back : List Char} (hback : back ≠ []) (text : List Char) :
    text.foldl (fun back c => placeMark level c back) back ≠ [] := by
  induction text generalizing back with
  | nil => exact hback
  | cons c text ih => exact ih (placeMark_ne_nil level c back)

theorem joinAfter_ne_nil (starter : Char) (marks text : List Char) :
    joinAfter level join? starter marks text ≠ [] := by
  induction text generalizing starter marks with
  | nil => exact List.cons_ne_nil _ _
  | cons c rest ih =>
    rw [joinAfter]
    split
    · exact ih _ marks
    · split
      · exact List.cons_ne_nil _ _
      · exact ih starter _

end Steps

theorem decompose_ne_nil (h : text ≠ []) : decompose text ≠ [] := by
  obtain ⟨c, rest, rfl⟩ := List.exists_cons_of_ne_nil h
  obtain ⟨part, parts, hparts⟩ := List.exists_cons_of_ne_nil
    (takeApart_ne_nil (fun _ _ => ne_nil_of_decomposition?) 8 c)
  rw [decompose, List.flatMap_cons, hparts]
  exact mt List.reverse_eq_nil_iff.mp (foldl_placeMark_ne_nil (placeMark_ne_nil _ part []) _)

/-! ## Putting together -/

theorem compose_ne_nil (h : text ≠ []) : compose text ≠ [] := by
  rw [compose]
  split
  · next hdrop =>
    rw [← List.takeWhile_append_dropWhile (p := fun c => combiningClass c != 0) (l := text),
      hdrop, List.append_nil] at h
    exact h
  · exact List.append_ne_nil_of_right_ne_nil _ (joinAfter_ne_nil _ _ _)

theorem normalForm_of_isAscii (h : Text.isAscii text) : normalForm text = text := by
  rw [normalForm, if_pos h]

/-- **The normal form of a text** is empty where the text is. -/
theorem normalForm_eq_nil_iff : normalForm text = [] ↔ text = [] := by
  constructor
  · intro h
    by_contra hne
    rw [normalForm] at h
    split at h
    · exact hne h
    · exact compose_ne_nil (decompose_ne_nil hne) h
  · intro h
    rw [h, normalForm_of_isAscii]
    decide

end Unicode

end Blocklist
