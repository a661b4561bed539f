import Mathlib.Logic.ExistsUnique
import Mathlib.Tactic.ByContra
import Blocklist.Filter.Cosmetic
import Blocklist.Filter.Network
import Blocklist.Proofs.Hash.FilterId
/-!
# Filters — what their ids tell apart

No step of an id loses anything of the state before it, so what makes a
difference once makes it at the end. Filters with the same texts have the same
id exactly if they have the same mask: an exception never has the id of the
filter that blocks, nor a badfilter that of its target. And a single character
that is replaced, in whichever of the texts, makes another id. Main statement:
`ids_tell_apart`.
-/

namespace Blocklist

namespace FilterId

variable {mask mask' : UInt32} {fields fields' : List (Option String)} {text text' : List Char}

/-! ## One place -/

/-- Whether two texts are of one length and differ in exactly one place. -/
def DifferInOnePlace (text text' : List Char) : Prop :=
  text.length = text'.length ∧ ∃! i : Nat, text[i]? ≠ text'[i]?

/-- Around that place the two texts are the same. -/
theorem differInOnePlace_iff : DifferInOnePlace text text' ↔
    ∃ front c d back, c ≠ d ∧ text = front ++ c :: back ∧ text' = front ++ d :: back := by
  constructor
  · rintro ⟨hlength, i, hi, hunique⟩
    have hsame : ∀ j, j ≠ i → text[j]? = text'[j]? := by
      intro j hj
      by_contra hdiffer
      exact hj (hunique j hdiffer)
    have hlt : i < text.length := by
      by_contra hge
      have hge' : text'.length ≤ i := by omega
      exact hi (by rw [List.getElem?_eq_none (Nat.le_of_not_lt hge), List.getElem?_eq_none hge'])
    have hlt' : i < text'.length := by omega
    have hfront : text.take i = text'.take i := by
      refine List.ext_getElem? fun j => ?_
      rw [List.getElem?_take, List.getElem?_take]
      split
      · next hj => exact hsame j (Nat.ne_of_lt hj)
      · rfl
    have hback : text.drop (i + 1) = text'.drop (i + 1) := by
      refine List.ext_getElem? fun j => ?_
      rw [List.getElem?_drop, List.getElem?_drop]
      exact hsame _ (by omega)
    refine ⟨text.take i, text[i], text'[i], text.drop (i + 1), fun hchar => hi ?_, ?_, ?_⟩
    · rw [List.getElem?_eq_getElem hlt, List.getElem?_eq_getElem hlt', hchar]
    · rw [List.getElem_cons_drop, List.take_append_drop]
    · rw [hfront, hback, List.getElem_cons_drop, List.take_append_drop]
  · rintro ⟨front, c, d, back, hchar, rfl, rfl⟩
    refine ⟨by simp, front.length, by simpa using hchar, fun j hj => ?_⟩
    by_contra hne
    -- before the place and behind it, the two texts have the same characters
    rcases Nat.lt_or_gt_of_ne hne with hbefore | hbehind
    · exact hj (by rw [List.getElem?_append_left hbefore, List.getElem?_append_left hbefore])
    · obtain ⟨k, rfl⟩ := Nat.exists_eq_add_of_lt hbehind
      refine hj ?_
      rw [List.getElem?_append_right (by omega), List.getElem?_append_right (by omega),
        show front.length + k + 1 - front.length = k + 1 by omega, List.getElem?_cons_succ,
        List.getElem?_cons_succ]

/-- Whether one character of one field was replaced by another. -/
def IsSubstituted (fields fields' : List (Option String)) : Prop :=
  ∃ (before after : List (Option String)) (front back : List Char) (c d : Char), c ≠ d ∧
    fields = before ++ some (String.ofList (front ++ c :: back)) :: after ∧
    fields' = before ++ some (String.ofList (front ++ d :: back)) :: after

/-- In the joined text it is one place that differs. -/
theorem IsSubstituted.differsOnce (h : IsSubstituted fields fields') (mask : UInt32) :
    DiffersOnce mask mask fields fields' := by
  obtain ⟨before, after, front, back, c, d, hchar, rfl, rfl⟩ := h
  have hjoined : ∀ e, joined (before ++ some (String.ofList (front ++ e :: back)) :: after)
      = (joined before ++ front) ++ e :: (back ++ joined after) := by
    intro e
    simp [joined, String.toList_ofList]
  exact .inr ⟨rfl, joined before ++ front, c, d, back ++ joined after, hchar, hjoined c, hjoined d⟩

/-! ## Masks -/

/-- **The same texts have the same id under the same mask only.** -/
theorem ofFields_left_inj : ofFields mask fields = ofFields mask' fields ↔ mask = mask' := by
  refine ⟨fun h => ?_, fun h => h ▸ rfl⟩
  by_contra hmask
  exact ofFields_ne_of_differsOnce (.inl ⟨hmask, rfl⟩) h

/-! ## Kinds of filters -/

section Kinds

variable {Filter Mask : Type} {mask : Filter → Mask} {fields : Filter → List (Option String)}
variable {id : Filter → UInt32}

/-- What the ids of a kind of filters tell apart, by their masks and fields. -/
structure TellsApart (mask : Filter → Mask) (fields : Filter → List (Option String))
    (id : Filter → UInt32) : Prop where
  /-- Of filters with the same fields, those have one id that have one mask. -/
  masks : ∀ f g, fields f = fields g → (id f = id g ↔ mask f = mask g)
  /-- Filters with one mask, of which one character differs, have different ids. -/
  characters : ∀ f g, mask f = mask g → IsSubstituted (fields f) (fields g) → id f ≠ id g

/-- An id that is rolled over a mask and the fields tells filters apart. -/
theorem tellsApart_of_eq_ofFields (word : Mask → UInt32) (hword : Function.Injective word)
    (hid : ∀ f, id f = ofFields (word (mask f)) (fields f)) : TellsApart mask fields id where
  masks f g hfields := by
    rw [hid f, hid g, hfields, ofFields_left_inj]
    exact hword.eq_iff
  characters f g hmask hsubstituted := by
    rw [hid f, hid g, hmask]
    exact ofFields_ne_of_differsOnce (hsubstituted.differsOnce _)

end Kinds

end FilterId

open FilterId

theorem NetworkFilter.tellsApart : TellsApart mask fields NetworkFilter.id :=
  tellsApart_of_eq_ofFields NetworkMask.word (fun _ _ h => congrArg NetworkMask.mk h)
    fun _ => rfl

/-- The text fields that make up a cosmetic filter, in order. -/
def CosmeticFilter.fields (f : CosmeticFilter) : List (Option String) :=
  [some f.selector, f.hostnames.map HostList.text]

theorem CosmeticFilter.tellsApart : TellsApart mask fields CosmeticFilter.id :=
  tellsApart_of_eq_ofFields (fun m => m.word.toUInt32)
    (fun _ _ h => congrArg CosmeticMask.mk (UInt8.toUInt32_inj.mp h)) fun _ => rfl

/-- What is turned off is off. -/
theorem NetworkMask.has_without_self (m : NetworkMask) (switch : NetworkSwitch) :
    (m.without switch).has switch = false := by
  have hbit : ~~~switch.bit &&& switch.bit = 0 := by cases switch <;> rfl
  simp only [has, without, UInt32.and_assoc, hbit, UInt32.and_zero]
  rfl

/-- **A badfilter does not target itself.** -/
theorem NetworkFilter.targetId_ne_id {f : NetworkFilter} (hbad : f.mask.has .badfilter) :
    f.targetId ≠ f.id := by
  intro h
  have hword : (f.mask.without .badfilter).word = f.mask.word := ofFields_left_inj.mp h
  have hmask : f.mask.without .badfilter = f.mask := congrArg NetworkMask.mk hword
  have hoff := NetworkMask.has_without_self f.mask .badfilter
  rw [hmask, hbad] at hoff
  exact absurd hoff (by simp)

/-- **What ids tell apart.** The same texts have different ids under different masks, and so have,
under one mask, texts that differ in exactly one character. A filter of either kind shares its id
with no filter of the same texts and another mask, and with none that comes of it by replacing a
character; a badfilter does not have the id of its target. -/
theorem ids_tell_apart :
    (∀ (fields : List (Option String)) (mask mask' : UInt32), mask ≠ mask' →
      ofFields mask fields ≠ ofFields mask' fields) ∧
    (∀ (mask : UInt32) (fields fields' : List (Option String)),
      DifferInOnePlace (joined fields) (joined fields') →
      ofFields mask fields ≠ ofFields mask fields') ∧
    TellsApart NetworkFilter.mask NetworkFilter.fields NetworkFilter.id ∧
    TellsApart CosmeticFilter.mask CosmeticFilter.fields CosmeticFilter.id ∧
    ∀ f : NetworkFilter, f.mask.has .badfilter → f.targetId ≠ f.id := by
  refine ⟨fun fields mask mask' hmask => mt ofFields_left_inj.mp hmask, ?_,
    NetworkFilter.tellsApart, CosmeticFilter.tellsApart, fun f => NetworkFilter.targetId_ne_id⟩
  intro mask fields fields' hplace
  exact ofFields_ne_of_differsOnce (.inr ⟨rfl, differInOnePlace_iff.mp hplace⟩)

/-- A filter for the pages of one host. -/
def cartFilter : NetworkFilter :=
  { mask := .make .full [.firstParty, .thirdParty], pattern := "/cart", domains := some ⟨"a.com"⟩ }

/-- The exception with the same texts. -/
def cartException : NetworkFilter :=
  { cartFilter with mask := .make .full [.firstParty, .thirdParty, .exception] }

/-- The badfilter with the same texts. -/
def cartBadfilter : NetworkFilter :=
  { cartFilter with mask := .make .full [.firstParty, .thirdParty, .badfilter] }

theorem ids_tell_apart_cart :
    cartFilter.id ≠ cartException.id ∧ cartBadfilter.targetId ≠ cartBadfilter.id ∧
    cartFilter.id ≠ NetworkFilter.id { cartFilter with domains := some ⟨"b.com"⟩ } ∧
    ofFields 0 [some ".ad", none, some "a.com"] ≠ ofFields 0 [some ".adb", some ".com"] := by
  obtain ⟨-, hplace, hnetwork, -, htarget⟩ := ids_tell_apart
  refine ⟨fun h => ?_, htarget cartBadfilter (by decide), ?_, hplace 0 _ _ ?_⟩
  · exact absurd ((hnetwork.masks cartFilter cartException rfl).mp h) (by decide)
  · refine hnetwork.characters cartFilter _ rfl ?_
    exact ⟨[some "/cart"], [none, none], [], ".com".toList, 'a', 'b', by decide, by decide,
      by decide⟩
  · exact differInOnePlace_iff.mpr
      ⟨".ad".toList, 'a', 'b', ".com".toList, by decide, by decide, by decide⟩

end Blocklist
