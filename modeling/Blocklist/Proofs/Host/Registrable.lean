import Mathlib.Data.List.DropRight
import Mathlib.Data.String.Basic
import Blocklist.Host.Domain
import Blocklist.Proofs.Host.Covering
import Blocklist.Proofs.Text.Cut
/-!
# Hosts — registrable domains

The search for the last dots of a host and for a public suffix in the table
comes to counting labels: the registrable domain is the last three of them
where the last two are in the table, and else the last two. It stays the same
under whatever is put before it (`registrable_by_labels`).
-/

namespace Blocklist

namespace Host

variable {host domain front back : List Char} {n m : Nat}

/-! ## The table -/

/-- **Halving an ascending table misses nothing.** -/
theorem isListedIn_iff {table : Array String} {key : String} {lo hi : Nat}
    (hsorted : table.toList.Pairwise (· < ·)) (hhi : hi ≤ table.size) :
    isListedIn table key lo hi ↔ ∃ i, lo ≤ i ∧ i < hi ∧ table[i]? = some key := by
  have hascending : ∀ (i j : Nat) (a b : String), table[i]? = some a → table[j]? = some b →
      i < j → a < b := by
    intro i j a b ha hb hij
    obtain ⟨hi, rfl⟩ := Array.getElem?_eq_some_iff.mp ha
    obtain ⟨hj, rfl⟩ := Array.getElem?_eq_some_iff.mp hb
    exact List.pairwise_iff_getElem.mp hsorted i j hi hj hij
  fun_induction isListedIn table key lo hi with
  | case1 lo hi hlt mid hnone =>
    have hmid : mid < table.size := by omega
    rw [Array.getElem?_eq_getElem hmid] at hnone
    cases hnone
  | case2 lo hi hlt mid entry hentry hbelow ih =>
    have hmid : mid ≤ table.size := by omega
    refine (ih hmid).trans ⟨?_, ?_⟩
    · rintro ⟨i, hlo, hlt, hkey⟩
      exact ⟨i, hlo, by omega, hkey⟩
    · rintro ⟨i, hlo, hhi, hkey⟩
      refine ⟨i, hlo, ?_, hkey⟩
      by_contra hge
      -- the key would stand at the middle or above it
      rcases Nat.eq_or_lt_of_le (Nat.not_lt.mp hge) with heq | hgt
      · rw [← heq, hentry] at hkey
        exact lt_irrefl key (Option.some.inj hkey ▸ hbelow)
      · exact lt_asymm hbelow (hascending mid i entry key hentry hkey hgt)
  | case3 lo hi hlt mid entry hentry _ habove ih =>
    refine (ih hhi).trans ⟨?_, ?_⟩
    · rintro ⟨i, hmid, hhi, hkey⟩
      exact ⟨i, by omega, hhi, hkey⟩
    · rintro ⟨i, hlo, hhi, hkey⟩
      refine ⟨i, ?_, hhi, hkey⟩
      by_contra hle
      rcases Nat.eq_or_lt_of_le (Nat.lt_succ_iff.mp (Nat.not_le.mp hle)) with heq | hgt
      · rw [heq, hentry] at hkey
        exact lt_irrefl key (Option.some.inj hkey ▸ habove)
      · exact lt_asymm habove (hascending i mid key entry hkey hentry hgt)
  | case4 lo hi hlt mid entry hentry hbelow habove =>
    have hkey : entry = key := le_antisymm (not_lt.mp hbelow) (not_lt.mp habove)
    exact iff_of_true rfl ⟨mid, by omega, by omega, hkey ▸ hentry⟩
  | case5 lo hi hge =>
    simp only [Bool.false_eq_true, false_iff]
    rintro ⟨i, hlo, hhi, -⟩
    omega

theorem pairwise_twoLabelSuffixes : twoLabelSuffixes.toList.Pairwise (· < ·) :=
  List.IsChain.pairwise (by decide)

theorem isTwoLabelSuffix_iff (suffix : List Char) :
    isTwoLabelSuffix suffix ↔ String.ofList suffix ∈ twoLabelSuffixes := by
  rw [isTwoLabelSuffix, isListedIn_iff pairwise_twoLabelSuffixes (Nat.le_refl _),
    Array.mem_iff_getElem?]
  constructor
  · rintro ⟨i, -, -, hi⟩
    exact ⟨i, hi⟩
  · rintro ⟨i, hi⟩
    exact ⟨i, Nat.zero_le i, (Array.getElem?_eq_some_iff.mp hi).1, hi⟩

/-! ## Labels from the end -/

/-- The last `n` labels of a host, with the dots between; all of it where there are no more. -/
def lastLabels (n : Nat) (host : List Char) : List Char :=
  ['.'].intercalate ((host.splitOn '.').rtake n)

theorem lastLabels_of_le (h : (host.splitOn '.').length ≤ n) : lastLabels n host = host := by
  rw [lastLabels, List.rtake, Nat.sub_eq_zero_of_le h, List.drop_zero, List.intercalate_splitOn]

/-- What stands before the labels that are taken does not matter. -/
theorem lastLabels_append_cons (h : n ≤ (back.splitOn '.').length) :
    lastLabels n (front ++ '.' :: back) = lastLabels n back := by
  have hsplit := List.splitOn_append_cons_self (a := '.') front back
  rw [lastLabels, lastLabels, hsplit, List.rtake, List.rtake, List.length_append,
    List.drop_append, List.drop_eq_nil_of_le (by omega), List.nil_append]
  congr 2
  omega

theorem splitOn_lastLabels (hn : 0 < n) (host : List Char) :
    (lastLabels n host).splitOn '.' = (host.splitOn '.').rtake n := by
  have hpos : 0 < (host.splitOn '.').length :=
    List.length_pos_iff.mpr (List.splitOn_ne_nil '.' host)
  refine List.splitOn_intercalate '.' (fun label hlabel => ?_) (List.length_pos_iff.mp ?_)
  · exact Text.not_mem_of_mem_splitOn (List.mem_of_mem_drop hlabel)
  · rw [List.rtake, List.length_drop]
    omega

/-- The last labels of the last labels. -/
theorem lastLabels_lastLabels (hm : 0 < m) (hle : m ≤ n) (host : List Char) :
    lastLabels m (lastLabels n host) = lastLabels m host := by
  have htake : ((host.splitOn '.').rtake n).rtake m = (host.splitOn '.').rtake m := by
    rw [List.rtake, List.rtake, List.rtake, List.drop_drop, List.length_drop]
    congr 1
    omega
  rw [lastLabels, splitOn_lastLabels (by omega), htake]
  rfl

/-- Labels are taken from behind a dot, or from the beginning. -/
theorem lastLabels_boundary (n : Nat) (host : List Char) (hn : 0 < n) :
    lastLabels n host = host ∨ '.' :: lastLabels n host <:+ host := by
  induction host using Text.pieces_induction '.' with
  | single label hlabel =>
    refine .inl (lastLabels_of_le ?_)
    rw [List.splitOn_eq_singleton hlabel, List.length_singleton]
    exact hn
  | more label rest hlabel ih =>
    by_cases hle : n ≤ (rest.splitOn '.').length
    · rw [lastLabels_append_cons hle]
      refine .inr ?_
      rcases ih with heq | hsuffix
      · rw [heq]
        exact List.suffix_append label _
      · exact hsuffix.trans ((List.suffix_cons '.' rest).trans (List.suffix_append label _))
    · refine .inl (lastLabels_of_le ?_)
      rw [List.splitOn_append_cons_self_of_not_mem hlabel, List.length_cons]
      omega

theorem lastLabels_suffix (host : List Char) (hn : 0 < n) : lastLabels n host <:+ host := by
  rcases lastLabels_boundary n host hn with heq | hsuffix
  · exact ⟨[], heq⟩
  · exact (List.suffix_cons '.' _).trans hsuffix

/-! ## The registrable domain -/

/-- A host without the dots at its end. -/
def undotted (host : List Char) : List Char := host.rdropWhile (· == '.')

/-- How many labels the registrable domain of a host has, where it has so many. -/
def labelCount (host : List Char) : Nat :=
  if String.ofList (lastLabels 2 host) ∈ twoLabelSuffixes then 3 else 2

theorem labelCount_pos (host : List Char) : 0 < labelCount host := by
  unfold labelCount
  split <;> omega

theorem two_le_labelCount (host : List Char) : 2 ≤ labelCount host := by
  unfold labelCount
  split <;> omega

theorem length_splitOn_of_not_mem (h : '.' ∉ host) : (host.splitOn '.').length = 1 := by
  rw [List.splitOn_eq_singleton h, List.length_singleton]

theorem length_splitOn_append_cons (front back : List Char) :
    ((front ++ '.' :: back).splitOn '.').length
      = (front.splitOn '.').length + (back.splitOn '.').length := by
  rw [List.splitOn_append_cons_self, List.length_append]

/-- **The last dots of a host mark off its last labels.** -/
theorem registrable_eq (host : List Char) :
    registrable host = lastLabels (labelCount (undotted host)) (undotted host) := by
  have hundotted : (host.reverse.dropWhile (· == '.')).reverse = undotted host := rfl
  rw [registrable, hundotted]
  generalize undotted host = host
  -- a host of one label or two is its own last labels, whatever their number
  have hshort : (host.splitOn '.').length ≤ 2 → host = lastLabels (labelCount host) host :=
    fun hle => (lastLabels_of_le (Nat.le_trans hle (two_le_labelCount host))).symm
  dsimp only
  cases hcut : Text.cutLast? '.' host with
  | none =>
    have hdot := Text.cutLast?_eq_none_iff.mp hcut
    exact hshort (by rw [length_splitOn_of_not_mem hdot]; omega)
  | some parts =>
    obtain ⟨front, last⟩ := parts
    obtain ⟨rfl, hlast⟩ := Text.eq_append_of_cutLast? hcut
    dsimp only
    cases hcut' : Text.cutLast? '.' front with
    | none =>
      have hdot := Text.cutLast?_eq_none_iff.mp hcut'
      refine hshort ?_
      rw [length_splitOn_append_cons, length_splitOn_of_not_mem hdot,
        length_splitOn_of_not_mem hlast]
    | some parts =>
      obtain ⟨before, second⟩ := parts
      obtain ⟨rfl, hsecond⟩ := Text.eq_append_of_cutLast? hcut'
      have htwo : ((second ++ '.' :: last).splitOn '.').length = 2 := by
        rw [length_splitOn_append_cons, length_splitOn_of_not_mem hsecond,
          length_splitOn_of_not_mem hlast]
      have hsuffix : lastLabels 2 ((before ++ '.' :: second) ++ '.' :: last)
          = second ++ '.' :: last := by
        rw [List.append_assoc, List.cons_append, lastLabels_append_cons (Nat.le_of_eq htwo.symm),
          lastLabels_of_le (Nat.le_of_eq htwo)]
      dsimp only
      rw [labelCount, hsuffix]
      simp only [isTwoLabelSuffix_iff]
      split
      · next hlisted =>
        cases hcut'' : Text.cutLast? '.' before with
        | none =>
          have hdot := Text.cutLast?_eq_none_iff.mp hcut''
          refine (lastLabels_of_le ?_).symm
          rw [List.append_assoc, List.cons_append, length_splitOn_append_cons,
            length_splitOn_of_not_mem hdot, htwo]
        | some parts =>
          obtain ⟨beyond, third⟩ := parts
          obtain ⟨rfl, hthird⟩ := Text.eq_append_of_cutLast? hcut''
          have hthree : ((third ++ '.' :: (second ++ '.' :: last)).splitOn '.').length = 3 := by
            rw [length_splitOn_append_cons, length_splitOn_of_not_mem hthird, htwo]
          rw [List.append_assoc, List.append_assoc, List.cons_append, List.cons_append,
            lastLabels_append_cons (Nat.le_of_eq hthree.symm),
            lastLabels_of_le (Nat.le_of_eq hthree)]
      · exact hsuffix.symm

/-- **Labels are taken whole**, so it stands behind a dot or is all there is. -/
theorem registrable_boundary (host : List Char) :
    registrable host = undotted host ∨ '.' :: registrable host <:+ undotted host := by
  rw [registrable_eq]
  exact lastLabels_boundary _ _ (labelCount_pos _)

/-- Dots at the end do not come back. -/
theorem undotted_registrable (host : List Char) :
    undotted (registrable host) = registrable host := by
  refine List.rdropWhile_eq_self_iff.mpr fun hne => ?_
  have hsuffix : registrable host <:+ undotted host := by
    rw [registrable_eq]
    exact lastLabels_suffix _ (labelCount_pos _)
  have hne' : undotted host ≠ [] := fun hnil => hne (List.suffix_nil.mp (hnil ▸ hsuffix))
  rw [hsuffix.getLast hne]
  exact List.rdropWhile_last_not _ _ hne'

/-- A registrable domain is its own. -/
theorem registrable_registrable (host : List Char) :
    registrable (registrable host) = registrable host := by
  have hcount : labelCount (registrable host) = labelCount (undotted host) := by
    rw [registrable_eq, labelCount, lastLabels_lastLabels (by omega) (two_le_labelCount _)]
    rfl
  rw [registrable_eq (registrable host), undotted_registrable, hcount, registrable_eq host,
    lastLabels_lastLabels (labelCount_pos _) (Nat.le_refl _)]

/-! ## Below a registrable domain -/

/-- A domain that is registered below a public suffix. -/
structure IsRegistered (domain : List Char) : Prop where
  /-- It is the registrable domain of a host. -/
  exists_host : ∃ host, registrable host = domain
  /-- It has a label before the last one. -/
  two_le_labels : 2 ≤ (domain.splitOn '.').length
  /-- It is not a public suffix itself. -/
  not_listed : String.ofList domain ∉ twoLabelSuffixes

/-- Such a domain has all the labels that its kind of suffix asks for. -/
theorem IsRegistered.labelCount_le (h : IsRegistered domain) :
    labelCount domain ≤ (domain.splitOn '.').length := by
  have hlabels := h.two_le_labels
  unfold labelCount
  split
  · next hlisted =>
    -- with two labels it would be the suffix that is listed
    by_contra hlt
    rw [lastLabels_of_le (by omega)] at hlisted
    exact h.not_listed hlisted
  · exact hlabels

/-- **Whatever stands before it, a registered domain is found.** -/
theorem IsRegistered.registrable_append (h : IsRegistered domain) (front : List Char) :
    registrable (front ++ '.' :: domain) = domain := by
  obtain ⟨host, hhost⟩ := h.exists_host
  have hself : registrable domain = domain := hhost ▸ registrable_registrable host
  have hends : undotted domain = domain := hhost ▸ undotted_registrable host
  have hne : domain ≠ [] := by
    rintro rfl
    exact absurd h.two_le_labels (by decide)
  have hends' : undotted (front ++ '.' :: domain) = front ++ '.' :: domain := by
    refine List.rdropWhile_eq_self_iff.mpr fun hlong => ?_
    rw [List.getLast_append_of_ne_nil _ (List.cons_ne_nil _ _), List.getLast_cons hne]
    exact List.rdropWhile_eq_self_iff.mp hends hne
  have hcount : labelCount (front ++ '.' :: domain) = labelCount domain := by
    rw [labelCount, lastLabels_append_cons h.two_le_labels]
    rfl
  rw [registrable_eq, hends] at hself
  rw [registrable_eq, hends', hcount, lastLabels_append_cons h.labelCount_le, hself]

theorem IsRegistered.registrable_of_covers (h : IsRegistered domain)
    (hcovers : covers domain host) : registrable host = domain := by
  rcases covers_iff.mp hcovers with rfl | ⟨front, rfl⟩
  · obtain ⟨other, rfl⟩ := h.exists_host
    exact registrable_registrable other
  · exact h.registrable_append front

/-- **The registrable domain goes by labels**: of a host without the dots at its end, it is the last
three labels where the last two are in the table, and else the last two, or all there are. Taken
again it is the same; and hosts at or below the same registered domain are of one party. -/
theorem registrable_by_labels :
    (∀ host,
      (String.ofList (lastLabels 2 (undotted host)) ∈ twoLabelSuffixes →
        registrable host = lastLabels 3 (undotted host)) ∧
      (String.ofList (lastLabels 2 (undotted host)) ∉ twoLabelSuffixes →
        registrable host = lastLabels 2 (undotted host)) ∧
      (registrable host = undotted host ∨ '.' :: registrable host <:+ undotted host) ∧
      registrable (registrable host) = registrable host) ∧
    ∀ domain, IsRegistered domain →
      (∀ front, registrable (front ++ '.' :: domain) = domain) ∧
      ∀ page request, covers domain page → covers domain request →
        differ page request = false := by
  constructor
  · intro host
    refine ⟨fun hlisted => ?_, fun hlisted => ?_, registrable_boundary host,
      registrable_registrable host⟩
    · rw [registrable_eq, labelCount, if_pos hlisted]
    · rw [registrable_eq, labelCount, if_neg hlisted]
  · intro domain h
    refine ⟨h.registrable_append, fun page request hpage hrequest => ?_⟩
    rw [differ, h.registrable_of_covers hpage, h.registrable_of_covers hrequest]
    exact bne_self_eq_false _

theorem isRegistered_shop : IsRegistered "shop.com.au".toList where
  exists_host := ⟨"www.shop.com.au.".toList, (registrable_eq _).trans (by decide +kernel)⟩
  two_le_labels := by decide
  not_listed := by decide +kernel

/-- A suffix of two labels, and labels before it that are empty. -/
theorem registrable_by_labels_shop :
    (String.ofList (lastLabels 2 (undotted "..shop.com.au..".toList)) ∈ twoLabelSuffixes ∧
      registrable "..shop.com.au..".toList
        = lastLabels 3 (undotted "..shop.com.au..".toList)) ∧
    (String.ofList (lastLabels 2 (undotted "a..com".toList)) ∉ twoLabelSuffixes ∧
      registrable "a..com".toList = lastLabels 2 (undotted "a..com".toList)) ∧
    IsRegistered "shop.com.au".toList ∧
    registrable ("..".toList ++ '.' :: "shop.com.au".toList) = "shop.com.au".toList ∧
    covers "shop.com.au".toList "shop.com.au".toList ∧
    covers "shop.com.au".toList "a.shop.com.au".toList ∧
    differ "shop.com.au".toList "a.shop.com.au".toList = false := by
  have hlisted : String.ofList (lastLabels 2 (undotted "..shop.com.au..".toList))
      ∈ twoLabelSuffixes := by decide +kernel
  have hunlisted : String.ofList (lastLabels 2 (undotted "a..com".toList))
      ∉ twoLabelSuffixes := by decide +kernel
  have hpage : covers "shop.com.au".toList "shop.com.au".toList := by decide
  have hrequest : covers "shop.com.au".toList "a.shop.com.au".toList := by decide
  obtain ⟨hfront, hparty⟩ := registrable_by_labels.2 _ isRegistered_shop
  exact ⟨⟨hlisted, (registrable_by_labels.1 _).1 hlisted⟩,
    ⟨hunlisted, (registrable_by_labels.1 _).2.1 hunlisted⟩, isRegistered_shop,
    hfront "..".toList, hpage, hrequest, hparty _ _ hpage hrequest⟩

end Host

end Blocklist
