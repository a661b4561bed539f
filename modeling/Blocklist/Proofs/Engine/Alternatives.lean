import Blocklist.Proofs.Engine.Page
import Blocklist.Proofs.Filter.Classes
import Blocklist.Proofs.Index.Rarity
/-!
# Engine — rules with alternatives

A rule for every page that hides what has some classes, or has some others, is
filed under one token alone: that of the rarest of all these names. So a page
is looked at for this name only, and a page that shows the other alternative
alone goes without the rule (`not_mem_hide_promo`). Main statement:
`mem_hide_iff_of_alternatives`.
-/

namespace Blocklist

open ClassOrId

/-! ## The rarest name -/

namespace TokenIndex

variable {counts : Std.HashMap UInt32 UInt32} {parts : List ClassOrId} {n : Nat}

/-- **Of some names, one is the rarest**: no other weighs less. -/
theorem exists_rarest_tokensOf (counts : Std.HashMap UInt32 UInt32) (hne : parts.take n ≠ []) :
    ∃ c ∈ parts.take n,
      rarest? counts ((tokensOf parts).take n) = some (hashText (String.ofList c.name)) ∧
      ∀ d ∈ parts.take n, weight counts (hashText (String.ofList c.name))
        ≤ weight counts (hashText (String.ofList d.name)) := by
  have htokens : (tokensOf parts).take n = tokensOf (parts.take n) := List.map_take.symm
  have hmap : tokensOf (parts.take n) ≠ [] := mt List.map_eq_nil_iff.mp hne
  obtain ⟨c, hc, htoken⟩ := List.mem_map.mp (List.minOn_mem (f := weight counts) (h := hmap))
  refine ⟨c, hc, ?_, fun d hd => ?_⟩
  · rw [htokens, rarest?, List.minOn?_eq_some_minOn hmap, htoken]
  · rw [htoken]
    exact List.apply_minOn_le_of_mem (List.mem_map_of_mem hd)

end TokenIndex

namespace Engine

variable {cosmetic : List CosmeticFilter} {f : CosmeticFilter} {first second : List ClassOrId}

/-- **When a rule with alternatives applies.** Of a rule for every page, one name in the alternatives
counts, the rarest. Wherever no exception for the page takes the rule away, its selector is listed
exactly where the page shows the token of this name, or where another rule that names a host has the
selector too. -/
theorem mem_hide_iff_of_alternatives (network : List NetworkFilter) (hf : f ∈ cosmetic)
    (hacts : ¬ f.mask.has .unhide) (hhide : f.action = .hide) (hhosts : f.hostnames = none)
    (hselector : f.selector = String.ofList (alternatives first second)) (hne : first ≠ []) :
    ∃ c ∈ first ++ second,
      (∀ d ∈ (first ++ second).take tokenCapacity,
        TokenIndex.weight (TokenIndex.countsOf (Indexes.genericEntries cosmetic))
            (hashText (String.ofList c.name))
          ≤ TokenIndex.weight (TokenIndex.countsOf (Indexes.genericEntries cosmetic))
            (hashText (String.ofList d.name))) ∧
      ∀ (host : String) (domTokens : List String),
        (∀ u ∈ cosmetic, u.mask.has .unhide → u.admits (Text.lower host.toList) →
          effect u ≠ effect f) →
        (f.selector ∈ ((Engine.build network cosmetic).page host domTokens).hide ↔
          hashText (String.ofList c.name) ∈ domTokens.map hashText ∨
            ∃ g ∈ cosmetic, ¬ g.mask.has .unhide ∧ g.admits (Text.lower host.toList) ∧
              effect g = effect f ∧ g.namesHost) := by
  have htake : (first ++ second).take tokenCapacity ≠ [] := by
    rw [ne_eq, List.take_eq_nil_iff, List.append_eq_nil_iff]
    rintro (hcapacity | ⟨hnil, -⟩)
    · exact absurd hcapacity (by decide)
    · exact hne hnil
  obtain ⟨c, hc, hrarest, hleast⟩ := TokenIndex.exists_rarest_tokensOf
    (TokenIndex.countsOf (Indexes.genericEntries cosmetic)) htake
  refine ⟨c, List.mem_of_mem_take hc, hleast, fun host domTokens hspared => ?_⟩
  have hshown : isShown cosmetic domTokens f ↔
      hashText (String.ofList c.name) ∈ domTokens.map hashText := by
    rw [isShown, CosmeticFilter.selectorTokens_alternatives hhide hselector, hrarest,
      Option.all_some, List.contains_iff_mem]
  have hlasts : ∀ g, effect g = effect f → ∀ u ∈ cosmetic, u.mask.has .unhide →
      u.admits (Text.lower host.toList) → isSeen cosmetic domTokens u → effect u ≠ effect g :=
    fun g heffect u hu hunhide hadmits _ => heffect ▸ hspared u hu hunhide hadmits
  rw [← hshown]
  show f.selector ∈ ((Engine.build network cosmetic).page host domTokens).ofAction .hide ↔ _
  rw [mem_ofAction_page_build, ← hhide]
  constructor
  · rintro ⟨g, hg, hlive, heffect⟩
    rcases isSeen_iff.mp hlive.seen with hnames | hgshown
    · exact .inr ⟨g, hg, hlive.acts, hlive.admits, heffect, hnames⟩
    · exact .inl (isShown_congr heffect ▸ hgshown)
  · rintro (hfshown | ⟨g, hg, hgacts, hgadmits, heffect, hnames⟩)
    · have hadmits : f.admits (Text.lower host.toList) := by simp [CosmeticFilter.admits, hhosts]
      exact ⟨f, hf, ⟨hacts, hadmits, isSeen_iff.mpr (.inr hfshown), hlasts f rfl⟩, rfl⟩
    · exact ⟨g, hg, ⟨hgacts, hgadmits, isSeen_iff.mpr (.inl hnames), hlasts g heffect⟩, heffect⟩

/-! ## A rule that is overlooked -/

/-- The class of adverts. -/
def adsClass : ClassOrId := ⟨'.', "ads".toList, .inl rfl, by decide, by decide +kernel⟩

/-- The class of promotions. -/
def promoClass : ClassOrId := ⟨'.', "promo".toList, .inl rfl, by decide, by decide +kernel⟩

/-- A rule that hides both. -/
def adsOrPromo : CosmeticFilter where
  mask := .make []
  selector := ".ads, .promo"

theorem selector_adsOrPromo :
    adsOrPromo.selector = String.ofList (alternatives [adsClass] [promoClass]) := by decide +kernel

theorem mem_hide_iff_of_alternatives_ads :
    adsOrPromo.selector ∈ ((Engine.build [] [adsOrPromo]).page "Example.com" ["promo", "ads"]).hide
      := by
  obtain ⟨c, hc, -, hiff⟩ := mem_hide_iff_of_alternatives [] (List.mem_singleton_self adsOrPromo)
    (by decide) (by decide) rfl selector_adsOrPromo (List.cons_ne_nil _ _)
  refine (hiff "Example.com" ["promo", "ads"] ?_).mpr (.inl ?_)
  · intro u hu hunhide
    obtain rfl := List.mem_singleton.mp hu
    exact absurd hunhide (by decide)
  · rcases List.mem_pair.mp hc with rfl | rfl
    · exact List.mem_cons_of_mem _ (List.mem_singleton_self _)
    · exact List.mem_cons_self

/-- Both names come once, so the first one counts. -/
theorem rarest?_adsOrPromo :
    TokenIndex.rarest? (TokenIndex.countsOf (Indexes.genericEntries [adsOrPromo]))
      adsOrPromo.selectorTokens = some (hashText "ads") := by
  have htokens : adsOrPromo.selectorTokens = [hashText "ads", hashText "promo"] := by decide +kernel
  have hentries : (Indexes.genericEntries [adsOrPromo]).flatMap (fun entry => entry.groups.flatten)
      = [hashText "ads", hashText "promo"] := by decide +kernel
  rw [htokens, TokenIndex.countsOf, hentries]
  refine TokenIndex.rarest?_pair ?_
  rw [TokenIndex.weight, TokenIndex.weight, TokenIndex.getD_histogram, TokenIndex.getD_histogram]
  decide +kernel

/-- **A rule with alternatives may be overlooked**: the page shows all of the second one, no
exception takes the rule away, and its selector is not listed. -/
theorem not_mem_hide_promo :
    adsOrPromo.selector = String.ofList (alternatives [adsClass] [promoClass]) ∧
      adsOrPromo.action = .hide ∧ adsOrPromo.hostnames = none ∧
      (∀ u ∈ [adsOrPromo], ¬ u.mask.has .unhide) ∧
      (∀ c ∈ [promoClass], String.ofList c.name ∈ ["promo"]) ∧
      adsOrPromo.selector
        ∉ ((Engine.build [] [adsOrPromo]).page "example.com" ["promo"]).hide := by
  refine ⟨selector_adsOrPromo, by decide, rfl, by decide, by decide, ?_⟩
  intro hlisted
  have hmem : adsOrPromo.selector
      ∈ ((Engine.build [] [adsOrPromo]).page "example.com" ["promo"]).ofAction .hide := hlisted
  obtain ⟨g, hg, hlive, -⟩ := mem_ofAction_page_build.mp hmem
  obtain rfl := List.mem_singleton.mp hg
  have hshown := (isSeen_iff.mp hlive.seen).resolve_left (by decide)
  rw [isShown, rarest?_adsOrPromo] at hshown
  exact absurd hshown (by decide +kernel)

end Engine

end Blocklist
