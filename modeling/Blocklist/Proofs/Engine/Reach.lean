import Blocklist.Engine.Decide
import Blocklist.Proofs.Filter.Tokens
import Blocklist.Proofs.Index.Lookup
import Blocklist.Proofs.Positions
/-!
# Engine — which filters a request reaches

Of the tokens of a request no more are looked up than fit into a buffer, the
page's first. A filter is reached where one of those that it is filed under
is among them: `reaches` says so without an index, and the candidates of an
index are exactly the filters reached (`mem_candidates_iff_reaches`). What
matches and is not reached is filed under a token that came too late
(`exists_late_of_not_reaches`); so nothing that matches is missed where all
tokens fit (`reaches_of_isMatchBy`).
-/

namespace Blocklist

/-! ## Parts -/

/-- A badfilter plays no part, and every other filter plays one. -/
theorem NetworkFilter.role?_eq_none_iff {f : NetworkFilter} :
    f.role? = none ↔ f.mask.has .badfilter := by
  unfold role?
  split
  · next h => simp [h]
  · next h =>
    simp only [h]
    split_ifs <;> simp

/-- The index in which the filters that play a part are filed. -/
def Indexes.ofRole (indexes : Indexes) : NetworkRole → TokenIndex
  | .block => indexes.blocks
  | .exception => indexes.exceptions
  | .redirect => indexes.redirects
  | .csp => indexes.csp

theorem Indexes.ofRole_build (network : List NetworkFilter) (cosmetic : List CosmeticFilter)
    (role : NetworkRole) :
    (Indexes.build network cosmetic).ofRole role = .build (networkEntries role network) := by
  cases role <;> rfl

namespace Engine

variable {search : RegexSearch} {network : List NetworkFilter} {cosmetic : List CosmeticFilter}
variable {role : NetworkRole} {f : NetworkFilter} {r : Request} {i : Nat}

/-! ## Tokens that are looked up -/

/-- The tokens that fit are looked up, in the order in which the request has them. -/
theorem requestTokens_eq_take (r : Request) : requestTokens r = r.tokens.take tokenCapacity := by
  have htake : requestTokens r = ((r.hostTokens).take tokenCapacity ++ r.wordTokens).take
      tokenCapacity := by
    simp only [requestTokens, TokenBuffer.tokens_extend]
    rfl
  rw [htake, TokenBuffer.take_take_append, Request.tokens]

theorem mem_networkEntries {entry : IndexEntry} :
    entry ∈ Indexes.networkEntries role network
      ↔ ∃ f, network[entry.position]? = some f ∧ f.role? = some role
        ∧ entry.groups = f.tokenGroups := by
  simp only [Indexes.networkEntries, List.mem_map, List.mem_filter, List.mem_zipIdx_iff_getElem?,
    beq_iff_eq]
  constructor
  · rintro ⟨⟨f, i⟩, ⟨hi, hrole⟩, rfl⟩
    exact ⟨f, hi, hrole, rfl⟩
  · rintro ⟨f, hi, hrole, hgroups⟩
    exact ⟨(f, entry.position), ⟨hi, hrole⟩, by rw [← hgroups]⟩

/-! ## Reach -/

/-- What a filter is filed under in the index of a part: a token for each of its groups, and
nothing for a group without tokens. -/
def filedUnder (network : List NetworkFilter) (role : NetworkRole) (f : NetworkFilter) :
    List (Option UInt32) :=
  f.tokenGroups.map
    (TokenIndex.rarest? (TokenIndex.countsOf (Indexes.networkEntries role network)))

/-- Whether a request reaches a filter: the filter plays a part, and one of the tokens that it is
filed under there is looked up, or it is filed under nothing. -/
def reaches (network : List NetworkFilter) (r : Request) (f : NetworkFilter) : Bool :=
  f.role?.any fun role => (filedUnder network role f).any (·.all (requestTokens r).contains)

/-- The filters that a request reaches, in order. -/
def reached (network : List NetworkFilter) (r : Request) : List NetworkFilter :=
  network.filter (reaches network r)

theorem reaches_iff (hrole : f.role? = some role) :
    reaches network r f ↔ ∃ group ∈ f.tokenGroups, ∀ token,
      TokenIndex.rarest? (TokenIndex.countsOf (Indexes.networkEntries role network)) group
        = some token → token ∈ requestTokens r := by
  simp only [reaches, filedUnder, hrole, Option.any_some, List.any_map, List.any_eq_true,
    Function.comp_apply, Option.all_eq_true, List.contains_iff_mem]

/-- A filter with a single token is filed under it, whatever else is filed. -/
theorem reaches_iff_of_tokenGroups_eq {token : UInt32} (hrole : f.role? = some role)
    (hgroups : f.tokenGroups = [[token]]) : reaches network r f ↔ token ∈ requestTokens r := by
  rw [reaches_iff hrole, hgroups]
  simp

/-- Every filter has a group of tokens, if an empty one. -/
@[simp] theorem tokenGroups_ne_nil (f : NetworkFilter) : f.tokenGroups ≠ [] := by
  unfold NetworkFilter.tokenGroups
  dsimp only
  split
  · split
    · next domains _ h =>
      have hpositive : domains.positive ≠ [] := by
        simpa [HostList.hasPositive] using (Bool.and_eq_true_iff.mp h).2
      simpa using hpositive
    · exact List.cons_ne_nil _ _
  · exact List.cons_ne_nil _ _

/-- **The candidates of an index are the filters that the request reaches**, however many tokens it
has. -/
theorem mem_candidates_iff_reaches (hi : network[i]? = some f) (hrole : f.role? = some role) :
    i ∈ (TokenIndex.build (Indexes.networkEntries role network)).candidates (requestTokens r)
      ↔ reaches network r f := by
  rw [TokenIndex.mem_candidates_build, reaches_iff hrole]
  constructor
  · rintro ⟨entry, hentry, rfl, hgroups⟩
    obtain ⟨g, hg, -, hsame⟩ := mem_networkEntries.mp hentry
    obtain rfl := Option.some.inj (hi.symm.trans hg)
    rw [hsame] at hgroups
    exact hgroups.resolve_left (tokenGroups_ne_nil f)
  · intro hgroups
    exact ⟨⟨i, f.tokenGroups⟩, mem_networkEntries.mpr ⟨f, hi, hrole, rfl⟩, rfl, .inr hgroups⟩

/-- **Only a late token keeps a filter that matches from being reached**: it is filed under one
that the request has, but not among the first. -/
theorem exists_late_of_not_reaches (hmatch : f.isMatchBy search r) (hrole : f.role? = some role)
    (h : ¬ reaches network r f) :
    ∃ token, some token ∈ filedUnder network role f ∧ token ∉ r.tokens.take tokenCapacity
      ∧ token ∈ r.tokens.drop tokenCapacity := by
  obtain ⟨group, hgroup, htokens⟩ := NetworkFilter.exists_tokenGroup_of_isMatchBy hmatch
  rw [reaches_iff hrole] at h
  push Not at h
  obtain ⟨token, hrarest, hnot⟩ := h group hgroup
  rw [requestTokens_eq_take] at hnot
  have hmem : token ∈ r.tokens := htokens token (TokenIndex.rarest?_mem hrarest)
  rw [← List.take_append_drop tokenCapacity r.tokens, List.mem_append] at hmem
  exact ⟨token, List.mem_map.mpr ⟨group, hgroup, hrarest⟩, hnot, hmem.resolve_left hnot⟩

/-- **Where all tokens fit, every filter that matches is reached.** -/
theorem reaches_of_isMatchBy (hmatch : f.isMatchBy search r) (hrole : f.role? = some role)
    (hfits : r.tokens.length ≤ tokenCapacity) : reaches network r f := by
  by_contra h
  obtain ⟨token, -, -, hlate⟩ := exists_late_of_not_reaches hmatch hrole h
  rw [List.drop_eq_nil_of_le hfits] at hlate
  exact absurd hlate List.not_mem_nil

/-! ## Matching filters -/

/-- Nothing is lost where every filter that is chosen is reached. -/
theorem filter_reached {p : NetworkFilter → Bool} (h : ∀ f ∈ network, p f → reaches network r f) :
    (reached network r).filter p = network.filter p := by
  rw [reached, List.filter_filter]
  exact List.filter_congr fun f hf => Bool.and_eq_left_iff_imp.mpr (h f hf)

/-- **What is found in the index of a part**: the filters that play it, are reached and match. -/
theorem matching_build (search : RegexSearch) (network : List NetworkFilter)
    (cosmetic : List CosmeticFilter) (r : Request) (role : NetworkRole) :
    (Engine.build network cosmetic).matching search
        (.build (Indexes.networkEntries role network)) r
      = (reached network r).filter fun f => f.role? == some role && f.isMatchBy search r := by
  have hfetch : (fun i => (Engine.build network cosmetic).network[i]?) = (network[·]?) :=
    funext fun i => List.getElem?_toArray
  rw [matching, hfetch, reached, List.filter_filter]
  -- candidates only have to cover the matches: all else they hold is sifted out
  refine filter_filterMap_getElem?_of_pairwise (TokenIndex.pairwise_candidates _ _) ?_
  intro i f hi
  rw [Bool.and_eq_true, Bool.and_eq_true, beq_iff_eq, and_right_comm]
  refine and_congr_left fun hmatch => ⟨fun hcandidate => ?_, fun ⟨hrole, hreaches⟩ => ?_⟩
  · obtain ⟨entry, hentry, rfl, -⟩ := TokenIndex.mem_candidates_build.mp hcandidate
    obtain ⟨g, hg, hrole, -⟩ := mem_networkEntries.mp hentry
    obtain rfl := Option.some.inj (hi.symm.trans hg)
    exact ⟨hrole, (mem_candidates_iff_reaches hi hrole).mp hcandidate⟩
  · exact (mem_candidates_iff_reaches hi hrole).mpr hreaches

end Engine

end Blocklist
