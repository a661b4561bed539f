import Blocklist.Proofs.Engine.Scan
/-!
# Engine — requests with more tokens than fit

A long request is decided by the filters that its first tokens reach
(`decideBy_build_of_long`): those that are filed under nothing or under one
of these tokens. A filter that is filed under a later word is not seen, even
where it matches (`decideBy_build_ne_scan`).
-/

namespace Blocklist

namespace Engine

/-- **What decides a long request.** A filter is a candidate of its index exactly where the request
reaches it; one that matches and is not reached is filed under a token that the request has too
late; and the verdict is the one of the filters that are reached, so it is the verdict of the whole
list where each filter that matches and has a say is reached. -/
theorem decideBy_build_of_long (search : RegexSearch) (network : List NetworkFilter)
    (cosmetic : List CosmeticFilter) (r : Request) :
    (∀ i f role, network[i]? = some f → f.role? = some role →
      (i ∈ ((Engine.build network cosmetic).indexes.ofRole role).candidates (requestTokens r)
        ↔ reaches network r f)) ∧
    (∀ f role, f.role? = some role → f.isMatchBy search r → ¬ reaches network r f →
      ∃ token, some token ∈ filedUnder network role f ∧ token ∉ r.tokens.take tokenCapacity
        ∧ token ∈ r.tokens.drop tokenCapacity) ∧
    (Engine.build network cosmetic).decideBy search r = scan search (reached network r) r ∧
    ((∀ f ∈ network, f.decides → f.isMatchBy search r → reaches network r f) →
      (Engine.build network cosmetic).decideBy search r = scan search network r) := by
  have hdecide := decideBy_build_reached search network cosmetic r
  refine ⟨fun i f role hi hrole => ?_, fun f role hrole hmatch => ?_, hdecide, fun hreached => ?_⟩
  · rw [show (Engine.build network cosmetic).indexes = .build network cosmetic from rfl,
      Indexes.ofRole_build]
    exact mem_candidates_iff_reaches hi hrole
  · exact exists_late_of_not_reaches hmatch hrole
  · rw [hdecide, scan_reached hreached]

/-! ## A word that comes too late -/

/-- An address of many words, those of an advert's path among the last. -/
def longUrl : List Char :=
  "https://a.example/".toList ++ (List.replicate 200 "a1/".toList).flatten ++ "ads/x.js".toList

/-- The request of that address. -/
def longRequest : Request :=
  .ofHost (String.ofList longUrl) (.ofList [.script]) "example.org" true

/-- A filter that blocks the host. -/
def earlyFilter : NetworkFilter :=
  { mask := .make .full [.firstParty, .thirdParty], pattern := "://a.example^" }

/-- A filter that blocks the advert; `ads` is the only word that it is sure of. -/
def lateFilter : NetworkFilter :=
  { mask := .make .full [.firstParty, .thirdParty], pattern := "/ads/x." }

theorem lowerUrl_longRequest : longRequest.lowerUrl = Text.lower longUrl := by
  rw [Request.lowerUrl, longRequest, Request.ofHost, String.toList_ofList]

theorem tokens_longRequest : longRequest.tokens = longRequest.hostTokens
    ++ Token.ofUrl ((Text.lower longUrl).flatMap String.utf8EncodeChar) := by
  rw [Request.tokens, Request.wordTokens, lowerUrl_longRequest, Text.utf8_ofList]

/-- A filter for all requests and pages matches where its pattern does. -/
theorem isMatchBy_longRequest {f : NetworkFilter}
    (hmask : f.mask = .make .full [.firstParty, .thirdParty])
    (hdomains : f.domains = none) (hdenyallow : f.denyallow = none)
    (hglob : Glob.isMatch false false (Text.utf8 f.pattern)
      ((Text.lower longUrl).flatMap String.utf8EncodeChar)) :
    f.isMatchBy .compiled longRequest := by
  have hpattern : f.patternMatches .compiled longRequest := by
    rw [NetworkFilter.patternMatches, NetworkFilter.comparedUrl, lowerUrl_longRequest,
      NetworkFilter.globMatches, Text.utf8_ofList, hmask]
    exact hglob
  have hpage : f.pageMatches longRequest := by rw [NetworkFilter.pageMatches, hdomains]; rfl
  have hdenies : f.denies longRequest = false := by rw [NetworkFilter.denies, hdenyallow]; rfl
  rw [NetworkFilter.isMatchBy, hpattern, hpage, hdenies, NetworkFilter.partyMatches, hmask]
  decide

theorem isMatchBy_earlyFilter : earlyFilter.isMatchBy .compiled longRequest :=
  isMatchBy_longRequest rfl rfl rfl (by decide +kernel)

theorem isMatchBy_lateFilter : lateFilter.isMatchBy .compiled longRequest :=
  isMatchBy_longRequest rfl rfl rfl (by decide +kernel)

/-- A filter with a single token is reached where the token is among the first. -/
theorem reaches_longRequest_iff {network : List NetworkFilter} {f : NetworkFilter}
    {role : NetworkRole} {token : UInt32} (hrole : f.role? = some role)
    (hgroups : f.tokenGroups = [[token]]) : reaches network longRequest f
      ↔ token ∈ (longRequest.hostTokens
        ++ Token.ofUrl ((Text.lower longUrl).flatMap String.utf8EncodeChar)).take tokenCapacity := by
  rw [reaches_iff_of_tokenGroups_eq hrole hgroups, requestTokens_eq_take, tokens_longRequest]

theorem reaches_earlyFilter (network : List NetworkFilter) :
    reaches network longRequest earlyFilter := by
  have hrole : earlyFilter.role? = some .block := by decide
  have hgroups : earlyFilter.tokenGroups = [[hashText "example"]] := by decide +kernel
  rw [reaches_longRequest_iff hrole hgroups]
  decide +kernel

theorem not_reaches_lateFilter (network : List NetworkFilter) :
    ¬ reaches network longRequest lateFilter := by
  have hrole : lateFilter.role? = some .block := by decide
  have hgroups : lateFilter.tokenGroups = [[hashText "ads"]] := by decide +kernel
  rw [reaches_longRequest_iff hrole hgroups]
  decide +kernel

theorem decideBy_build_of_long_early :
    earlyFilter.isMatchBy .compiled longRequest
      ∧ (Engine.build [earlyFilter] []).decideBy .compiled longRequest
          = scan .compiled [earlyFilter] longRequest
      ∧ 0 ∈ ((Engine.build [earlyFilter] []).indexes.ofRole .block).candidates
          (requestTokens longRequest)
      ∧ ∃ token, some token ∈ filedUnder [earlyFilter, lateFilter] .block lateFilter
        ∧ token ∉ longRequest.tokens.take tokenCapacity
        ∧ token ∈ longRequest.tokens.drop tokenCapacity := by
  obtain ⟨hcandidate, -, -, hscan⟩ := decideBy_build_of_long .compiled [earlyFilter] [] longRequest
  obtain ⟨-, hlate, -, -⟩ :=
    decideBy_build_of_long .compiled [earlyFilter, lateFilter] [] longRequest
  refine ⟨isMatchBy_earlyFilter, hscan fun f hf _ _ => ?_, ?_, ?_⟩
  · rw [List.mem_singleton.mp hf]
    exact reaches_earlyFilter _
  · exact (hcandidate 0 earlyFilter .block rfl (by decide)).mpr (reaches_earlyFilter _)
  · exact hlate lateFilter .block (by decide) isMatchBy_lateFilter (not_reaches_lateFilter _)

/-- **A filter can be missed that matches**: where the only word that it is filed under comes too
late, it is no candidate, and what the whole list blocks goes ahead. -/
theorem decideBy_build_ne_scan :
    tokenCapacity < longRequest.tokens.length
      ∧ lateFilter.role? = some .block ∧ lateFilter.isMatchBy .compiled longRequest
      ∧ 0 ∉ ((Engine.build [lateFilter] []).indexes.ofRole .block).candidates
          (requestTokens longRequest)
      ∧ (Engine.build [lateFilter] []).decideBy .compiled longRequest = ⟨.allow, none, none⟩
      ∧ (scan .compiled [lateFilter] longRequest).decision = .block := by
  refine ⟨?_, by decide, isMatchBy_lateFilter, ?_, ?_, ?_⟩
  · rw [tokens_longRequest]
    decide +kernel
  · intro hcandidate
    exact not_reaches_lateFilter [lateFilter]
      ((mem_candidates_iff_reaches rfl (by decide)).mp hcandidate)
  · rw [decideBy_build_reached, reached,
      List.filter_cons_of_neg (not_reaches_lateFilter [lateFilter])]
    rfl
  · have hlive : live .compiled [lateFilter] longRequest = [lateFilter] := by
      rw [live, List.filter_cons_of_pos (by rw [isMatchBy_lateFilter]; decide)]
      rfl
    rw [scan, hlive]
    decide

end Engine

end Blocklist
