import Blocklist.Filter.Match
import Blocklist.Proofs.Filter.Glob
import Blocklist.Proofs.Host.Covering
import Blocklist.Proofs.Text.Utf8
import Blocklist.Proofs.Url
/-!
# Filters — the tokens of what they match

A filter is filed under groups of tokens. Main statements: every word that a
pattern is filed under stands in the addresses it matches as a word of theirs
(`exists_run_of_mem_ofPattern`), and a request that the filter matches has all
tokens of one of its groups (`exists_tokenGroup_of_isMatchBy`), be they words
of the address or the page that asks.
-/

namespace Blocklist

/-! ## The tokens of a request -/

namespace Request

/-- The tokens of the host that asks, and of its parents. -/
def hostTokens (r : Request) : List UInt32 :=
  (Host.suffixes r.sourceHost.toList).map fun host => hashText (String.ofList host)

/-- The tokens of the words of the address. -/
def wordTokens (r : Request) : List UInt32 :=
  Token.ofUrl (Text.utf8 (String.ofList r.lowerUrl))

/-- All tokens of a request, were there no end to the buffer. -/
def tokens (r : Request) : List UInt32 := r.hostTokens ++ r.wordTokens

end Request

/-! ## Words -/

namespace Token

/-- A word that stands in an address is one of its tokens. -/
theorem hashToken_mem_ofUrl {front body back : List UInt8} (hlength : leastLength ≤ body.length)
    (hall : ∀ b ∈ body, isWordByte b) (hfront : ∀ b ∈ front.getLast?, isWordByte b = false)
    (hback : ∀ b ∈ back.head?, isWordByte b = false) :
    hashToken body ∈ ofUrl (front ++ body ++ back) := by
  have hne : body ≠ [] := by
    rintro rfl
    exact absurd hlength (by decide)
  have hmaximal : Run.IsMaximal isWordByte ⟨front.getLast?, body, back.head?⟩ :=
    ⟨hne, hall, hfront, hback⟩
  have hrun : ⟨front.getLast?, body, back.head?⟩ ∈ runs isWordByte (front ++ body ++ back) :=
    mem_runs_iff.mpr ⟨hmaximal, front, back, rfl, (Option.or_none ..).symm, rfl⟩
  rw [ofUrl, List.mem_map]
  exact ⟨_, List.mem_filter.mpr ⟨hrun, decide_eq_true hlength⟩, rfl⟩

/-- It is so in lower case as well. -/
theorem hashToken_map_lowerByte_mem_ofUrl {front body back : List UInt8}
    (hlength : leastLength ≤ body.length) (hall : ∀ b ∈ body, isWordByte b)
    (hfront : ∀ b ∈ front.getLast?, isWordByte b = false)
    (hback : ∀ b ∈ back.head?, isWordByte b = false) :
    hashToken (body.map lowerByte) ∈ ofUrl ((front ++ body ++ back).map lowerByte) := by
  rw [List.map_append, List.map_append]
  refine hashToken_mem_ofUrl (by rwa [List.length_map]) ?_ ?_ ?_
  · intro b hb
    obtain ⟨c, hc, rfl⟩ := List.mem_map.mp hb
    rw [Text.isWordByte_lowerByte]
    exact hall c hc
  · intro b hb
    rw [List.getLast?_map] at hb
    obtain ⟨c, hc, rfl⟩ := Option.map_eq_some_iff.mp hb
    rw [Text.isWordByte_lowerByte]
    exact hfront c hc
  · intro b hb
    rw [List.head?_map] at hb
    obtain ⟨c, hc, rfl⟩ := Option.map_eq_some_iff.mp hb
    rw [Text.isWordByte_lowerByte]
    exact hback c hc

end Token

/-! ## Patterns -/

/-- The words of a pattern are among the words of what it matches, even where it matches from the
middle of an address, as long as no word is cut there. -/
theorem Glob.hashToken_mem_ofUrl_of_isMatch {left right openStart openEnd : Bool}
    {pattern lead input : List UInt8} (h : isMatch left right pattern input) {r : Token.Run}
    (hr : r ∈ Token.runs Token.isWordByte pattern) (hwhole : r.isWhole openStart openEnd)
    (hleft : openStart = false → left) (hright : openEnd = false → right)
    (hlead : ∀ b ∈ lead.getLast?, Token.isWordByte b = false) :
    hashToken (r.body.map Token.lowerByte)
      ∈ Token.ofUrl ((lead ++ input).map Token.lowerByte) := by
  obtain ⟨front, back, rfl, -, hfront, hback⟩ :=
    exists_word_of_isMatch h hr hwhole hleft hright
  have hlength : Token.leastLength ≤ r.body.length := by
    simp only [Token.Run.isWhole, Bool.and_eq_true, decide_eq_true_eq] at hwhole
    exact hwhole.1.1.1.1
  rw [← List.append_assoc, ← List.append_assoc]
  refine Token.hashToken_map_lowerByte_mem_ofUrl hlength (Token.mem_runs_iff.mp hr).1.all ?_ hback
  rw [List.getLast?_append]
  intro b hb
  cases hlast : front.getLast? with
  | none => exact hlead b (by rwa [hlast] at hb)
  | some c => exact hfront b (by rwa [hlast] at hb ⊢)

namespace NetworkFilter

variable {search : RegexSearch} {f : NetworkFilter} {r : Request}

/-- Case does not matter to the words of the address. -/
theorem map_lowerByte_comparedUrl (f : NetworkFilter) (r : Request) :
    (Text.utf8 (String.ofList (f.comparedUrl r))).map Token.lowerByte
      = Text.utf8 (String.ofList r.lowerUrl) := by
  unfold comparedUrl
  split
  · rw [Request.lowerUrl, Text.utf8_lower]
  · rw [Request.lowerUrl, Text.utf8_lower, Text.map_lowerByte_map]

/-- The words of a pattern are among the words of an address that it matches, however many they
are. -/
theorem mem_wordTokens_of_mem_ofPattern (hregex : ¬ f.mask.has .regex)
    (h : f.patternMatches search r) {token : UInt32}
    (htoken : token ∈ Token.ofPattern (!(f.mask.has .leftAnchor || f.mask.has .hostAnchor))
      (!f.mask.has .rightAnchor) (Text.utf8 f.pattern)) : token ∈ r.wordTokens := by
  simp only [Token.ofPattern, List.mem_map, List.mem_filter] at htoken
  obtain ⟨run, ⟨hrun, hwhole⟩, rfl⟩ := htoken
  rw [patternMatches, if_neg hregex] at h
  rw [Request.wordTokens, ← map_lowerByte_comparedUrl f r]
  have hright : (!f.mask.has .rightAnchor) = false → f.mask.has .rightAnchor := by simp
  split at h
  · next hhost =>
    split at h
    · simp at h
    · next parts hparts =>
      -- the pattern matches from a label on, and no word is cut where a label begins
      obtain ⟨start, hstart, hmatch⟩ := List.any_eq_true.mp h
      obtain ⟨front, c, hurl, hc⟩ := Url.eq_append_of_mem_labelStarts hparts hstart
      rw [hurl, Text.utf8_ofList_append]
      refine Glob.hashToken_mem_ofUrl_of_isMatch hmatch hrun hwhole (fun _ => rfl) hright ?_
      have hascii : c.toNat < 128 := by rcases hc with rfl | rfl | rfl | rfl <;> decide
      rw [Text.getLast?_utf8_append_ascii front hascii]
      intro b hb
      obtain rfl := Option.some.inj hb
      rcases hc with rfl | rfl | rfl | rfl <;> rfl
  · next hhost =>
    have hleft : (!(f.mask.has .leftAnchor || f.mask.has .hostAnchor)) = false →
        f.mask.has .leftAnchor := by simp [hhost]
    have hlead : ∀ b ∈ ([] : List UInt8).getLast?, Token.isWordByte b = false := by simp
    rw [← List.nil_append (Text.utf8 _)]
    exact Glob.hashToken_mem_ofUrl_of_isMatch h hrun hwhole hleft hright hlead

/-- **A pattern that matches an address has its tokens among the address's words.** -/
theorem mem_wordTokens_of_patternMatches (h : f.patternMatches search r) {token : UInt32}
    (htoken : token ∈ f.patternTokens) : token ∈ r.wordTokens := by
  unfold patternTokens at htoken
  split at htoken
  · exact absurd htoken List.not_mem_nil
  · next hregex =>
    rw [TokenBuffer.tokens_extend] at htoken
    exact mem_wordTokens_of_mem_ofPattern hregex h (List.mem_of_mem_take htoken)

/-- **Every word that a pattern is filed under is a word of what it matches**: its hash is that of
some run of two letters and digits or more in the address in lower case, with neither letter nor
digit on either side. -/
theorem exists_run_of_mem_ofPattern (hregex : ¬ f.mask.has .regex)
    (h : f.patternMatches search r) {token : UInt32}
    (htoken : token ∈ Token.ofPattern (!(f.mask.has .leftAnchor || f.mask.has .hostAnchor))
      (!f.mask.has .rightAnchor) (Text.utf8 f.pattern)) :
    ∃ run : Token.Run, run.IsMaximal Token.isWordByte ∧
      run.StandsIn none (Text.utf8 (String.ofList r.lowerUrl)) ∧
      Token.leastLength ≤ run.body.length ∧ hashToken run.body = token := by
  have hword := mem_wordTokens_of_mem_ofPattern hregex h htoken
  simp only [Request.wordTokens, Token.ofUrl, List.mem_map, List.mem_filter, decide_eq_true_eq]
    at hword
  obtain ⟨run, ⟨hrun, hlength⟩, hhash⟩ := hword
  obtain ⟨hmaximal, hstands⟩ := Token.mem_runs_iff.mp hrun
  exact ⟨run, hmaximal, hstands, hlength, hhash⟩

/-- A pattern between its anchors, with a wildcard, a word in capitals and words at both ends. -/
def anchoredFilter : NetworkFilter where
  mask := .make .full [.firstParty, .thirdParty, .hostAnchor, .rightAnchor, .matchCase]
  pattern := "ads.example^*/Banner/x*y/end"

/-- A request that it matches from the second label of its host on. -/
def anchoredRequest : Request :=
  .ofHost "https://me@cdn.ads.example:80/a/Banner/x1y/end" .full "news.example" true

theorem exists_run_of_mem_ofPattern_anchored :
    anchoredFilter.patternMatches .compiled anchoredRequest ∧
      (Token.ofPattern false false (Text.utf8 anchoredFilter.pattern)).length = 4 ∧
      ∀ token ∈ Token.ofPattern false false (Text.utf8 anchoredFilter.pattern),
        ∃ run : Token.Run, run.IsMaximal Token.isWordByte ∧
          run.StandsIn none (Text.utf8 (String.ofList anchoredRequest.lowerUrl)) ∧
          Token.leastLength ≤ run.body.length ∧ hashToken run.body = token := by
  have hmatch : anchoredFilter.patternMatches .compiled anchoredRequest := by decide +kernel
  exact ⟨hmatch, by decide +kernel,
    fun token htoken => exists_run_of_mem_ofPattern (by decide) hmatch htoken⟩

/-- A word that may be longer in the address is no token of a pattern. -/
example : Token.ofPattern true true (Text.utf8 "ads/banner*top/X1.js") = [hashText "x1"] := by
  decide +kernel

/-! ## Groups -/

/-- **A request that a filter matches has all tokens of one of the filter's groups.** -/
theorem exists_tokenGroup_of_isMatchBy (h : f.isMatchBy search r) :
    ∃ group ∈ f.tokenGroups, ∀ token ∈ group, token ∈ r.tokens := by
  simp only [isMatchBy, Bool.and_eq_true] at h
  obtain ⟨⟨⟨-, hpage⟩, -⟩, hpattern⟩ := h
  have hwords : ∀ token ∈ f.patternTokens, token ∈ r.tokens :=
    fun token ht => List.mem_append_right _ (mem_wordTokens_of_patternMatches hpattern ht)
  unfold tokenGroups
  dsimp only
  split
  · next domains hdomains =>
    split
    · next hdispatch =>
      obtain ⟨-, hpositive⟩ := Bool.and_eq_true_iff.mp hdispatch
      have hadmits : domains.admits r.sourceHost.toList := by
        rw [pageMatches, hdomains] at hpage
        exact hpage
      -- filed under its pages: the one that lets this page in is among the parents of its host
      obtain ⟨entry, hentry, hsuffix⟩ := HostList.exists_positive_mem_suffixes hpositive hadmits
      refine ⟨_, List.mem_map_of_mem hentry, fun token ht => List.mem_append_left _ ?_⟩
      obtain rfl := List.mem_singleton.mp ht
      exact List.mem_map_of_mem hsuffix
    · exact ⟨_, List.mem_singleton_self _, hwords⟩
  · exact ⟨_, List.mem_singleton_self _, hwords⟩

end NetworkFilter

end Blocklist
