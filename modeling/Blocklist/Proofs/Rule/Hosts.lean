import Blocklist.Idna.Name
import Blocklist.Proofs.Filter.Labels
import Blocklist.Proofs.Filter.Mask
import Blocklist.Proofs.Rule.Reading
import Blocklist.Proofs.Text.Cut
/-!
# Rules — entries of hosts files

The entry of a domain is read as the pattern `||domain^` is
(`NetworkFilter.ofLine_anchoredLine`), and it blocks the domain and all below
it, whoever asks and whatever follows the host
(`NetworkFilter.isMatchBy_blockDomain_iff`). Main statement:
`NetworkFilter.ofLine_hostsEntry`.
-/

namespace Blocklist

/-- A text without blanks is a word. -/
theorem Text.words_eq_singleton {text : List Char} (hne : text ≠ [])
    (hfree : ∀ c ∈ text, isBlank c = false) : words text = [text] := by
  have hlead : ∀ c ∈ ([] : List Char).getLast?, isBlank c := by simp
  exact words_append_word hlead hne hfree

namespace NetworkRule

variable {c : Char} {domain : List Char} {idna : ToAscii} {regex : RegexCheck}

/-! ## Domains of ASCII -/

/-- A character of a domain is no blank, parts no options and ends no host. -/
theorem plain_of_isDomainChar (h : isDomainChar c) :
    c.toNat < 128 ∧ Text.isBlank c = false ∧ c ≠ '$' ∧ endsHost c = false := by
  have hascii : c.toNat < 128 := by
    simp only [isDomainChar, Text.isAlphanum, Bool.or_eq_true, beq_iff_eq] at h
    rcases h with ((h | rfl) | rfl) | rfl
    · rw [Text.isAlphanum_iff] at h
      omega
    all_goals decide
  have hall : ∀ n < 128, isDomainChar (Char.ofNat n) →
      Text.isBlank (Char.ofNat n) = false ∧ Char.ofNat n ≠ '$'
        ∧ endsHost (Char.ofNat n) = false := by decide
  have hspec := hall c.toNat hascii
  rw [Char.ofNat_toNat] at hspec
  exact ⟨hascii, hspec h⟩

theorem isAscii_of_isDomainChar (h : ∀ c ∈ domain, isDomainChar c) : Text.isAscii domain :=
  Text.isAscii_iff.mpr fun c hc => (plain_of_isDomainChar (h c hc)).1

/-- The pattern that blocks a domain and all below it. -/
def anchoredPattern (domain : List Char) : List Char := '|' :: '|' :: (domain ++ ['^'])

/-- What is neither mark nor anchor of that pattern is the domain and the mark behind it. -/
theorem mem_anchoredPattern {domain : List Char} :
    c ∈ anchoredPattern domain ↔ c = '|' ∨ c ∈ domain ∨ c = '^' := by
  simp [anchoredPattern]

@[simp] theorem anchoredPattern_ne_nil (domain : List Char) : anchoredPattern domain ≠ [] :=
  List.cons_ne_nil _ _

/-- The pattern is one word, so it is no entry. -/
theorem hostsDomain?_anchoredPattern (h : ∀ c ∈ domain, isDomainChar c) :
    hostsDomain? idna (anchoredPattern domain) = .ok none := by
  have hfree : ∀ c ∈ anchoredPattern domain, Text.isBlank c = false := by
    intro c hc
    rcases mem_anchoredPattern.mp hc with rfl | hmem | rfl
    · decide
    · exact (plain_of_isDomainChar (h c hmem)).2.1
    · decide
  rw [hostsDomain?_eq_none_iff, Text.words_eq_singleton (anchoredPattern_ne_nil domain) hfree]
  intro first second rest hwords
  cases hwords

theorem regexSource?_anchoredPattern (domain : List Char) :
    regexSource? (anchoredPattern domain) = none := by
  rw [Option.eq_none_iff_forall_ne_some]
  intro source h
  exact absurd (List.cons.inj (regexSource?_eq_some_iff.mp h).1).1 (by decide)

/-- It has no options. -/
theorem cutOptions_anchoredPattern (h : ∀ c ∈ domain, isDomainChar c) :
    cutOptions (anchoredPattern domain) = (anchoredPattern domain, none) := by
  have hdollar : '$' ∉ (anchoredPattern domain).reverse := by
    rw [List.mem_reverse, mem_anchoredPattern]
    rintro (hc | hmem | hc)
    · cases hc
    · exact (plain_of_isDomainChar (h _ hmem)).2.2.1 rfl
    · cases hc
  rw [cutOptions, regexSource?_anchoredPattern, Text.cutLast?, Text.cut?_eq_none_iff.mpr hdollar]
  rfl

/-- It is anchored at its beginning alone. -/
theorem cutAnchors_anchoredPattern (domain : List Char) :
    cutAnchors (anchoredPattern domain) = ⟨[.hostAnchor], domain ++ ['^']⟩ := by
  have hopening : Text.dropOpening? ['|', '|'] (anchoredPattern domain) = some (domain ++ ['^']) :=
    Text.dropOpening?_append ['|', '|'] _
  have hclosing : Text.dropClosing? ['|'] (domain ++ ['^']) = none := by
    rw [Option.eq_none_iff_forall_ne_some]
    intro front h
    have hlast := (List.append_inj' (Text.dropClosing?_eq_some_iff.mp h) rfl).2
    cases hlast
  rw [cutAnchors, hopening]
  dsimp only
  rw [hclosing]

/-- Its host is all of the domain. -/
theorem storedPattern_domain (h : ∀ c ∈ domain, isDomainChar c) :
    storedPattern idna true false (domain ++ ['^']) = .ok (Text.lower domain ++ ['^']) := by
  have hhost : ∀ c ∈ domain, (!endsHost c) = true := by
    intro c hc
    rw [(plain_of_isDomainChar (h c hc)).2.2.2]
    rfl
  have htake : ['^'].takeWhile (!endsHost ·) = [] := by decide
  have hdrop : ['^'].dropWhile (!endsHost ·) = ['^'] := by decide
  rw [storedPattern, if_pos rfl, List.takeWhile_append_of_pos hhost,
    List.dropWhile_append_of_pos hhost, htake, hdrop, List.append_nil,
    Host.normal?_of_isAscii (isAscii_of_isDomainChar h)]
  rfl

theorem readPattern_anchoredPattern (h : ∀ c ∈ domain, isDomainChar c) :
    readPattern idna regex [] {} true (anchoredPattern domain)
      = .ok (blockDomain (Text.lower domain)) := by
  refine readPattern_eq_ok_iff.mpr (.inr ⟨regexSource?_anchoredPattern domain, ?_, ?_⟩)
  · rw [cutAnchors_anchoredPattern]
    simp
  · rw [cutAnchors_anchoredPattern]
    exact ⟨_, storedPattern_domain h, rfl⟩

theorem readBody_anchoredPattern (h : ∀ c ∈ domain, isDomainChar c) :
    readBody idna regex (anchoredPattern domain) = .ok (blockDomain (Text.lower domain)) := by
  have hmark : markSwitches (anchoredPattern domain) = [] := rfl
  have hafter : afterMark (anchoredPattern domain) = anchoredPattern domain := rfl
  rw [readBody_eq_ok_iff, hmark, hafter, cutOptions_anchoredPattern h]
  exact ⟨{}, rfl, readPattern_anchoredPattern h⟩

end NetworkRule

open NetworkRule

namespace NetworkFilter

variable {idna : ToAscii} {regex : RegexCheck} {search : RegexSearch}
variable {r : Request} {domain : List Char} {keepLine : Bool}

/-- The line of the pattern that blocks a domain and all below it. -/
def anchoredLine (domain : List Char) : String := "||" ++ String.ofList domain ++ "^"

/-- **The pattern of a domain** is accepted, and blocks the domain in lower case. -/
theorem ofLine_anchoredLine (keepLine : Bool) (h : ∀ c ∈ domain, isDomainChar c) :
    ofLine idna regex keepLine (anchoredLine domain) = .ok
      { blockDomain (Text.lower domain) with
        rawLine := if keepLine then some (anchoredLine domain) else none } := by
  have hline : (anchoredLine domain).toList = anchoredPattern domain := by
    simp [anchoredLine, anchoredPattern]
  have hhosts : hostsDomain? idna (anchoredLine domain).toList = .ok none := by
    rw [hline]
    exact hostsDomain?_anchoredPattern h
  rw [ofLine_eq_ok_iff hhosts]
  refine ⟨?_, blockDomain (Text.lower domain), ?_, rfl⟩
  · rw [String.isEmpty_iff, ← String.toList_eq_nil_iff, hline]
    exact anchoredPattern_ne_nil domain
  · rw [hline]
    exact readBody_anchoredPattern h

/-! ## What is blocked -/

theorem has_blockDomain (domain : List Char) (switch : NetworkSwitch) :
    (blockDomain domain).mask.has switch ↔
      switch ∈ [NetworkSwitch.firstParty, .thirdParty, .hostAnchor] :=
  NetworkMask.has_make TypeSet.isKnown_full

/-- For the filter of a domain, the pattern alone counts. -/
theorem isMatchBy_blockDomain (htypes : r.types.meets .full) (domain : List Char) :
    (blockDomain domain).isMatchBy search r ↔ (blockDomain domain).patternMatches search r := by
  have hmask : (blockDomain domain).mask.types.meets r.types := by
    rw [blockDomain, NetworkMask.types_make TypeSet.isKnown_full, TypeSet.meets_comm]
    exact htypes
  have hparty : (blockDomain domain).partyMatches r := by
    rw [partyMatches, has_blockDomain]
    cases r.thirdParty <;> decide
  have hpage : (blockDomain domain).pageMatches r := rfl
  have hdenies : (blockDomain domain).denies r = false := rfl
  simp [isMatchBy, hmask, hparty, hpage, hdenies]

/-- **The filter of a domain matches the domain and all below it**, and nothing else, whatever
stands around the host, whoever asks and whichever party the address belongs to. -/
theorem isMatchBy_blockDomain_iff (hdomain : ∀ c ∈ domain, ¬ endsHost c) (hne : domain ≠ [])
    (htypes : r.types.meets .full)
    (hhost : ∀ b ∈ Text.utf8 (String.ofList r.host), Url.isSeparator b = false) :
    (blockDomain domain).isMatchBy search r ↔ Host.covers domain r.host := by
  have hregex : ¬ (blockDomain domain).mask.has .regex := by
    rw [has_blockDomain]
    decide
  have hanchor : (blockDomain domain).mask.has .hostAnchor := by
    rw [has_blockDomain]
    decide
  have hopen : (blockDomain domain).mask.has .rightAnchor = false := by
    rw [Bool.eq_false_iff, ne_eq, has_blockDomain]
    decide
  have hcase : (blockDomain domain).comparedUrl r = r.lowerUrl := by
    rw [comparedUrl, if_neg]
    rw [has_blockDomain]
    decide
  rw [isMatchBy_blockDomain htypes, patternMatches_iff_of_hostAnchor hregex hanchor, hcase]
  rw [Request.host, Url.host?] at hhost ⊢
  cases hparts : Url.parts? r.lowerUrl with
  | none =>
    -- an address without a host has an empty one, which is covered by nothing
    have hcovered : ¬ Host.covers domain [] := by
      rw [Host.covers_iff]
      rintro (h | ⟨front, h⟩)
      · exact hne h.symm
      · simp at h
    simpa using hcovered
  | some p =>
    rw [hparts] at hhost
    have hlabels := any_labelStarts_iff (f := blockDomain domain) hparts rfl hdomain
      (show endsHost '^' from rfl) (by decide) hhost
    have hbehind : ∀ b ∈ (Text.utf8 (String.ofList p.rest)).head?, Url.isSeparator b := by
      intro b hb
      obtain ⟨c, hc, rfl⟩ := Url.Parts.head?_utf8_rest hparts b hb
      exact (isSeparator_of_endsHost hc).2
    have hrest : Glob.isMatch true false (Text.utf8 (String.ofList ['^']))
        (Text.utf8 (String.ofList p.rest)) := Glob.isMatch_separatorMark hbehind
    rw [hopen, and_iff_left hrest] at hlabels
    simpa using hlabels

/-! ## Entries -/

/-- **An entry of a hosts file blocks its domain and all below it.** Where a line is accepted whose
first word is an address and whose second is in ASCII, its filter has the content of the filter of
the pattern `||domain^`, and matches a request of any type for a host without separators exactly
where the host is the domain in lower case or ends with a dot and that. -/
theorem ofLine_hostsEntry {line : String} {first second : List Char} {rest : List (List Char)}
    {f : NetworkFilter} (hwords : Text.words line.toList = first :: second :: rest)
    (haddress : Host.isAddress first) (hascii : Text.isAscii second)
    (hline : ofLine idna regex keepLine line = .ok f) :
    (∀ keepLine', ∃ g,
        ofLine idna regex keepLine' (anchoredLine (namedDomain second)) = .ok g ∧
          f.sameContent g ∧ f.id = g.id) ∧
      ∀ (search : RegexSearch) (r : Request), r.types.meets .full →
        (∀ b ∈ Text.utf8 (String.ofList r.host), Url.isSeparator b = false) →
        (f.isMatchBy search r ↔ r.host = Text.lower (namedDomain second)
          ∨ '.' :: Text.lower (namedDomain second) <:+ r.host) := by
  have hname : Text.isAscii (namedDomain second) :=
    Text.isAscii_of_subset (Text.trimBy_subset _ _) hascii
  -- the line is an entry, so its filter is that of the domain
  obtain ⟨g, rfl, ⟨domain, hfound, rfl⟩ | ⟨hnone, -⟩⟩ := exists_of_ofLine hline
  · rw [hostsDomain?_of_words hwords haddress, readDomain_eq_some_iff] at hfound
    obtain ⟨hdot, -, ⟨-, hchars, rfl⟩ | ⟨hnot, -⟩⟩ := hfound
    · refine ⟨fun keepLine' => ?_, fun search r htypes hhost => ?_⟩
      · exact ⟨_, ofLine_anchoredLine keepLine' hchars, beq_self_eq_true _, rfl⟩
      · have hends : ∀ c ∈ Text.lower (namedDomain second), ¬ endsHost c := by
          intro c hc
          obtain ⟨d, hd, rfl⟩ := List.mem_map.mp hc
          rw [endsHost_toLower, (plain_of_isDomainChar (hchars d hd)).2.2.2]
          exact Bool.false_ne_true
        have hne : Text.lower (namedDomain second) ≠ [] := by
          rw [Text.lower, ne_eq, List.map_eq_nil_iff]
          exact List.ne_nil_of_mem hdot
        show (blockDomain (Text.lower (namedDomain second))).isMatchBy search r ↔ _
        rw [isMatchBy_blockDomain_iff hends hne htypes hhost, Host.covers_iff]
        exact or_congr_right (exists_congr fun front => eq_comm)
    · exact absurd hname hnot
  · exact absurd haddress (hostsDomain?_eq_none_iff.mp hnone first second rest hwords)

/-- A line with blanks and dots around its domain, in capitals, and a note behind. -/
def hostsLine : String := "  0.0.0.0\t..Ads.Example.com. # note"

/-- A request for a host below that domain, with a user, a port and no path. -/
def portRequest : Request :=
  .ofHost "https://me:a@b@CDN.ads.example.com:8080?x" (.ofList [.script]) "news.example" false

theorem ofLine_hostsEntry_hostsLine :
    ∃ f, ofLine Idna.toAscii? .compiled true hostsLine = .ok f ∧
      (∃ g, ofLine Idna.toAscii? .compiled false "||Ads.Example.com^" = .ok g ∧
        f.sameContent g ∧ f.id = g.id) ∧
      f.isMatchBy .compiled portRequest := by
  have hwords : Text.words hostsLine.toList
      = ["0.0.0.0".toList, "..Ads.Example.com.".toList, ['#'], "note".toList] := by decide +kernel
  have hline : ofLine Idna.toAscii? .compiled true hostsLine = .ok
      { blockDomain "ads.example.com".toList with rawLine := some hostsLine } := by decide +kernel
  have hname : anchoredLine (namedDomain "..Ads.Example.com.".toList) = "||Ads.Example.com^" := by
    decide +kernel
  obtain ⟨hpattern, hmatch⟩ := ofLine_hostsEntry hwords (by decide) (by decide) hline
  refine ⟨_, hline, hname ▸ hpattern false, (hmatch .compiled portRequest (by decide) ?_).mpr ?_⟩
  · decide +kernel
  · right
    decide +kernel

end NetworkFilter

end Blocklist
