import Blocklist.Proofs.Filter.Labels
import Blocklist.Proofs.Filter.Language
import Blocklist.Proofs.Rule.WellFormed
/-!
# Rules — the case of hosts

Two addresses differ by the case of their hosts alone if they are the same
once the hosts are in lower case (`Url.foldHost_eq_iff`). A filter anchored to
the host tells them apart where case counts: its own host is stored in lower
case, but compared with the address as it was given, so that it misses hosts
in capitals (`NetworkFilter.not_isMatch_congr_hostCase`). Main statement
(`NetworkFilter.isMatchBy_foldHost`): where else they are told apart, and where
not.
-/

namespace Blocklist

/-! ## Addresses with their host in lower case -/

namespace Url

variable {url : List Char}

/-- The address with its host in lower case. -/
def foldHost (url : List Char) : List Char :=
  match parts? url with
  | some p => p.lead ++ (Text.lower p.host ++ p.rest)
  | none => url

@[simp] theorem lower_foldHost (url : List Char) : Text.lower (foldHost url) = Text.lower url := by
  rw [foldHost]
  cases h : parts? url with
  | none => rfl
  | some p =>
    rw [(eq_append_of_parts? h).1]
    simp only [Text.lower_append, Text.lower_lower]

/-- The parts of an address with its host in lower case. -/
def Parts.foldHost (p : Parts) : Parts := { p with host := Text.lower p.host }

@[simp] theorem parts?_foldHost (url : List Char) :
    parts? (foldHost url) = (parts? url).map Parts.foldHost := by
  rw [foldHost]
  cases h : parts? url with
  | none => exact h
  | some p => exact parts?_of_lower_host h (Text.lower_lower p.host)

/-- Two addresses come out the same if they are, or if they differ by the case of their hosts. -/
theorem foldHost_eq_iff {url' : List Char} : foldHost url = foldHost url' ↔
    url = url' ∨
      ∃ p p', parts? url = some p ∧ parts? url' = some p' ∧ p.foldHost = p'.foldHost := by
  constructor
  · intro h
    have hparts := congrArg parts? h
    rw [parts?_foldHost, parts?_foldHost] at hparts
    cases hp : parts? url with
    | none =>
      rw [hp, Option.map_none, eq_comm, Option.map_eq_none_iff] at hparts
      rw [foldHost, foldHost, hp, hparts] at h
      exact .inl h
    | some p =>
      rw [hp, Option.map_some, eq_comm, Option.map_eq_some_iff] at hparts
      obtain ⟨p', hp', hfold⟩ := hparts
      exact .inr ⟨p, p', rfl, hp', hfold.symm⟩
  · rintro (rfl | ⟨p, p', hp, hp', hfold⟩)
    · rfl
    · simp only [Parts.foldHost, Parts.mk.injEq] at hfold
      rw [foldHost, foldHost, hp, hp']
      simp only [hfold]

example : foldHost "HTTPS://Me@CDN.Example.com/Ad".toList
    = "HTTPS://Me@cdn.example.com/Ad".toList := by decide +kernel

end Url

namespace Request

/-- The request with the host of its address in lower case. -/
def foldHost (r : Request) : Request := { r with url := String.ofList (Url.foldHost r.url.toList) }

/-- The host of the address, as it was given; empty where the address has none. -/
def writtenHost (r : Request) : List Char := (Url.host? r.url.toList).getD []

theorem toList_url_foldHost (r : Request) : r.foldHost.url.toList = Url.foldHost r.url.toList :=
  String.toList_ofList

@[simp] theorem lowerUrl_foldHost (r : Request) : r.foldHost.lowerUrl = r.lowerUrl := by
  rw [lowerUrl, toList_url_foldHost, Url.lower_foldHost]
  rfl

@[simp] theorem host_foldHost (r : Request) : r.foldHost.host = r.host := by
  rw [host, lowerUrl_foldHost]
  rfl

theorem host_eq (r : Request) : r.host = Text.lower r.writtenHost := by
  rw [host, writtenHost, lowerUrl, Url.host?_lower]
  cases Url.host? r.url.toList <;> rfl

end Request

/-- A domain covers a host whatever their case, if it covers it as both are written. -/
theorem Host.covers_lower {domain host : List Char} (h : covers domain host) :
    covers (Text.lower domain) (Text.lower host) := by
  rw [covers_iff] at h ⊢
  rcases h with rfl | ⟨front, rfl⟩
  · exact .inl rfl
  · exact .inr ⟨Text.lower front, Text.lower_append front ('.' :: domain)⟩

/-! ## Patterns in lower case -/

namespace Glob

variable {input input' : List UInt8}

theorem isSeparator_iff {b : UInt8} : Url.isSeparator b ↔
    ¬ ((48 ≤ b.toNat ∧ b.toNat ≤ 57) ∨ (65 ≤ b.toNat ∧ b.toNat ≤ 90)
      ∨ (97 ≤ b.toNat ∧ b.toNat ≤ 122)
      ∨ b.toNat = 95 ∨ b.toNat = 45 ∨ b.toNat = 46 ∨ b.toNat = 37) := by
  simp only [Url.isSeparator, Bool.not_eq_true', Bool.eq_false_iff, ne_eq, Bool.or_eq_true,
    Bool.and_eq_true, decide_eq_true_eq, beq_iff_eq, UInt8.le_iff_toNat_le, ← UInt8.toNat_inj,
    UInt8.reduceToNat, or_assoc]

@[simp] theorem isSeparator_lowerByte (b : UInt8) :
    Url.isSeparator (Token.lowerByte b) = Url.isSeparator b := by
  rw [Bool.eq_iff_iff, isSeparator_iff, isSeparator_iff, Text.toNat_lowerByte]
  split <;> omega

/-- **A pattern in lower case takes what it takes** of a text where letters of the text are put into
lower case. -/
theorem Takes.of_lowerByte (hlength : input'.length = input.length)
    (hsame : ∀ (i : Nat) (c : UInt8), input[i]? = some c →
      input'[i]? = some c ∨ input'[i]? = some (Token.lowerByte c))
    {pattern : List UInt8} (hpattern : ∀ p ∈ pattern, Token.lowerByte p = p) {a b : Nat}
    (h : Takes input pattern a b) : Takes input' pattern a b := by
  induction h with
  | done ha => exact .done (hlength ▸ ha)
  | run ham _ ih => exact .run ham (ih fun p hp => hpattern p (List.mem_cons_of_mem _ hp))
  | @separator a b c pattern ha hc _ ih =>
    have hrest := ih fun p hp => hpattern p (List.mem_cons_of_mem _ hp)
    rcases hsame a c ha with h | h
    · exact .separator h hc hrest
    · exact .separator h (by rwa [isSeparator_lowerByte]) hrest
  | finish _ ih =>
    have hrest := ih fun p hp => hpattern p (List.mem_cons_of_mem _ hp)
    exact takes_separatorMark_iff.mpr (.inr ⟨hlength.symm, hrest⟩)
  | @byte a b c pattern hstar hmark ha _ ih =>
    have hrest := ih fun p hp => hpattern p (List.mem_cons_of_mem _ hp)
    refine .byte hstar hmark ?_ hrest
    have hc := hsame a c ha
    rwa [hpattern c List.mem_cons_self, or_self] at hc

/-- So it matches where the beginning of a text is put into lower case. -/
theorem isMatch_map_lowerByte {left right : Bool} {pattern front back : List UInt8}
    (hpattern : ∀ p ∈ pattern, Token.lowerByte p = p)
    (h : isMatch left right pattern (front ++ back)) :
    isMatch left right pattern (front.map Token.lowerByte ++ back) := by
  have hlength : (front.map Token.lowerByte ++ back).length = (front ++ back).length := by simp
  rw [isMatch_iff_takes] at h ⊢
  obtain ⟨a, b, hab, hb, hleft, hright, htakes⟩ := h
  refine ⟨a, b, hab, hlength ▸ hb, hleft, fun h => (hright h).trans hlength.symm, ?_⟩
  refine htakes.of_lowerByte hlength (fun i c hc => ?_) hpattern
  rcases Nat.lt_or_ge i front.length with hi | hi
  · right
    rw [List.getElem?_append_left hi] at hc
    rw [List.getElem?_append_left (by simpa using hi), List.getElem?_map, hc]
    rfl
  · left
    rw [List.getElem?_append_right hi] at hc
    rw [List.getElem?_append_right (by simpa using hi), List.length_map]
    exact hc

end Glob

/-! ## The stored domain -/

namespace NetworkRule

variable {text domain back : List Char} {matchCase : Bool}
variable {idna : ToAscii} {check : RegexCheck}

/-- What is stored of a pattern behind its host begins with what ends a host. -/
theorem endsHost_of_mem_head? {c : Char}
    (hc : c ∈ (foldCase matchCase (text.dropWhile (!endsHost ·))).head?) : endsHost c := by
  have hhead : ∀ d ∈ (text.dropWhile (!endsHost ·)).head?, endsHost d := fun d hd => by
    simpa using Text.head?_dropWhile (!endsHost ·) text d hd
  cases matchCase with
  | true => exact hhead c hc
  | false =>
    rw [foldCase, if_neg Bool.false_ne_true, Text.lower, List.head?_map] at hc
    obtain ⟨d, hd, rfl⟩ := Option.map_eq_some_iff.mp hc
    rw [endsHost_toLower]
    exact hhead d hd

/-- **What a stored pattern begins with is in lower case**, up to where the host ends. -/
theorem isLower_of_storedPattern (hidna : idna.IsLowerAscii)
    (h : storedPattern idna true matchCase text = .ok (domain ++ back))
    (hdomain : ∀ c ∈ domain, ¬ endsHost c) : Text.IsLower domain := by
  rw [storedPattern, if_pos rfl] at h
  split at h
  · next host hstored =>
    have hlower := Host.isLower_normal? hidna hstored
    rcases List.append_eq_append_iff.mp (Except.ok.inj h) with
      ⟨more, rfl, hrest⟩ | ⟨more, rfl, -⟩
    · cases more with
      | nil => rwa [List.append_nil]
      | cons c more =>
        -- the domain would run on beyond the host that is stored
        have hc : endsHost c := endsHost_of_mem_head? (by rw [hrest]; rfl)
        exact absurd hc (hdomain c (List.mem_append_right host List.mem_cons_self))
    · exact fun c hc => hlower c (List.mem_append_left more hc)
  · cases h

theorem isLower_of_readBody {line : List Char} {f : NetworkFilter} (hidna : idna.IsLowerAscii)
    (h : readBody idna check line = .ok f)
    (hhost : f.mask.has .hostAnchor) (hregex : ¬ f.mask.has .regex)
    (hpattern : f.pattern = String.ofList (domain ++ back))
    (hdomain : ∀ c ∈ domain, ¬ endsHost c) : Text.IsLower domain := by
  obtain ⟨o, hoptions, hread⟩ := readBody_eq_ok_iff.mp h
  obtain ⟨_, -, hoptions⟩ := exists_ofText_of_readOptions hoptions
  have ho := (RuleOptions.sound_of_ofText hoptions).included
  have hmark : markSwitches line ⊆ [.exception] := by
    rcases markSwitches_cases line with h | h <;> rw [h] <;> decide
  rcases readPattern_eq_ok_iff.mp hread with ⟨_, -, -, rfl⟩ | ⟨-, -, stored, hstored, rfl⟩
  · rw [has_assemble_of_form ho hmark (by decide)] at hregex
    exact absurd List.mem_cons_self hregex
  · rw [has_assemble_of_form ho hmark (by decide)] at hhost
    rw [List.contains_iff_mem.mpr hhost, show stored = _ from String.ofList_injective hpattern]
      at hstored
    exact isLower_of_storedPattern hidna hstored hdomain

end NetworkRule

open NetworkRule

namespace NetworkFilter

variable {idna : ToAscii} {check : RegexCheck} {search : RegexSearch}
variable {keepLine : Bool} {line : String} {f : NetworkFilter}
variable {r : Request} {domain back : List Char} {mark : Char}

/-- **The domain that an anchored pattern begins with is stored in lower case**, whether or not case
counts. -/
theorem isLower_of_ofLine (hidna : idna.IsLowerAscii)
    (hline : ofLine idna check keepLine line = .ok f) (hhost : f.mask.has .hostAnchor)
    (hregex : ¬ f.mask.has .regex) (hpattern : f.pattern = String.ofList (domain ++ back))
    (hdomain : ∀ c ∈ domain, ¬ endsHost c) : Text.IsLower domain := by
  obtain ⟨g, rfl, ⟨name, hfound, rfl⟩ | ⟨-, hbody⟩⟩ := exists_of_ofLine hline
  · have hsame : name ++ ['^'] = domain ++ back := String.ofList_injective hpattern
    have hlower : Text.IsLower (name ++ ['^']) :=
      (isLower_of_hostsDomain? hidna hfound).append (by decide)
    rw [hsame] at hlower
    exact fun c hc => hlower c (List.mem_append_left back hc)
  · exact isLower_of_readBody hidna hbody hhost hregex hpattern hdomain

/-! ## The two addresses -/

/-- Nothing but the pattern sees how the host of an address is written. -/
theorem isMatchBy_foldHost_eq (search : RegexSearch) (f : NetworkFilter) (r : Request) :
    f.isMatchBy search r.foldHost =
      (f.mask.types.meets r.types && f.partyMatches r && f.pageMatches r && !f.denies r
        && f.patternMatches search r.foldHost) := by
  have hdenies : f.denies r.foldHost = f.denies r := by
    rw [denies, denies, Request.host_foldHost]
  rw [isMatchBy, hdenies]
  rfl

/-- Where case does not count, neither does the pattern. -/
theorem isMatchBy_foldHost_of_not_matchCase (hregex : ¬ f.mask.has .regex)
    (hcase : ¬ f.mask.has .matchCase) : f.isMatchBy search r.foldHost = f.isMatchBy search r := by
  have hurl : f.comparedUrl r.foldHost = f.comparedUrl r := by
    rw [comparedUrl, comparedUrl, if_neg hcase, if_neg hcase, Request.lowerUrl_foldHost]
  have hpattern : f.patternMatches search r.foldHost = f.patternMatches search r := by
    rw [patternMatches, patternMatches, if_neg hregex, if_neg hregex, hurl]
  rw [isMatchBy_foldHost_eq, hpattern]
  rfl

section MatchCase

variable (hregex : ¬ f.mask.has .regex) (hhost : f.mask.has .hostAnchor)
variable (hcase : f.mask.has .matchCase)

include hregex hhost hcase

/-- Where case counts, the pattern is compared from the labels of the host on as it is given. -/
theorem patternMatches_iff_of_matchCase : f.patternMatches search r ↔
    ∃ p, Url.parts? r.url.toList = some p ∧ p.labelStarts.any (f.globMatches true) := by
  rw [patternMatches_iff_of_hostAnchor hregex hhost, comparedUrl, if_pos hcase]

theorem patternMatches_foldHost_iff : f.patternMatches search r.foldHost ↔
    ∃ p, Url.parts? r.url.toList = some p ∧ p.foldHost.labelStarts.any (f.globMatches true) := by
  rw [patternMatches_iff_of_matchCase hregex hhost hcase, Request.toList_url_foldHost,
    Url.parts?_foldHost]
  simp only [Option.map_eq_some_iff]
  constructor
  · rintro ⟨_, ⟨p, hp, rfl⟩, hmatch⟩
    exact ⟨p, hp, hmatch⟩
  · rintro ⟨p, hp, hmatch⟩
    exact ⟨_, ⟨p, hp, rfl⟩, hmatch⟩

/-- **A pattern in lower case misses some hosts and invents none**: what it matches, it matches when
the host is in lower case. -/
theorem patternMatches_foldHost_of_isLower (hlower : Text.IsLower f.pattern.toList)
    (h : f.patternMatches search r) : f.patternMatches search r.foldHost := by
  have hbytes : ∀ b ∈ Text.utf8 f.pattern, Token.lowerByte b = b := by
    rw [← String.ofList_toList (s := f.pattern), ← hlower.lower_eq, Text.utf8_lower]
    intro b hb
    obtain ⟨a, -, rfl⟩ := List.mem_map.mp hb
    exact Text.lowerByte_lowerByte a
  rw [patternMatches_iff_of_matchCase hregex hhost hcase] at h
  rw [patternMatches_foldHost_iff hregex hhost hcase]
  obtain ⟨p, hp, hany⟩ := h
  obtain ⟨start, hstart, hmatch⟩ := List.any_eq_true.mp hany
  obtain ⟨label, hlabel, rfl⟩ := Url.Parts.mem_labelStarts_iff.mp hstart
  refine ⟨p, hp, List.any_eq_true.mpr ⟨Text.lower label ++ p.rest, ?_, ?_⟩⟩
  · exact Url.Parts.mem_labelStarts_iff.mpr ⟨_, Host.covers_lower hlabel, rfl⟩
  · rw [globMatches, Text.utf8_ofList_append] at hmatch ⊢
    rw [Text.utf8_lower]
    exact Glob.isMatch_map_lowerByte hbytes hmatch

/-- **A pattern that begins with a domain** matches an address where it matches the one with its
host in lower case, and the host ends with the domain as the pattern has it. -/
theorem patternMatches_iff_foldHost (hdomain : Text.IsLower domain)
    (hpattern : f.pattern = String.ofList (domain ++ mark :: back))
    (hends : ∀ c ∈ domain, ¬ endsHost c) (hmark : endsHost mark) (hstar : mark ≠ '*')
    (hseparator : ∀ b ∈ Text.utf8 (String.ofList r.host), Url.isSeparator b = false) :
    f.patternMatches search r ↔
      f.patternMatches search r.foldHost ∧ Host.covers domain r.writtenHost := by
  rw [patternMatches_iff_of_matchCase hregex hhost hcase,
    patternMatches_foldHost_iff hregex hhost hcase]
  rw [Request.host_eq, Request.writtenHost, Url.host?] at hseparator
  rw [Request.writtenHost, Url.host?]
  cases hparts : Url.parts? r.url.toList with
  | none => simp
  | some p =>
    rw [hparts] at hseparator
    have hfolded : Url.parts? (Url.foldHost r.url.toList) = some p.foldHost := by
      rw [Url.parts?_foldHost, hparts]
      rfl
    have hwritten : ∀ b ∈ Text.utf8 (String.ofList p.host), Url.isSeparator b = false := by
      intro b hb
      rw [← Glob.isSeparator_lowerByte]
      refine hseparator _ ?_
      rw [Text.utf8_lower]
      exact List.mem_map_of_mem hb
    have hcovers : Host.covers domain p.host → Host.covers domain p.foldHost.host := by
      intro h
      have hlower := Host.covers_lower h
      rwa [hdomain.lower_eq] at hlower
    simp only [Option.some.injEq, exists_eq_left']
    rw [any_labelStarts_iff hparts hpattern hends hmark hstar hwritten,
      any_labelStarts_iff hfolded hpattern hends hmark hstar hseparator]
    exact ⟨fun h => ⟨⟨hcovers h.1, h.2⟩, h.1⟩, fun h => ⟨h.2, h.1.2⟩⟩

end MatchCase

/-- **What a filter anchored to the host says of two addresses that name the same place**, whichever
way names are put into lower-case ASCII. Where case does not count, it says the same of both. Where
case counts, it says of the one in lower case whatever it says of the other, if its pattern is in
lower case; and if a domain and a character that ends it begin the pattern, it matches an address
whose host has no separators exactly where it matches the one in lower case and the host ends with
the domain as the pattern has it. -/
theorem isMatchBy_foldHost (hidna : idna.IsLowerAscii)
    (hline : ofLine idna check keepLine line = .ok f) (hhost : f.mask.has .hostAnchor)
    (hregex : ¬ f.mask.has .regex) (search : RegexSearch) (r : Request) :
    (¬ f.mask.has .matchCase → ∀ r' : Request, r.foldHost = r'.foldHost →
      (f.isMatchBy search r ↔ f.isMatchBy search r')) ∧
    (f.mask.has .matchCase → Text.IsLower f.pattern.toList →
      f.isMatchBy search r → f.isMatchBy search r.foldHost) ∧
    (f.mask.has .matchCase → ∀ domain mark back,
      f.pattern = String.ofList (domain ++ mark :: back) → (∀ c ∈ domain, ¬ endsHost c) →
      endsHost mark → mark ≠ '*' →
      (∀ b ∈ Text.utf8 (String.ofList r.host), Url.isSeparator b = false) →
      (f.isMatchBy search r ↔
        f.isMatchBy search r.foldHost ∧ Host.covers domain r.writtenHost)) := by
  refine ⟨fun hcase r' hsame => ?_, fun hcase hlower h => ?_, ?_⟩
  · rw [← isMatchBy_foldHost_of_not_matchCase hregex hcase, hsame,
      isMatchBy_foldHost_of_not_matchCase hregex hcase]
  · rw [isMatchBy_foldHost_eq, Bool.and_eq_true]
    obtain ⟨hothers, hmatch⟩ := Bool.and_eq_true_iff.mp h
    exact ⟨hothers, patternMatches_foldHost_of_isLower hregex hhost hcase hlower hmatch⟩
  · intro hcase domain mark back hpattern hends hmark hstar hseparator
    have hdomain := isLower_of_ofLine hidna hline hhost hregex hpattern hends
    have hmatch : f.patternMatches search r ↔
        f.patternMatches search r.foldHost ∧ Host.covers domain r.writtenHost :=
      patternMatches_iff_foldHost hregex hhost hcase hdomain hpattern hends hmark hstar hseparator
    rw [isMatchBy_foldHost_eq, isMatchBy, Bool.and_eq_true _ (f.patternMatches search r), hmatch,
      Bool.and_eq_true _ (f.patternMatches search r.foldHost), and_assoc]

/-- A filter with capitals in its host, which are not kept, and in its path, which are. -/
def caseLine : String := "||Example.com/Ad$match-case"

/-- The filter of that line. -/
def caseFilter : NetworkFilter where
  mask := .make .full [.firstParty, .thirdParty, .matchCase, .hostAnchor]
  pattern := "example.com/Ad"

/-- The address of that path on a host with this name. -/
def adUrl (host : String) : String := "https://" ++ host ++ "/Ad"

/-- A request for it. -/
def adRequest (host : String) : Request :=
  .ofHost (adUrl host) (.ofList [.script]) "example.org" true

theorem ofLine_caseLine (idna : ToAscii) (check : RegexCheck) :
    ofLine idna check false caseLine = .ok caseFilter := by
  have hline : ofLine Idna.toAscii? .compiled false caseLine = .ok caseFilter := by decide +kernel
  rw [← hline]
  exact ofLine_congr_of_regexSource? _ _ (by decide +kernel) (by decide +kernel)

theorem isMatch_caseFilter :
    Url.foldHost (adUrl "example.com").toList = Url.foldHost (adUrl "Example.com").toList ∧
    caseFilter.isMatch (adRequest "example.com") ∧
    ¬ caseFilter.isMatch (adRequest "Example.com") := by decide +kernel

/-- Capitals before the domain do not count, those in it do. -/
theorem isMatchBy_foldHost_adRequest :
    ofLine Idna.toAscii? .compiled false caseLine = .ok caseFilter ∧
      caseFilter.isMatchBy .compiled (adRequest "CDN.example.com") ∧
      ¬ caseFilter.isMatchBy .compiled (adRequest "cdn.Example.com") := by
  have hline := ofLine_caseLine Idna.toAscii? .compiled
  have hends : ∀ c ∈ "example.com".toList, (!endsHost c) = true := List.all_eq_true.mp rfl
  have hanswer : ∀ r : Request,
      (∀ b ∈ Text.utf8 (String.ofList r.host), Url.isSeparator b = false) →
      (caseFilter.isMatchBy .compiled r ↔
        caseFilter.isMatchBy .compiled r.foldHost ∧
          Host.covers "example.com".toList r.writtenHost) := fun r =>
    (isMatchBy_foldHost Idna.isLowerAscii_toAscii? hline (by decide) (by decide) .compiled r).2.2
      (by decide) "example.com".toList '/' "Ad".toList rfl (by simpa using hends) rfl (by decide)
  refine ⟨hline, (hanswer _ (by decide +kernel)).mpr (by decide +kernel), fun h => ?_⟩
  exact absurd ((hanswer _ (by decide +kernel)).mp h).2 (by decide +kernel)

/-- **A filter may tell apart two addresses whose hosts differ by case alone**, where case counts:
its own host is stored in lower case, but not the host that it is compared with. -/
theorem not_isMatch_congr_hostCase : ∃ f : NetworkFilter,
    (∀ idna check, ofLine idna check false caseLine = .ok f) ∧
    f.mask.has .hostAnchor ∧ ¬ f.mask.has .regex ∧
    Url.foldHost (adUrl "example.com").toList = Url.foldHost (adUrl "Example.com").toList ∧
    f.isMatch (adRequest "example.com") ∧ ¬ f.isMatch (adRequest "Example.com") := by
  obtain ⟨hplace, hmatch, hmiss⟩ := isMatch_caseFilter
  exact ⟨caseFilter, ofLine_caseLine, by decide, by decide, hplace, hmatch, hmiss⟩

end NetworkFilter

end Blocklist
