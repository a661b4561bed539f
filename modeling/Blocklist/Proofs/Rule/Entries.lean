import Blocklist.Proofs.Idna.Name
import Blocklist.Proofs.Rule.Hosts
/-!
# Rules — the characters of entries

The entry of a domain in ASCII is refused unless letters, figures, dots,
hyphens and `_` are all that the domain has. Of any other domain only its form
in ASCII counts, and no character of that is looked at: the pattern has
whatever signs the form has (`NetworkFilter.mem_domain_of_entry_iff`), a
wildcard among them (`NetworkFilter.ofLine_wideEntry`). Main statement:
`NetworkFilter.exists_domain_of_entry`.
-/

namespace Blocklist

namespace NetworkRule

variable {idna : ToAscii} {name domain : List Char}

@[simp] theorem isDomainChar_toLower (c : Char) : isDomainChar c.toLower = isDomainChar c := by
  have hmark : ∀ mark ∈ ['.', '-', '_'], (c.toLower == mark) = (c == mark) := fun mark hmem =>
    Text.toLower_beq (List.all_eq_true.mp (by decide) mark hmem) c
  rw [isDomainChar, isDomainChar, Text.isAlphanum, Text.isAlphanum, Text.isAlphanum_toLower,
    hmark '.' (by decide), hmark '-' (by decide), hmark '_' (by decide)]

theorem isDomainChar_of_mem_lower (h : ∀ c ∈ name, isDomainChar c) :
    ∀ c ∈ Text.lower name, isDomainChar c := by
  intro c hc
  obtain ⟨letter, hletter, rfl⟩ := List.mem_map.mp hc
  rw [isDomainChar_toLower]
  exact h letter hletter

/-- A domain that is read has a character and is in ASCII, in lower case. -/
theorem spec_of_readDomain (hidna : idna.IsLowerAscii) (hdots : idna.KeepsDots)
    (h : readDomain idna name = .ok (some domain)) :
    domain ≠ [] ∧ Text.isAscii domain ∧ Text.IsLower domain := by
  obtain ⟨hdot, -, ⟨hascii, hchars, rfl⟩ | ⟨-, hstored⟩⟩ := readDomain_eq_some_iff.mp h
  · have hne : Text.lower name ≠ [] := mt List.map_eq_nil_iff.mp (List.ne_nil_of_mem hdot)
    exact ⟨hne, isAscii_of_isDomainChar (isDomainChar_of_mem_lower hchars), Text.isLower_lower _⟩
  · refine ⟨?_, hidna.isAscii hstored, hidna.isLower hstored⟩
    rintro rfl
    exact hdots hdot hstored

end NetworkRule

open NetworkRule

namespace NetworkFilter

variable {idna : ToAscii} {regex : RegexCheck} {keepLine : Bool} {line : String}
variable {first second : List Char} {rest : List (List Char)} {f : NetworkFilter}

/-- The filter of an entry is that of the domain that its second word is read as. -/
theorem exists_readDomain_of_entry (hwords : Text.words line.toList = first :: second :: rest)
    (haddress : Host.isAddress first) (hline : ofLine idna regex keepLine line = .ok f) :
    ∃ domain, f.pattern = String.ofList (domain ++ ['^']) ∧
      readDomain idna (namedDomain second) = .ok (some domain) := by
  obtain ⟨g, rfl, ⟨domain, hfound, rfl⟩ | ⟨hnone, -⟩⟩ := exists_of_ofLine hline
  · exact ⟨domain, rfl, by rw [← hostsDomain?_of_words hwords haddress, hfound]⟩
  · exact absurd haddress (hostsDomain?_eq_none_iff.mp hnone first second rest hwords)

/-- **What the domain of an entry is written with**, whichever way names are put into lower-case
ASCII that keeps dots. A line whose first word is an address blocks a domain that is not empty and
is in ASCII and in lower case. Where the second word is in ASCII, its domain is the word in lower
case, with letters, figures, dots, hyphens and `_` alone. Where it is not, the domain is the form of
the word in ASCII, whatever characters that has. -/
theorem exists_domain_of_entry (hidna : idna.IsLowerAscii) (hdots : idna.KeepsDots)
    (hwords : Text.words line.toList = first :: second :: rest) (haddress : Host.isAddress first)
    (hline : ofLine idna regex keepLine line = .ok f) :
    ∃ domain, f.pattern = String.ofList (domain ++ ['^']) ∧ domain ≠ [] ∧ Text.isAscii domain ∧
      Text.IsLower domain ∧
      (Text.isAscii (namedDomain second) →
        domain = Text.lower (namedDomain second) ∧ ∀ c ∈ domain, isDomainChar c) ∧
      (¬ Text.isAscii (namedDomain second) → idna (namedDomain second) = some domain) := by
  obtain ⟨domain, hpattern, hread⟩ := exists_readDomain_of_entry hwords haddress hline
  obtain ⟨hne, hascii, hlower⟩ := spec_of_readDomain hidna hdots hread
  refine ⟨domain, hpattern, hne, hascii, hlower, fun hplain => ?_, fun hplain => ?_⟩
  · obtain ⟨-, -, ⟨-, hchars, rfl⟩ | ⟨hnot, -⟩⟩ := readDomain_eq_some_iff.mp hread
    · exact ⟨rfl, isDomainChar_of_mem_lower hchars⟩
    · exact absurd hplain hnot
  · obtain ⟨-, -, ⟨hnot, -⟩ | ⟨-, hstored⟩⟩ := readDomain_eq_some_iff.mp hread
    · exact absurd hnot hplain
    · exact hstored

/-- **The signs of an entry come from its mapped form**, where names are put into ASCII by mapping,
normalising and encoding them: a domain outside ASCII has of all characters of ASCII but letters,
figures and hyphens those that its word has after mapping and normalisation. -/
theorem mem_domain_of_entry_iff (hwords : Text.words line.toList = first :: second :: rest)
    (haddress : Host.isAddress first) (hplain : ¬ Text.isAscii (namedDomain second))
    (hline : ofLine Idna.toAscii? regex keepLine line = .ok f) :
    ∃ domain form, f.pattern = String.ofList (domain ++ ['^']) ∧
      Idna.mappedForm? (namedDomain second) = some form ∧
      ∀ c, Punycode.isSign c → (c ∈ domain ↔ c ∈ form) := by
  obtain ⟨domain, hpattern, hread⟩ := exists_readDomain_of_entry hwords haddress hline
  obtain ⟨-, -, ⟨hnot, -⟩ | ⟨-, hstored⟩⟩ := readDomain_eq_some_iff.mp hread
  · exact absurd hnot hplain
  · obtain ⟨form, -, hform, -⟩ := Idna.exists_of_toAscii? hstored
    exact ⟨domain, form, hpattern, hform, fun c hc => Idna.mem_toAscii?_iff hc hstored hform⟩

/-! ## A wildcard in an entry -/

/-- A wildcard before a soft hyphen, and a dot and a label behind. -/
def wideWord : List Char := ['*'] ++ (['\u00AD'] ++ ['.', 'C', 'o', 'm'])

/-- An entry of that word. -/
def wideEntry : String := "0.0.0.0 " ++ String.ofList wideWord

theorem words_wideEntry : Text.words wideEntry.toList = ["0.0.0.0".toList, wideWord] := by
  decide +kernel

theorem ofLine_of_wideWord (hidna : idna wideWord = some "*.com".toList) :
    ofLine idna regex false wideEntry = .ok (blockDomain "*.com".toList) := by
  have hname : namedDomain wideWord = wideWord := by decide
  have hread : readDomain idna (namedDomain wideWord) = .ok (some "*.com".toList) := by
    rw [hname, readDomain_eq_some_iff]
    exact ⟨by decide, by decide, .inr ⟨by decide, hidna⟩⟩
  have hhosts : hostsDomain? idna wideEntry.toList = .ok (some "*.com".toList) := by
    rw [hostsDomain?_of_words words_wideEntry (by decide), hread]
  rw [ofLine, if_neg (by decide), hhosts]
  rfl

/-- The soft hyphen alone is dropped. -/
theorem toAscii?_wideWord : Idna.toAscii? wideWord = some "*.com".toList := by
  have hmapped : Idna.mapChars? wideWord = some "*.com".toList :=
    Idna.mapChars?_append (Idna.mapChars?_of_isAscii (by decide))
      (Idna.mapChars?_append Idna.mapChars?_softHyphen (Idna.mapChars?_of_isAscii (by decide)))
  rw [Idna.toAscii?, hmapped]
  decide +kernel

theorem exists_domain_of_entry_wide : ∃ domain,
    (blockDomain "*.com".toList).pattern = String.ofList (domain ++ ['^']) ∧
      domain ≠ [] ∧ Text.isAscii domain ∧ Text.IsLower domain ∧
      Idna.toAscii? (namedDomain wideWord) = some domain := by
  have hline : ofLine Idna.toAscii? .compiled false wideEntry
      = .ok (blockDomain "*.com".toList) := ofLine_of_wideWord toAscii?_wideWord
  obtain ⟨domain, hpattern, hne, hascii, hlower, -, hform⟩ := exists_domain_of_entry
    Idna.isLowerAscii_toAscii? Idna.keepsDots_toAscii? words_wideEntry (by decide) hline
  exact ⟨domain, hpattern, hne, hascii, hlower, hform (by decide)⟩

/-- **An entry may have a wildcard**, though one in ASCII is refused for it. -/
theorem ofLine_wideEntry : ∃ f first, Text.words wideEntry.toList = [first, wideWord] ∧
    Host.isAddress first ∧
    (∀ (idna : ToAscii) (regex : RegexCheck), idna wideWord = some "*.com".toList →
      ofLine idna regex false wideEntry = .ok f) ∧
    Idna.toAscii? wideWord = some "*.com".toList ∧ f.pattern = "*.com^" ∧
    (¬ ∃ domain, f.pattern = String.ofList (domain ++ ['^']) ∧ ∀ c ∈ domain, isDomainChar c) ∧
    ∀ (idna : ToAscii) (regex : RegexCheck),
      ofLine idna regex false "0.0.0.0 *.com" = .error .hostsEntry := by
  refine ⟨_, _, words_wideEntry, by decide, fun _ _ => ofLine_of_wideWord, toAscii?_wideWord,
    by decide +kernel, ?_, fun idna regex => ?_⟩
  · rintro ⟨domain, hpattern, hchars⟩
    have hdomain : domain ++ ['^'] = "*.com".toList ++ ['^'] :=
      String.ofList_injective hpattern.symm
    rw [List.append_cancel_right hdomain] at hchars
    exact absurd (hchars '*' (by decide)) (by decide)
  · have hwords : Text.words "0.0.0.0 *.com".toList = ["0.0.0.0".toList, "*.com".toList] := by
      decide +kernel
    have hhosts : hostsDomain? idna "0.0.0.0 *.com".toList = .error .hostsEntry := by
      rw [hostsDomain?_of_words hwords (by decide)]
      rfl
    rw [ofLine, if_neg (by decide), hhosts]
    rfl

end NetworkFilter

end Blocklist
