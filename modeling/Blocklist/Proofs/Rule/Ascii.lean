import Blocklist.Proofs.Rule.Options
import Blocklist.Proofs.Rule.Reading
import Blocklist.Proofs.Text.Cut
import Blocklist.Rule.Cosmetic
/-!
# Rules — lines in ASCII

How names are put into ASCII is left open, and nothing that is read of a line
in ASCII asks for it: two ways read the same filter, or refuse the line for the
same reason. Of the line of a cosmetic filter it is the hosts alone that have to
be in ASCII. Main statements: `NetworkFilter.ofLine_congr_of_isAscii`,
`CosmeticFilter.ofLine_congr_of_isAscii`.
-/

namespace Blocklist

variable (idna idna' : ToAscii) {regex : RegexCheck}

/-! ## Options -/

namespace RuleOptions

variable {forException : Bool} {option : String} {text : List Char} {o : RuleOptions}
variable {written : WrittenOption}

theorem storedDomain?_congr_of_isAscii (h : Text.isAscii text) :
    storedDomain? idna option text = storedDomain? idna' option text := by
  have hbehind : ∀ mark domain, domain ⊆ text →
      storedBehind? idna option mark domain = storedBehind? idna' option mark domain := by
    intro mark domain hdomain
    have hascii : Text.isAscii (Text.trimBy (· == '.') domain) :=
      Text.isAscii_of_subset (fun c hc => hdomain (Text.trimBy_subset _ _ hc)) h
    simp only [storedBehind?, Host.normal?_of_isAscii hascii]
  have htrim : Text.trim text ⊆ text := Text.trimBy_subset _ _
  rw [storedDomain?_eq, storedDomain?_eq]
  split
  · next rest hopening =>
    exact hbehind _ _ fun c hc => htrim (Text.subset_of_dropOpening? hopening hc)
  · exact hbehind _ _ htrim

theorem domainList_congr_of_isAscii (h : Text.isAscii text) :
    domainList idna option text = domainList idna' option text := by
  have hpieces : (text.splitOn '|').mapM (storedDomain? idna option)
      = (text.splitOn '|').mapM (storedDomain? idna' option) :=
    mapM_congr fun _ hpiece => storedDomain?_congr_of_isAscii idna idna'
      (Text.isAscii_of_subset (Text.subset_of_mem_splitOn hpiece) h)
  rw [domainList, hpieces, domainList]

theorem add_congr_of_isAscii (h : Text.isAscii (written.value.getD [])) :
    add idna forException o written = add idna' forException o written := by
  have hdomains : o.addDomains idna written = o.addDomains idna' written := by
    rw [addDomains, domainList_congr_of_isAscii idna idna' h, addDomains]
  rw [add, hdomains, add]

theorem ofText_congr_of_isAscii (h : Text.isAscii text) :
    ofText idna forException text = ofText idna' forException text := by
  have hfold : (WrittenOption.listOfText text).foldlM (add idna forException) ({} : RuleOptions)
      = (WrittenOption.listOfText text).foldlM (add idna' forException) {} :=
    foldlM_congr fun _ hwritten _ => add_congr_of_isAscii idna idna'
      (Text.isAscii_of_subset (WrittenOption.value_subset hwritten) h)
  rw [ofText, hfold, ofText]

end RuleOptions

/-! ## Network filters -/

namespace NetworkRule

variable {line text : List Char} {exception : List NetworkSwitch} {o : RuleOptions} {bare : Bool}

theorem afterMark_subset (line : List Char) : afterMark line ⊆ line := by
  rw [afterMark]
  cases hopening : Text.dropOpening? ['@', '@'] line with
  | none => exact List.Subset.refl _
  | some rest => exact Text.subset_of_dropOpening? hopening

theorem cutOptions_subset (text : List Char) :
    (cutOptions text).1 ⊆ text ∧ ∀ options ∈ (cutOptions text).2, options ⊆ text := by
  rw [cutOptions]
  split
  · simp
  · split
    · next hcut =>
      obtain ⟨rfl, -⟩ := Text.eq_append_of_cutLast? hcut
      simp
    · simp

theorem cutAnchors_subset (text : List Char) : (cutAnchors text).pattern ⊆ text := by
  have hclosed : ∀ rest ⊆ text, ∀ pattern, Text.dropClosing? ['|'] rest = some pattern →
      pattern ⊆ text :=
    fun rest hrest pattern hclosing c hc => hrest (Text.subset_of_dropClosing? hclosing hc)
  -- whichever anchor stands at the beginning, what is left may have one at its end
  rw [cutAnchors]
  cases hhost : Text.dropOpening? ['|', '|'] text with
  | some rest =>
    have hrest : rest ⊆ text := Text.subset_of_dropOpening? hhost
    dsimp only
    split
    · exact hclosed rest hrest _ ‹_›
    · exact hrest
  | none =>
    cases hleft : Text.dropOpening? ['|'] text with
    | some rest =>
      have hrest : rest ⊆ text := Text.subset_of_dropOpening? hleft
      dsimp only
      split
      · exact hclosed rest hrest _ ‹_›
      · exact hrest
    | none =>
      dsimp only
      split
      · exact hclosed text (List.Subset.refl text) _ ‹_›
      · exact List.Subset.refl text

theorem hostsDomain?_congr_of_isAscii (h : Text.isAscii line) :
    hostsDomain? idna line = hostsDomain? idna' line := by
  rw [hostsDomain?, hostsDomain?]
  split
  · next first second rest hwords =>
    have hsecond : second ∈ Text.words line := by rw [hwords]; simp
    have hascii : Text.isAscii (Text.trimBy (· == '.') second) :=
      Text.isAscii_of_subset
        (fun c hc => Text.subset_of_mem_words hsecond (Text.trimBy_subset _ _ hc)) h
    simp [hascii]
  · rfl

theorem storedPattern_congr_of_isAscii (h : Text.isAscii text) (hostAnchor matchCase : Bool) :
    storedPattern idna hostAnchor matchCase text
      = storedPattern idna' hostAnchor matchCase text := by
  have hascii : Text.isAscii (text.takeWhile (!endsHost ·)) :=
    Text.isAscii_of_subset (List.takeWhile_subset _) h
  simp only [storedPattern, Host.normal?_of_isAscii hascii]

theorem readBody_congr_of_isAscii (h : Text.isAscii line) :
    readBody idna regex line = readBody idna' regex line := by
  have hrest := afterMark_subset line
  obtain ⟨htext, hwritten⟩ := cutOptions_subset (afterMark line)
  have hoptions : readOptions idna (markSwitches line) (cutOptions (afterMark line)).2
      = readOptions idna' (markSwitches line) (cutOptions (afterMark line)).2 := by
    cases hcut : (cutOptions (afterMark line)).2 with
    | none => rfl
    | some options =>
      exact RuleOptions.ofText_congr_of_isAscii idna idna'
        (Text.isAscii_of_subset (fun c hc => hrest (hwritten options hcut hc)) h)
  have hpattern : Text.isAscii (cutAnchors (cutOptions (afterMark line)).1).pattern :=
    Text.isAscii_of_subset (fun c hc => hrest (htext (cutAnchors_subset _ hc))) h
  simp only [readBody_eq_bind, hoptions, readPattern,
    storedPattern_congr_of_isAscii idna idna' hpattern]

end NetworkRule

/-- **A line in ASCII is read alike**, however names are put into ASCII. -/
theorem NetworkFilter.ofLine_congr_of_isAscii {keepLine : Bool} {line : String}
    (h : Text.isAscii line.toList) :
    ofLine idna regex keepLine line = ofLine idna' regex keepLine line := by
  rw [ofLine, NetworkRule.hostsDomain?_congr_of_isAscii idna idna' h,
    NetworkRule.readBody_congr_of_isAscii idna idna' h, ofLine]

/-- So is a line without a regular expression, whatever compiles. -/
theorem NetworkFilter.ofLine_congr_of_regexSource? {regex' : RegexCheck} {keepLine : Bool}
    {line : String} (h : Text.isAscii line.toList)
    (hregex : NetworkRule.regexSource? (NetworkRule.cutOptions
      (NetworkRule.afterMark line.toList)).1 = none) :
    ofLine idna regex keepLine line = ofLine idna' regex' keepLine line := by
  rw [ofLine_congr_of_isAscii idna idna' h, ofLine,
    NetworkRule.readBody_congr_of_regexSource? hregex, ofLine]

/-! ## Cosmetic filters -/

namespace CosmeticRule

variable {text : List Char}

theorem storedHost?_congr_of_isAscii (h : Text.isAscii text) :
    storedHost? idna text = storedHost? idna' text := by
  have htrim : Text.isAscii (Text.trim text) := Text.isAscii_of_subset (Text.trimBy_subset _ _) h
  rw [storedHost?, storedHost?]
  cases hopening : Text.dropOpening? ['~'] (Text.trim text) with
  | none => simp only [Host.normal?_of_isAscii htrim]
  | some host =>
    have hhost := Text.isAscii_of_subset (Text.subset_of_dropOpening? hopening) htrim
    simp only [Host.normal?_of_isAscii hhost]

theorem hostList?_congr_of_isAscii (h : Text.isAscii text) :
    hostList? idna text = hostList? idna' text := by
  have hpieces : (text.splitOn ',').mapM (storedHost? idna)
      = (text.splitOn ',').mapM (storedHost? idna') :=
    mapM_congr fun _ hpiece => storedHost?_congr_of_isAscii idna idna'
      (Text.isAscii_of_subset (Text.subset_of_mem_splitOn hpiece) h)
  rw [hostList?, hpieces, hostList?]

end CosmeticRule

/-- **A line with hosts in ASCII is read alike**, however names are put into ASCII. -/
theorem CosmeticFilter.ofLine_congr_of_isAscii {keepLine : Bool} {line : String}
    {m : CosmeticRule.Marked} (hcut : CosmeticRule.cutMarker line.toList = .ok m)
    (hascii : Text.isAscii m.hosts) : ofLine idna keepLine line = ofLine idna' keepLine line := by
  rw [ofLine, hcut]
  show CosmeticRule.hostList? idna m.hosts >>= _ = _
  rw [CosmeticRule.hostList?_congr_of_isAscii idna idna' hascii, ofLine, hcut]
  rfl

end Blocklist
