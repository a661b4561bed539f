import Blocklist.Idna.Name
import Blocklist.Proofs.Filter.Mask
import Blocklist.Proofs.Rule.Options
import Blocklist.Proofs.Rule.Reading
import Blocklist.Proofs.Rule.Tidy
import Blocklist.Proofs.Text.Cut
import Blocklist.Regex.Program
/-!
# Rules — a badfilter and its target

A line that is accepted as a pattern stays accepted with the option
`badfilter` at its end (`badfilterLine`): where its options part from its
pattern does not move, and it does not come to be an entry of a hosts file.
Main statement (`badfilter_names_target`): the longer line gives the same
filter with the one switch more, so it targets the filter of the shorter one,
and tidying takes out both.
-/

namespace Blocklist

namespace NetworkRule

variable {line text back options : List Char} {c : Char} {o : RuleOptions}
variable {exception : List NetworkSwitch} {f : NetworkFilter} {bare : Bool}
variable {idna : ToAscii} {regex : RegexCheck}

/-! ## The mark and the options of a longer line -/

theorem dropOpening?_mark_append (hc : c ≠ '@') (line back : List Char) :
    Text.dropOpening? ['@', '@'] (line ++ c :: back)
      = (Text.dropOpening? ['@', '@'] line).map (· ++ c :: back) := by
  cases h : Text.dropOpening? ['@', '@'] line with
  | none => exact Text.dropOpening?_append_eq_none h (by simpa using hc) back
  | some rest => exact Text.dropOpening?_append_right h (c :: back)

theorem markSwitches_append (hc : c ≠ '@') (line back : List Char) :
    markSwitches (line ++ c :: back) = markSwitches line := by
  rw [markSwitches, dropOpening?_mark_append hc, Option.isSome_map]
  rfl

theorem afterMark_append (hc : c ≠ '@') (line back : List Char) :
    afterMark (line ++ c :: back) = afterMark line ++ c :: back := by
  rw [afterMark, dropOpening?_mark_append hc, afterMark]
  cases Text.dropOpening? ['@', '@'] line <;> rfl

theorem regexSource?_append (hne : back ≠ []) (hslash : '/' ∉ back) (text : List Char) :
    regexSource? (text ++ back) = none := by
  rw [Option.eq_none_iff_forall_ne_some]
  intro source h
  have hlast := congrArg List.getLast? (regexSource?_eq_some_iff.mp h).1
  rw [List.getLast?_append_of_ne_nil _ hne, List.getLast?_concat] at hlast
  exact hslash (List.mem_of_getLast? hlast)

/-- **More options leave the pattern where it is.** -/
theorem cutOptions_append_of_some (h : (cutOptions text).2 = some options) (hne : back ≠ [])
    (hdollar : '$' ∉ back) (hslash : '/' ∉ back) :
    cutOptions (text ++ back) = ((cutOptions text).1, some (options ++ back)) := by
  obtain ⟨-, hcut⟩ := cutOptions_eq_iff.mp (Prod.ext rfl h)
  refine cutOptions_eq_iff.mpr ⟨regexSource?_append hne hslash text, ?_⟩
  rw [Text.cutLast?_append_of_not_mem hdollar, hcut]
  rfl

/-- Where there are no options, the whole is the pattern, and stays it when there are. -/
theorem cutOptions_append_of_none (h : (cutOptions text).2 = none) (hdollar : '$' ∉ back)
    (hslash : '/' ∉ back) :
    cutOptions (text ++ '$' :: back) = ((cutOptions text).1, some back) := by
  have hend : '/' ∉ '$' :: back := by simpa using hslash
  rw [fst_cutOptions h]
  exact cutOptions_eq_iff.mpr
    ⟨regexSource?_append (List.cons_ne_nil _ _) hend text, Text.cutLast?_append_cons hdollar text⟩

/-! ## Entries of hosts files -/

/-- The first of several words stays what it is. -/
theorem hostsDomain?_append (hline : hostsDomain? idna line = .ok none) (hne : line ≠ [])
    (hend : ∀ c ∈ line.getLast?, Text.isBlank c = false)
    (hback : ∀ c ∈ back, Text.isBlank c = false) : hostsDomain? idna (line ++ back) = .ok none := by
  rw [hostsDomain?_eq_none_iff] at hline ⊢
  obtain ⟨front, last, hwords, hlonger⟩ := Text.exists_words_append hne hend
  intro first second rest h
  rw [hlonger back hback] at h
  -- the last word alone gets longer, and of several words the first is not the last
  cases front with
  | nil => cases h
  | cons word front =>
    cases (List.cons.inj h).1
    cases front with
    | nil => exact hline _ _ _ hwords
    | cons next front => exact hline _ _ _ hwords

/-! ## The filter of a longer line -/

theorem mask_assemble_badfilter (o : RuleOptions) (switches : List NetworkSwitch)
    (pattern : List Char) : (assemble { o with badfilter := true } switches pattern).mask
      = (assemble { o with badfilter := false } switches pattern).mask.turnOn .badfilter := by
  have hmake := NetworkMask.make_append_cons o.types
    ((if o.firstParty then [.firstParty] else []) ++ (if o.thirdParty then [.thirdParty] else [])
      ++ (if o.matchCase then [.matchCase] else []))
    ((o.modifier.map (·.1.switch)).toList ++ switches) .badfilter
  simpa [assemble, RuleOptions.switches, RuleOptions.types] using hmake

theorem badfilter_eq_false {switches : List NetworkSwitch} {pattern : List Char}
    (h : ¬ (assemble o switches pattern).mask.has .badfilter) : o.badfilter = false := by
  by_contra hon
  have ho : { o with badfilter := true } = o := by rw [← Bool.of_not_eq_false hon]
  have hmask := mask_assemble_badfilter o switches pattern
  rw [ho] at hmask
  rw [hmask] at h
  exact h (NetworkMask.has_turnOn.mpr (.inr rfl))

/-- Options that agree on case read the same pattern. -/
theorem exists_assemble_of_readPattern (h : readPattern idna regex exception o bare text = .ok f) :
    ∃ switches pattern, f = assemble o switches pattern ∧
      ∀ o' : RuleOptions, o'.matchCase = o.matchCase →
        readPattern idna regex exception o' false text = .ok (assemble o' switches pattern) := by
  -- of the options, what is checked of a pattern goes by the case of letters alone
  rcases readPattern_eq_ok_iff.mp h with
    ⟨source, hsource, hcompiles, rfl⟩ | ⟨hsource, -, pattern, hstored, rfl⟩
  · refine ⟨exception ++ [.regex], source, rfl, fun o' hcase => ?_⟩
    rw [← hcase] at hcompiles
    exact readPattern_eq_ok_iff.mpr (.inl ⟨source, hsource, hcompiles, rfl⟩)
  · refine ⟨_, pattern, rfl, fun o' hcase => ?_⟩
    rw [← hcase] at hstored
    exact readPattern_eq_ok_iff.mpr (.inr ⟨hsource, by simp, pattern, hstored, rfl⟩)

theorem readPattern_badfilter (h : readPattern idna regex exception o bare text = .ok f)
    (hlasts : ¬ f.mask.has .badfilter) :
    readPattern idna regex exception { o with badfilter := true } false text
      = .ok { f with mask := f.mask.turnOn .badfilter } := by
  obtain ⟨switches, pattern, rfl, hread⟩ := exists_assemble_of_readPattern h
  have hoff : { o with badfilter := false } = o := by rw [← badfilter_eq_false hlasts]
  have hmask := mask_assemble_badfilter o switches pattern
  rw [hoff] at hmask
  rw [hread { o with badfilter := true } rfl, ← hmask]
  rfl

/-! ## The option at the end -/

/-- The name of the option. -/
def badfilterName : List Char := "badfilter".toList

/-- What stands before another option of a line: its options part from the pattern by `$`, and from
one another by commas. -/
def optionMark (line : List Char) : Char :=
  if (cutOptions (afterMark line)).2.isSome then ',' else '$'

theorem optionMark_cases (line : List Char) : optionMark line = ',' ∨ optionMark line = '$' :=
  ite_eq_or_eq _ _ _

theorem optionMark_ne (line : List Char) : optionMark line ≠ '@' := by
  rcases optionMark_cases line with h | h <;> rw [h] <;> decide

theorem isBlank_of_mem_option (line : List Char) :
    ∀ c ∈ optionMark line :: badfilterName, Text.isBlank c = false := by
  have hall : (optionMark line :: badfilterName).all (!Text.isBlank ·) = true := by
    rcases optionMark_cases line with h | h <;> rw [h] <;> decide
  intro c hc
  simpa using List.all_eq_true.mp hall c hc

/-- A line with one option more. -/
def badfilterLine (line : String) : String :=
  line ++ String.ofList (optionMark line.toList :: badfilterName)

theorem toList_badfilterLine (line : String) :
    (badfilterLine line).toList = line.toList ++ optionMark line.toList :: badfilterName := by
  rw [badfilterLine, String.toList_append, String.toList_ofList]

/-- The option is a piece of its own, or the only one. -/
theorem readOptions_badfilter {written : Option (List Char)}
    (h : readOptions idna exception written = .ok o) :
    readOptions idna exception (some (written.elim badfilterName (· ++ ',' :: badfilterName)))
      = .ok { o with badfilter := true } := by
  have hname : WrittenOption.listOfText badfilterName = [.badfilter] := by decide
  cases written with
  | none =>
    cases h
    exact RuleOptions.ofText_badfilter (RuleOptions.ofText_nil _ _) hname
  | some text =>
    have hlist := WrittenOption.listOfText_append_cons text badfilterName
    rw [hname] at hlist
    exact RuleOptions.ofText_badfilter h hlist

theorem cutOptions_badfilter (line : List Char) :
    cutOptions (afterMark (line ++ optionMark line :: badfilterName))
      = ((cutOptions (afterMark line)).1,
        some ((cutOptions (afterMark line)).2.elim badfilterName (· ++ ',' :: badfilterName))) := by
  rw [afterMark_append (optionMark_ne line), optionMark]
  cases h : (cutOptions (afterMark line)).2 with
  | none => exact cutOptions_append_of_none h (by decide) (by decide)
  | some options =>
    have hfree : '$' ∉ ',' :: badfilterName ∧ '/' ∉ ',' :: badfilterName := by decide
    exact cutOptions_append_of_some h (List.cons_ne_nil _ _) hfree.1 hfree.2

/-- **The option turns on one switch** of what a line is read as. -/
theorem readBody_badfilter (hbody : readBody idna regex line = .ok f)
    (hlasts : ¬ f.mask.has .badfilter) :
    readBody idna regex (line ++ optionMark line :: badfilterName)
      = .ok { f with mask := f.mask.turnOn .badfilter } := by
  obtain ⟨o, hoptions, hpattern⟩ := readBody_eq_ok_iff.mp hbody
  rw [readBody_eq_ok_iff, markSwitches_append (optionMark_ne line), cutOptions_badfilter]
  exact ⟨_, readOptions_badfilter hoptions, readPattern_badfilter hpattern hlasts⟩

end NetworkRule

open NetworkRule

variable {idna : ToAscii} {regex : RegexCheck} {keepLine : Bool} {line : String} {f : NetworkFilter}

/-- A line that is accepted as a pattern is accepted with one option more. -/
theorem NetworkFilter.ofLine_badfilterLine
    (htrim : Text.trim line.toList = line.toList)
    (hhosts : hostsDomain? idna line.toList = .ok none)
    (hline : NetworkFilter.ofLine idna regex keepLine line = .ok f)
    (hlasts : ¬ f.mask.has .badfilter) :
    NetworkFilter.ofLine idna regex keepLine (badfilterLine line)
      = .ok { f with
          mask := f.mask.turnOn .badfilter
          rawLine := if keepLine then some (badfilterLine line) else none } := by
  obtain ⟨hne, g, hbody, rfl⟩ := (NetworkFilter.ofLine_eq_ok_iff hhosts).mp hline
  have hlonger : hostsDomain? idna (badfilterLine line).toList = .ok none := by
    rw [toList_badfilterLine]
    exact hostsDomain?_append hhosts (by simpa using hne) (Text.isBlank_getLast?_of_trim htrim)
      (isBlank_of_mem_option line.toList)
  rw [NetworkFilter.ofLine_eq_ok_iff hlonger]
  refine ⟨?_, { g with mask := g.mask.turnOn .badfilter }, ?_, rfl⟩
  · simp [← String.toList_eq_nil_iff, toList_badfilterLine]
  · rw [toList_badfilterLine]
    exact readBody_badfilter hbody hlasts

theorem NetworkFilter.id_eq_of_sameContent {f g : NetworkFilter} (h : f.sameContent g) :
    f.id = g.id := by
  have hcontent : f.content = g.content := eq_of_beq h
  calc
    f.id = f.content.id := rfl
    _ = g.content.id := by rw [hcontent]
    _ = g.id := rfl

/-- What a filter with the switch turned on targets. -/
theorem NetworkFilter.targetId_of_turnOn {f b : NetworkFilter} (hlasts : ¬ f.mask.has .badfilter)
    (hsame : b.sameContent { f with mask := f.mask.turnOn .badfilter }) : b.targetId = f.id := by
  have hcontent : b.content = { f with mask := f.mask.turnOn .badfilter, rawLine := none } :=
    eq_of_beq hsame
  have htarget := congrArg NetworkFilter.targetId hcontent
  rw [NetworkFilter.targetId, NetworkFilter.targetId, NetworkMask.without_turnOn hlasts] at htarget
  exact htarget

/-- **A badfilter names its target.** Where a line without blanks around it is accepted as a
pattern and is no badfilter, one option more makes it the same filter with the one switch more. Its
target is the filter of the line, and of a list that it is in, tidying leaves neither that filter
nor a badfilter. -/
theorem badfilter_names_target
    (htrim : Text.trim line.toList = line.toList)
    (hhosts : hostsDomain? idna line.toList = .ok none)
    (hline : NetworkFilter.ofLine idna regex keepLine line = .ok f)
    (hlasts : ¬ f.mask.has .badfilter) :
    ∃ b : NetworkFilter, NetworkFilter.ofLine idna regex keepLine (badfilterLine line) = .ok b ∧
      b.sameContent { f with mask := f.mask.turnOn .badfilter } ∧
      b.targetId = f.id ∧
      ∀ network cosmetic, b ∈ network →
        ∀ g ∈ (tidy network cosmetic).network, ¬ g.sameContent f ∧ ¬ g.mask.has .badfilter := by
  obtain ⟨b, hread, hsame, hon⟩ : ∃ b,
      NetworkFilter.ofLine idna regex keepLine (badfilterLine line) = .ok b ∧
      b.sameContent { f with mask := f.mask.turnOn .badfilter } ∧ b.mask.has .badfilter :=
    ⟨_, NetworkFilter.ofLine_badfilterLine htrim hhosts hline hlasts, beq_self_eq_true _,
      NetworkMask.has_turnOn.mpr (.inr rfl)⟩
  have htarget : b.targetId = f.id := NetworkFilter.targetId_of_turnOn hlasts hsame
  refine ⟨b, hread, hsame, htarget, fun network cosmetic hb g hg => ?_⟩
  obtain ⟨positions, hkeeps⟩ := exists_keepsFirst_network_tidy network cosmetic
  obtain ⟨-, hglasts, hspared⟩ := hkeeps.of_mem hg
  refine ⟨fun hgf => hspared b hb hon ?_, hglasts⟩
  rw [htarget, NetworkFilter.id_eq_of_sameContent hgf]

/-- A line with a `$` in its pattern. -/
def payLine : String := "@@/pay$1/Ad^$~script,domain=a.com"

/-- The filter of that line. -/
def payFilter : NetworkFilter :=
  { mask := .make (TypeSet.full.without (.ofList [.script])) [.firstParty, .thirdParty, .exception]
    pattern := "/pay$1/ad^"
    domains := some ⟨"a.com"⟩ }

theorem badfilter_names_target_payLine :
    ∃ b : NetworkFilter,
      NetworkFilter.ofLine Idna.toAscii? .compiled false
        "@@/pay$1/Ad^$~script,domain=a.com,badfilter" = .ok b ∧
      b.sameContent { payFilter with mask := payFilter.mask.turnOn .badfilter } ∧
      b.targetId = payFilter.id ∧
      ∀ network cosmetic, b ∈ network →
        ∀ g ∈ (tidy network cosmetic).network,
          ¬ g.sameContent payFilter ∧ ¬ g.mask.has .badfilter := by
  have hlonger : badfilterLine payLine = "@@/pay$1/Ad^$~script,domain=a.com,badfilter" := by
    decide +kernel
  rw [← hlonger]
  exact badfilter_names_target (by decide +kernel) (by decide +kernel) (by decide +kernel)
    (by decide)

end Blocklist
