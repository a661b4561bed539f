import Mathlib.Data.List.Basic
import Blocklist.Proofs.Checks
import Blocklist.Proofs.Host.Covering
import Blocklist.Rule.Network
/-!
# Rules — the steps of reading

A line is the entry of a hosts file, or its mark, its options and its pattern
are read in turn (`NetworkRule.readBody_eq_ok_iff`). Each step has a lemma
that says when it is passed and what it leaves to the next; the last is a
regular expression or a pattern between anchors
(`NetworkRule.readPattern_eq_ok_iff`).
-/

namespace Blocklist

namespace NetworkRule

variable {idna : ToAscii} {regex : RegexCheck} {line text options : List Char} {f : NetworkFilter}

/-! ## The steps -/

/-- What the mark of an exception leaves of a line. -/
def afterMark (line : List Char) : List Char := (Text.dropOpening? ['@', '@'] line).getD line

/-- The switch that the mark of an exception turns on. -/
def markSwitches (line : List Char) : List NetworkSwitch :=
  if (Text.dropOpening? ['@', '@'] line).isSome then [.exception] else []

/-- The options of a line, of which there need not be any. -/
def readOptions (idna : ToAscii) (exception : List NetworkSwitch) :
    Option (List Char) → Except NetworkError RuleOptions
  | some text => RuleOptions.ofText idna (!exception.isEmpty) text
  | none => .ok {}

/-- The filter of a pattern whose options have been read; it is `bare` if it has none. -/
def readPattern (idna : ToAscii) (regex : RegexCheck) (exception : List NetworkSwitch)
    (o : RuleOptions) (bare : Bool) (text : List Char) : Except NetworkError NetworkFilter := do
  match regexSource? text with
  | some source =>
    match regex (String.ofList source) o.matchCase with
    | some reason => throw (.invalidRegex reason)
    | none => return assemble o (exception ++ [.regex]) source
  | none =>
    let anchored := cutAnchors text
    if anchored.pattern.isEmpty && bare then throw .empty
    let pattern ←
      storedPattern idna (anchored.switches.contains .hostAnchor) o.matchCase anchored.pattern
    return assemble o (exception ++ anchored.switches) pattern

/-- **A line is read in steps**: its mark, its options, its pattern. -/
theorem readBody_eq_bind (idna : ToAscii) (regex : RegexCheck) (line : List Char) :
    readBody idna regex line =
      readOptions idna (markSwitches line) (cutOptions (afterMark line)).2 >>= fun o =>
        readPattern idna regex (markSwitches line) o (cutOptions (afterMark line)).2.isNone
          (cutOptions (afterMark line)).1 := by
  rw [readBody, afterMark, markSwitches]
  cases Text.dropOpening? ['@', '@'] line with
  | none =>
    dsimp only [Option.getD, Option.isSome]
    rcases cutOptions line with ⟨text, _ | options⟩ <;> rfl
  | some rest =>
    dsimp only [Option.getD, Option.isSome]
    rcases cutOptions rest with ⟨text, _ | options⟩ <;> rfl

theorem readBody_eq_ok_iff : readBody idna regex line = .ok f ↔
    ∃ o, readOptions idna (markSwitches line) (cutOptions (afterMark line)).2 = .ok o ∧
      readPattern idna regex (markSwitches line) o (cutOptions (afterMark line)).2.isNone
        (cutOptions (afterMark line)).1 = .ok f := by
  rw [readBody_eq_bind, bind_eq_ok_iff]

/-- **A pattern is read** as a regular expression that compiles, or as what is stored of it
between its anchors. -/
theorem readPattern_eq_ok_iff {exception : List NetworkSwitch} {o : RuleOptions} {bare : Bool} :
    readPattern idna regex exception o bare text = .ok f ↔
      (∃ source, regexSource? text = some source ∧
        regex (String.ofList source) o.matchCase = none ∧
        assemble o (exception ++ [.regex]) source = f) ∨
      (regexSource? text = none ∧ ¬ ((cutAnchors text).pattern.isEmpty && bare) ∧
        ∃ pattern, storedPattern idna ((cutAnchors text).switches.contains .hostAnchor) o.matchCase
          (cutAnchors text).pattern = .ok pattern ∧
        assemble o (exception ++ (cutAnchors text).switches) pattern = f) := by
  rw [readPattern]
  cases regexSource? text with
  | some source =>
    dsimp only
    cases hregex : regex (String.ofList source) o.matchCase with
    | some reason => simp [hregex]
    | none => simp [hregex, pure_eq_ok_iff]
  | none =>
    dsimp only
    rw [guard_eq_ok_iff, bind_eq_ok_iff]
    simp only [pure_eq_ok_iff]
    simp

/-- Of a line without a regular expression it is not asked what compiles. -/
theorem readBody_congr_of_regexSource? {regex' : RegexCheck}
    (h : regexSource? (cutOptions (afterMark line)).1 = none) :
    readBody idna regex line = readBody idna regex' line := by
  simp only [readBody_eq_bind, readPattern, h]

/-! ## Patterns and options -/

/-- A regular expression stands between slashes. -/
theorem regexSource?_eq_some_iff {source : List Char} : regexSource? text = some source ↔
    text = '/' :: source ++ ['/'] ∧ source ≠ [] := by
  rw [regexSource?, Option.bind_eq_bind, Option.bind_eq_some_iff]
  constructor
  · rintro ⟨rest, hopening, h⟩
    obtain ⟨s, hclosing, h⟩ := Option.bind_eq_some_iff.mp h
    rw [Text.dropClosing?_eq_some_iff] at hclosing
    obtain ⟨hne, h⟩ := (Option.ite_none_left_eq_some).mp h
    cases Option.some.inj h
    refine ⟨?_, by simpa using hne⟩
    rw [Text.eq_append_of_dropOpening? hopening, hclosing]
    rfl
  · rintro ⟨rfl, hne⟩
    refine ⟨source ++ ['/'], Text.dropOpening?_append ['/'] _, ?_⟩
    rw [Text.dropClosing?_eq_some_iff.mpr rfl]
    simpa using hne

/-- **When a line has options**: it is no regular expression, and they follow its last `$`. -/
theorem cutOptions_eq_iff {pattern : List Char} : cutOptions text = (pattern, some options) ↔
    regexSource? text = none ∧ Text.cutLast? '$' text = some (pattern, options) := by
  rw [cutOptions]
  split
  · next hregex =>
    refine ⟨fun h => (nomatch h), fun h => ?_⟩
    rw [h.1] at hregex
    exact nomatch hregex
  · next hregex =>
    rw [Option.not_isSome_iff_eq_none.mp hregex]
    cases Text.cutLast? '$' text with
    | none => simp
    | some parts => simp [Prod.ext_iff]

/-- A line without options is a pattern. -/
theorem fst_cutOptions (h : (cutOptions text).2 = none) : (cutOptions text).1 = text := by
  rw [cutOptions] at h ⊢
  split
  · rfl
  · next hregex =>
    rw [if_neg hregex] at h
    cases hcut : Text.cutLast? '$' text with
    | none => rfl
    | some parts =>
      rw [hcut] at h
      exact nomatch h

/-! ## Entries of hosts files -/

/-- A line is no entry unless its first word of several is an address. -/
theorem hostsDomain?_eq_none_iff : hostsDomain? idna line = .ok none ↔
    ∀ first second rest, Text.words line = first :: second :: rest → ¬ Host.isAddress first := by
  constructor
  · intro h first second rest hwords haddress
    rw [hostsDomain?, hwords] at h
    simp only [haddress, Bool.not_true, Bool.false_eq_true, if_false] at h
    split at h
    · cases h
    · split at h
      · split at h <;> cases h
      · split at h <;> cases h
  · intro h
    rw [hostsDomain?]
    split
    · next first second rest hwords =>
      rw [if_pos]
      simpa using h first second rest hwords
    · rfl

/-- The domain that a word of an entry names: the dots around it do not count. -/
def namedDomain (word : List Char) : List Char := Text.trimBy (· == '.') word

/-- A character of ASCII that the domain of an entry may have. -/
def isDomainChar (c : Char) : Bool := Text.isAlphanum c || c == '.' || c == '-' || c == '_'

/-- What is stored of the domain of an entry. -/
def readDomain (idna : ToAscii) (name : List Char) : Except NetworkError (Option (List Char)) :=
  if !name.contains '.' || Host.isAddress name then .error .hostsEntry
  else if !Text.isAscii name then
    match idna name with
    | some domain => .ok (some domain)
    | none => .error .punycode
  else if name.all isDomainChar then .ok (some (Text.lower name))
  else .error .hostsEntry

theorem hostsDomain?_of_words {first second : List Char} {rest : List (List Char)}
    (hwords : Text.words line = first :: second :: rest) (haddress : Host.isAddress first) :
    hostsDomain? idna line = readDomain idna (namedDomain second) := by
  rw [hostsDomain?, hwords]
  exact if_neg (by simpa using haddress)

/-- A domain has a dot and is no address; it is in ASCII, or has a form that is. -/
theorem readDomain_eq_some_iff {name domain : List Char} :
    readDomain idna name = .ok (some domain) ↔
    '.' ∈ name ∧ ¬ Host.isAddress name ∧
      (Text.isAscii name ∧ (∀ c ∈ name, isDomainChar c) ∧ Text.lower name = domain
        ∨ ¬ Text.isAscii name ∧ idna name = some domain) := by
  have hname : ¬ (!name.contains '.' || Host.isAddress name) ↔
      '.' ∈ name ∧ ¬ Host.isAddress name := by simp
  rw [readDomain, ← and_assoc, ← hname]
  split
  · next hrefused => exact ⟨fun h => (nomatch h), fun h => absurd hrefused h.1⟩
  · next haccepted =>
    rw [and_iff_right haccepted]
    cases hascii : Text.isAscii name with
    | true =>
      rw [if_neg (by simp)]
      split
      · next hchars =>
        have hall := List.all_eq_true.mp hchars
        simpa using fun _ => hall
      · next hchars => simpa using fun h => absurd (List.all_eq_true.mpr h) hchars
    | false =>
      rw [if_pos (by simp)]
      cases idna name <;> simp

/-- **A line is an entry** if its first word is an address and its second names a domain. -/
theorem hostsDomain?_eq_some_iff {domain : List Char} :
    hostsDomain? idna line = .ok (some domain) ↔
    ∃ first second rest, Text.words line = first :: second :: rest ∧ Host.isAddress first ∧
      readDomain idna (namedDomain second) = .ok (some domain) := by
  constructor
  · intro h
    by_contra hnone
    have hno : hostsDomain? idna line = .ok none := by
      rw [hostsDomain?_eq_none_iff]
      intro first second rest hwords haddress
      rw [hostsDomain?_of_words hwords haddress] at h
      exact hnone ⟨first, second, rest, hwords, haddress, h⟩
    rw [hno] at h
    cases h
  · rintro ⟨first, second, rest, hwords, haddress, h⟩
    rw [hostsDomain?_of_words hwords haddress, h]

end NetworkRule

open NetworkRule

variable {idna : ToAscii} {regex : RegexCheck} {keepLine : Bool} {line : String} {f : NetworkFilter}

/-- **Every filter is that of an entry, or that of a pattern.** -/
theorem NetworkFilter.exists_of_ofLine (h : NetworkFilter.ofLine idna regex keepLine line = .ok f) :
    ∃ g, { g with rawLine := if keepLine then some line else none } = f ∧
      ((∃ domain, hostsDomain? idna line.toList = .ok (some domain) ∧ blockDomain domain = g)
        ∨ hostsDomain? idna line.toList = .ok none ∧ readBody idna regex line.toList = .ok g) := by
  rw [NetworkFilter.ofLine] at h
  obtain ⟨-, h⟩ := guard_eq_ok_iff.mp h
  obtain ⟨found, hfound, h⟩ := bind_eq_ok_iff.mp h
  cases found with
  | some domain => exact ⟨_, pure_eq_ok_iff.mp h, .inl ⟨domain, hfound, rfl⟩⟩
  | none =>
    obtain ⟨g, hbody, h⟩ := bind_eq_ok_iff.mp h
    exact ⟨g, pure_eq_ok_iff.mp h, .inr ⟨hfound, hbody⟩⟩

theorem NetworkFilter.ofLine_eq_ok_iff (hhosts : hostsDomain? idna line.toList = .ok none) :
    NetworkFilter.ofLine idna regex keepLine line = .ok f ↔ ¬ line.isEmpty ∧
      ∃ g, readBody idna regex line.toList = .ok g ∧
        { g with rawLine := if keepLine then some line else none } = f := by
  rw [NetworkFilter.ofLine, guard_eq_ok_iff, hhosts]
  refine and_congr_right fun _ => ?_
  show (readBody idna regex line.toList >>= fun g =>
    pure { g with rawLine := if keepLine then some line else none }) = .ok f ↔ _
  simp only [bind_eq_ok_iff, pure_eq_ok_iff]

end Blocklist
