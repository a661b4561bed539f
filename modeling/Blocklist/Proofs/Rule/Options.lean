import Blocklist.Proofs.Checks
import Blocklist.Proofs.Filter.Mask
import Blocklist.Proofs.Host.Normal
import Blocklist.Proofs.Text.Cut
import Blocklist.Rule.Options
/-!
# Rules — when options are accepted

Options are taken in one after the other, and what they come to has to leave
a request type and a party (`ofText_eq_ok_iff`). So `badfilter` may follow any
options that are accepted, and changes nothing but what it says
(`ofText_badfilter`). What one option can do (`Adds`) keeps the options sound
(`Sound.of_adds`), and so they are after any number of them (`sound_of_ofText`).
-/

namespace Blocklist

/-- The option that makes a filter cancel another. -/
def WrittenOption.badfilter : WrittenOption := ⟨false, "badfilter", none⟩

theorem WrittenOption.listOfText_append_cons (text more : List Char) :
    listOfText (text ++ ',' :: more) = listOfText text ++ listOfText more := by
  have hpieces : (text ++ ',' :: more).splitOn ',' = text.splitOn ',' ++ more.splitOn ',' :=
    List.splitOnP_append_cons text more (beq_self_eq_true ',')
  rw [listOfText, hpieces, List.map_append, List.filter_append, List.map_append]
  rfl

theorem WrittenOption.value_ofText (text : List Char) :
    (ofText text).value = (Text.cut? '=' text).map fun parts => Text.trim parts.2 := by
  rw [ofText]
  cases Text.cut? '=' text <;> dsimp only <;> split <;> rfl

/-- The value of an option is a part of the text. -/
theorem WrittenOption.value_subset {text : List Char} {written : WrittenOption}
    (h : written ∈ listOfText text) : written.value.getD [] ⊆ text := by
  obtain ⟨piece, hpiece, rfl⟩ := List.mem_map.mp h
  obtain ⟨raw, hraw, rfl⟩ := List.mem_map.mp (List.mem_filter.mp hpiece).1
  rw [value_ofText]
  cases hcut : Text.cut? '=' (Text.trim raw) with
  | none => exact List.nil_subset _
  | some parts =>
    intro c hc
    have hback : c ∈ Text.trim raw := Text.back_subset_of_cut? hcut (Text.trimBy_subset _ _ hc)
    exact Text.subset_of_mem_splitOn hraw (Text.trimBy_subset _ _ hback)

/-- The entries of a list as they are written, in order. -/
def HostList.parts (l : HostList) : List (List Char) := l.text.toList.splitOn ','

/-- The list of entries. -/
def HostList.ofEntries (entries : List (List Char)) : HostList :=
  ⟨String.ofList ([','].intercalate entries)⟩

/-- Entries without a comma are found again between the commas. -/
theorem HostList.parts_ofEntries {entries : List (List Char)} (hne : entries ≠ [])
    (h : ∀ entry ∈ entries, ',' ∉ entry) : (ofEntries entries).parts = entries := by
  rw [parts, ofEntries, String.toList_ofList, List.splitOn_intercalate ',' h hne]

namespace RuleOptions

variable {idna : ToAscii} {forException : Bool} {option : String} {text more : List Char}
variable {o : RuleOptions}

/-- **When options are accepted**: each is taken in, and they leave a request type and a party. -/
theorem ofText_eq_ok_iff : ofText idna forException text = .ok o ↔
    (WrittenOption.listOfText text).foldlM (add idna forException) ({} : RuleOptions) = .ok o
      ∧ ¬ o.types.isEmpty ∧ ¬ (!o.firstParty && !o.thirdParty) := by
  simp only [ofText, bind_eq_ok_iff, guard_eq_ok_iff, pure_eq_ok_iff]
  constructor
  · rintro ⟨o, hfold, htypes, hparty, rfl⟩
    exact ⟨hfold, htypes, hparty⟩
  · rintro ⟨hfold, htypes, hparty⟩
    exact ⟨o, hfold, htypes, hparty, rfl⟩

theorem add_badfilter (idna : ToAscii) (forException : Bool) (o : RuleOptions) :
    add idna forException o .badfilter = .ok { o with badfilter := true } := rfl

/-- **One option more is accepted** after those that are, and turns on what it names alone. -/
theorem ofText_badfilter (h : ofText idna forException text = .ok o)
    (hmore : WrittenOption.listOfText more = WrittenOption.listOfText text ++ [.badfilter]) :
    ofText idna forException more = .ok { o with badfilter := true } := by
  rw [ofText_eq_ok_iff] at h ⊢
  obtain ⟨hfold, htypes, hparty⟩ := h
  refine ⟨?_, htypes, hparty⟩
  rw [hmore, List.foldlM_append, hfold]
  show (add idna forException o .badfilter >>= fun o => pure o) = _
  rw [add_badfilter]
  rfl

/-- No options are options too. -/
@[simp] theorem ofText_nil (idna : ToAscii) (forException : Bool) :
    ofText idna forException [] = .ok {} := rfl

/-! ## Lists of domains -/

/-- What is stored of a domain that has lost its mark. -/
def storedBehind? (idna : ToAscii) (option : String) (mark domain : List Char) :
    Except NetworkError (Option (List Char)) :=
  let domain := Text.trimBy (· == '.') domain
  if domain.isEmpty then .ok none
  else
    match Host.normal? idna domain with
    | none => .error .punycode
    | some domain =>
      if domain.contains ',' then .error (.invalidValue option) else .ok (some (mark ++ domain))

theorem storedDomain?_eq (idna : ToAscii) (option : String) (text : List Char) :
    storedDomain? idna option text =
    match Text.dropOpening? ['~'] (Text.trim text) with
    | some domain => storedBehind? idna option ['~'] domain
    | none => storedBehind? idna option [] (Text.trim text) := by
  rw [storedDomain?]
  cases Text.dropOpening? ['~'] (Text.trim text) <;> rfl

/-- An entry that comes from a domain: the mark, if there is one, and the stored form. -/
inductive EntryFrom (idna : ToAscii) (domain : List Char) : List Char → Prop
  | intro {mark stored : List Char} (hmark : mark ⊆ ['~']) (hne : domain ≠ [])
      (hstored : Host.normal? idna domain = some stored) (hcomma : ',' ∉ stored) :
      EntryFrom idna domain (mark ++ stored)

theorem exists_entryFrom_of_storedBehind? {mark entry : List Char} (hmark : mark ⊆ ['~'])
    (h : storedBehind? idna option mark text = .ok (some entry)) :
    ∃ domain ⊆ text, EntryFrom idna domain entry := by
  refine ⟨Text.trimBy (· == '.') text, Text.trimBy_subset _ _, ?_⟩
  rw [storedBehind?] at h
  split at h
  · cases h
  · next hne =>
    split at h
    · cases h
    · next hstored =>
      split at h
      · cases h
      · next hcomma =>
        cases h
        exact .intro hmark (by simpa using hne) hstored (by simpa using hcomma)

theorem exists_entryFrom_of_storedDomain? {entry : List Char}
    (h : storedDomain? idna option text = .ok (some entry)) :
    ∃ domain ⊆ text, EntryFrom idna domain entry := by
  rw [storedDomain?_eq] at h
  have htrim : Text.trim text ⊆ text := Text.trimBy_subset _ _
  split at h
  · next rest hopening =>
    obtain ⟨domain, hdomain, hentry⟩ := exists_entryFrom_of_storedBehind? (List.Subset.refl _) h
    exact ⟨domain, fun c hc => htrim (Text.subset_of_dropOpening? hopening (hdomain hc)), hentry⟩
  · obtain ⟨domain, hdomain, hentry⟩ := exists_entryFrom_of_storedBehind? (List.nil_subset _) h
    exact ⟨domain, fun c hc => htrim (hdomain hc), hentry⟩

variable {domain entry : List Char} {list : HostList}

theorem EntryFrom.not_mem_comma (h : EntryFrom idna domain entry) : ',' ∉ entry := by
  obtain ⟨hmark, -, -, hcomma⟩ := h
  intro hmem
  rcases List.mem_append.mp hmem with hmem | hmem
  · exact absurd (hmark hmem) (by decide)
  · exact hcomma hmem

theorem EntryFrom.isLower (hidna : idna.IsLowerAscii) (h : EntryFrom idna domain entry) :
    Text.IsLower entry := by
  obtain ⟨hmark, -, hstored, -⟩ := h
  have hlower : Text.IsLower ['~'] := by decide
  exact Text.IsLower.append (fun c hc => hlower c (hmark hc)) (Host.isLower_normal? hidna hstored)

/-- Punycode may leave nothing of a domain, and ASCII always leaves something. -/
theorem EntryFrom.ne_nil (h : EntryFrom idna domain entry) (hascii : Text.isAscii domain) :
    entry ≠ [] := by
  obtain ⟨-, hne, hstored, -⟩ := h
  refine List.append_ne_nil_of_right_ne_nil _ fun hnil => hne (List.length_eq_zero_iff.mp ?_)
  rw [← Host.length_normal? hascii hstored, hnil]
  rfl

/-- A list has what is stored of the pieces between bars, if there is anything. -/
theorem domainList_eq_ok_iff : domainList idna option text = .ok list ↔
    ∃ found, (text.splitOn '|').mapM (storedDomain? idna option) = .ok found ∧
      found.filterMap id ≠ [] ∧ HostList.ofEntries (found.filterMap id) = list := by
  simp only [domainList, bind_eq_ok_iff, guard_eq_ok_iff, pure_eq_ok_iff, List.isEmpty_iff]
  rfl

/-- **The entries of a list of domains** come from domains in the text. -/
theorem exists_entryFrom_of_domainList (h : domainList idna option text = .ok list) :
    ∀ entry ∈ list.parts, ∃ domain ⊆ text, EntryFrom idna domain entry := by
  obtain ⟨found, hfound, hne, rfl⟩ := domainList_eq_ok_iff.mp h
  have hfrom : ∀ entry ∈ found.filterMap id, ∃ domain ⊆ text, EntryFrom idna domain entry := by
    intro entry hentry
    obtain ⟨_, hmem, rfl⟩ := List.mem_filterMap.mp hentry
    obtain ⟨piece, hpiece, hstored⟩ := exists_of_mem_mapM hfound hmem
    obtain ⟨domain, hdomain, hentry⟩ := exists_entryFrom_of_storedDomain? hstored
    exact ⟨domain, fun c hc => Text.subset_of_mem_splitOn hpiece (hdomain hc), hentry⟩
  have hcommas : ∀ entry ∈ found.filterMap id, ',' ∉ entry := fun entry hentry =>
    (hfrom entry hentry).elim fun _ h => h.2.not_mem_comma
  rwa [HostList.parts_ofEntries hne hcommas]

/-! ## One option -/

variable {written : WrittenOption} {o' : RuleOptions}

/-- What taking in an option can do. -/
inductive Adds (idna : ToAscii) (forException : Bool) (o : RuleOptions) (written : WrittenOption) :
    RuleOptions → Prop
  | modifier (modifier : Modifier) (hnone : o.modifier = none)
      (hvalue : written.value.getD [] = [] → forException) :
      Adds idna forException o written
        { o with modifier := some (modifier, String.ofList (written.value.getD [])) }
  | domains {list : HostList}
      (hlist : domainList idna written.name (written.value.getD []) = .ok list) :
      Adds idna forException o written { o with domains := some list }
  | denyallow {list : HostList}
      (hlist : domainList idna written.name (written.value.getD []) = .ok list)
      (hplain : ∀ entry ∈ list.parts, entry.head? ≠ some '~') :
      Adds idna forException o written { o with denyallow := some list }
  | matchCase : Adds idna forException o written { o with matchCase := true }
  | badfilter : Adds idna forException o written { o with badfilter := true }
  | notFirstParty : Adds idna forException o written { o with firstParty := false }
  | notThirdParty : Adds idna forException o written { o with thirdParty := false }
  | including (types : List RequestType) :
      Adds idna forException o written { o with included := o.included.union (.ofList types) }
  | excluding (types : List RequestType) :
      Adds idna forException o written { o with excluded := o.excluded.union (.ofList types) }

theorem adds_of_addModifier {modifier : Modifier}
    (h : o.addModifier forException written modifier = .ok o') :
    Adds idna forException o written o' := by
  simp only [addModifier] at h
  split at h
  · cases h
  · split at h
    · cases h
    · next hnone =>
      split at h
      · cases h
      · next hvalue =>
        cases h
        exact .modifier modifier (by simpa using hnone) (by simpa using hvalue)

theorem adds_of_addDomains (h : o.addDomains idna written = .ok o') :
    Adds idna forException o written o' := by
  rw [addDomains] at h
  obtain ⟨-, h⟩ := guard_eq_ok_iff.mp h
  obtain ⟨list, hlist, h⟩ := bind_eq_ok_iff.mp h
  split at h
  · cases h
    exact .domains hlist
  · obtain ⟨hplain, h⟩ := guard_eq_ok_iff.mp h
    cases pure_eq_ok_iff.mp h
    exact .denyallow hlist (by simpa [HostList.parts] using hplain)

/-- To name one party is to leave out the other. -/
theorem adds_thirdParty : Adds idna forException o written
    (if written.negated then { o with thirdParty := false }
      else { o with firstParty := false }) := by
  split
  · exact .notThirdParty
  · exact .notFirstParty

theorem adds_firstParty : Adds idna forException o written
    (if written.negated then { o with firstParty := false }
      else { o with thirdParty := false }) := by
  split
  · exact .notFirstParty
  · exact .notThirdParty

theorem adds_of_addWord (h : o.addWord written = .ok o') : Adds idna forException o written o' := by
  rw [addWord] at h
  dsimp only at h
  split at h
  case h_1 =>
    split at h <;> cases h
    exact .matchCase
  case h_2 =>
    split at h <;> cases h
    exact .badfilter
  case h_3 => exact Except.ok.inj h ▸ adds_thirdParty
  case h_4 => exact Except.ok.inj h ▸ adds_thirdParty
  case h_5 => exact Except.ok.inj h ▸ adds_firstParty
  case h_6 => exact Except.ok.inj h ▸ adds_firstParty
  case h_7 => cases h
  case h_8 =>
    split at h
    · cases h
    · next types _ =>
      cases h
      split
      · exact .excluding types
      · exact .including types

/-- **What an option can do** to those before it. -/
theorem adds_of_add (h : add idna forException o written = .ok o') :
    Adds idna forException o written o' := by
  rw [add] at h
  split at h
  · exact adds_of_addModifier h
  · split at h
    · exact adds_of_addDomains h
    · split at h
      · cases h
      · exact adds_of_addWord h

/-! ## Any number of options -/

/-- What the options of a text keep to, however many of them there are. -/
structure Sound (idna : ToAscii) (forException : Bool) (text : List Char) (o : RuleOptions) :
    Prop where
  /-- The types that are named are known. -/
  included : o.included.IsKnown
  /-- Only an exception does without the value of its modifier. -/
  value : ∀ modifier, o.modifier = some (modifier, "") → forException
  /-- No host is excepted from those that an address may not have. -/
  denyallow : ∀ list, o.denyallow = some list →
    ∀ entry ∈ list.parts, HostList.negated? entry = none
  /-- The entries of lists come from domains in the text. -/
  lists : ∀ list, o.domains = some list ∨ o.denyallow = some list →
    ∀ entry ∈ list.parts, ∃ domain ⊆ text, EntryFrom idna domain entry

theorem negated?_eq_none (h : entry.head? ≠ some '~') : HostList.negated? entry = none := by
  cases entry with
  | nil => rfl
  | cons c entry =>
    rw [HostList.negated?, Text.dropOpening?, if_neg]
    intro hc
    exact h (congrArg some (eq_of_beq hc).symm)

/-- **One option more** leaves them sound. -/
theorem Sound.of_adds (h : o.Sound idna forException text) (hvalue : written.value.getD [] ⊆ text)
    (hadds : Adds idna forException o written o') : o'.Sound idna forException text := by
  have hfrom : ∀ list, domainList idna written.name (written.value.getD []) = .ok list →
      ∀ entry ∈ list.parts, ∃ domain ⊆ text, EntryFrom idna domain entry := by
    intro list hlist entry hentry
    obtain ⟨domain, hdomain, hfrom⟩ := exists_entryFrom_of_domainList hlist entry hentry
    exact ⟨domain, fun c hc => hvalue (hdomain hc), hfrom⟩
  -- a list is taken over as a whole, so its entries are all from this option or all from before
  cases hadds with
  | modifier modifier hnone hempty =>
    refine { h with value := fun other heq => hempty ?_ }
    simpa using (Prod.mk.inj (Option.some.inj heq)).2
  | domains hlist =>
    refine { h with lists := ?_ }
    rintro list (heq | heq)
    · cases heq
      exact hfrom _ hlist
    · exact h.lists list (.inr heq)
  | denyallow hlist hplain =>
    refine { h with denyallow := ?_, lists := ?_ }
    · rintro list heq entry hentry
      cases heq
      exact negated?_eq_none (hplain entry hentry)
    · rintro list (heq | heq)
      · exact h.lists list (.inl heq)
      · cases heq
        exact hfrom _ hlist
  | matchCase => exact { h with }
  | badfilter => exact { h with }
  | notFirstParty => exact { h with }
  | notThirdParty => exact { h with }
  | including types => exact { h with included := h.included.union (TypeSet.isKnown_ofList types) }
  | excluding types => exact { h with }

theorem sound_nil (idna : ToAscii) (forException : Bool) (text : List Char) :
    Sound idna forException text {} where
  included := TypeSet.isKnown_empty
  value := nofun
  denyallow := nofun
  lists := by simp

/-- **Options that are accepted** are sound. -/
theorem sound_of_ofText (h : ofText idna forException text = .ok o) :
    o.Sound idna forException text := by
  refine foldlM_induction ?_ (sound_nil idna forException text) (ofText_eq_ok_iff.mp h).1
  intro written hwritten o o' ho hadd
  exact ho.of_adds (WrittenOption.value_subset hwritten) (adds_of_add hadd)

end RuleOptions

end Blocklist
