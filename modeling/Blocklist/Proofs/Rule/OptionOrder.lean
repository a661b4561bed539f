import Mathlib.Data.List.Perm.Basic
import Blocklist.Idna.Name
import Blocklist.Proofs.Request.Types
import Blocklist.Proofs.Rule.Options
/-!
# Rules — the order of options

What an option comes to does not depend on those before it: taking it in is
merging what it is by itself (`add_eq_ok_iff`), and merging goes by the parts.
So options are accepted in every order if they are in one, and come to the
same, whatever blanks and empty options stand between them. Main statement:
`RuleOptions.ofText_of_perm`.
-/

namespace Blocklist

namespace WrittenOption

/-- The pieces of a text that are options: what stands between commas, without blanks around it. -/
def piecesOf (text : List Char) : List (List Char) :=
  ((text.splitOn ',').map Text.trim).filter (!·.isEmpty)

/-- The request types that an option names with a `~`, or that it names without. -/
def types (written : WrittenOption) (negated : Bool) : List RequestType :=
  if written.negated = negated then (requestTypes? written.name).getD [] else []

end WrittenOption

namespace RuleOptions

variable {idna : ToAscii} {forException : Bool} {o o' d x y z : RuleOptions}
variable {written : WrittenOption}

/-! ## Merging -/

/-- Options with further ones taken in. -/
def merge (o d : RuleOptions) : RuleOptions where
  included := o.included.union d.included
  excluded := o.excluded.union d.excluded
  firstParty := o.firstParty && d.firstParty
  thirdParty := o.thirdParty && d.thirdParty
  matchCase := o.matchCase || d.matchCase
  badfilter := o.badfilter || d.badfilter
  modifier := d.modifier.or o.modifier
  domains := d.domains.or o.domains
  denyallow := d.denyallow.or o.denyallow

/-! ## One option -/

/-- A word comes to the same after any options. -/
theorem addWord_eq (o : RuleOptions) (written : WrittenOption) :
    o.addWord written = (({} : RuleOptions).addWord written).map o.merge := by
  rw [addWord, addWord]
  dsimp only
  split
  case h_8 =>
    cases requestTypes? written.name with
    | none => rfl
    | some types =>
      cases written.negated <;> simp [Except.map, merge]
  all_goals cases written.negated <;> simp [Except.map, merge]

/-- A word leaves alone what there is one of at most. -/
theorem keeps_of_addWord (h : o.addWord written = .ok o') :
    o'.modifier = o.modifier ∧ o'.domains = o.domains ∧ o'.denyallow = o.denyallow := by
  rw [addWord] at h
  dsimp only at h
  split at h
  case h_7 => cases h
  case h_8 =>
    split at h
    · cases h
    · split at h <;> cases h <;> exact ⟨rfl, rfl, rfl⟩
  all_goals split at h <;> cases h <;> exact ⟨rfl, rfl, rfl⟩

/-- A list of domains comes to the same after any options: it takes the place of the one before. -/
theorem addDomains_eq (idna : ToAscii) (o : RuleOptions) (written : WrittenOption) :
    o.addDomains idna written = (({} : RuleOptions).addDomains idna written).map o.merge := by
  rw [addDomains, addDomains]
  split
  · rfl
  · cases domainList idna written.name (written.value.getD []) with
    | error e => rfl
    | ok list =>
      show (if written.name == "domain" then _ else _) = Except.map o.merge (if _ then _ else _)
      split
      · exact congrArg Except.ok (by simp [merge])
      · split
        · rfl
        · exact congrArg Except.ok (by simp [merge])

/-- It leaves the other list alone. -/
theorem keeps_of_addDomains (h : o.addDomains idna written = .ok o') :
    o'.modifier = o.modifier ∧ (written.name ≠ "domain" → o'.domains = o.domains) ∧
      (written.name = "domain" → o'.denyallow = o.denyallow) ∧
      o'.included = o.included ∧ o'.excluded = o.excluded := by
  rw [addDomains] at h
  obtain ⟨-, h⟩ := guard_eq_ok_iff.mp h
  obtain ⟨list, -, h⟩ := bind_eq_ok_iff.mp h
  split at h
  · next hname =>
    cases pure_eq_ok_iff.mp h
    exact ⟨rfl, fun hne => absurd (eq_of_beq hname) hne, fun _ => rfl, rfl, rfl⟩
  · next hname =>
    obtain ⟨-, h⟩ := guard_eq_ok_iff.mp h
    cases pure_eq_ok_iff.mp h
    exact ⟨rfl, fun _ => rfl, fun heq => absurd (beq_iff_eq.mpr heq) hname, rfl, rfl⟩

/-- A modifier comes to the same where there is none before. -/
theorem addModifier_eq (hnone : o.modifier = none) (forException : Bool) (written : WrittenOption)
    (modifier : Modifier) : o.addModifier forException written modifier
      = (({} : RuleOptions).addModifier forException written modifier).map o.merge := by
  simp only [addModifier, hnone]
  split
  · rfl
  · split
    · rfl
    · split
      · rfl
      · simp [Except.map, merge]

/-- It leaves the lists alone. -/
theorem keeps_of_addModifier {modifier : Modifier}
    (h : o.addModifier forException written modifier = .ok o') :
    o.modifier = none ∧ o'.modifier.isSome ∧
      (o'.domains = o.domains ∧ o'.denyallow = o.denyallow) ∧
      o'.included = o.included ∧ o'.excluded = o.excluded := by
  simp only [addModifier] at h
  split at h
  · cases h
  · split at h
    · cases h
    · next hnone =>
      split at h <;> cases h
      exact ⟨by simpa using hnone, rfl, ⟨rfl, rfl⟩, rfl, rfl⟩

/-- **To take in an option is to merge what it is by itself.** Only a second modifier is refused for
what is before it. -/
theorem add_eq_ok_iff : add idna forException o written = .ok o' ↔
    ∃ d, add idna forException {} written = .ok d ∧ (d.modifier.isSome → o.modifier = none) ∧
      o.merge d = o' := by
  -- what is no modifier has none, so nothing is asked of the options before it
  have hplain : ∀ first : Except NetworkError RuleOptions,
      (∀ d, first = .ok d → d.modifier = none) → (first.map o.merge = .ok o' ↔
        ∃ d, first = .ok d ∧ (d.modifier.isSome → o.modifier = none) ∧ o.merge d = o') := by
    intro first hnone
    rw [map_eq_ok_iff]
    refine exists_congr fun d => and_congr_right fun hd => ?_
    simp [hnone d hd]
  rw [add, add]
  split
  · next modifier _ =>
    constructor
    · intro h
      obtain ⟨hnone, -⟩ := keeps_of_addModifier h
      rw [addModifier_eq hnone, map_eq_ok_iff] at h
      exact h.imp fun d hd => ⟨hd.1, fun _ => hnone, hd.2⟩
    · rintro ⟨d, hd, hnone, hmerge⟩
      obtain ⟨-, hsome, -⟩ := keeps_of_addModifier hd
      rw [addModifier_eq (hnone hsome), map_eq_ok_iff]
      exact ⟨d, hd, hmerge⟩
  · split
    · rw [addDomains_eq]
      exact hplain _ fun d hd => (keeps_of_addDomains hd).1
    · split
      · simp
      · rw [addWord_eq]
        exact hplain _ fun d hd => (keeps_of_addWord hd).1

/-- An option gives the list that it names. -/
theorem name_of_add (h : add idna forException {} written = .ok d) :
    (d.domains.isSome → written.name = "domain") ∧
      (d.denyallow.isSome → written.name = "denyallow") := by
  rw [add] at h
  split at h
  · obtain ⟨-, -, ⟨hdomains, hdenyallow⟩, -⟩ := keeps_of_addModifier h
    simp [hdomains, hdenyallow]
  · split at h
    · next hname =>
      obtain ⟨-, hdomains, hdenyallow, -⟩ := keeps_of_addDomains h
      by_cases hdomain : written.name = "domain"
      · simp [hdomain, hdenyallow hdomain]
      · have hname : written.name = "denyallow" := by simpa [hdomain] using hname
        simp [hname, hdomains hdomain]
    · split at h
      · cases h
      · obtain ⟨-, hdomains, hdenyallow⟩ := keeps_of_addWord h
        simp [hdomains, hdenyallow]

/-! ## Any number of options -/

variable {items more : List WrittenOption} {ds : List RuleOptions}

/-- What options are by themselves, one after the other. -/
def Alone (idna : ToAscii) (forException : Bool) (items : List WrittenOption)
    (ds : List RuleOptions) : Prop :=
  List.Forall₂ (fun written d => add idna forException {} written = .ok d) items ds

/-- **Options are taken in** if each of them is by itself, and there is one modifier at most; they
come to what they are by themselves, merged. -/
theorem foldlM_add_eq_ok_iff : items.foldlM (add idna forException) o = .ok o' ↔
    ∃ ds, Alone idna forException items ds ∧
      o.modifier.isSome.toNat + ds.countP (·.modifier.isSome) ≤ 1 ∧ ds.foldl merge o = o' := by
  induction items generalizing o with
  | nil =>
    rw [List.foldlM_nil, pure_eq_ok_iff]
    constructor
    · rintro rfl
      exact ⟨[], .nil, Bool.toNat_le _, rfl⟩
    · rintro ⟨ds, hall, -, rfl⟩
      cases hall
      rfl
  | cons written items ih =>
    -- the options before count as one modifier if they have one, and so do those merged with it
    have hcount : ∀ (d : RuleOptions) (ds : List RuleOptions),
        (d.modifier.isSome → o.modifier = none) ∧
          (o.merge d).modifier.isSome.toNat + ds.countP (·.modifier.isSome) ≤ 1 ↔
        o.modifier.isSome.toNat + (d :: ds).countP (·.modifier.isSome) ≤ 1 := by
      intro d ds
      rw [List.countP_cons, merge]
      cases d.modifier with
      | none => cases o.modifier <;> simp
      | some modifier =>
        cases o.modifier with
        | none => simp [Nat.add_comm]
        | some other =>
          -- with a modifier before and another now there are two already
          refine iff_of_false (fun h => Option.some_ne_none _ (h.1 rfl)) ?_
          show ¬ 1 + (List.countP _ ds + 1) ≤ 1
          omega
    rw [List.foldlM_cons, bind_eq_ok_iff]
    constructor
    · rintro ⟨next, hnext, h⟩
      obtain ⟨d, hd, hnone, rfl⟩ := add_eq_ok_iff.mp hnext
      obtain ⟨ds, hall, hone, rfl⟩ := ih.mp h
      exact ⟨d :: ds, .cons hd hall, (hcount d ds).mp ⟨hnone, hone⟩, rfl⟩
    · rintro ⟨_, hall, hone, rfl⟩
      cases hall with
      | @cons _ d _ ds hd hall =>
        obtain ⟨hnone, hone⟩ := (hcount d ds).mpr hone
        exact ⟨_, add_eq_ok_iff.mpr ⟨d, hd, hnone, rfl⟩, ih.mpr ⟨ds, hall, hone, rfl⟩⟩

/-! ## Their order -/

/-- Of what there is once at most, there are no two. -/
theorem eq_of_countP_le_one {α : Type} {p : α → Bool} {items : List α} (h : items.countP p ≤ 1)
    {a b : α} (ha : a ∈ items) (hb : b ∈ items) (hpa : p a) (hpb : p b) : a = b := by
  rw [List.countP_eq_length_filter] at h
  have hmem : ∀ {a}, a ∈ items → p a → a ∈ items.filter p := fun ha hpa =>
    List.mem_filter.mpr ⟨ha, hpa⟩
  obtain ⟨c, hc⟩ := List.length_eq_one_iff.mp
    (le_antisymm h (List.length_pos_of_mem (hmem ha hpa)))
  have hsingle : ∀ {a}, a ∈ items → p a → a = c := fun ha hpa =>
    List.mem_singleton.mp (hc ▸ hmem ha hpa)
  rw [hsingle ha hpa, hsingle hb hpb]

/-- Options that may be taken in in either order: what both have is the same. -/
def Agree (x y : RuleOptions) : Prop :=
  (x.modifier.isSome → y.modifier.isSome → x = y) ∧
    (x.domains.isSome → y.domains.isSome → x = y) ∧
    (x.denyallow.isSome → y.denyallow.isSome → x = y)

theorem or_comm_of_agree {α : Type} {a b : Option α} (h : a.isSome → b.isSome → a = b) :
    a.or b = b.or a := by
  cases a <;> cases b <;> simp_all

theorem merge_right_comm (z : RuleOptions) (h : Agree x y) :
    (z.merge x).merge y = (z.merge y).merge x := by
  obtain ⟨hmodifier, hdomains, hdenyallow⟩ := h
  have hm := or_comm_of_agree fun hx hy => congrArg RuleOptions.modifier (hmodifier hx hy)
  have hd := or_comm_of_agree fun hx hy => congrArg RuleOptions.domains (hdomains hx hy)
  have ha := or_comm_of_agree fun hx hy => congrArg RuleOptions.denyallow (hdenyallow hx hy)
  have hunion : ∀ a b c : TypeSet, (a.union b).union c = (a.union c).union b := by
    intro a b c
    simp only [TypeSet.union, TypeSet.mk.injEq]
    rw [UInt32.or_assoc, UInt32.or_comm b.word, ← UInt32.or_assoc]
  simp only [merge, hunion _ x.included, hunion _ x.excluded, Bool.and_right_comm _ x.firstParty,
    Bool.and_right_comm _ x.thirdParty, Bool.or_right_comm _ x.matchCase,
    Bool.or_right_comm _ x.badfilter, ← Option.or_assoc, hm, hd, ha]

/-- Options that are what others are by themselves, of which there is one of a kind at most. -/
theorem Alone.countP_le {kind : RuleOptions → Bool} {name : String}
    (h : Alone idna forException items ds)
    (hkind : ∀ written d, add idna forException {} written = .ok d → kind d → written.name = name) :
    ds.countP kind ≤ items.countP (·.name == name) := by
  induction h with
  | nil => exact le_rfl
  | @cons written d items ds hd hall ih =>
    have hfirst : kind d → written.name == name := fun hk => beq_iff_eq.mpr (hkind written d hd hk)
    rw [List.countP_cons, List.countP_cons]
    refine Nat.add_le_add ih ?_
    split
    · next hk => rw [if_pos (hfirst hk)]
    · exact Nat.zero_le _

/-- **Options in another order** come to the same, where none of the lists stands among them
twice. -/
theorem foldlM_add_of_perm (hperm : more.Perm items)
    (hdomain : items.countP (·.name == "domain") ≤ 1)
    (hdenyallow : items.countP (·.name == "denyallow") ≤ 1)
    (h : items.foldlM (add idna forException) {} = .ok o) :
    more.foldlM (add idna forException) {} = .ok o := by
  obtain ⟨ds, hall, hone, rfl⟩ := foldlM_add_eq_ok_iff.mp h
  obtain ⟨ds', hall', hperm'⟩ := List.perm_comp_forall₂ hperm hall
  have hcount : ds'.countP (·.modifier.isSome) = ds.countP (·.modifier.isSome) := hperm'.countP_eq _
  refine foldlM_add_eq_ok_iff.mpr ⟨ds', hall', by rwa [hcount], ?_⟩
  -- two of a kind are one and the same, so it does not matter which of two is merged first
  have hagree : ∀ x ∈ ds', ∀ y ∈ ds', Agree x y := by
    intro x hx y hy
    have hsame : ∀ kind : RuleOptions → Bool, ds.countP kind ≤ 1 → kind x → kind y → x = y :=
      fun kind hkind => eq_of_countP_le_one ((hperm'.countP_eq kind).trans_le hkind) hx hy
    exact ⟨hsame _ (Nat.le_of_add_left_le hone),
      hsame _ ((hall.countP_le fun _ _ hd => (name_of_add hd).1).trans hdomain),
      hsame _ ((hall.countP_le fun _ _ hd => (name_of_add hd).2).trans hdenyallow)⟩
  exact hperm'.foldl_eq' (fun x hx y hy z => merge_right_comm z (hagree x hx y hy)) _

/-! ## The types that are named -/

/-- A modifier is named like no request type. -/
theorem requestTypes?_of_ofName? {name : String} {modifier : Modifier}
    (h : Modifier.ofName? name = some modifier) : requestTypes? name = none := by
  unfold Modifier.ofName? at h
  split at h
  · rfl
  · rfl
  · rfl
  · cases h

/-- The types of one word are those it names. -/
theorem types_of_addWord (h : ({} : RuleOptions).addWord written = .ok d) :
    d.included = .ofList (written.types false) ∧ d.excluded = .ofList (written.types true) := by
  have hempty : TypeSet.ofList [] = .empty := rfl
  rw [addWord] at h
  dsimp only at h
  split at h
  case h_7 => cases h
  case h_8 =>
    split at h
    · cases h
    · next types htypes =>
      split at h <;> cases h <;>
        simp_all [WrittenOption.types]
  all_goals
    split at h <;> cases h <;>
    simp_all [WrittenOption.types, requestTypes?]

/-- **The types of one option** are those it names, with a mark or without. -/
theorem types_of_add (h : add idna forException {} written = .ok d) :
    d.included = .ofList (written.types false) ∧ d.excluded = .ofList (written.types true) := by
  -- an option that is no word names none
  have hnone : requestTypes? written.name = none → d.included = .empty ∧ d.excluded = .empty →
      d.included = .ofList (written.types false) ∧ d.excluded = .ofList (written.types true) := by
    rintro hnone ⟨hincluded, hexcluded⟩
    have htypes : ∀ negated, written.types negated = [] := by simp [WrittenOption.types, hnone]
    rw [htypes, htypes, hincluded, hexcluded]
    exact ⟨rfl, rfl⟩
  rw [add] at h
  split at h
  · next modifier hname =>
    obtain ⟨-, -, -, htypes⟩ := keeps_of_addModifier h
    exact hnone (requestTypes?_of_ofName? hname) htypes
  · split at h
    · next hname =>
      obtain ⟨-, -, -, htypes⟩ := keeps_of_addDomains h
      have hname : written.name = "domain" ∨ written.name = "denyallow" := by simpa using hname
      refine hnone ?_ htypes
      rcases hname with hname | hname <;> rw [hname] <;> rfl
    · split at h
      · cases h
      · exact types_of_addWord h

/-- The members of merged options are those of each. -/
theorem has_foldl_merge (part : RuleOptions → TypeSet) {type : RequestType}
    (hpart : ∀ o d : RuleOptions, part (o.merge d) = (part o).union (part d)) :
    (part (ds.foldl merge o)).has type ↔ (part o).has type ∨ ∃ d ∈ ds, (part d).has type := by
  induction ds generalizing o with
  | nil => simp
  | cons d ds ih =>
    rw [List.foldl_cons, ih, hpart, TypeSet.has_union, Bool.or_eq_true, or_assoc]
    simp

/-- What some option gives, some option is by itself. -/
theorem Alone.exists_iff {P : WrittenOption → Prop} {Q : RuleOptions → Prop}
    (h : Alone idna forException items ds)
    (heach : ∀ written d, add idna forException {} written = .ok d → (P written ↔ Q d)) :
    (∃ written ∈ items, P written) ↔ ∃ d ∈ ds, Q d := by
  induction h with
  | nil => simp
  | @cons written d items ds hd hall ih => simp [heach written d hd, ih]

/-- Some option names a request type, negated or not. -/
def Names (items : List WrittenOption) (negated : Bool) (type : RequestType) : Prop :=
  ∃ written ∈ items, type ∈ written.types negated

/-- **The types that options come to** are those that are named with no mark and with it. -/
theorem has_of_foldlM_add (h : items.foldlM (add idna forException) {} = .ok o)
    (type : RequestType) :
    (o.included.has type ↔ Names items false type) ∧
      (o.excluded.has type ↔ Names items true type) := by
  obtain ⟨ds, hall, -, rfl⟩ := foldlM_add_eq_ok_iff.mp h
  have hempty : ¬ TypeSet.empty.has type := by simp
  constructor
  · rw [has_foldl_merge included fun _ _ => rfl, or_iff_right hempty]
    refine (hall.exists_iff fun written d hd => ?_).symm
    rw [(types_of_add hd).1, TypeSet.has_ofList]
  · rw [has_foldl_merge excluded fun _ _ => rfl, or_iff_right hempty]
    refine (hall.exists_iff fun written d hd => ?_).symm
    rw [(types_of_add hd).2, TypeSet.has_ofList]

/-- **The types that are left**: those that are named, or all where none is, without those that are
named with a mark. -/
theorem has_types (hknown : o.included.IsKnown) {type : RequestType}
    {named : Bool → RequestType → Prop}
    (hnamed : ∀ type, (o.included.has type ↔ named false type) ∧
      (o.excluded.has type ↔ named true type)) :
    o.types.has type ↔
      (named false type ∨ ∀ another, ¬ named false another) ∧ ¬ named true type := by
  have hempty : o.included.isEmpty ↔ ∀ another, ¬ named false another := by
    rw [TypeSet.isEmpty_iff hknown]
    exact forall_congr' fun another => not_congr (hnamed another).1
  rw [types, TypeSet.has_without, Bool.and_eq_true, Bool.not_eq_true', ← Bool.not_eq_true,
    (hnamed type).2]
  refine and_congr_left fun _ => ?_
  split
  · next hnone => simp [hempty.mp hnone]
  · next hsome => rw [(hnamed type).1, or_iff_left (hempty.not.mp hsome)]

variable {text more : List Char}

/-- **The order of options does not matter**, nor do blanks around them or pieces that are blank. -/
theorem ofText_of_perm
    (hperm : (WrittenOption.piecesOf more).Perm (WrittenOption.piecesOf text))
    (hdomain : (WrittenOption.listOfText text).countP (·.name == "domain") ≤ 1)
    (hdenyallow : (WrittenOption.listOfText text).countP (·.name == "denyallow") ≤ 1)
    (h : ofText idna forException text = .ok o) :
    ofText idna forException more = .ok o ∧ o.types.IsKnown ∧ ∀ type, o.types.has type ↔
      (Names (WrittenOption.listOfText text) false type ∨
        ∀ another, ¬ Names (WrittenOption.listOfText text) false another) ∧
      ¬ Names (WrittenOption.listOfText text) true type := by
  have hknown := (sound_of_ofText h).included
  rw [ofText_eq_ok_iff] at h ⊢
  obtain ⟨hfold, htypes, hparty⟩ := h
  refine ⟨⟨foldlM_add_of_perm (hperm.map _) hdomain hdenyallow hfold, htypes, hparty⟩, ?_, ?_⟩
  · rw [types]
    split
    · exact TypeSet.isKnown_full.without _
    · exact hknown.without _
  · exact fun type => has_types hknown (has_of_foldlM_add hfold)

/-- Three options in another order, with blanks and pieces more. -/
theorem ofText_of_perm_script :
    (WrittenOption.piecesOf " domain=a.com ,, ~image,~third-party, script ,".toList).Perm
        (WrittenOption.piecesOf "script,~third-party,domain=a.com,~image".toList) ∧
      (WrittenOption.listOfText "script,~third-party,domain=a.com,~image".toList).countP
        (·.name == "domain") ≤ 1 ∧
      (WrittenOption.listOfText "script,~third-party,domain=a.com,~image".toList).countP
        (·.name == "denyallow") ≤ 1 ∧
      ∃ o, ofText Idna.toAscii? false "script,~third-party,domain=a.com,~image".toList = .ok o ∧
        ofText Idna.toAscii? false " domain=a.com ,, ~image,~third-party, script ,".toList = .ok o ∧
        o.types.has .script ∧ o.domains = some ⟨"a.com"⟩ := by
  have hperm : (WrittenOption.piecesOf " domain=a.com ,, ~image,~third-party, script ,".toList).Perm
      (WrittenOption.piecesOf "script,~third-party,domain=a.com,~image".toList) := by
    decide +kernel
  have h : ofText Idna.toAscii? false "script,~third-party,domain=a.com,~image".toList = .ok
      { included := .ofList [.script], excluded := .ofList [.image], thirdParty := false,
        domains := some ⟨"a.com"⟩ } := by
    decide +kernel
  exact ⟨hperm, by decide +kernel, by decide +kernel, _, h,
    (ofText_of_perm hperm (by decide +kernel) (by decide +kernel) h).1, by decide +kernel, rfl⟩

end RuleOptions

end Blocklist
