import Mathlib.Data.List.Permutation
import Blocklist.Idna.Name
import Blocklist.Proofs.Checks
import Blocklist.Proofs.Host.Normal
import Blocklist.Proofs.Idna.Punycode
import Blocklist.Proofs.Unicode.NormalForm
/-!
# Internationalised names — what the ASCII form has of a name

Between mapping and encoding a name is in its mapped form. Encoding goes label
by label and neither makes nor loses a sign, so the ASCII form has the signs of
the mapped form (`mem_toAscii?_iff`): a name may have any, and a character that
is mapped to one brings one in. It is empty where every character of the name
vanishes (`toAscii?_eq_some_nil_iff`). So what is relied on of ASCII forms holds
of these (`isLowerAscii_toAscii?`, `keepsDots_toAscii?`).
-/

namespace Blocklist

/-- Pieces that agree on a letter make texts that do, with the same separator between them. -/
theorem Text.mem_intercalate_congr {α : Type} {sep c : α} {pieces others : List (List α)}
    (h : List.Forall₂ (fun piece other => c ∈ piece ↔ c ∈ other) pieces others) :
    c ∈ [sep].intercalate pieces ↔ c ∈ [sep].intercalate others := by
  induction h with
  | nil => rfl
  | cons hfirst hrest ih =>
    cases hrest with
    | nil => simpa using hfirst
    | cons hsecond hrest =>
      rw [List.intercalate_cons_cons, List.intercalate_cons_cons]
      simp only [List.mem_append, hfirst, ih]

/-- Only one piece makes nothing, and it is empty. -/
theorem Text.eq_singleton_of_intercalate_eq_nil {α : Type} {sep : α} {pieces : List (List α)}
    (hne : pieces ≠ []) (h : [sep].intercalate pieces = []) : pieces = [[]] := by
  match pieces with
  | [] => exact absurd rfl hne
  | [piece] =>
    rw [List.intercalate_singleton] at h
    rw [h]
  | piece :: other :: pieces => simp [List.intercalate_cons_cons] at h

/-- What holds of the separator and of the pieces holds of what they make. -/
theorem Text.forall_mem_intercalate {α : Type} {sep : α} {pieces : List (List α)} {P : α → Prop}
    (hsep : P sep) (h : ∀ piece ∈ pieces, ∀ c ∈ piece, P c) :
    ∀ c ∈ [sep].intercalate pieces, P c := by
  induction pieces with
  | nil => simp
  | cons piece pieces ih =>
    obtain ⟨hpiece, hrest⟩ := List.forall_mem_cons.mp h
    cases pieces with
    | nil => simpa using hpiece
    | cons other pieces =>
      rw [List.intercalate_cons_cons]
      simp only [List.mem_append, List.mem_singleton]
      rintro c ((hc | rfl) | hc)
      · exact hpiece c hc
      · exact hsep
      · exact ih hrest c hc

namespace Idna

open Punycode

variable {name stored form piece label : List Char} {c : Char}

/-- A name as it is cut into labels: mapped and normalised. -/
def mappedForm? (name : List Char) : Option (List Char) := (mapChars? name).map Unicode.normalForm

/-- **The ASCII form of a name** is that of the labels of its mapped form. -/
theorem exists_of_toAscii? (h : toAscii? name = some stored) : ∃ form labels,
    mappedForm? name = some form ∧
      List.Forall₂ (fun piece label => readLabel? piece = some label) (form.splitOn '.') labels ∧
      Text.lower (['.'].intercalate (labels.map encodeLabel)) = stored := by
  obtain ⟨mapped, hmapped, h⟩ := Option.bind_eq_some_iff.mp h
  obtain ⟨labels, hlabels, h⟩ := Option.bind_eq_some_iff.mp h
  obtain ⟨-, h⟩ := Option.ite_none_left_eq_some.mp h
  exact ⟨_, labels, by rw [mappedForm?, hmapped]; rfl, mapM_eq_some_iff.mp hlabels,
    Option.some.inj h⟩

/-! ## Mapping -/

theorem mapChars?_append {front back first last : List Char} (hfront : mapChars? front = some first)
    (hback : mapChars? back = some last) : mapChars? (front ++ back) = some (first ++ last) := by
  induction front generalizing first with
  | nil =>
    cases hfront
    exact hback
  | cons c front ih =>
    obtain ⟨mapped, hmapped, h⟩ := Option.bind_eq_some_iff.mp hfront
    obtain ⟨others, hothers, h⟩ := Option.bind_eq_some_iff.mp h
    cases Option.some.inj h
    rw [List.cons_append, mapChars?, hmapped, ih hothers, List.append_assoc]
    rfl

/-- In ASCII mapping changes nothing but case. -/
theorem mapChars?_of_isAscii (h : Text.isAscii name) : mapChars? name = some (Text.lower name) := by
  induction name with
  | nil => rfl
  | cons c name ih =>
    obtain ⟨hc, hname⟩ := Bool.and_eq_true_iff.mp h
    rw [mapChars?, mapChar?, if_pos (of_decide_eq_true hc), ih hname]
    rfl

/-- Nothing is left of a name if nothing is left of its characters. -/
theorem mapChars?_eq_some_nil_iff :
    mapChars? name = some [] ↔ ∀ c ∈ name, mapChar? c = some [] := by
  induction name with
  | nil => simp [mapChars?]
  | cons c name ih =>
    rw [mapChars?, List.forall_mem_cons, ← ih, Option.bind_eq_bind, Option.bind_eq_some_iff]
    simp only [Option.bind_eq_some_iff, Option.pure_def, Option.some.injEq, List.append_eq_nil_iff]
    constructor
    · rintro ⟨mapped, hmapped, others, hothers, rfl, rfl⟩
      exact ⟨hmapped, hothers⟩
    · exact fun h => ⟨[], h.1, [], h.2, rfl, rfl⟩

/-- A soft hyphen vanishes. -/
theorem mapChars?_softHyphen : mapChars? ['\u00AD'] = some [] := by
  have hignored : ignored.mem '\u00AD' = true := by cbv
  rw [mapChars?, mapChar?, if_neg (by decide), if_pos hignored]
  rfl

/-! ## One label -/

/-- What begins an encoded label. -/
def encodedMark : List Char := ['x', 'n', '-', '-']

/-- **A label is read** as it stands, or from its code. -/
theorem readLabel?_cases (h : readLabel? piece = some label) : piece = label ∨
    ∃ code, piece = encodedMark ++ code ∧ decode? code = some label ∧
      code.getLast?.any (· != '-') := by
  rw [readLabel?] at h
  split at h
  · obtain ⟨-, h⟩ := Option.ite_none_right_eq_some.mp h
    exact .inl (Option.some.inj h)
  · next code hopening =>
    obtain ⟨hcode, h⟩ := Option.ite_none_right_eq_some.mp h
    simp only [Bool.and_eq_true] at hcode
    split at h
    · cases h
    · next plain hdecode =>
      obtain ⟨-, h⟩ := Option.ite_none_right_eq_some.mp h
      cases h
      exact .inr ⟨code, Text.eq_append_of_dropOpening? hopening, hdecode, hcode.1.2⟩

/-- The mark of a code has no sign. -/
theorem not_mem_encodedMark (hc : isSign c) : c ∉ encodedMark := by
  intro hmem
  have hall : encodedMark.all (!isSign ·) := by decide
  have hnot := List.all_eq_true.mp hall c hmem
  rw [hc] at hnot
  exact Bool.false_ne_true hnot

theorem mem_of_readLabel? (hc : isSign c) (h : readLabel? piece = some label) :
    c ∈ piece ↔ c ∈ label := by
  rcases readLabel?_cases h with rfl | ⟨code, rfl, hdecode, -⟩
  · rfl
  · rw [List.mem_append, or_iff_right (not_mem_encodedMark hc), mem_of_decode? hc hdecode]

/-- Only an empty label is read from nothing, and nothing else is read as one. -/
theorem eq_nil_of_readLabel? (h : readLabel? piece = some []) : piece = [] := by
  rcases readLabel?_cases h with rfl | ⟨code, -, hdecode, hlast⟩
  · rfl
  · exact absurd rfl (ne_nil_of_decode? hlast hdecode)

theorem mem_encodeLabel (hc : isSign c) : c ∈ encodeLabel label ↔ c ∈ label := by
  rw [encodeLabel]
  split
  · rfl
  · show c ∈ encodedMark ++ encode label ↔ c ∈ label
    rw [List.mem_append, or_iff_right (not_mem_encodedMark hc), mem_encode hc]

theorem encodeLabel_eq_nil_iff : encodeLabel label = [] ↔ label = [] := by
  rw [encodeLabel]
  split
  · rfl
  · next hascii =>
    refine ⟨fun h => absurd h (by simp), ?_⟩
    rintro rfl
    exact absurd rfl hascii

theorem isAscii_encodeLabel (label : List Char) : Text.isAscii (encodeLabel label) := by
  rw [encodeLabel]
  split
  · assumption
  · refine Text.isAscii_iff.mpr fun c hc => ?_
    rcases List.mem_append.mp hc with hc | hc
    · exact Text.isAscii_iff.mp (show Text.isAscii encodedMark by decide) c hc
    · exact toNat_lt_of_mem_encode hc

/-! ## All labels -/

/-- A sign has no case. -/
theorem isCaseless_of_isSign (hc : isSign c) : Text.isCaseless c := by
  obtain ⟨-, halnum, -⟩ := isSign_iff.mp hc
  rw [Text.isAlphanum_iff] at halnum
  rw [Text.isCaseless_iff]
  omega

/-- **The signs of the ASCII form** are those of the mapped form. -/
theorem mem_toAscii?_iff (hc : isSign c) (h : toAscii? name = some stored)
    (hform : mappedForm? name = some form) : c ∈ stored ↔ c ∈ form := by
  obtain ⟨form', labels, hform', hlabels, rfl⟩ := exists_of_toAscii? h
  cases hform.symm.trans hform'
  have hkeep : List.Forall₂ (fun piece code => c ∈ piece ↔ c ∈ code) (form.splitOn '.')
      (labels.map encodeLabel) := by
    rw [List.forall₂_map_right_iff]
    refine hlabels.imp fun piece label hread => ?_
    rw [mem_encodeLabel hc, mem_of_readLabel? hc hread]
  rw [Text.mem_lower_iff (isCaseless_of_isSign hc), ← Text.mem_intercalate_congr hkeep,
    List.intercalate_splitOn]

theorem mappedForm?_eq_some_nil_iff : mappedForm? name = some [] ↔ mapChars? name = some [] := by
  rw [mappedForm?, Option.map_eq_some_iff]
  constructor
  · rintro ⟨mapped, hmapped, hnil⟩
    rw [hmapped, Unicode.normalForm_eq_nil_iff.mp hnil]
  · exact fun h => ⟨[], h, Unicode.normalForm_eq_nil_iff.mpr rfl⟩

/-- An empty ASCII form is that of an empty mapped form. -/
theorem mappedForm?_of_toAscii?_nil (h : toAscii? name = some []) :
    mappedForm? name = some [] := by
  obtain ⟨form, labels, hform, hlabels, hnil⟩ := exists_of_toAscii? h
  have hne : labels.map encodeLabel ≠ [] := by
    intro hempty
    rw [List.map_eq_nil_iff.mp hempty] at hlabels
    exact List.splitOn_ne_nil '.' form (List.forall₂_nil_right_iff.mp hlabels)
  have hcodes := Text.eq_singleton_of_intercalate_eq_nil hne (List.map_eq_nil_iff.mp hnil)
  obtain ⟨label, rfl, hlabel⟩ := List.map_eq_singleton_iff.mp hcodes
  rw [encodeLabel_eq_nil_iff.mp hlabel] at hlabels
  obtain ⟨piece, pieces, hread, hrest, hpieces⟩ := List.forall₂_cons_right_iff.mp hlabels
  have hjoined : ['.'].intercalate (form.splitOn '.') = form := List.intercalate_splitOn '.'
  rw [hform, ← hjoined, hpieces,
    List.forall₂_nil_right_iff.mp hrest, eq_nil_of_readLabel? hread]
  rfl

/-- **The ASCII form is empty** where every character of the name vanishes. -/
theorem toAscii?_eq_some_nil_iff :
    toAscii? name = some [] ↔ ∀ c ∈ name, mapChar? c = some [] := by
  rw [← mapChars?_eq_some_nil_iff]
  constructor
  · exact fun h => mappedForm?_eq_some_nil_iff.mp (mappedForm?_of_toAscii?_nil h)
  · intro h
    rw [toAscii?, h]
    decide +kernel

/-- So nothing is left of a soft hyphen. -/
theorem toAscii?_softHyphen : toAscii? ['\u00AD'] = some [] :=
  toAscii?_eq_some_nil_iff.mpr (mapChars?_eq_some_nil_iff.mp mapChars?_softHyphen)

theorem isAscii_toAscii? (h : toAscii? name = some stored) : Text.isAscii stored := by
  obtain ⟨form, labels, -, -, rfl⟩ := exists_of_toAscii? h
  have hascii : ∀ c ∈ ['.'].intercalate (labels.map encodeLabel), c.toNat < 128 := by
    refine Text.forall_mem_intercalate (by decide) fun code hcode c hc => ?_
    obtain ⟨label, -, rfl⟩ := List.mem_map.mp hcode
    exact Text.isAscii_iff.mp (isAscii_encodeLabel label) c hc
  refine Text.isAscii_iff.mpr fun c hc => ?_
  obtain ⟨letter, hletter, rfl⟩ := List.mem_map.mp hc
  have hletter := hascii letter hletter
  show letter.toLower.toNat < 128
  rw [Text.toNat_toLower]
  split <;> omega

/-- **These forms are in ASCII and in lower case.** -/
theorem isLowerAscii_toAscii? : ToAscii.IsLowerAscii toAscii? where
  isAscii := isAscii_toAscii?
  isLower h := by
    obtain ⟨_, _, -, -, rfl⟩ := exists_of_toAscii? h
    exact Text.isLower_lower _

/-- A dot does not vanish. -/
theorem keepsDots_toAscii? : ToAscii.KeepsDots toAscii? := by
  intro name hdot hnil
  have hvanishes := toAscii?_eq_some_nil_iff.mp hnil '.' hdot
  exact absurd hvanishes (by decide)

end Idna

end Blocklist
