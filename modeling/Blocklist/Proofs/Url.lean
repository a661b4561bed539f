import Blocklist.Proofs.Host.Covering
import Blocklist.Proofs.Text.Lower
import Blocklist.Url
/-!
# Addresses — the host and its labels

A label of the host never begins in the middle of a word: a slash, a colon,
an `@` or a dot stands before it (`eq_append_of_mem_labelStarts`). What a host
is from its labels on are the domains that cover it (`mem_labelStarts_iff`).
Where the host stands does not go by case (`parts?_lower`,
`hostRange?_lower`), so it stands where it was when letters of the host alone
change theirs (`parts?_of_lower_host`).
-/

namespace Blocklist

namespace Url

variable {url : List Char}

/-- A scheme ends with a slash or a colon, and nothing of the address goes. -/
theorem eq_append_of_cutScheme? {scheme rest : List Char}
    (h : cutScheme? url = some (scheme, rest)) :
    url = scheme ++ rest ∧ ∃ front c, scheme = front ++ [c] ∧ (c = '/' ∨ c = ':') := by
  simp only [cutScheme?, Option.bind_eq_bind, Option.bind_eq_some_iff] at h
  obtain ⟨⟨name, after⟩, hcut, h⟩ := h
  have hurl := (Text.eq_append_of_cut? hcut).1
  split at h
  · simp at h
  · split at h
    · next slashed hslashes =>
      obtain ⟨rfl, rfl⟩ := Prod.mk.inj (Option.some.inj h)
      refine ⟨?_, name ++ [':', '/'], '/', by simp, .inl rfl⟩
      rw [hurl, show after = ['/', '/'] ++ slashed from Text.eq_append_of_dropOpening? hslashes]
      simp
    · split at h
      · obtain ⟨rfl, rfl⟩ := Prod.mk.inj (Option.some.inj h)
        exact ⟨by rw [hurl]; simp, name, ':', rfl, .inr rfl⟩
      · simp at h

/-- **An address is its parts**, and a slash, a colon or an `@` stands before the host. -/
theorem eq_append_of_parts? {p : Parts} (h : parts? url = some p) :
    url = p.lead ++ (p.host ++ p.rest) ∧
      ∃ front c, p.lead = front ++ [c] ∧ (c = '/' ∨ c = ':' ∨ c = '@') := by
  simp only [parts?, Option.bind_eq_bind, Option.bind_eq_some_iff] at h
  obtain ⟨⟨scheme, rest⟩, hscheme, h⟩ := h
  obtain ⟨hurl, front, c, hfront, hc⟩ := eq_append_of_cutScheme? hscheme
  have hrest : rest.takeWhile (!endsAuthority ·) ++ rest.dropWhile (!endsAuthority ·) = rest :=
    List.takeWhile_append_dropWhile
  dsimp only at h
  generalize rest.takeWhile (!endsAuthority ·) = authority at h hrest
  generalize rest.dropWhile (!endsAuthority ·) = tail at h hrest
  split at h
  · next user place hat =>
    obtain rfl := Option.some.inj h
    have hauthority := (Text.eq_append_of_cutLast? hat).1
    refine ⟨?_, scheme ++ user, '@', by simp, .inr (.inr rfl)⟩
    dsimp only
    rw [hurl, ← hrest, hauthority, ← List.append_assoc (place.takeWhile _),
      List.takeWhile_append_dropWhile]
    simp
  · obtain rfl := Option.some.inj h
    refine ⟨?_, front, c, by rw [← hfront]; simp, hc.imp_right .inl⟩
    dsimp only
    rw [hurl, ← hrest, List.append_nil, ← List.append_assoc (List.takeWhile _ _),
      List.takeWhile_append_dropWhile]

theorem mem_afterDots_iff {text start : List Char} :
    start ∈ afterDots text ↔ ∃ front, text = front ++ '.' :: start := by
  constructor
  · intro h
    induction text with
    | nil => simp [afterDots] at h
    | cons c text ih =>
      simp only [afterDots] at h
      split at h
      · next hc =>
        rcases List.mem_cons.mp h with rfl | h
        · exact ⟨[], by rw [beq_iff_eq.mp hc]; rfl⟩
        · obtain ⟨front, hfront⟩ := ih h
          exact ⟨c :: front, by rw [hfront]; rfl⟩
      · obtain ⟨front, hfront⟩ := ih h
        exact ⟨c :: front, by rw [hfront]; rfl⟩
  · rintro ⟨front, rfl⟩
    induction front with
    | nil => simp [afterDots]
    | cons c front ih =>
      rw [List.cons_append, afterDots]
      split
      · exact List.mem_cons_of_mem _ ih
      · exact ih

/-- **From its labels on** a host is one of the domains that cover it. -/
theorem Parts.mem_labelStarts_iff {p : Parts} {start : List Char} : start ∈ p.labelStarts ↔
    ∃ domain, Host.covers domain p.host ∧ start = domain ++ p.rest := by
  simp only [Parts.labelStarts, List.mem_map, List.mem_cons, mem_afterDots_iff, Host.covers_iff,
    @eq_comm _ p.host, @eq_comm _ start]

/-- **A label begins after a character that belongs to no word.** -/
theorem eq_append_of_mem_labelStarts {p : Parts} (h : parts? url = some p) {start : List Char}
    (hstart : start ∈ p.labelStarts) :
    ∃ front c, url = front ++ [c] ++ start ∧ (c = '/' ∨ c = ':' ∨ c = '@' ∨ c = '.') := by
  obtain ⟨hurl, front, c, hlead, hc⟩ := eq_append_of_parts? h
  obtain ⟨domain, hdomain, rfl⟩ := Parts.mem_labelStarts_iff.mp hstart
  rcases Host.covers_iff.mp hdomain with rfl | ⟨before, hhost⟩
  · exact ⟨front, c, by rw [hurl, hlead], by rcases hc with h | h | h <;> simp [h]⟩
  · refine ⟨p.lead ++ before, '.', ?_, by simp⟩
    rw [hurl, hhost]
    simp

/-! ## What follows the host -/

/-- The host ends where the address does, or at a character that no host has. -/
theorem Parts.head?_rest {p : Parts} (h : parts? url = some p) :
    ∀ c ∈ p.rest.head?, c = ':' ∨ endsAuthority c := by
  simp only [parts?, Option.bind_eq_bind, Option.bind_eq_some_iff] at h
  obtain ⟨⟨scheme, rest⟩, -, h⟩ := h
  obtain ⟨place, hplace⟩ : ∃ place : List Char,
      p.rest = place.dropWhile (· != ':') ++ rest.dropWhile (!endsAuthority ·) := by
    dsimp only at h
    split at h <;> cases h <;> exact ⟨_, rfl⟩
  intro c hc
  rw [hplace, List.head?_append, Option.mem_def, Option.or_eq_some_iff] at hc
  rcases hc with hport | ⟨-, hend⟩
  · exact .inl (by simpa using Text.head?_dropWhile (· != ':') place c hport)
  · exact .inr (by simpa using Text.head?_dropWhile (!endsAuthority ·) rest c hend)

/-! ## Case -/

@[simp] theorem isSchemeChar_toLower (c : Char) : isSchemeChar c.toLower = isSchemeChar c := by
  rw [isSchemeChar, isSchemeChar, Text.isAlphanum_toLower, Text.toLower_beq (by decide),
    Text.toLower_beq (by decide), Text.toLower_beq (by decide)]

@[simp] theorem endsAuthority_toLower (c : Char) : endsAuthority c.toLower = endsAuthority c := by
  rw [endsAuthority, endsAuthority, Text.toLower_beq (by decide), Text.toLower_beq (by decide),
    Text.toLower_beq (by decide)]

theorem cutScheme?_lower (url : List Char) :
    cutScheme? (Text.lower url)
      = (cutScheme? url).map fun cut => (Text.lower cut.1, Text.lower cut.2) := by
  have hslashes : ∀ o ∈ ['/', '/'], Text.isCaseless o := List.all_eq_true.mp rfl
  rw [cutScheme?, cutScheme?, Text.cut?_lower (by decide)]
  cases Text.cut? ':' url with
  | none => rfl
  | some parts =>
    obtain ⟨scheme, rest⟩ := parts
    have hempty : (Text.lower scheme).isEmpty = scheme.isEmpty := List.isEmpty_map
    have hall : (Text.lower scheme).all isSchemeChar = scheme.all isSchemeChar := by
      rw [Text.lower, List.all_map]
      exact congrArg scheme.all (funext isSchemeChar_toLower)
    simp only [Option.map_some, Option.bind_eq_bind, Option.bind_some, hempty, hall]
    split
    · rfl
    · rw [Text.dropOpening?_lower hslashes, Text.lower_lower]
      cases Text.dropOpening? ['/', '/'] rest with
      | some rest =>
        rw [Option.map_some, Option.map_some, Text.lower_append]
        rfl
      | none =>
        dsimp only [Option.map_none]
        split
        · rw [Option.map_some, Text.lower_append]
          rfl
        · rfl

/-- The parts of an address in lower case. -/
def Parts.lower (p : Parts) : Parts := ⟨Text.lower p.lead, Text.lower p.host, Text.lower p.rest⟩

/-- **Where the host stands does not go by case.** -/
@[simp] theorem parts?_lower (url : List Char) :
    parts? (Text.lower url) = (parts? url).map Parts.lower := by
  have hauthority : ∀ c : Char, (!endsAuthority c.toLower) = !endsAuthority c :=
    fun c => congrArg (!·) (endsAuthority_toLower c)
  have hcolon : ∀ c : Char, (c.toLower != ':') = (c != ':') :=
    fun c => congrArg (!·) (Text.toLower_beq (by decide) c)
  have hbefore := Text.takeWhile_lower (p := (!endsAuthority ·)) hauthority
  have hafter := Text.dropWhile_lower (p := (!endsAuthority ·)) hauthority
  have hname := Text.takeWhile_lower (p := (· != ':')) hcolon
  have hport := Text.dropWhile_lower (p := (· != ':')) hcolon
  rw [parts?, parts?, cutScheme?_lower]
  cases cutScheme? url with
  | none => rfl
  | some cut =>
    obtain ⟨scheme, rest⟩ := cut
    simp only [Option.map_some, Option.bind_eq_bind, Option.bind_some, hbefore, hafter,
      Text.cutLast?_lower (show Text.isCaseless '@' from rfl)]
    cases Text.cutLast? '@' (rest.takeWhile (!endsAuthority ·)) with
    | none => simp [Parts.lower, hname, hport]
    | some parts =>
      have hat : Text.lower ['@'] = ['@'] := rfl
      simp [Parts.lower, hname, hport, hat]

@[simp] theorem host?_lower (url : List Char) :
    host? (Text.lower url) = (host? url).map Text.lower := by
  rw [host?, host?, parts?_lower, Option.map_map, Option.map_map]
  rfl

/-- **The host stands at the same offsets in lower case.** -/
@[simp] theorem hostRange?_lower (url : List Char) :
    hostRange? (Text.lower url) = hostRange? url := by
  rw [hostRange?, hostRange?, parts?_lower, Option.map_map]
  refine congrArg (Option.map · (parts? url)) (funext fun p => ?_)
  simp only [Function.comp_apply, Parts.lower, Text.byteLength_lower]

/-- The host stands where it was when its letters alone change their case. -/
theorem parts?_of_lower_host {p : Parts} (h : parts? url = some p) {host : List Char}
    (hhost : Text.lower host = Text.lower p.host) :
    parts? (p.lead ++ (host ++ p.rest)) = some { p with host } := by
  have hurl := (eq_append_of_parts? h).1
  have hsame : Text.lower (p.lead ++ (host ++ p.rest)) = Text.lower url := by
    rw [hurl]
    simp only [Text.lower_append, hhost]
  have hparts := parts?_lower (p.lead ++ (host ++ p.rest))
  rw [hsame, parts?_lower, h, Option.map_some, eq_comm, Option.map_eq_some_iff] at hparts
  obtain ⟨q, hq, hlower⟩ := hparts
  obtain ⟨happend, -⟩ := eq_append_of_parts? hq
  -- parts that are the same in lower case are of one length
  have hlength : ∀ {a b : List Char}, Text.lower a = Text.lower b → a.length = b.length := by
    intro a b hab
    simpa [Text.lower] using congrArg List.length hab
  simp only [Parts.lower, Parts.mk.injEq] at hlower
  obtain ⟨hlead, hback⟩ := List.append_inj happend (hlength hlower.1).symm
  obtain ⟨rfl, hrest⟩ := List.append_inj hback (hlength (hhost.trans hlower.2.1.symm))
  rw [hq, hlead, hrest]

end Url

end Blocklist
