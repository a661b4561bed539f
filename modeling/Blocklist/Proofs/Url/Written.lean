import Blocklist.Proofs.Url
import Blocklist.Request.Basic
/-!
# Addresses — the host that was put in

An address with `://` is put together from a scheme, an authority and a tail,
and the authority from user information, a host and a port. Each cut gives
back one of these pieces: no letter of the scheme is a colon, none of the
authority ends one, what follows the user information holds no `@`, and the
host no colon. So an `@`, a colon or a `//` anywhere else never moves the host
(`Written.parts?_text`), and there is no other address with `://`
(`Written.exists_text_eq`). The offsets of the host do not go by case
(`hostRange?_lower`) and cut its bytes out (`slice_of_hostRange?`). Main
statement: `finds_host`.
-/

namespace Blocklist

namespace Url

/-! ## Authorities -/

/-- Who signs in, at which host and port. -/
structure Authority where
  /-- The user information, where there is any. -/
  user : Option (List Char)
  /-- The host. -/
  host : List Char
  /-- The port, where one is given. -/
  port : Option (List Char)
  /-- The user information does not end the authority, whatever else it holds. -/
  user_free : ∀ text ∈ user, ∀ c ∈ text, endsAuthority c = false
  /-- Neither does the host, and it holds neither of the two marks around it. -/
  host_free : ∀ c ∈ host, endsAuthority c = false ∧ c ≠ '@' ∧ c ≠ ':'
  /-- The port may hold colons, but nothing that would make the host a user. -/
  port_free : ∀ text ∈ port, ∀ c ∈ text, endsAuthority c = false ∧ c ≠ '@'

namespace Authority

variable {a : Authority} {c : Char} {piece back : List Char}

/-- The user information with its mark. -/
def userText (a : Authority) : List Char := a.user.elim [] (· ++ ['@'])

/-- The port with its mark. -/
def portText (a : Authority) : List Char := a.port.elim [] (':' :: ·)

/-- The host and the port. -/
def place (a : Authority) : List Char := a.host ++ a.portText

/-- An authority as it stands in an address. -/
def text (a : Authority) : List Char := a.userText ++ a.place

theorem free_of_mem_portText (h : c ∈ a.portText) : endsAuthority c = false ∧ c ≠ '@' := by
  rw [portText] at h
  cases hport : a.port with
  | none =>
    rw [hport] at h
    exact absurd h List.not_mem_nil
  | some port =>
    rw [hport] at h
    rcases List.mem_cons.mp h with rfl | h
    · decide
    · exact a.port_free port hport c h

theorem free_of_mem_place (h : c ∈ a.place) : endsAuthority c = false ∧ c ≠ '@' := by
  rcases List.mem_append.mp h with h | h
  · exact ⟨(a.host_free c h).1, (a.host_free c h).2.1⟩
  · exact free_of_mem_portText h

/-- **Nothing in an authority ends it.** -/
theorem free_of_mem_text (h : c ∈ a.text) : endsAuthority c = false := by
  rcases List.mem_append.mp h with h | h
  · rw [userText] at h
    cases huser : a.user with
    | none =>
      rw [huser] at h
      exact absurd h List.not_mem_nil
    | some user =>
      rw [huser] at h
      rcases List.mem_append.mp h with h | h
      · exact a.user_free user huser c h
      · rw [List.mem_singleton.mp h]
        rfl
  · exact (free_of_mem_place h).1

/-- **The last `@` ends the user information**, whatever that holds. -/
theorem cutLast?_text (a : Authority) :
    Text.cutLast? '@' a.text = a.user.map fun user => (user, a.place) := by
  have hplace : '@' ∉ a.place := fun h => (free_of_mem_place h).2 rfl
  rw [text, userText]
  cases a.user with
  | none => exact Text.cutLast?_eq_none_iff.mpr hplace
  | some user =>
    have hcut := Text.cutLast?_append_cons hplace user
    rwa [List.append_cons] at hcut

/-- **The first colon behind it ends the host**, whatever the port holds. -/
theorem takeWhile_place (a : Authority) :
    a.place.takeWhile (· != ':') = a.host ∧ a.place.dropWhile (· != ':') = a.portText := by
  refine Text.takeWhile_append_of_stop (fun c hc => ?_) fun c hc => ?_
  · exact bne_iff_ne.mpr (a.host_free c hc).2.2
  · rw [portText] at hc
    cases hport : a.port with
    | none => simp [hport] at hc
    | some port =>
      rw [hport] at hc
      obtain rfl := Option.mem_some.mp hc
      rfl

/-- Every text without an `@` is a host and a port. -/
theorem exists_place_eq (user : Option (List Char))
    (huser : ∀ text ∈ user, ∀ c ∈ text, endsAuthority c = false)
    (hback : ∀ c ∈ back, endsAuthority c = false ∧ c ≠ '@') :
    ∃ a : Authority, a.user = user ∧ a.place = back := by
  cases hcut : Text.cut? ':' back with
  | none =>
    have hcolon := Text.cut?_eq_none_iff.mp hcut
    have hhost : ∀ c ∈ back, endsAuthority c = false ∧ c ≠ '@' ∧ c ≠ ':' := fun c hc =>
      ⟨(hback c hc).1, (hback c hc).2, fun h => hcolon (h ▸ hc)⟩
    exact ⟨⟨user, back, none, huser, hhost, by simp⟩, rfl, List.append_nil back⟩
  | some parts =>
    obtain ⟨host, port⟩ := parts
    obtain ⟨rfl, hcolon⟩ := Text.eq_append_of_cut? hcut
    obtain ⟨hhost, hport⟩ := List.forall_mem_append.mp hback
    have hhost : ∀ c ∈ host, endsAuthority c = false ∧ c ≠ '@' ∧ c ≠ ':' := fun c hc =>
      ⟨(hhost c hc).1, (hhost c hc).2, fun h => hcolon (h ▸ hc)⟩
    have hport : ∀ text ∈ some port, ∀ c ∈ text, endsAuthority c = false ∧ c ≠ '@' := by
      rintro text ⟨⟩ c hc
      exact hport c (List.mem_cons_of_mem _ hc)
    exact ⟨⟨user, host, some port, huser, hhost, hport⟩, rfl, rfl⟩

/-- **Every text that nothing ends is an authority.** -/
theorem exists_text_eq (h : ∀ c ∈ piece, endsAuthority c = false) :
    ∃ a : Authority, a.text = piece := by
  cases hcut : Text.cutLast? '@' piece with
  | none =>
    have hat := Text.cutLast?_eq_none_iff.mp hcut
    obtain ⟨a, huser, hplace⟩ := exists_place_eq none (by simp) fun c hc =>
      ⟨h c hc, fun hc' => hat (hc' ▸ hc)⟩
    exact ⟨a, by rw [text, userText, huser, hplace]; rfl⟩
  | some parts =>
    obtain ⟨user, back⟩ := parts
    obtain ⟨rfl, hat⟩ := Text.eq_append_of_cutLast? hcut
    obtain ⟨huser, hback⟩ := List.forall_mem_append.mp h
    have huser : ∀ text ∈ some user, ∀ c ∈ text, endsAuthority c = false := by
      rintro text ⟨⟩
      exact huser
    obtain ⟨a, ha, hplace⟩ := exists_place_eq (some user) huser fun c hc =>
      ⟨hback c (List.mem_cons_of_mem _ hc), fun hc' => hat (hc' ▸ hc)⟩
    exact ⟨a, by rw [text, userText, ha, hplace]; simp⟩

end Authority

/-! ## Addresses -/

/-- The scheme ends behind the two slashes. -/
theorem cutScheme?_append {scheme : List Char} (hne : scheme ≠ [])
    (hscheme : ∀ c ∈ scheme, isSchemeChar c) (rest : List Char) :
    cutScheme? (scheme ++ "://".toList ++ rest) = some (scheme ++ "://".toList, rest) := by
  have hcolon : ':' ∉ scheme := fun h => absurd (hscheme ':' h) (by decide)
  have hcut := Text.cut?_append_cons hcolon (['/', '/'] ++ rest)
  have hkept : ¬ (scheme.isEmpty || !scheme.all isSchemeChar) := by
    rw [Bool.or_eq_true, List.isEmpty_iff, Bool.not_eq_true', List.all_eq_true.mpr hscheme]
    simpa using hne
  rw [List.append_assoc, show "://".toList ++ rest = ':' :: (['/', '/'] ++ rest) from rfl,
    cutScheme?, hcut]
  simp only [Option.bind_eq_bind, Option.bind_some, if_neg hkept, Text.dropOpening?_append]
  rfl

/-- An address, put together. -/
structure Written where
  /-- Its scheme. -/
  scheme : List Char
  /-- Who signs in, at which host and port. -/
  authority : Authority
  /-- Where on the host to look. -/
  tail : List Char
  /-- There is a scheme. -/
  scheme_ne_nil : scheme ≠ []
  /-- It has letters, digits and few other characters. -/
  isSchemeChar_of_mem : ∀ c ∈ scheme, isSchemeChar c
  /-- What follows the authority ends it. -/
  endsAuthority_of_head : ∀ c ∈ tail.head?, endsAuthority c

namespace Written

/-- The address as it is written. -/
def text (w : Written) : List Char :=
  w.scheme ++ "://".toList ++ (w.authority.text ++ w.tail)

/-- **Every cut gives back the piece that was put in.** -/
theorem parts?_text (w : Written) : parts? w.text =
    some ⟨w.scheme ++ "://".toList ++ w.authority.userText, w.authority.host,
      w.authority.portText ++ w.tail⟩ := by
  have hscheme := cutScheme?_append w.scheme_ne_nil w.isSchemeChar_of_mem
    (w.authority.text ++ w.tail)
  have hfree : ∀ c ∈ w.authority.text, !endsAuthority c := fun c hc => by
    rw [Authority.free_of_mem_text hc]
    rfl
  have hend : ∀ c ∈ w.tail.head?, (!endsAuthority c) = false := fun c hc => by
    rw [w.endsAuthority_of_head c hc]
    rfl
  obtain ⟨hauthority, htail⟩ := Text.takeWhile_append_of_stop hfree hend
  obtain ⟨hhost, hport⟩ := w.authority.takeWhile_place
  rw [text, parts?, hscheme]
  simp only [Option.bind_eq_bind, Option.bind_some, hauthority, htail, Authority.cutLast?_text]
  cases huser : w.authority.user with
  | none =>
    have hplace : w.authority.text = w.authority.place := by
      rw [Authority.text, Authority.userText, huser]
      rfl
    simp only [Option.map_none, hplace, hhost, hport, Authority.userText, huser, Option.elim_none]
  | some user =>
    simp only [Option.map_some, hhost, hport, Authority.userText, huser, Option.elim_some]

theorem host?_text (w : Written) : host? w.text = some w.authority.host := by
  rw [host?, parts?_text, Option.map_some]

/-- **There is no other address with `://`**: whatever follows it is an authority and a tail. -/
theorem exists_text_eq {scheme : List Char} (hne : scheme ≠ [])
    (hscheme : ∀ c ∈ scheme, isSchemeChar c) (rest : List Char) :
    ∃ w : Written, w.scheme = scheme ∧ w.text = scheme ++ "://".toList ++ rest := by
  have hfree : ∀ c ∈ rest.takeWhile (!endsAuthority ·), endsAuthority c = false := fun c hc => by
    simpa using List.mem_takeWhile_imp hc
  have hhead : ∀ c ∈ (rest.dropWhile (!endsAuthority ·)).head?, endsAuthority c := fun c hc => by
    simpa using Text.head?_dropWhile (!endsAuthority ·) rest c hc
  obtain ⟨a, ha⟩ := Authority.exists_text_eq hfree
  refine ⟨⟨scheme, a, rest.dropWhile (!endsAuthority ·), hne, hscheme, hhead⟩, rfl, ?_⟩
  rw [text, ha, List.takeWhile_append_dropWhile]

end Written

/-! ## Offsets -/

variable {url : List Char} {start stop : Nat}

/-- **The offsets lie within the address**, and between them stand the bytes of the host. -/
theorem slice_of_hostRange? (h : hostRange? url = some (start, stop)) :
    start ≤ stop ∧ stop ≤ Text.byteLength url ∧ ∃ host, host? url = some host ∧
      ((Text.utf8 (String.ofList url)).drop start).take (stop - start)
        = Text.utf8 (String.ofList host) := by
  obtain ⟨p, hparts, hrange⟩ := Option.map_eq_some_iff.mp h
  obtain ⟨rfl, rfl⟩ := Prod.mk.inj hrange
  obtain ⟨hurl, -⟩ := eq_append_of_parts? hparts
  have hlength : Text.byteLength url
      = Text.byteLength p.lead + (Text.byteLength p.host + Text.byteLength p.rest) := by
    rw [hurl, Text.byteLength_append, Text.byteLength_append]
  refine ⟨by omega, by omega, p.host, by rw [host?, hparts, Option.map_some], ?_⟩
  rw [hurl, Text.utf8_ofList_append, Text.utf8_ofList_append, Nat.add_sub_cancel_left,
    ← Text.length_utf8_ofList p.lead, ← Text.length_utf8_ofList p.host, List.drop_left,
    List.take_left]

/-- **The host that is found is the host that was put in**, and where it is found does not go by
case and lies within the address. -/
theorem finds_host :
    (∀ w : Written, host? w.text = some w.authority.host) ∧
    ∀ url, hostRange? (Text.lower url) = hostRange? url ∧
      ∀ start stop, hostRange? url = some (start, stop) →
        start ≤ stop ∧ stop ≤ Text.byteLength url ∧ ∃ host, host? url = some host ∧
          ((Text.utf8 (String.ofList url)).drop start).take (stop - start)
            = Text.utf8 (String.ofList host) :=
  ⟨Written.host?_text, fun url => ⟨hostRange?_lower url, fun _ _ => slice_of_hostRange?⟩⟩

/-- The address `HTTPS://me:a@b@Site.org:8443/a?x=@:y`. -/
def signedIn : Written where
  scheme := "HTTPS".toList
  authority :=
    { user := some "me:a@b".toList
      host := "Site.org".toList
      port := some "8443".toList
      user_free := by simp [endsAuthority]
      host_free := by simp [endsAuthority]
      port_free := by simp [endsAuthority] }
  tail := "/a?x=@:y".toList
  scheme_ne_nil := by simp
  isSchemeChar_of_mem := List.all_eq_true.mp rfl
  endsAuthority_of_head := by simp [endsAuthority]

/-- Its user information and its tail hold the marks that stand around the host. -/
theorem finds_host_signedIn :
    signedIn.text = "HTTPS://me:a@b@Site.org:8443/a?x=@:y".toList ∧
    host? signedIn.text = some "Site.org".toList ∧
    hostRange? signedIn.text = some (15, 23) ∧
    hostRange? (Text.lower signedIn.text) = some (15, 23) ∧
    15 ≤ 23 ∧ 23 ≤ Text.byteLength signedIn.text := by
  have hrange : hostRange? signedIn.text = some (15, 23) := by decide +kernel
  obtain ⟨hcase, hslice⟩ := finds_host.2 signedIn.text
  obtain ⟨hstart, hstop, -⟩ := hslice 15 23 hrange
  exact ⟨rfl, finds_host.1 signedIn, hrange, hcase.trans hrange, hstart, hstop⟩

end Url

/-! ## Requests -/

namespace Request

open Url

/-- **Filters see the host that was put in**, in lower case. -/
theorem host_of_written {r : Request} {w : Written} (h : r.url.toList = w.text) :
    r.host = Text.lower w.authority.host := by
  rw [host, lowerUrl, h, host?_lower, w.host?_text]
  rfl

/-- **The party of a request goes by the two hosts that were put in.** -/
theorem thirdParty_ofPage (w page : Written) (types : TypeSet) :
    (ofPage (String.ofList w.text) (String.ofList page.text) types).thirdParty
      = (!page.authority.host.isEmpty
        && Host.differ (Text.lower page.authority.host) (Text.lower w.authority.host)) := by
  have hempty : (Text.lower page.authority.host).isEmpty = page.authority.host.isEmpty :=
    List.isEmpty_map
  have hhost : ∀ source, (ofHost (String.ofList w.text) types source false).host
      = Text.lower w.authority.host := fun _ => host_of_written String.toList_ofList
  rw [ofPage]
  dsimp only
  rw [String.toList_ofList, page.host?_text, Option.getD_some, hempty, hhost]

end Request

end Blocklist
