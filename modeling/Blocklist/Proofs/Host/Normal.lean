import Blocklist.Host.Normal
import Blocklist.Proofs.Text.Utf8
/-!
# Hosts — what is relied on of their forms

How names are put into ASCII is left open. Where it counts, the forms are taken
to be in ASCII and in lower case (`ToAscii.IsLowerAscii`), and not to lose dots
(`ToAscii.KeepsDots`). Then no letter of a stored host is in upper case
(`Host.isLower_normal?`).
-/

namespace Blocklist

namespace Text

variable {text front back : List Char}

/-- No letter of ASCII is in upper case. -/
def IsLower (text : List Char) : Prop := ∀ c ∈ text, ¬ c.isUpper

instance (text : List Char) : Decidable (IsLower text) :=
  decidable_of_iff (text.all fun c => !c.isUpper) (by simp [IsLower])

theorem isUpper_iff {c : Char} : c.isUpper ↔ 65 ≤ c.toNat ∧ c.toNat ≤ 90 := decide_eq_true_iff

@[simp] theorem isLower_lower (text : List Char) : IsLower (lower text) := by
  intro c hc
  obtain ⟨letter, -, rfl⟩ := List.mem_map.mp hc
  rw [isUpper_iff, toNat_toLower]
  split <;> omega

theorem IsLower.append (hfront : IsLower front) (hback : IsLower back) :
    IsLower (front ++ back) := fun c hc => (List.mem_append.mp hc).elim (hfront c) (hback c)

end Text

open Text

/-- What is relied on of a way to put names into ASCII: forms are in ASCII, and in lower case. -/
structure ToAscii.IsLowerAscii (idna : ToAscii) : Prop where
  /-- Forms are in ASCII. -/
  isAscii : ∀ {name form}, idna name = some form → isAscii form
  /-- No letter of a form is in upper case. -/
  isLower : ∀ {name form}, idna name = some form → IsLower form

/-- Dots stay, so a name with a dot does not vanish. -/
def ToAscii.KeepsDots (idna : ToAscii) : Prop := ∀ {name}, '.' ∈ name → idna name ≠ some []

variable {idna : ToAscii} {host stored : List Char}

theorem Host.isLower_normal? (hidna : idna.IsLowerAscii)
    (h : Host.normal? idna host = some stored) : IsLower stored := by
  rw [Host.normal?] at h
  split at h
  · cases h
    exact isLower_lower _
  · exact hidna.isLower h

/-- What is left of a host that is in ASCII is as long as the host. -/
theorem Host.length_normal? (hascii : isAscii host) (h : Host.normal? idna host = some stored) :
    stored.length = host.length := by
  rw [Host.normal?_of_isAscii hascii] at h
  cases h
  exact List.length_map _

end Blocklist
