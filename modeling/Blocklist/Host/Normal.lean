import Blocklist.Outside
import Blocklist.Text.Cut
/-!
# Hosts — the stored form

Hosts are stored as requests have them: in lower case, and in the form that
they have in ASCII where they leave it.
-/

namespace Blocklist

namespace Host

/-- The form in which a host is stored, where it has one. -/
def normal? (idna : ToAscii) (host : List Char) : Option (List Char) :=
  if Text.isAscii host then some (Text.lower host) else idna host

@[simp] theorem normal?_of_isAscii {idna : ToAscii} {host : List Char}
    (h : Text.isAscii host = true) : normal? idna host = some (Text.lower host) := by
  simp [normal?, h]

theorem normal?_of_not_isAscii {idna : ToAscii} {host : List Char} (h : ¬ Text.isAscii host) :
    normal? idna host = idna host :=
  if_neg h

end Host

end Blocklist
