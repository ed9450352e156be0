import RequestGuard.Host.Basic
import RequestGuard.Text.Utf8

/-!
# Host names in bytes

The order "equal to or below" as it is found without taking names apart: the bytes of the
domain end those of the host, and the byte in front of them is a dot.

* `byteBefore?` looks at that byte, which need not be there.
* `isWithinBytes?` has no answer if it has looked for a byte that is not there.
-/

namespace RequestGuard
namespace Host

/-- The byte in front of the last `n` bytes, if there is one. -/
def byteBefore? (bytes : List UInt8) (n : Nat) : Option UInt8 :=
  if n < bytes.length then bytes[bytes.length - n - 1]? else none

/-- Is a host a domain, or a name below it, by their bytes? -/
def isWithinBytes? (host domain : List UInt8) : Option Bool :=
  if domain.isEmpty then some false
  else if host == domain then some true
  else if domain.length < host.length && domain.isSuffixOf host then
    (byteBefore? host domain.length).map (· == 0x2E)
  else some false

end Host
end RequestGuard
