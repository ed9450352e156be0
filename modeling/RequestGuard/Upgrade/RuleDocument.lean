import RequestGuard.Host.Basic
import RequestGuard.Json.Value

/-!
# Rule documents

The rules of many hosts as one text: an object that gives each host its list of rule
sets.  The hosts are taken in the order of their names as they are written, and stored
in normal form.
-/

namespace RequestGuard
namespace Upgrade
namespace RuleDocument

open Json

/-- Why a document gives no rules. -/
inductive Fault where
  /-- The text is no object. -/
  | unreadable (reason : String)
  /-- A host does not have a list. -/
  | notList (host : String)
  deriving DecidableEq, Repr

/-- The rules of a host, ready to be stored. -/
def entry (member : String × Value) : Except Fault (String × String) :=
  match member.2 with
  | .list _ => .ok (Host.normalize member.1, member.2.text)
  | _ => .error (.notList member.1)

/-- The rules of a document, host by host. -/
def entries (text : String) : Except Fault (List (String × String)) :=
  let bytes := Text.Utf8.bytes text
  match Value.readKeyed.ofText bytes with
  | .error fault => .error (.unreadable (fault.message bytes))
  | .ok members => members.mapM entry

end RuleDocument
end Upgrade
end RequestGuard
