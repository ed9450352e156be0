import RequestGuard.Upgrade.RuleStore

/-!
# Sources of upgrade rules

A source is a database that was opened, or a store of any other kind.  What it replies can change
while it is in use (`Source.Past`):

* A store of another kind replies as it likes, by the keys that it was asked for before.
* An open database shows what is in its file now, also if somebody else has written it.  If the
  file was taken away, it shows what was in it last.
-/

namespace RequestGuard
namespace Upgrade

open Files

/-- Where upgrade rules come from. -/
inductive Source where
  /-- A database that was opened. -/
  | database (store : RuleStore)
  /-- A store of another kind, by what it replies to a key after those that it was asked for
  before, the last one first. -/
  | other (reply : List String → String → Reply)

namespace Source

/-- What has happened to a source since it was taken. -/
structure Past where
  /-- The keys that a store of another kind was asked for, the last one first. -/
  asked : List String
  /-- What is in the file of an open database, if it may have changed. -/
  contents? : Option (Except StoreFault Database)
  /-- Whether the file of an open database was taken away. -/
  gone : Bool

/-- Nothing has happened. -/
def Past.none : Past :=
  ⟨[], .none, false⟩

/-- What an open database replies to a key. -/
def lookup (s : RuleStore) (past : Past) (key : String) : Except StoreFault (Option String) :=
  match past.contents? with
  | .none => s.get key
  | some contents => contents.bind (·.get key)

/-- The source as the upgrader asks it. -/
def ask (source : Source) : Ask Past := fun past key =>
  match source with
  | .database s =>
    (match lookup s past key with
      | .ok payload => .found payload
      | .error fault => .failed (.store fault), past)
  | .other reply => (reply past.asked key, { past with asked := key :: past.asked })

/-- What has happened to a source after the files have become other ones. -/
def follow (source : Source) (past : Past) (t : Tree) : Past :=
  match source with
  | .other _ => past
  | .database s =>
    match s.place? with
    | .none => past
    | some p =>
      if past.gone then past
      else
        match t.lookup? p with
        | some (.file bytes) => { past with contents? := some (Database.ofBytes bytes) }
        | _ => { past with gone := true }

end Source
end Upgrade
end RequestGuard
