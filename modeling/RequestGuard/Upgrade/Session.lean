import RequestGuard.Upgrade.RuleStore

/-!
# Sessions with a rule database

Rules are stored by statements to a database, and any of them can fail.

* `Session.performAll` performs statements up to the first that fails, which has no effect.
* What is changed in a transaction is a draft.  The last statement of the transaction keeps it;
  a session that ends before drops it.
* `RuleStore.perform` performs statements in a session with an open store.
-/

namespace RequestGuard
namespace Upgrade

open Files

/-- A statement to a database. -/
inductive Statement where
  /-- Makes the table unless there is one. -/
  | makeTable
  /-- Begins a transaction. -/
  | transaction
  /-- Gets ready to give hosts rules. -/
  | prepare
  /-- Gives a host rules, in place of those it had. -/
  | put (host rules : String)
  /-- Ends the transaction and keeps what was changed in it. -/
  | commit
  deriving DecidableEq, Repr

namespace Statement

/-- The statements that give hosts rules, all of them or none. -/
def importing (entries : List (String × String)) : List Statement :=
  [.transaction, .prepare] ++ entries.map (fun e => .put e.1 e.2) ++ [.commit]

/-- The statements that store rules. -/
def storing (entries : List (String × String)) : List Statement :=
  .makeTable :: importing entries

end Statement

/-- A database in use. -/
structure Session where
  /-- Whether it can be written to. -/
  writable : Bool
  /-- The database as it is kept. -/
  kept : Database
  /-- The database as a transaction has changed it. -/
  draft? : Option Database
  deriving DecidableEq, Repr

namespace Session

/-- The database as the session sees it. -/
def seen (s : Session) : Database :=
  s.draft?.getD s.kept

/-- Changes the draft of a transaction, or else what is kept. -/
def change (s : Session) (d : Database) : Session :=
  match s.draft? with
  | some _ => { s with draft? := some d }
  | none => { s with kept := d }

/-- Performs a statement. -/
def perform (engine : Engine) (s : Session) : Statement → Except StoreFault Session
  | .makeTable =>
    if s.writable || s.seen.table?.isSome then .ok (s.change s.seen.withTable)
    else .error .readOnly
  | .transaction => .ok { s with draft? := some s.kept }
  | .prepare => if s.seen.table?.isSome then .ok s else .error (.tableMissing tableName)
  | .put host rules =>
    if s.writable then (s.seen.put engine host rules).map s.change else .error .readOnly
  | .commit => .ok { s with kept := s.seen, draft? := none }

/-- Performs statements, which are numbered from `n` on, up to the first that fails. -/
def performAll (engine : Engine) (n : Nat) (s : Session) :
    List Statement → Option StoreFault × Session
  | [] => (none, s)
  | statement :: more =>
    match engine.trouble n with
    | some fault => (some fault, s)
    | none =>
      match s.perform engine statement with
      | .error fault => (some fault, s)
      | .ok s => performAll engine (n + 1) s more

end Session

namespace RuleStore

/-- Performs statements in a session with an open database.  A draft ends with the session. -/
def perform (engine : Engine) (s : RuleStore) (statements : List Statement) :
    Option StoreFault × RuleStore :=
  let (fault?, session) := Session.performAll engine 0 ⟨s.writable, s.database, none⟩ statements
  (fault?, { s with database := session.kept })

/-- The store after statements, if none of them fails. -/
def performed (engine : Engine) (s : RuleStore) (statements : List Statement) :
    Except StoreFault RuleStore :=
  match s.perform engine statements with
  | (some fault, _) => .error fault
  | (none, s) => .ok s

/-- Opens or makes a database, and makes its table unless there is one. -/
def createIn (engine : Engine) (t : Tree) (path : String) : Except StoreFault RuleStore := do
  (← connect t path).performed engine [.makeTable]

/-- Gives a host rules. -/
def insert (engine : Engine) (s : RuleStore) (host rules : String) :
    Except StoreFault RuleStore :=
  s.performed engine [.put host rules]

/-- Gives hosts rules, all of them or none. -/
def insertAll (engine : Engine) (s : RuleStore) (entries : List (String × String)) :
    Except StoreFault RuleStore :=
  s.performed engine (Statement.importing entries)

end RuleStore
end Upgrade
end RequestGuard
