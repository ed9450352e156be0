import RequestGuard.Files.Path
import RequestGuard.Text.Basic

/-!
# Configuration

Where the rule data of each family are, which locale the regional lists are chosen for,
and how much is remembered.

* A regional list is meant for a locale if it is enabled, or if the language of the
  locale is one of its languages.
* A configuration is usable if none of its bounds is zero (`Config.fault?`).
-/

namespace RequestGuard

/-- Where a file of rule data is: a version and a name. -/
structure RuleFile where
  /-- The version, a directory below the data directory. -/
  version : String
  /-- The name of the file in it. -/
  fileName : String
  deriving DecidableEq, Repr

/-- A filter list for some languages. -/
structure RegionalList where
  /-- What the list is known by. -/
  uuid : String
  /-- A name for readers. -/
  title : String
  /-- The languages for which it is meant. -/
  langs : List String
  /-- Where the list is. -/
  file : RuleFile
  /-- Whether it is used with any locale. -/
  enabled : Bool
  deriving DecidableEq, Repr

namespace RegionalList

/-- A list of which nothing is said. -/
def blank : RegionalList :=
  ⟨"", "", [], ⟨"1", ""⟩, false⟩

/-- The language of a locale: what stands before its first hyphen or underscore. -/
def language (locale : String) : String :=
  String.ofList (locale.toList.takeWhile fun c => c ≠ '-' && c ≠ '_')

/-- Is the list meant for a locale? -/
def appliesTo (l : RegionalList) (locale : String) : Bool :=
  let lang := language locale
  l.enabled || (!lang.isEmpty && l.langs.any fun x => Text.sameLetters x lang)

end RegionalList

/-- A configuration. -/
structure Config where
  /-- The directory of the rule data. -/
  dataDir : String
  /-- The locale, by which regional lists are chosen. -/
  locale : String
  /-- Where the tracking data are. -/
  tracking : RuleFile
  /-- Where the filter list is. -/
  adBlock : RuleFile
  /-- The regional lists that are known. -/
  regional : List RegionalList
  /-- Where the upgrade rules are. -/
  https : RuleFile
  /-- How many upgrades are remembered. -/
  upgradeCapacity : Nat
  /-- For how many sites the related hosts are remembered. -/
  siteCapacity : Nat
  /-- For how many requests upgrades are counted. -/
  redirectCapacity : Nat
  /-- How many upgrades a request may have. -/
  maxRedirects : Nat
  deriving DecidableEq, Repr

namespace Config

/-- The configuration of which nothing is said. -/
def standard : Config where
  dataDir := "."
  locale := "en-US"
  tracking := ⟨"1", "TrackingProtection.dat"⟩
  adBlock := ⟨"1", "ABPFilterParserData.dat"⟩
  regional := []
  https := ⟨"4", "httpse.sqlite"⟩
  upgradeCapacity := 100
  siteCapacity := 20
  redirectCapacity := 256
  maxRedirects := 5

/-- Do two configurations say the same?  Data directories are compared as paths. -/
def same (c d : Config) : Bool :=
  Files.Path.same c.dataDir d.dataDir && c == { d with dataDir := c.dataDir }

/-- The lists that are meant for the locale, in their order. -/
def selected (c : Config) : List RegionalList :=
  c.regional.filter (·.appliesTo c.locale)

/-- A bound of a configuration. -/
inductive Bound where
  | upgradeCapacity
  | siteCapacity
  | redirectCapacity
  | maxRedirects
  deriving DecidableEq, Repr

/-- The name of a bound in a document. -/
def Bound.name : Bound → String
  | .upgradeCapacity => "https_cache_capacity"
  | .siteCapacity => "third_party_cache_capacity"
  | .redirectCapacity => "redirect_table_capacity"
  | .maxRedirects => "max_redirects"

/-- The value of a bound. -/
def bound (c : Config) : Bound → Nat
  | .upgradeCapacity => c.upgradeCapacity
  | .siteCapacity => c.siteCapacity
  | .redirectCapacity => c.redirectCapacity
  | .maxRedirects => c.maxRedirects

/-- The first bound that is zero. -/
def fault? (c : Config) : Option Bound :=
  [Bound.upgradeCapacity, .siteCapacity, .redirectCapacity, .maxRedirects].find?
    (c.bound · = 0)

end Config
end RequestGuard
