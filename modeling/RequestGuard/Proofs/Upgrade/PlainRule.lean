import RequestGuard.Proofs.Upgrade.FirstMatch
import RequestGuard.Proofs.Upgrade.Secure

/-!
# The plain rule

The plain rule puts `https:` in place of `http:` in the text of an address, while the scheme
of an address is read from the text without its margin, its tabs and its line ends, and in
small letters.  Both views agree on the addresses whose text starts with `http:`.

* `exists_parse_https`: such an address is one also with `https:`, with the same parts.
* `upgradeBySets?_of_not_excludes`: a set that does not keep an address comes to what its first
  rule makes of it, and to what the others make of it where that rule makes nothing.
* `result?_of_plain`, `result?_eq_none_of_plain`: what the plain rule makes of an address.

`plain_rule_upgrades` says what a payload makes of an address where the plain rule comes first.
-/

namespace RequestGuard
namespace Upgrade

open Text

section Addresses

variable {url host : String}

/-- An address whose rules are asked for is read, with the scheme `http`. -/
theorem exists_parse_of_insecureHost? (h : insecureHost? url = some host) :
    ∃ u, Url.parse url = .ok u ∧ u.scheme = "http" := by
  rw [insecureHost?] at h
  split at h
  · cases h
  · next u hread =>
      exact ⟨u, hread, eq_of_beq (Option.ite_none_right_eq_some.1 h).1⟩

/-- With `https:` in place of `http:` an address keeps its parts; only the usual port is
another one. -/
theorem exists_parse_https {target : String} {rest : List Char}
    (hurl : url.toList = "http:".toList ++ rest)
    (htarget : target.toList = "https:".toList ++ rest) {u : Url}
    (hread : Url.parse url = .ok u) :
    ∃ v, Url.parse target = .ok v ∧ v = { u with scheme := "https", port := v.port } := by
  have hhttp : Url.usualPort? "http" = some 80 := rfl
  have hhttps : Url.usualPort? "https" = some 443 := rfl
  obtain ⟨port, hport⟩ := Url.exists_port_of_parse hhttp hhttps hurl htarget hread
  exact ⟨_, hport, rfl⟩

end Addresses

section Searches

variable {url : String} {s : RuleSet} {rule : Rule} {more : List Rule}

/-- The sets of rules are asked one after the other. -/
theorem upgradeBySets?_append (before after : List RuleSet) (url : String) :
    upgradeBySets? (before ++ after) url =
      (upgradeBySets? before url).or (upgradeBySets? after url) :=
  List.findSome?_append

/-- A set that leaves an address in is asked rule by rule. -/
theorem upgradeBySets?_of_not_excludes (hkeeps : ¬ s.Excludes url) (hrules : s.rules = rule :: more)
    (after : List RuleSet) :
    upgradeBySets? (s :: after) url =
      ((rule.result? url).filter isSecure).or
        (upgradeBySets? ({ s with rules := more } :: after) url) := by
  have hset : s.excludes url ≠ true := mt RuleSet.excludes_iff.1 hkeeps
  have hshorter : ({ s with rules := more } : RuleSet).excludes url ≠ true := hset
  simp only [upgradeBySets?, List.findSome?_cons, if_neg hset, if_neg hshorter, hrules]
  cases (rule.result? url).filter isSecure <;> rfl

/-- The plain rule makes a secure address of any text that starts with `http:`. -/
theorem result?_of_plain (hplain : rule.plain ≠ 0) {rest : List Char} {target : String}
    (hurl : url.toList = "http:".toList ++ rest)
    (htarget : target.toList = "https:".toList ++ rest) :
    (rule.result? url).filter isSecure = some target :=
  filter_isSecure_eq_some_iff.2
    ⟨.plain hplain hurl htarget, htarget.symm ▸ List.prefix_append _ rest⟩

/-- It makes nothing of any other text. -/
theorem result?_eq_none_of_plain (hplain : rule.plain ≠ 0)
    (hurl : ¬ "http:".toList <+: url.toList) : rule.result? url = none := by
  rw [Rule.result?, if_pos hplain, afterHttp?, if_neg (mt List.isPrefixOf_iff_prefix.1 hurl)]
  rfl

end Searches

section Results

/-- **The plain rule comes first.**  The rules of an address are asked for, and a payload has a
set that leaves the address in and starts with the plain rule, behind sets that make nothing
of the address.

* If the text of the address starts with `http:`, the payload makes of it the text with
  `https:` in its place.  That is an address with the scheme `https`, with the same host, path
  and query and with all other parts but the usual port as they were.
* If it does not, which capital letters, a margin, or a tab in the scheme bring about, the
  plain rule makes nothing and the payload comes to what it comes to without it. -/
theorem plain_rule_upgrades
    {url host payload : String} {before after : List RuleSet} {s : RuleSet} {rule : Rule}
    {more : List Rule}
    (hhost : insecureHost? url = some host)
    (hpayload : RuleSet.ofPayload? payload = some (before ++ s :: after))
    (hbefore : upgradeBySets? before url = none)
    (hkeeps : ¬ s.Excludes url)
    (hrules : s.rules = rule :: more)
    (hplain : rule.plain ≠ 0) :
    (∀ rest, url.toList = "http:".toList ++ rest →
      ∃ u v target, Url.parse url = .ok u ∧ upgraded? payload url = some target ∧
        target.toList = "https:".toList ++ rest ∧ Url.parse target = .ok v ∧
        v.scheme = "https" ∧ v.host = u.host ∧ v.path = u.path ∧ v.query = u.query ∧
        v = { u with scheme := "https", port := v.port }) ∧
    (¬ "http:".toList <+: url.toList →
      upgraded? payload url = upgradeBySets? ({ s with rules := more } :: after) url) := by
  have hsets : upgraded? payload url =
      ((rule.result? url).filter isSecure).or
        (upgradeBySets? ({ s with rules := more } :: after) url) := by
    rw [upgraded?, hpayload, Option.bind_some, upgradeBySets?_append, hbefore, Option.none_or,
      upgradeBySets?_of_not_excludes hkeeps hrules]
  constructor
  · intro rest hurl
    obtain ⟨u, hread, -⟩ := exists_parse_of_insecureHost? hhost
    have htarget : (String.ofList ("https:".toList ++ rest)).toList = "https:".toList ++ rest :=
      String.toList_ofList
    obtain ⟨v, hv, hparts⟩ := exists_parse_https hurl htarget hread
    refine ⟨u, v, _, hread, ?_, htarget, hv, ?_, ?_, ?_, ?_, hparts⟩
    · rw [hsets, result?_of_plain hplain hurl htarget, Option.some_or]
    all_goals rw [hparts]
  · intro hurl
    rw [hsets, result?_eq_none_of_plain hplain hurl, Option.filter_none, Option.none_or]

/-- The first set leaves the address out.  The address has no slashes in front of its host, a
tab in its path, and as its port the usual one of `https`, which the address that is made of it
leaves out. -/
theorem plain_rule_upgrades_port :
    let url := "http:u@[::1]:443/x\ty?q"
    let payload :=
      "[\x7b\"e\":[\x7b\"p\":\"::1\"\x7d],\"r\":[\x7b\"d\":1\x7d]\x7d," ++
        "\x7b\"e\":[\x7b\"p\":\"org\"\x7d],\"r\":[\x7b\"d\":2\x7d,\x7b\"f\":\"a\"\x7d]\x7d]"
    insecureHost? url = some "[::1]" ∧
      ∃ u v target, Url.parse url = .ok u ∧ upgraded? payload url = some target ∧
        Url.parse target = .ok v ∧ v.scheme = "https" ∧ v.host = u.host ∧ v.path = u.path ∧
        v.query = u.query := by
  intro url payload
  have hhost : insecureHost? url = some "[::1]" := by decide +kernel
  have hpayload : RuleSet.ofPayload? payload =
      some ([⟨["::1"], [⟨none, none, 1⟩]⟩] ++
        ⟨["org"], [⟨none, none, 2⟩, ⟨some "a", none, 0⟩]⟩ :: []) := by decide +kernel
  have hbefore : upgradeBySets? [⟨["::1"], [⟨none, none, 1⟩]⟩] url = none := by decide +kernel
  have hkeeps : ¬ RuleSet.Excludes ⟨["org"], [⟨none, none, 2⟩, ⟨some "a", none, 0⟩]⟩ url :=
    mt RuleSet.excludes_iff.2 (by decide +kernel)
  obtain ⟨u, v, target, hread, htarget, -, hv, hscheme, hsame, hpath, hquery, -⟩ :=
    (plain_rule_upgrades hhost hpayload hbefore hkeeps rfl (by decide)).1
      "u@[::1]:443/x\ty?q".toList (by decide +kernel)
  exact ⟨hhost, u, v, target, hread, htarget, hv, hscheme, hsame, hpath, hquery⟩

/-- The rules of an address with a scheme in capital letters are asked for, and the plain rule
makes nothing of it. -/
theorem plain_rule_skips_capitals :
    let url := "HTTP://[::1]/"
    let payload := "[\x7b\"r\":[\x7b\"d\":1\x7d]\x7d]"
    let s : RuleSet := ⟨[], [⟨none, none, 1⟩]⟩
    insecureHost? url = some "[::1]" ∧ RuleSet.ofPayload? payload = some [s] ∧
      ¬ s.Excludes url ∧ upgraded? payload url = none := by
  intro url payload s
  refine ⟨by decide +kernel, by decide +kernel, ?_, by decide +kernel⟩
  rintro ⟨source, hmem, -⟩
  cases hmem

end Results

end Upgrade
end RequestGuard
