import Mathlib.Data.List.DropRight
import TunnelFirewall.Diagnostic.Domain
import TunnelFirewall.Proofs.Diagnostic.Arguments
import TunnelFirewall.Proofs.Text.Fields
import TunnelFirewall.Proofs.Text.Numeral

/-!
# Blocked domains by their labels

A name is a row of labels with dots between them, and a domain blocks the names whose last labels
are its own. So a name that merely ends in the same characters is not blocked, and one with further
labels in front is, whatever the number of these. Empty labels are labels like any other.
-/
namespace TunnelFirewall.Diagnostic

/-- What stands between the dots of a name. -/
def labels (name : List Char) : List (List Char) := Text.fields '.' name

/-- A domain without the dots at its end and with its ASCII letters in lower case. -/
def bareDomain (domain : String) : List Char :=
  (domain.toList.rdropWhile (· == '.')).map Char.toLower

variable {domain hostname : String} {domains : List String} {front : List Char}

theorem toLower_eq_dot_iff (c : Char) : c.toLower = '.' ↔ c = '.' := by
  have hdot : '.'.toNat = 46 := rfl
  rw [← Char.toNat_inj, ← Char.toNat_inj, Numeral.toNat_toLower, hdot]
  split <;> omega

/-- Dots have no case, so it makes no difference which is done first. -/
theorem normalDomain_eq (domain : String) : normalDomain domain = bareDomain domain := by
  have hdot : (fun c : Char => c == '.') ∘ Char.toLower = fun c => c == '.' := by
    funext c
    rw [Function.comp_apply, Bool.eq_iff_iff, beq_iff_eq, beq_iff_eq, toLower_eq_dot_iff]
  rw [normalDomain, bareDomain, lowerCase, List.rdropWhile, ← List.map_reverse, List.dropWhile_map,
    hdot, List.map_reverse]

theorem covers_iff {host : List Char} {bare : List Char} :
    covers bare host = true ↔ labels bare <:+ labels host := by
  rw [labels, labels, Text.fields_isSuffix_iff, covers, Bool.or_eq_true, beq_iff_eq,
    List.isSuffixOf_iff_suffix]

theorem isDomainBlocked_iff :
    isDomainBlocked domains hostname = true ↔
      ∃ domain ∈ domains, labels (bareDomain domain) <:+ labels (lowerCase hostname) := by
  simp only [isDomainBlocked, List.any_eq_true, normalDomain_eq, covers_iff]

/-- Only the normal forms of the blocked domains matter, in any order. -/
theorem isDomainBlocked_congr {blocked blocked' : List String}
    (h : ∀ domain, domain ∈ blocked.map normalDomain ↔ domain ∈ blocked'.map normalDomain)
    (name : String) : isDomainBlocked blocked name = isDomainBlocked blocked' name := by
  have hany (domains : List String) : isDomainBlocked domains name =
      (domains.map normalDomain).any fun domain => covers domain (lowerCase name) := by
    simp [isDomainBlocked, List.any_map, Function.comp_def]
  rw [hany, hany, Bool.eq_iff_iff, List.any_eq_true, List.any_eq_true]
  simp only [h]

/-- What a domain comes to depends on its lower-case form alone. -/
theorem isDomainBlocked_congr_lowerCase {blocked blocked' : List String}
    (h : ∀ text, text ∈ blocked.map lowerCase ↔ text ∈ blocked'.map lowerCase) (name : String) :
    isDomainBlocked blocked name = isDomainBlocked blocked' name := by
  have hmap (domains : List String) : domains.map normalDomain =
      (domains.map lowerCase).map fun text => (text.reverse.dropWhile (· == '.')).reverse := by
    rw [List.map_map]
    rfl
  apply isDomainBlocked_congr
  intro domain
  rw [hmap, hmap, List.mem_map, List.mem_map]
  simp only [h]

/-- A domain does not block a name with characters of the same label in front of it. -/
theorem isDomainBlocked_eq_false_of_ending (hname : lowerCase hostname = front ++ bareDomain domain)
    (hne : front ≠ []) (hlast : front.getLast? ≠ some '.') :
    isDomainBlocked [domain] hostname = false := by
  rw [← Bool.not_eq_true, isDomainBlocked_iff]
  rintro ⟨other, hother, hsuffix⟩
  obtain rfl := List.mem_singleton.1 hother
  rw [labels, labels, Text.fields_isSuffix_iff, hname] at hsuffix
  rcases hsuffix with hsame | ⟨before, hbefore⟩
  · exact hne (List.append_left_eq_self.1 hsame)
  · have hdot : before ++ ['.'] = front := by
      rw [← List.append_left_inj (bareDomain other), List.append_assoc]
      exact hbefore
    rw [← hdot, List.getLast?_concat] at hlast
    exact hlast rfl

/-- A domain blocks every name below it. -/
theorem isDomainBlocked_of_subdomain (hmem : domain ∈ domains)
    (hname : lowerCase hostname = front ++ '.' :: bareDomain domain) :
    isDomainBlocked domains hostname = true := by
  rw [isDomainBlocked_iff]
  refine ⟨domain, hmem, ?_⟩
  rw [labels, labels, hname, Text.fields_append_separator]
  exact List.suffix_append _ _

/-- The domains that the arguments ask to block make up the list that is checked. A name is blocked
exactly if its last labels are those of a domain in the list, without dots at the end and without
regard to case. So no name is that merely ends in the same characters, every subdomain is, and
neither the order of the domains nor the case of anything matters. -/
theorem isDomainBlocked_by_labels (domains : List String) (hostname : String) :
    (∀ arguments, (∃ options, Request.ofArguments arguments = .run options ∧
        options.blocked = domains) ↔ Asks arguments domains) ∧
    (isDomainBlocked domains hostname = true ↔
      ∃ domain ∈ domains, labels (bareDomain domain) <:+ labels (lowerCase hostname)) ∧
    (∀ domain front, lowerCase hostname = front ++ bareDomain domain → front ≠ [] →
      front.getLast? ≠ some '.' → isDomainBlocked [domain] hostname = false) ∧
    (∀ domain ∈ domains, ∀ front, lowerCase hostname = front ++ '.' :: bareDomain domain →
      isDomainBlocked domains hostname = true) ∧
    ∀ domains' hostname', (∀ text, text ∈ domains.map lowerCase ↔ text ∈ domains'.map lowerCase) →
      lowerCase hostname = lowerCase hostname' →
        isDomainBlocked domains hostname = isDomainBlocked domains' hostname' := by
  refine ⟨fun arguments => ofArguments_blocked_iff, isDomainBlocked_iff, ?_, ?_, ?_⟩
  · intro domain front
    exact isDomainBlocked_eq_false_of_ending
  · intro domain hmem front
    exact isDomainBlocked_of_subdomain hmem
  · intro domains' hostname' hdomains hhostname
    rw [isDomainBlocked_congr_lowerCase hdomains, isDomainBlocked, isDomainBlocked, hhostname]

/-- A name that ends in a dot ends in an empty label, and only the letters of ASCII have a case. -/
example : isDomainBlocked ["."] "a." = true ∧
    isDomainBlocked ["\u00c9.org"] "\u00e9.org" = false := by
  decide

/-- A domain two levels up, given in another case and with dots at its end; and a name that ends in
its characters. -/
theorem isDomainBlocked_by_labels_deep :
    (∃ options, Request.ofArguments ["--block", "b.org", "-g", "--block", "Example.COM.."] =
        .run options ∧ options.blocked = ["b.org", "Example.COM.."]) ∧
      isDomainBlocked ["b.org", "Example.COM.."] "a.www.EXAMPLE.com" = true ∧
      isDomainBlocked ["Example.COM.."] "notexample.com" = false ∧
      isDomainBlocked ["example.com..", "B.org"] "A.WWW.example.com" = true := by
  have hread := ((isDomainBlocked_by_labels ["b.org", "Example.COM.."] "").1 _).2
    (.block (.generate (.inl rfl) (.block .nil)))
  have hbelow : isDomainBlocked ["b.org", "Example.COM.."] "a.www.EXAMPLE.com" = true :=
    (isDomainBlocked_by_labels _ _).2.2.2.1 "Example.COM.." (by decide) "a.www".toList (by decide)
  have hother : isDomainBlocked ["Example.COM.."] "notexample.com" = false :=
    (isDomainBlocked_by_labels [] _).2.2.1 "Example.COM.." "not".toList (by decide) (by decide)
      (by decide)
  have hdomains : ["example.com..", "B.org"].map lowerCase =
      (["b.org", "Example.COM.."].map lowerCase).reverse := by decide
  have hsame := (isDomainBlocked_by_labels ["b.org", "Example.COM.."] "a.www.EXAMPLE.com").2.2.2.2
    ["example.com..", "B.org"] "A.WWW.example.com"
    (fun text => by rw [hdomains, List.mem_reverse]) (by decide)
  exact ⟨hread, hbelow, hother, hsame ▸ hbelow⟩

end TunnelFirewall.Diagnostic
