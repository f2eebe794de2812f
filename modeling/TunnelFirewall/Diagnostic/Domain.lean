/-!
# Blocked domains

A domain blocks the server name that equals it and every name below it. Case does not matter,
and dots at the end of a domain are dropped.
-/
namespace TunnelFirewall.Diagnostic

/-- The characters of a text with ASCII letters in lower case. -/
def lowerCase (text : String) : List Char := text.toList.map Char.toLower

/-- A domain as it is compared: without dots at its end, in lower case. -/
def normalDomain (domain : String) : List Char :=
  ((lowerCase domain).reverse.dropWhile (· == '.')).reverse

/-- A normal domain covers a host: it is the host, or the host ends in a dot and the domain. -/
def covers (domain host : List Char) : Bool :=
  host == domain || ('.' :: domain).isSuffixOf host

/-- One of the domains covers a server name. -/
def isDomainBlocked (domains : List String) (hostname : String) : Bool :=
  domains.any fun domain => covers (normalDomain domain) (lowerCase hostname)

end TunnelFirewall.Diagnostic
