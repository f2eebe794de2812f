/-!
# Fields between separators

A text cut at every occurrence of one separating character, and the fields joined again. A
text without the separator is one field, and so is the empty text.
-/
namespace TunnelFirewall.Text

/-- The fields of a text of whose first field `field` has been read, backwards. -/
def fieldsAfter (separator : Char) (field : List Char) : List Char → List (List Char)
  | [] => [field.reverse]
  | c :: rest =>
    if c = separator then field.reverse :: fieldsAfter separator [] rest
    else fieldsAfter separator (c :: field) rest

def fields (separator : Char) (text : List Char) : List (List Char) :=
  fieldsAfter separator [] text

/-- Fields with a separator between each and the next. -/
def joinFields (separator : Char) : List (List Char) → List Char
  | [] => []
  | [field] => field
  | field :: rest => field ++ separator :: joinFields separator rest

/-- What stands before and behind the first separator. -/
def cut? (separator : Char) : List Char → Option (List Char × List Char)
  | [] => none
  | c :: rest =>
    if c = separator then some ([], rest)
    else (cut? separator rest).map fun (front, back) => (c :: front, back)

/-- What stands before and behind the first pair of separators. -/
def cutDouble? (separator : Char) : List Char → Option (List Char × List Char)
  | c :: d :: rest =>
    if c = separator ∧ d = separator then some ([], rest)
    else (cutDouble? separator (d :: rest)).map fun (front, back) => (c :: front, back)
  | _ => none

end TunnelFirewall.Text
