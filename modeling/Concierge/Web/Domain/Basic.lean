import Concierge.Web.Domain.Label

/-!
# Domain names

A domain name is brought into its final form before it is divided into labels. If anything in it is
written from the right, every label has to keep to one direction.
-/

namespace Concierge.Domain

open Unicode

/-- The final form of a text; none if it holds a character that may not stand in a domain name. -/
def finalForm? (cs : List Char) : Option (List Char) :=
  (cs.mapM mapped?).map fun css => normalize css.flatten

def labels? (cs : List Char) : Option (List Label) := do
  let cs ← finalForm? cs
  let labels ← (Text.splitOn (· = '.') cs).mapM Label.ofText?
  if (labels.any fun l => l.text.any Label.fromRight) && !labels.all Label.keepsDirection then none
  else return labels

def sent? (cs : List Char) : Option (List Char) := do
  return ['.'].intercalate ((← labels? cs).map Label.sent)

end Concierge.Domain
