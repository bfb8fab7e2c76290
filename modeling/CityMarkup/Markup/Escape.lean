/-!
# Escaped text

The five characters that could be taken for markup are written as entity
references, in text and in attribute values alike.  All others stand for
themselves.
-/

namespace CityMarkup

namespace Markup

/-- The written form of a character. -/
def escapeChar (c : Char) : List Char :=
  if c = '<' then ['&', 'l', 't', ';']
  else if c = '>' then ['&', 'g', 't', ';']
  else if c = '&' then ['&', 'a', 'm', 'p', ';']
  else if c = '\'' then ['&', 'a', 'p', 'o', 's', ';']
  else if c = '"' then ['&', 'q', 'u', 'o', 't', ';']
  else [c]

/-- The written form of a text. -/
def escape (cs : List Char) : List Char :=
  cs.flatMap escapeChar

@[simp]
theorem escape_nil : escape [] = [] := rfl

@[simp]
theorem escape_cons (c : Char) (cs : List Char) :
    escape (c :: cs) = escapeChar c ++ escape cs := rfl

theorem escape_append (a b : List Char) :
    escape (a ++ b) = escape a ++ escape b := by
  simp [escape]

end Markup

end CityMarkup
