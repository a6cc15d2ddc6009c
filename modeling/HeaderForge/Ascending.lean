/-!
# Ascending lists

A finite set with an order is kept as its elements in ascending order, each once.
-/

namespace HeaderForge.Ascending

/-- An ascending list with one more element; an element it has is not added again. -/
def insert [DecidableEq α] (before : α → α → Bool) (value : α) : List α → List α
  | [] => [value]
  | first :: rest =>
    if value = first then first :: rest
    else if before value first then value :: first :: rest
    else first :: insert before value rest

/-- The elements of a list in ascending order, each once. -/
def ofList [DecidableEq α] (before : α → α → Bool) (values : List α) : List α :=
  values.foldr (insert before) []

/-- The order of texts by the code points of their characters. -/
def textBefore (left right : String) : Bool := decide (left < right)

/-- Texts in ascending order, each once. -/
def texts (values : List String) : List String := ofList textBefore values

end HeaderForge.Ascending
