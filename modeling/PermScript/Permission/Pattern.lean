/-
Permission patterns. The last group in parentheses, `a.(x|y).z`, stands for
a choice: the pattern means one literal for each alternative.
-/
namespace PermScript

/-- The text before the first `sep` and the text after it. -/
def cutAt? (sep : Char) : List Char → Option (List Char × List Char)
  | [] => none
  | c :: cs =>
    if c = sep then some ([], cs)
    else (cutAt? sep cs).map fun (before, after) => (c :: before, after)

/-- A pattern around its group: what stands before the opening parenthesis,
inside and after the closing one. -/
structure Grouped where
  head : List Char
  inner : List Char
  tail : List Char
  deriving DecidableEq, Repr

/-- The last group: the last opening parenthesis with something between it
and the first closing one after it. -/
def lastGroup? : List Char → Option Grouped
  | [] => none
  | c :: cs =>
    match lastGroup? cs with
    | some g => some { g with head := c :: g.head }
    | none =>
      if c = '(' then
        match cutAt? ')' cs with
        | some ([], _) => none
        | some (inner, tail) => some ⟨[], inner, tail⟩
        | none => none
      else none

/-- The texts between the bars. -/
def alternatives : List Char → List (List Char)
  | [] => [[]]
  | c :: cs =>
    if c = '|' then [] :: alternatives cs
    else match alternatives cs with
      | [] => [[c]]
      | a :: as => (c :: a) :: as

/-- The literals that a pattern stands for, in the order of its
alternatives; a pattern without a group is one literal. -/
def expand (pattern : String) : List String :=
  match lastGroup? pattern.toList with
  | some g => (alternatives g.inner).map fun a => String.ofList (g.head ++ a ++ g.tail)
  | none => [pattern]

end PermScript
