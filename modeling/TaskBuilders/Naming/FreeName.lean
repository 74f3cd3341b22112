/-!
# Free names

When a name is taken, the next of `base`, `base2`, `base3`, … that is free takes its place. Of
`n + 1` candidates one is not among `n` taken names, so the search ends.
-/

namespace TaskBuilders.Naming

/-- The name itself, then the name with the numbers from 2 on, `count` of them. -/
def candidates (base : String) (count : Nat) : List String :=
  base :: (List.range count).map (fun i => base ++ toString (i + 2))

/-- The first candidate that is not among the taken names. -/
def firstFree (taken : List String) (base : String) : String :=
  ((candidates base taken.length).find? (fun n => !taken.contains n)).getD base

end TaskBuilders.Naming
