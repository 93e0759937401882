import Std.Data.HashMap

/-!
# Selection by category

A priority lists categories, the best first. Of some candidates, each with a category, the one
with the best category is chosen, the earliest of several with that category; a candidate whose
category is not listed is never chosen.

* `Priority.rank` is the length of the list for its first category and one less for each place
  after it, counted at a category's first place;
* `Priority.best` finds the choice in one pass, keeping the best candidate so far;
* `Priority.bestWith` draws something from the choice alone.
-/

namespace RadarCatalog.Registry

/-- The ranks of the listed categories; a higher rank is better. -/
structure Priority where
  ranks : Std.HashMap String Nat

namespace Priority

/-- The priority of a list with the best category first; a repeated category keeps its first
    place. -/
def ofList (bestFirst : List String) : Priority where
  ranks := bestFirst.zipIdx.foldl
    (fun ranks c => ranks.insertIfNew c.1 (bestFirst.length - c.2)) ∅

/-- The rank of a category that is listed. -/
def rank (p : Priority) (category : String) : Option Nat := p.ranks[category]?

variable {α β : Type}

/-- The better of the best candidate so far, kept with its rank, and the next one; the next one
    has to be strictly better. -/
def keepBetter (p : Priority) (category : α → String) (best : Option (Nat × α)) (item : α) :
    Option (Nat × α) :=
  match p.rank (category item), best with
  | none, _ => best
  | some rank, none => some (rank, item)
  | some rank, some (bestRank, _) => if bestRank < rank then some (rank, item) else best

/-- The chosen candidate; `none` where no candidate has a listed category. -/
def best (p : Priority) (category : α → String) (items : List α) : Option α :=
  (items.foldl (p.keepBetter category) none).map Prod.snd

/-- What `extract` draws from the chosen candidate. It is not consulted where there is none, and
    never on any other candidate. -/
def bestWith {m : Type → Type} [Monad m] (p : Priority) (category : α → String)
    (extract : α → m β) (items : List α) : m (Option β) :=
  match p.best category items with
  | none => pure none
  | some item => some <$> extract item

end Priority

end RadarCatalog.Registry
