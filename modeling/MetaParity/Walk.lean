import MetaParity.Lister

/-!
# Walks

Nested listings: each token is followed by what lies below it, category by category, and below each of those by what
the category nests.
-/

namespace MetaParity

/-- A category of elements below a token: how to ask for them, whether their reported count is checked, and what each of
them is walked with in turn. -/
inductive Walk where
  | category (query : Token → Query) (counted : Bool) (nested : List Walk)

namespace Walk

def leaf (query : Token → Query) : Walk :=
  category query true []

def typeHierarchy : List Walk :=
  [leaf .interfaceImpls, category .methods true [leaf .params], leaf .fields]

/-- Types with their members, whose reported counts are not checked. -/
def members : List Walk :=
  [category .members false []]

def propertiesEvents : List Walk :=
  [leaf .properties, leaf .events]

mutual

/-- What one category holds below a token, with everything nested in it. -/
def treesBelow (lister : Lister σ) : Walk → Token → Drive σ (List Token)
  | category query counted nested, parent => do
    let tokens ← if counted then lister.collect (query parent) else lister.drain (query parent)
    let trees ← tokens.mapM fun token => do return token :: (← allTreesBelow lister nested token)
    return trees.flatten

def allTreesBelow (lister : Lister σ) : List Walk → Token → Drive σ (List Token)
  | [], _ => return []
  | walk :: rest, parent => do
    let front ← walk.treesBelow lister parent
    let back ← allTreesBelow lister rest parent
    return front ++ back

end

end Walk

/-- Every item of `top`, each followed by what the walks find below it. -/
def Lister.compose (lister : Lister σ) (top : Query) (walks : List Walk) : Drive σ (List Token) := do
  let parents ← lister.collect top
  let trees ← parents.mapM fun parent => do return parent :: (← Walk.allTreesBelow lister walks parent)
  return trees.flatten

end MetaParity
