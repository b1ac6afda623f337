/-!
# Category of a listing

The broad categories a listing can be filed under.
-/

namespace SearchPhrase

/-- The category of a listing. -/
inductive Category where
  /-- Cars and other vehicles. -/
  | vehicles
  /-- Electronic devices. -/
  | electronics
  /-- Furniture. -/
  | furniture
  /-- Clothes and accessories. -/
  | fashion
  /-- Sports equipment. -/
  | sports
deriving DecidableEq, Repr

namespace Category

/-- Every category, in scan order. -/
def all : List Category :=
  [vehicles, electronics, furniture, fashion, sports]

/-- The name under which a category is exchanged. -/
def label : Category → String
  | vehicles => "vehicles"
  | electronics => "electronics"
  | furniture => "furniture"
  | fashion => "fashion"
  | sports => "sports"

/-- The category with exactly the given name. -/
def ofExactLabel? (label : String) : Option Category :=
  all.find? fun category => category.label = label

end Category
end SearchPhrase
