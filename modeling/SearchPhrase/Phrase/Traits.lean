import SearchPhrase.Listing.Category
import SearchPhrase.Listing.Condition
import SearchPhrase.Pattern.Search

/-!
# Traits in a phrase

What a phrase says about color, condition and category.  Colors and categories are recognised by
whole words; a condition is recognised by any text that contains one of its triggers, in the middle
of a word too.
-/

namespace SearchPhrase

namespace Traits

open Pattern

/-- The colors, in the order in which they are looked for. -/
def colors : List String :=
  ["white", "black", "silver", "grey", "gray", "red", "blue", "green", "yellow", "orange",
    "brown", "gold", "purple", "pink", "beige", "maroon", "navy", "bronze", "champagne", "teal"]

/-- The displayed form of a color. -/
def displayColor (color : String) : String :=
  String.ofList (Text.capitalize color.toList)

/-- The color that a phrase in lower case mentions. -/
def color (text : Text) : Option String :=
  (colors.find? fun color => (wholeWord color).occursIn text).map displayColor

/-- The texts that tell a condition. -/
def conditionTriggers : Condition → List String
  | .likeNew =>
      ["like new", "excellent", "mint", "pristine", "vintage", "classic", "retro"]
  | .new =>
      ["brand new", "never used", "unused", "unopened", "sealed", "new"]
  | .good =>
      ["good condition", "great condition", "well maintained", "good", "working"]
  | .fair =>
      ["needs work", "needs tlc", "fair", "used", "worn"]

/-- The conditions in the order in which they are looked for. -/
def conditionOrder : List Condition :=
  [.likeNew, .new, .good, .fair]

/-- The condition that a phrase in lower case tells. -/
def condition (text : Text) : Option Condition :=
  conditionOrder.find? fun condition =>
    (conditionTriggers condition).any fun trigger => Text.occursIn trigger.toList text

/-- The words that tell a category. -/
def categoryWords : Category → List String
  | .vehicles =>
      ["car", "cars", "ute", "truck", "suv", "van", "sedan", "hatchback", "wagon", "motorbike",
        "motorcycle"]
  | .electronics =>
      ["camera", "phone", "laptop", "tv", "television", "console", "headphones", "tablet",
        "speaker"]
  | .furniture => ["sofa", "couch", "table", "chair", "desk", "bed", "wardrobe", "drawers"]
  | .fashion => ["jacket", "dress", "shoes", "sneakers", "handbag", "watch"]
  | .sports => ["bike", "bicycle", "surfboard", "golf", "treadmill", "kayak", "skis"]

/-- The category that a phrase in lower case suggests.  It is a guess for whoever asks for it; an
interpretation does not filter by it. -/
def category (text : Text) : Option Category :=
  Category.all.find? fun category =>
    (categoryWords category).any fun word => (wholeWord word).occursIn text

end Traits
end SearchPhrase
