import SearchPhrase.Pattern.Search

/-!
# Makes in a phrase

The vehicle makes that phrases mention.  Of several makes in one phrase the one that comes first in
the list counts, wherever they stand, so that a make that contains another is listed before it.
-/

namespace SearchPhrase
namespace Maker

open Pattern

/-- The vehicle makes, in the order in which they are looked for. -/
def makes : List String :=
  ["toyota", "honda", "mazda", "nissan", "subaru", "mitsubishi", "suzuki", "lexus", "ford",
    "holden", "hyundai", "kia", "volkswagen", "audi", "bmw", "mercedes-benz", "mercedes",
    "porsche", "volvo", "jeep", "tesla", "land rover", "jaguar", "peugeot", "renault", "skoda",
    "fiat", "alfa romeo", "chevrolet", "dodge", "chrysler", "isuzu", "ssangyong", "great wall",
    "haval", "mg", "byd", "daihatsu", "daewoo", "yamaha", "kawasaki", "ducati",
    "harley-davidson", "triumph", "ktm"]

/-- The brands of cameras and other electronics, some of which make vehicles too. -/
def electronicsBrands : List String :=
  ["sony", "canon", "nikon", "panasonic", "samsung", "apple", "lg", "philips", "fujifilm",
    "olympus", "toshiba", "hitachi", "mitsubishi", "hyundai", "daewoo", "yamaha"]

/-- Whether a name is that of an electronics brand. -/
def isElectronicsBrand (name : String) : Bool :=
  electronicsBrands.contains name

/-- The makes that are no electronics brands as well. -/
def vehicleOnlyMakes : List String :=
  makes.filter fun make => !isElectronicsBrand make

/-- The displayed form of a make. -/
def displayName (make : String) : String :=
  String.ofList (Text.capitalize make.toList)

/-- The mention of one make. -/
def mentionOf? (text : Text) (make : String) : Option Mention :=
  (wholeWordSpan? make text).map fun span => ⟨displayName make, span⟩

/-- The make that a phrase in lower case mentions. -/
def read (text : Text) : Option Mention :=
  makes.findSome? (mentionOf? text)

end Maker
end SearchPhrase
