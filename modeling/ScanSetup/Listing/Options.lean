import ScanSetup.Listing.Layout
import ScanSetup.Options.Table
import ScanSetup.Terminal.Line

set_option autoImplicit false

namespace ScanSetup.Listing

open Options

def optionsTitle : String := "Scanner options"

def optionsHeader : List String := ["Option", "Value", "Description"]

/-- The cells of an option: its names, the placeholder of its value, what it does. -/
def optionCells {Meaning : Type} (spec : Spec Meaning) : List String :=
  [spec.displayNames, spec.metavar?.getD "", spec.help]

def optionRows {Meaning : Type} (schema : Schema Meaning) : List (List String) :=
  optionsHeader :: schema.specs.map optionCells

/-- A character that may start a style tag between brackets. -/
def startsTag (c : Char) : Bool :=
  ('a' ≤ c && c ≤ 'z') || c == '#' || c == '/' || c == '@'

/-- The text without style tags, reading at most `fuel` characters. A tag is a bracket, one of the
characters that start a tag, and everything up to the closing bracket. -/
def withoutTagsFrom (fuel : Nat) (cs : List Char) : List Char :=
  match fuel, cs with
  | 0, _ => cs
  | _, [] => []
  | fuel + 1, '[' :: c :: rest =>
    if startsTag c && rest.contains ']' then
      withoutTagsFrom fuel ((rest.dropWhile (· != ']')).drop 1)
    else '[' :: withoutTagsFrom fuel (c :: rest)
  | fuel + 1, c :: rest => c :: withoutTagsFrom fuel rest

def withoutTags (s : String) : String := String.ofList (withoutTagsFrom s.length s.toList)

/-- The listing of all options. Style tags in cells are not shown. -/
def optionsListing {Meaning : Type} (schema : Schema Meaning) : List String :=
  let rows := schema.specs.map fun spec => (optionCells spec).map withoutTags
  let column := fun (i : Nat) (wraps : Bool) =>
    (⟨optionsHeader.getD i "", rows.map fun row => row.getD i "", wraps⟩ : Column)
  layout Terminal.lineWidth optionsTitle [column 0 false, column 1 true, column 2 true]

end ScanSetup.Listing
