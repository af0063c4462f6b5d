import Kmip.Records.Basic

/-!
# Attributes

The properties of managed objects. Which form the value of an attribute has, its name says.
-/

namespace Kmip.Records

/-- The forms of the value of an attribute. -/
abbrev attributeValueVariants : Variants :=
  .or "TextString" .text <|
  .or "Integer" .integer <|
  .or "Boolean" .boolean <|
  .or "DateTime" .dateTime <|
  .or "Interval" .interval <|
  .or "ObjectType" (.enumeration .objectType) <|
  .or "CryptographicAlgorithm" (.enumeration .cryptographicAlgorithm) <|
  .or "CryptographicUsageMask" .usageMask <|
  .or "State" (.enumeration .state) <|
  .or "Name" name <|
  .or "Link" link <|
  .only "Custom" .anything

/-- A named value of a managed object; the index tells apart values of one name. -/
abbrev attributeEntry : Record where
  name := "Attribute"
  tag := .attributeEntry
  fields :=
    .keyed .attributeName .attributeName "attribute_name"
      (.optional .attributeIndex "attribute_index" .integer <|
        .nil)
      .required .attributeValue "attribute_value" attributeValueVariants <|
    .nil

/-- A list of attributes, in which a name may occur several times. -/
abbrev attributes : Record where
  name := "Attributes"
  tag := .attributeList
  fields :=
    .zeroOrMore .attributeEntry "attributes" attributeEntry <|
    .nil

/-- The names and attributes that an object is created with. -/
abbrev templateAttribute : Record where
  name := "TemplateAttribute"
  tag := .templateAttribute
  fields :=
    .zeroOrMore .name "names" name <|
    .embed "attributes" attributes <|
    .nil

end Kmip.Records
