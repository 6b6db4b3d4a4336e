/-! The settings of the mapping engine: the formats of rendered values, the discovery of lines, and
the marks that are put on records. -/

namespace Intake

/-- The paths at which the lines of a document conventionally stand. -/
def conventionalLinePaths : List String :=
  ["//Items/Item", "//tns:Items/tns:Item", "//*[local-name()='Items']/*[local-name()='Item']",
    "//Lines/Line", "//tns:Lines/tns:Line", "//*[local-name()='Lines']/*[local-name()='Line']",
    "//Details/Detail", "//tns:Details/tns:Detail",
    "//*[local-name()='Details']/*[local-name()='Detail']"]

/-- The settings of the mapping engine. -/
structure MappingSettings where
  /-- The most characters of an error message that is kept. -/
  trailLength : Int := 1000
  dateFormat : String := "%Y-%m-%d"
  timeFormat : String := "%H:%M:%S"
  dateTimeFormat : String := "%Y-%m-%dT%H:%M:%S"
  decimalPlaces : Int := 3
  currencyPlaces : Int := 2
  /-- Whether lines are looked for where no path finds them. -/
  discoversLines : Bool := true
  linePaths : List String := conventionalLinePaths
  /-- The qualifier under which the default namespace of a document is known. -/
  defaultQualifier : String := "default"
  /-- The mark of this program on the records it creates. -/
  auditSource : String := "DOCMAPPER"
  deriving DecidableEq, Repr

end Intake
