import Intake.Settings.Basic

/-! Settings as JSON, section by section. -/

namespace Intake

def DatabaseSettings.toJson (s : DatabaseSettings) : Json :=
  .object [("url", .text s.url), ("echo", .truth s.echo)]

def LogSettings.toJson (s : LogSettings) : Json :=
  .object [("level", .text s.level), ("json_format", .truth s.isJson), ("format", .text s.format),
    ("file_path", Json.ofText? s.filePath), ("max_bytes", .whole s.maxBytes),
    ("backup_count", .whole s.backupCount)]

def MappingSettings.toJson (s : MappingSettings) : Json :=
  .object [("error_trail_max_length", .whole s.trailLength), ("date_format", .text s.dateFormat),
    ("time_format", .text s.timeFormat), ("datetime_format", .text s.dateTimeFormat),
    ("decimal_places", .whole s.decimalPlaces), ("currency_places", .whole s.currencyPlaces),
    ("fallback_line_discovery", .truth s.discoversLines),
    ("line_group_patterns", .list (s.linePaths.map .text)),
    ("default_namespace_prefix", .text s.defaultQualifier), ("audit_source", .text s.auditSource)]

def Settings.toJson (s : Settings) : Json :=
  .object ([("app_name", .text s.appName), ("environment", .text s.environment),
    ("database", s.database.toJson), ("logging", s.log.toJson), ("mapping", s.mapping.toJson)] ++
    s.others.map fun (name, value) => (name, .text value))

end Intake
